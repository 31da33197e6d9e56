import LineShell.Userland.Programs.Order.Annotation
import LineShell.Userland.Programs.Order.Plan
/-!
    The utility `sort`: the lines of all operands in order. -/

namespace LineShell

/-- The first operand that cannot be read. -/
def firstFault : List (Text × Except Fault Bytes) → Option (Text × Fault)
  | [] => none
  | (name, .error fault) :: _ => some (name, fault)
  | (_, .ok _) :: rest => firstFault rest

/-- Whether an operand could be opened and not be read. -/
def isUnread (e : Text × Except Fault Bytes) : Bool :=
  match e.2 with
  | .error fault => fault.isUnreadable
  | .ok _ => false

/-- What is said of an operand that cannot be read: of a file that it cannot be opened, and of the
    standard input what was tried. -/
def unreadable (c : Call) (absent tried name : Text) (fault : Fault) : Account :=
  let what := if fault.isUnreadable then "read failed".toList
    else if name = inputOperand then tried else absent
  c.complain 2 (what ++ ": " ++ c.charset.quotedName name ++ ": " ++ fault.reason)

/-- Whether the lines of an operand are in order; `quietly` says that nothing is said. -/
def checkOrder (c : Call) (q : OrderRequest) (quietly : Bool) (name : Text) (bytes : Bytes) :
    Account :=
  match q.firstDisorder (q.lines bytes) with
  | none => .silent 0
  | some (line, n) =>
    if quietly then .silent 1
    else
      let place := c.name ++ ": " ++ name ++ ":" ++ Text.ofNat n ++ ": disorder: "
      { Account.silent 1 with
        writes := [(.error, place.toBytes ++ line.bytes ++ [q.feed])] }

/-- The rules that texts are to be ordered by. -/
def chosenRules (c : Call) : Text :=
  let vars := (["LC_ALL", "LC_COLLATE", "LANG"].map String.toList).filterMap fun name =>
    (c.vars.lookup name).filter (· ≠ [])
  vars.head?.getD "C"

/-- What is told of the keys before anything is sorted. -/
def orderNotes (c : Call) (p : OrderPlan) : Account :=
  let q := p.request
  let cs := c.charset
  let chosen := chosenRules c
  let rules : List Text := match Charset.ofName? chosen with
    | none => ["failed to set locale", "text ordering performed using simple byte comparison"]
    | some .single => ["text ordering performed using simple byte comparison"]
    | some .utf8 => ["text ordering performed using " ++ cs.quotedWord chosen ++ " sorting rules"]
  let keys := q.usedKeys
  let last := !(q.stable || q.unique)
  let own := if q.keys = [] then [] else
    (keys.zipIdx 1).flatMap fun (k, n) => k.warnings cs q.separator.isSome n
  let numbers := numberWarnings cs q.separator (if q.keys = [] then [] else keys)
    (keys.any fun k => k.style.isNumeric)
  .all ((rules ++ own ++ numbers ++ idleWarnings q.style keys last).map (c.complain 0))

/-- The lines of operands in order, on the output or in a file. -/
def orderOperands (c : Call) (p : OrderPlan) (operands : List Text) : Account :=
  let q := p.request
  let entries := c.contents true operands
  match firstFault (entries.filter fun e => !isUnread e),
      firstFault entries with
  | some (name, fault), _ => unreadable c "cannot read" "stat failed" name fault
  | none, fault =>
    let refused := p.target.bind fun path =>
      match (c.tree.openFile c.dir path.toString true).1 with
      | .error fault => some (c.complain 2 ("open failed: " ++ c.charset.quotedName path ++ ": "
          ++ fault.reason))
      | .ok _ => none
    -- A file that the lines were to go to is made even if there are none in the end.
    let made := p.target.toList.filter fun path => (c.tree.node? c.dir path.toString).isNone
    match refused, fault with
    | some account, _ => account
    | none, some (name, fault) =>
      { unreadable c "cannot read" "stat failed" name fault with saves := made.map (·, []) }
    | none, none =>
      let lines := q.sort p.merging (entries.filterMap (·.2.toOption))
      let written (line : OrderedLine) : Bytes :=
        if p.shows then
          annotatedLine c.charset q.separator q.usedKeys (!(q.stable || q.unique)) line.bytes
        else line.bytes ++ [q.feed]
      let bytes := lines.flatMap written
      let account : Account := match p.target with
        | none => .output bytes
        | some path => match c.tree.node? c.dir path.toString with
          | some (.device .full) =>
            if bytes = [] then .silent 0
            else (orderSetback (c.charset.quotedName path)).apply c.name .noSpace (.output bytes)
          | _ => { Account.silent 0 with saves := [(path, bytes)] }
      account.taking (c.takenBy operands)
where
  /-- How `sort` takes it that its output cannot be written to a place. -/
  orderSetback (place : Text) : Setback :=
    let message (name : Text) (fault : Fault) (found : Discovery) : Text :=
      let step := if found matches .early then "write" else "fflush"
      name ++ ": " ++ step ++ " failed: " ++ place ++ ": " ++ fault.reason ++ "\n" ++ name
        ++ ": write error\n"
    ⟨2, some bufferSize, message⟩

/-- The plan with the seed that a file gives, if it is wanted; the error is what is said. -/
def OrderPlan.seeded (p : OrderPlan) (c : Call) : Except Account OrderPlan :=
  match (p.helpers.lookup "random-source"), p.request.usedKeys.any (·.style.has 'R') with
  | some file, true => match c.read file with
    | .ok bytes =>
      if bytes.length < seedSize then
        .error (c.complain 2 (c.charset.quotedWord file ++ ": end of file"))
      else
        let closes := Charset.ofName? (chosenRules c) = some .utf8
        .ok { p with request := { p.request with scatter := some ⟨bytes.take seedSize, closes⟩ } }
    | .error .isDirectory => .error (c.complain 2 (c.charset.quotedWord file ++ ": read error: "
        ++ Fault.isDirectory.reason))
    | .error fault => .error (c.complain 2 ("open failed: " ++ c.charset.quotedName file ++ ": "
        ++ fault.reason))
  | _, _ => .ok p

/-- What `sort` does with a plan that agrees with itself. -/
def OrderPlan.follow (p : OrderPlan) (c : Call) (operands : List Text) : Account :=
  match p.check, operands with
  | some letter, _ :: extra :: _ =>
    c.complain 2 ("extra operand " ++ c.charset.nameInQuotes extra ++ " not allowed with -"
      ++ [letter])
  | some letter, [name] =>
    if p.target.isSome then c.complain 2 (incompatible [letter, 'o'])
    else match c.contents true [name] with
      | (_, .ok bytes) :: _ =>
        (checkOrder c p.request (letter = 'C') name bytes).taking (c.takenBy [name])
      | (_, .error fault) :: _ => unreadable c "open failed" "read failed" name fault
      | [] => .silent 0
  | _, operands => orderOperands c p operands

/-- What `sort` says with a plan. -/
def OrderPlan.account (p : OrderPlan) (c : Call) (operands : List Text) : Account :=
  match p.clash?, p.seeded c with
  | some message, _ => c.complain 2 message
  | none, seeded =>
    let account := match seeded with
      | .ok p => p.follow c operands
      | .error account => account
    if p.shows then ((orderNotes c p).andThen account).taking account.taken else account

/-- What is wrong with the operands that a file names, if something is. -/
def listFault? (c : Call) (file : Text) (operands : List Text) : Option Text :=
  let fault? (e : Text × Nat) : Option Text :=
    if e.1 = inputOperand then some ("when reading file names from stdin, no file name of "
      ++ c.charset.nameInQuotes inputOperand ++ " allowed")
    else if e.1 = [] then some (c.charset.quotedName file ++ ":" ++ Text.ofNat e.2
      ++ ": invalid zero-length file name")
    else none
  if operands = [] then some ("no input from " ++ c.charset.nameInQuotes file)
  else (operands.zipIdx 1).findSome? fault?

/-- The utility that sorts. An operand that cannot be read leaves nothing to sort. -/
def Utility.sort : Utility := ⟨orderOperands.orderSetback "'standard output'", fun c =>
  let plan (o : Options) := OrderPlan.start.changeAll c o.given
  let check (o : Options) : Option Account := match plan o with
    | .error account => some account
    | .ok _ => none
  let c : Call := { c with args := spellKeys c.args.length c.args }
  let notice := Notice.madeBy "sort" ["Mike Haertel", "Paul Eggert"]
  c.withOptions notice orderOptions 2 check fun o =>
    match plan o with
    | .error _ => .silent 2
    | .ok p => match o.value? "files", o.operands with
      | none, operands => p.account c (orInput operands)
      | some _, extra :: _ => c.misuse 2 ("extra operand " ++ c.charset.nameInQuotes extra
          ++ "\nfile operands cannot be combined with --files0-from")
      | some file, [] => match c.contents true [file] with
        | (_, .ok bytes) :: _ => match listFault? c file (listedOperands bytes) with
          | some message => c.complain 2 message
          | none => p.account c (listedOperands bytes)
        | (_, .error fault) :: _ =>
          if fault.isUnreadable ∨ file = inputOperand then
            c.complain 2 ("cannot read file names from " ++ c.charset.nameInQuotes file)
          else unreadable c "open failed" "open failed" file fault
        | [] => .silent 0⟩

end LineShell
