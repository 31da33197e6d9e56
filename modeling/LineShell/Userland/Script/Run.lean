import LineShell.Userland.Script.Call
/-!
    Running scripts.

    Commands run one after the other, also those of a pipeline: each reads what the one before it
    has written. What a command does is described by one step (`Cmd.perform`) that is given a way to
    run the commands inside it; `exec` ties the knot with a bound on how deep they nest. -/

namespace LineShell.Script

/-! ### Compound commands -/

/-- What is left of leaving loops after one more loop has been left; whether that loop goes on. -/
def leaveLoop : Action Bool := modifyGet fun s =>
  match s.skip with
  | some (.loops count again) =>
    if count ≤ 1 then (again, { s with skip := none })
    else (false, { s with skip := some (.loops (count - 1) again) })
  | some .function => (false, s)
  | none => (true, s)

/-- Runs a body as one of the loops that could be left. -/
def inLoop (body : Action Unit) : Action Unit := do
  modify fun s => { s with loops := s.loops + 1 }
  body
  modify fun s => { s with loops := s.loops - 1 }

/-- Runs a loop. -/
def performLoop (run : Runner) (tested succeeding : Bool) (condition body : Cmd) :
    Action Unit := inLoop do
  setLoopStatus 0
  repeatStep step repeatLimit
where
  /-- Sets what the loop would end with. -/
  setLoopStatus (status : Nat) : Action Unit := modify fun s => { s with loopStatus := status }
  /-- Runs the condition and the body once; whether the loop goes on. -/
  step : Action Bool := do
    let before := (← get).loopStatus
    run true false condition
    let status := (← get).status
    if (← get).skip.isSome then
      let isFunction := (← get).skip = some .function
      let again ← leaveLoop
      setLoopStatus before
      if ¬ again then setStatus (if isFunction then status else before)
      return again
    if (status = 0) ≠ succeeding then
      setStatus before
      return false
    run tested false body
    setLoopStatus (← get).status
    leaveLoop

/-- Runs a body for every one of some values. -/
def performEach (run : Runner) (tested : Bool) (name : Text) (body : Cmd) :
    List Text → Action Unit
  | [] => return
  | value :: values => do
    setVar name value false
    run tested false body
    if ← leaveLoop then performEach run tested name body values

/-- Whether a text matches one of the patterns that words write. -/
def matchesAny (run : Runner) (text : Text) : List Word → Action Bool
  | [] => return false
  | w :: rest => do
    if (← expandPattern (substitute run) w).accepts text then return true
    matchesAny run text rest

/-- Runs the first case whose pattern a text matches. -/
def performCases (run : Runner) (tested final : Bool) (text : Text) :
    List (List Word × Cmd) → Action Unit
  | [] => setStatus 0
  | (patterns, body) :: rest => do
    if ← matchesAny run text patterns then
      match body with
      | .skip => setStatus 0
      | body => run tested final body
    else performCases run tested final text rest

/-- Remembers the place of the program that a stage of a pipeline calls, if its name could be that
    of a variable. -/
def trackStage : Cmd → Action Unit
  | .simple _ _ (w :: _) _ => do
    match Word.plain? w with
    | some name =>
      let s ← get
      match senseOf s false s.searchPath name with
      | .program _ => if isName name then track name
      | _ => return
    | none => return
  | _ => return

/-- Runs the stages of a pipeline on what the stage before them has written, each of which may write
    so many bytes; how they ended. The result also says whether the last of them wanted more. -/
def performStages (run : Runner) (tested : Bool) (room : Nat) :
    List Cmd → Action (List WaitStatus × Bool)
  | [] => return ([], false)
  | c :: rest => do
    let output ← newStream (.pipe [] room)
    let status ← fork run do
      if rest ≠ [] then point 1 output
      run tested true c
    let written ← drain output
    let (statuses, starved) ← readers written (room ≤ written.length) rest
    return (status :: statuses, starved)
where
  /-- Runs the stages that read what a stage before them has written, `short` if there would have
      been more of it. The result also says whether the last of them wanted more. -/
  readers (input : Bytes) (short : Bool) : List Cmd → Action (List WaitStatus × Bool)
  | [] => return ([], false)
  | c :: rest => do
    let source ← newStream (.source input .stream)
    let output ← newStream (.pipe [] room)
    let status ← fork run do
      point 0 source
      if rest ≠ [] then point 1 output
      run tested true c
    let starved := short && (← isExhausted source) && status.signalBits ≠ brokenPipeSignal
    let written ← drain output
    if rest = [] then return ([status], starved)
    let (statuses, last) ← readers written (starved || room ≤ written.length) rest
    return (status :: statuses, last)

/-- Runs a pipeline whose stages may write so many bytes, and once more with more room if the last
    of them wants more than that; how they ended. -/
def performPipeline (run : Runner) (tested : Bool) (stages : List Cmd) :
    Nat → Nat → Action (List WaitStatus)
  | 0, room => return (← performStages run tested room stages).1
  | n + 1, room => do
    let before ← get
    let (statuses, starved) ← performStages run tested room stages
    if ¬ starved then return statuses
    set before
    performPipeline run tested stages n (widened room)

/-- Runs a command in a process of its own. -/
def performSubshell (run : Runner) (tested final : Bool) (body : Cmd)
    (redirects : List Redirection) : Action Unit := do
  let direct := final && !(← get).hasTraps
  let openings ← redirects.mapM (Redirection.expand run)
  let status ← fork run do
    openings.forM (Opening.perform run)
    run tested true body
  if direct then endAs status
  reportEnd status
  setStatus status.code.toNat

/-- What a command does, given a way to run the commands inside it. -/
def Cmd.perform (load : Loader) (run : Runner) (tested final : Bool) : Cmd → Action Unit
  | .skip => return
  | .simple line assigns words redirects =>
    performSimple load run tested final line assigns words redirects
  | .pipeline stages aside => do
    stages.forM trackStage
    if aside then spawn (.pipeline stages false)
    else
      let statuses ← performPipeline run tested stages widenings firstRoom
      statuses.forM reportEnd
      setStatus ((statuses.getLast?.map (·.code.toNat)).getD 0)
  | .next a b => do
    run tested false a
    if (← get).skip.isNone then run tested final b
  | .also a b => do
    run true false a
    let s ← get
    if s.status = 0 ∧ s.skip.isNone then run tested final b
  | .otherwise a b => do
    run true false a
    let s ← get
    if s.status ≠ 0 ∧ s.skip.isNone then run tested final b
  | .negate a => do
    run true false a
    let s ← get
    if s.skip.isNone then setStatus (if s.status = 0 then 1 else 0)
  | .branch condition yes no => do
    run true false condition
    let s ← get
    if s.skip.isNone then
      if s.status = 0 then run tested final yes
      else match no with
        | some no => run tested final no
        | none => setStatus 0
  | .loop succeeding condition body => performLoop run tested succeeding condition body
  | .each line name words body => do
    modify fun s => { s with line }
    let values ← restFields run false words
    setStatus 0
    inLoop (performEach run tested name body values)
  | .choose line subject cases => do
    modify fun s => { s with line }
    let text ← expandText (substitute run) .text subject
    performCases run tested final text cases
  | .subshell line body redirects => do
    modify fun s => { s with line }
    performSubshell run tested final body redirects
  | .background _ body redirects => spawn (Cmd.withRedirects body 0 redirects)
  | .redirected line body redirects => do
    modify fun s => { s with line }
    let outer ← get
    try
      if ← openAll run redirects then run tested false body
    finally modify (·.withoutRedirects redirects outer.toScope)
  | .define name body => do
    modify fun s => { s with functions := (name, body) :: s.functions.filter (·.1 ≠ name) }
    setStatus 0

/-- Whether a failure of the command ends a script that stops at failures. -/
def Cmd.isChecked : Cmd → Bool
  | .simple _ _ _ _ => true
  | .subshell _ _ _ => true
  | .background _ _ _ => true
  | .pipeline _ _ => true
  | _ => false

/-- Runs a command in which others are nested so deep at most. -/
def exec (load : Loader) : Nat → Runner
  | 0 => fun _ _ _ => die segmentSignal
  | n + 1 => fun tested final cmd => do
    if (← get).has 'n' then return
    let run := exec load n
    answerSignals run
    cmd.perform load run tested final
    answerSignals run
    let s ← get
    if s.has 'e' ∧ ¬ tested ∧ s.status ≠ 0 ∧ cmd.isChecked then throw .exit
    if final then throw .exit

/-- How deep commands may be nested. -/
def nestingLimit : Nat := 32000

end LineShell.Script
