import Mathlib.Data.List.FinRange
import LineShell.Proofs.Line.Notation
/-!
    What each word of a command is for.

    A command is read word by word with the last operator in mind. But what a word is for can be
    told from the word and the one before it: it is an operator, the target of the operator before
    it, or an argument (`Role.of`). So what is read is given by places alone (`ReadByPlace`): no
    word behind the name is lost but a target that another one of the same channel follows, and a
    redirection has no part in anything but its own channel (`ofWords_readByPlace`). -/

namespace LineShell

/-- The operators, and what each redirects. -/
def operatorTable : List (String × Operator) :=
  [(">", ⟨.output, false⟩), ("1>", ⟨.output, false⟩), (">>", ⟨.output, true⟩),
   ("1>>", ⟨.output, true⟩), ("2>", ⟨.error, false⟩), ("2>>", ⟨.error, true⟩)]

/-- What a word behind the name is for. -/
inductive Role where
  | operator (op : Operator)
  | target (op : Operator)
  | argument
  deriving DecidableEq

/-- What a word is for that stands behind another one, or first of all. -/
def Role.of (before : Option String) (word : String) : Role :=
  match operatorTable.lookup word, before.bind fun w => operatorTable.lookup w with
  | some op, _ => .operator op
  | none, some op => .target op
  | none, none => .argument

/-- The word before a place, if that is not the first one. -/
def wordBefore (ws : List String) : Nat → Option String
  | 0 => none
  | i + 1 => ws[i]?

/-- What the word at a place is for. -/
def roleAt (ws : List String) (i : Fin ws.length) : Role := Role.of (wordBefore ws i) ws[i]

namespace Command

/-- The target of one channel of a command. -/
def target? (c : Command) : Channel → Option Target
  | .output => c.output
  | .error => c.error

/-- The command has a name, and of the words behind it what their places give it. -/
structure ReadByPlace (c : Command) (name : String) (ws : List String) : Prop where
  name_eq : c.name = name
  /-- The arguments are the words that are no operator and stand behind none, in their order. -/
  args_eq : c.args =
    ((List.finRange ws.length).filter fun i => roleAt ws i = .argument).map fun i => ws[i]
  /-- A channel goes to the last word that an operator for it stands before. -/
  target_iff (channel : Channel) (t : Target) : c.target? channel = some t ↔
    ∃ i : Fin ws.length, roleAt ws i = .target ⟨channel, t.append⟩ ∧ ws[i] = t.path ∧
      ∀ j > i, ∀ append, roleAt ws j ≠ .target ⟨channel, append⟩

/-- A word at a place is an argument of the command, or it is a target that is kept unless a later
    target of the same channel is. -/
inductive Holds (c : Command) (ws : List String) (i : Fin ws.length) : Prop where
  | argument : roleAt ws i = .argument → ws[i] ∈ c.args → c.Holds ws i
  | target (op : Operator) : roleAt ws i = .target op →
      c.target? op.channel = some ⟨ws[i], op.append⟩ → c.Holds ws i
  | replaced (op op' : Operator) (j : Fin ws.length) : roleAt ws i = .target op → i < j →
      roleAt ws j = .target op' → op'.channel = op.channel →
      c.target? op.channel = some ⟨ws[j], op'.append⟩ → c.Holds ws i

/-- The commands differ in the target of one channel at most. -/
structure SameBut (channel : Channel) (c c' : Command) : Prop where
  name : c'.name = c.name
  args : c'.args = c.args
  target (other : Channel) : other ≠ channel → c'.target? other = c.target? other

end Command

/-! ### Words with what they are for -/

theorem lookup_operatorTable (w : String) : operatorTable.lookup w = Operator.ofWord? w := by
  by_cases hw : w ∈ operatorWords
  · simp only [operatorWords, List.mem_cons, List.not_mem_nil, or_false] at hw
    rcases hw with rfl | rfl | rfl | rfl | rfl | rfl <;> rfl
  · rw [ofWord?_eq_none_iff.mpr hw, List.lookup_eq_none_iff]
    refine fun entry hentry => bne_iff_ne.mpr ?_
    rintro rfl
    exact hw (List.mem_map_of_mem hentry)

theorem ofWord?_of_mem {w : String} {op : Operator} (h : (w, op) ∈ operatorTable) :
    Operator.ofWord? w = some op := by
  simp only [operatorTable, List.mem_cons, List.not_mem_nil, or_false, Prod.mk.injEq] at h
  rcases h with ⟨rfl, rfl⟩ | ⟨rfl, rfl⟩ | ⟨rfl, rfl⟩ | ⟨rfl, rfl⟩ | ⟨rfl, rfl⟩ | ⟨rfl, rfl⟩ <;> rfl

theorem Role.of_eq (before : Option String) (w : String) : Role.of before w =
    match Operator.ofWord? w, before.bind Operator.ofWord? with
    | some op, _ => .operator op
    | none, some op => .target op
    | none, none => .argument := by
  simp only [Role.of, lookup_operatorTable]

theorem Role.of_operator {w : String} (h : w ∈ operatorWords) :
    ∃ op, ∀ before, Role.of before w = .operator op := by
  obtain ⟨op, hop⟩ := Option.ne_none_iff_exists'.mp (mt ofWord?_eq_none_iff.mp (not_not.mpr h))
  exact ⟨op, fun before => by simp only [Role.of_eq, hop]⟩

theorem Role.of_target {w o : String} {op : Operator} (h : w ∉ operatorWords)
    (ho : Operator.ofWord? o = some op) : Role.of (some o) w = .target op := by
  simp only [Role.of_eq, ofWord?_eq_none_iff.mpr h, Option.bind_some, ho]

/-- The words with what each is for; `before` is the word before the first one. -/
def rolesFrom (before : Option String) (ws : List String) : List (Role × String) :=
  ((before :: ws.map some).zip ws).map fun p => (Role.of p.1 p.2, p.2)

@[simp] theorem rolesFrom_nil (before : Option String) : rolesFrom before [] = [] := rfl

@[simp] theorem rolesFrom_cons (before : Option String) (w : String) (ws : List String) :
    rolesFrom before (w :: ws) = (Role.of before w, w) :: rolesFrom (some w) ws := rfl

theorem rolesFrom_append (before : Option String) (ws vs : List String) :
    rolesFrom before (ws ++ vs) = rolesFrom before ws ++ rolesFrom (ws.getLast?.or before) vs := by
  induction ws generalizing before with
  | nil => simp
  | cons w ws ih =>
    rw [List.cons_append, rolesFrom_cons, rolesFrom_cons, List.cons_append, ih, List.getLast?_cons]
    cases ws.getLast? <;> rfl

/-- Of the word before the first one it only matters whether it is an operator. -/
theorem rolesFrom_congr {before before' : Option String}
    (h : before.bind Operator.ofWord? = before'.bind Operator.ofWord?) (ws : List String) :
    rolesFrom before ws = rolesFrom before' ws := by
  cases ws with
  | nil => rfl
  | cons w ws => rw [rolesFrom_cons, rolesFrom_cons, Role.of_eq, Role.of_eq, h]

theorem rolesFrom_eq_map (ws : List String) :
    rolesFrom none ws = (List.finRange ws.length).map fun i => (roleAt ws i, ws[i]) := by
  refine List.ext_getElem (by simp [rolesFrom]) fun i hi _ => ?_
  have hlt : i < ws.length := by simpa [rolesFrom] using hi
  have hlt' : i < (none :: ws.map some).length := by simp; omega
  have hbefore : (none :: ws.map some)[i] = wordBefore ws i := by
    cases i with
    | zero => rfl
    | succ i => simp [wordBefore, List.getElem?_eq_getElem (Nat.lt_of_succ_lt hlt)]
  simp [rolesFrom, roleAt, hbefore]

/-! ### Reading is taking each word for what it is -/

namespace Command

/-- The command with one more word. -/
def take (c : Command) : Role × String → Command
  | (.operator _, _) => c
  | (.target op, w) => c.redirect op w
  | (.argument, w) => c.addArg w

/-- The operator in mind is the one that the word before is. -/
theorem addWords_eq_foldl (c : Command) (before : Option String) (ws : List String) :
    c.addWords (before.bind Operator.ofWord?) ws = (rolesFrom before ws).foldl take c := by
  induction ws generalizing c before with
  | nil => rfl
  | cons w ws ih =>
    have hnext := fun c => ih c (some w)
    rw [addWords.eq_def, rolesFrom_cons, List.foldl_cons, ← hnext, Role.of_eq]
    cases hw : Operator.ofWord? w with
    | some op => simp [take, hw]
    | none => cases before.bind Operator.ofWord? <;> simp [take, hw]

theorem ofWords_eq_foldl (name : String) (ws : List String) :
    ofWords (name :: ws) = .ok ((rolesFrom none ws).foldl take (named name)) :=
  congrArg Except.ok (addWords_eq_foldl (named name) none ws)

/-- The target that a word is for a channel, if it is one. -/
def targetOn (channel : Channel) : Role × String → Option Target
  | (.target op, w) => if op.channel = channel then some ⟨w, op.append⟩ else none
  | _ => none

section Fold

variable (l : List (Role × String)) (c : Command)

theorem foldl_take_name : (l.foldl take c).name = c.name := by
  induction l generalizing c with
  | nil => rfl
  | cons x l ih =>
    rw [List.foldl_cons, ih]
    rcases x with ⟨op | ⟨_ | _, _⟩ | _, w⟩ <;> rfl

theorem foldl_take_args : (l.foldl take c).args =
    c.args ++ (l.filter fun x => x.1 = .argument).map (·.2) := by
  induction l generalizing c with
  | nil => simp
  | cons x l ih =>
    rw [List.foldl_cons, ih]
    rcases x with ⟨op | ⟨_ | _, _⟩ | _, w⟩ <;> simp [take, addArg, redirect]

theorem target?_take (x : Role × String) (channel : Channel) :
    (c.take x).target? channel = (targetOn channel x).or (c.target? channel) := by
  rcases x with ⟨op | ⟨_ | _, _⟩ | _, w⟩ <;> cases channel <;> rfl

/-- Each target takes the place of the one before it. -/
theorem foldl_take_target? (channel : Channel) : (l.foldl take c).target? channel =
    (l.filterMap (targetOn channel)).getLast?.or (c.target? channel) := by
  induction l generalizing c with
  | nil => rfl
  | cons x l ih =>
    rw [List.foldl_cons, ih, target?_take]
    cases hx : targetOn channel x with
    | none => simp [hx]
    | some t =>
      rw [List.filterMap_cons_some hx, List.getLast?_cons]
      cases (l.filterMap (targetOn channel)).getLast? <;> rfl

end Fold

/-! ### Places -/

theorem targetOn_eq_some_iff {channel : Channel} {r : Role} {w : String} {t : Target} :
    targetOn channel (r, w) = some t ↔ r = .target ⟨channel, t.append⟩ ∧ w = t.path := by
  rcases t with ⟨path, append⟩
  rcases r with op | ⟨ch, app⟩ | _
  · simp [targetOn]
  · by_cases h : ch = channel <;> simp [targetOn, h, and_comm]
  · simp [targetOn]

theorem targetOn_eq_none_iff {channel : Channel} {r : Role} {w : String} :
    targetOn channel (r, w) = none ↔ ∀ append, r ≠ .target ⟨channel, append⟩ := by
  rw [Option.eq_none_iff_forall_ne_some]
  constructor
  · intro h append hr
    exact h ⟨w, append⟩ (targetOn_eq_some_iff.mpr ⟨hr, rfl⟩)
  · intro h t ht
    exact h t.append (targetOn_eq_some_iff.mp ht).1

/-- The last of some values is that of the last place that has one. -/
theorem getLast?_filterMap_finRange {α : Type} {n : Nat} {f : Fin n → Option α} {a : α} :
    ((List.finRange n).filterMap f).getLast? = some a ↔
      ∃ i, f i = some a ∧ ∀ j > i, f j = none := by
  have hsorted : (List.finRange n).Pairwise (· < ·) := List.pairwise_lt_finRange n
  constructor
  · intro h
    obtain ⟨front, hfront⟩ := List.getLast?_eq_some_iff.mp h
    obtain ⟨l₁, l₂, hsplit, -, hlast⟩ := List.filterMap_eq_append_iff.mp hfront
    obtain ⟨l₃, i, l₄, rfl, -, hi, hrest⟩ := List.filterMap_eq_cons_iff.mp hlast
    refine ⟨i, hi, fun j hj => ?_⟩
    have hmem : j ∈ l₁ ++ (l₃ ++ i :: l₄) := hsplit ▸ List.mem_finRange j
    rw [hsplit, ← List.append_assoc, List.pairwise_append] at hsorted
    rw [← List.append_assoc, List.mem_append, List.mem_cons] at hmem
    rcases hmem with hbefore | rfl | hafter
    · exact absurd (hsorted.2.2 j hbefore i List.mem_cons_self) (not_lt_of_gt hj)
    · exact absurd hj (lt_irrefl _)
    · exact List.filterMap_eq_nil_iff.mp hrest j hafter
  · rintro ⟨i, hi, hlater⟩
    obtain ⟨l₁, l₂, hsplit⟩ := List.append_of_mem (List.mem_finRange i)
    rw [hsplit, List.pairwise_append] at hsorted
    have hnone : l₂.filterMap f = [] := List.filterMap_eq_nil_iff.mpr fun j hj =>
      hlater j ((List.pairwise_cons.mp hsorted.2.1).1 j hj)
    rw [hsplit, List.filterMap_append, List.filterMap_cons_some hi, hnone]
    simp

theorem foldl_take_readByPlace (name : String) (ws : List String) :
    ((rolesFrom none ws).foldl take (named name)).ReadByPlace name ws := by
  refine ⟨foldl_take_name _ _, ?_, fun channel t => ?_⟩
  · rw [foldl_take_args, rolesFrom_eq_map, List.filter_map, List.map_map]
    rfl
  · have hnone : (named name).target? channel = none := by cases channel <;> rfl
    rw [foldl_take_target?, hnone, Option.or_none, rolesFrom_eq_map, List.filterMap_map,
      getLast?_filterMap_finRange]
    simp only [Function.comp_apply, targetOn_eq_some_iff, targetOn_eq_none_iff, and_assoc]

/-- Every word that is no operator is held, or a later one in its stead. -/
theorem ReadByPlace.holds {c : Command} {name : String} {ws : List String}
    (h : c.ReadByPlace name ws) (i : Fin ws.length) (hi : ws[i] ∉ operatorWords) :
    c.Holds ws i := by
  cases hrole : roleAt ws i with
  | operator op =>
    rw [roleAt, Role.of_eq, ofWord?_eq_none_iff.mpr hi] at hrole
    split at hrole <;> simp_all
  | argument =>
    refine .argument hrole ?_
    rw [h.args_eq]
    exact List.mem_map_of_mem (List.mem_filter.mpr ⟨List.mem_finRange i, decide_eq_true hrole⟩)
  | target op =>
    -- the channel has a target, so it has a last one, which is not before this one
    have hthis : targetOn op.channel (roleAt ws i, ws[i]) = some ⟨ws[i], op.append⟩ :=
      targetOn_eq_some_iff.mpr ⟨hrole, rfl⟩
    have hmem : (⟨ws[i], op.append⟩ : Target) ∈
        (List.finRange ws.length).filterMap fun j => targetOn op.channel (roleAt ws j, ws[j]) :=
      List.mem_filterMap.mpr ⟨i, List.mem_finRange i, hthis⟩
    obtain ⟨t, ht⟩ := Option.ne_none_iff_exists'.mp
      (mt List.getLast?_eq_none_iff.mp (List.ne_nil_of_mem hmem))
    obtain ⟨j, hj, hlater⟩ := getLast?_filterMap_finRange.mp ht
    obtain ⟨hrole', hpath⟩ := targetOn_eq_some_iff.mp hj
    have hkept := (h.target_iff op.channel t).mpr
      ⟨j, hrole', hpath, fun k hk => targetOn_eq_none_iff.mp (hlater k hk)⟩
    rcases lt_trichotomy i j with hlt | rfl | hgt
    · refine .replaced op _ j hrole hlt hrole' rfl ?_
      rw [hkept, hpath]
    · refine .target op hrole ?_
      rw [hkept, ← hj, hthis]
    · rw [hlater i hgt] at hthis
      cases hthis

/-- What is around a redirection is read as if that were not there, but for its channel. -/
theorem sameBut_of_redirection {ws rest : List String} {o w : String} {op : Operator}
    (hws : ∀ last ∈ ws.getLast?, last ∉ operatorWords) (ho : Operator.ofWord? o = some op)
    (hw : w ∉ operatorWords) (name : String) :
    ((rolesFrom none (ws ++ rest)).foldl take (named name)).SameBut op.channel
      ((rolesFrom none (ws ++ o :: w :: rest)).foldl take (named name)) := by
  have hlast : ws.getLast?.bind Operator.ofWord? = (some w).bind Operator.ofWord? := by
    rw [Option.bind_some, ofWord?_eq_none_iff.mpr hw, Option.bind_eq_none_iff]
    exact fun last hmem => ofWord?_eq_none_iff.mpr (hws last hmem)
  have hrest := rolesFrom_congr hlast rest
  have hop : Role.of ws.getLast? o = .operator op := by simp only [Role.of_eq, ho]
  simp only [rolesFrom_append, rolesFrom_cons, Option.or_none, hrest, hop, Role.of_target hw ho]
  refine ⟨?_, ?_, fun other hother => ?_⟩
  · rw [foldl_take_name, foldl_take_name]
  · simp [foldl_take_args, -List.foldl_append]
  · simp [foldl_take_target?, targetOn, Ne.symm hother, -List.foldl_append]

end Command

/-- The words behind a name are read by their places. An operator that another one follows, or
    nothing, has no effect, and a redirection has none but on its own channel. -/
theorem ofWords_readByPlace (name : String) (ws : List String) :
    (∃ c, Command.ofWords (name :: ws) = .ok c ∧ c.ReadByPlace name ws ∧
      ∀ i : Fin ws.length, ws[i] ∉ operatorWords → c.Holds ws i) ∧
    (∀ o ∈ operatorWords, Command.ofWords (name :: (ws ++ [o])) = Command.ofWords (name :: ws)) ∧
    (∀ o ∈ operatorWords, ∀ o' ∈ operatorWords, ∀ rest,
      Command.ofWords (name :: (ws ++ o :: o' :: rest)) =
        Command.ofWords (name :: (ws ++ o' :: rest))) ∧
    ∀ o op w rest, (∀ last ∈ ws.getLast?, last ∉ operatorWords) → (o, op) ∈ operatorTable →
      w ∉ operatorWords → ∃ c c', Command.ofWords (name :: (ws ++ rest)) = .ok c ∧
        Command.ofWords (name :: (ws ++ o :: w :: rest)) = .ok c' ∧ c.SameBut op.channel c' := by
  refine ⟨?_, fun o ho => ?_, fun o ho o' ho' rest => ?_, fun o op w rest hws ho hw => ?_⟩
  · have hread := Command.foldl_take_readByPlace name ws
    exact ⟨_, Command.ofWords_eq_foldl name ws, hread, hread.holds⟩
  · obtain ⟨op, hop⟩ := Role.of_operator ho
    rw [Command.ofWords_eq_foldl, Command.ofWords_eq_foldl, rolesFrom_append]
    simp [hop, Command.take]
  · obtain ⟨op, hop⟩ := Role.of_operator ho
    obtain ⟨op', hop'⟩ := Role.of_operator ho'
    rw [Command.ofWords_eq_foldl, Command.ofWords_eq_foldl, rolesFrom_append, rolesFrom_append]
    simp [hop, hop', Command.take]
  · exact ⟨_, _, Command.ofWords_eq_foldl _ _, Command.ofWords_eq_foldl _ _,
      Command.sameBut_of_redirection hws (ofWord?_of_mem ho) hw name⟩

/-- The errors go nowhere, since an operator follows theirs, and the output to the last target. -/
example : Command.ofWords ["cat", "a", ">", "f", "b", "2>", ">>", "g", "1>", "h", ">"] =
    .ok ⟨"cat", ["a", "b"], some ⟨"h", false⟩, none⟩ := by
  decide

end LineShell
