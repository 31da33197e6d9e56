import LineShell.Arguments
/-!
    Argument lists, read by rules.

    An argument list is read from left to right, and each of its arguments falls under one of three
    rules: it ends the options, it is an option and takes the next argument, or it is the operand
    (`ArgumentGrammar.Reads`). A list is accepted exactly if the rules lead to its end
    (`read_eq_ok_iff`). What has been found stays found, so once a list may hold nothing more,
    nothing but `--` may follow (`Reads.rest`). -/

namespace LineShell

/-- How many things have been found in an argument list. -/
def Arguments.size {κ ω : Type} (a : Arguments κ ω) : Nat :=
  a.values.length + a.operand.toList.length

namespace Arguments

variable {κ ω : Type} (a : Arguments κ ω)

theorem size_value (key : κ) (text : String) :
    ({ a with values := a.values ++ [(key, text)] } : Arguments κ ω).size = a.size + 1 := by
  simp only [size, List.length_append, List.length_singleton]
  omega

variable {a} in
theorem size_operand (h : a.operand = none) (op : ω) :
    ({ a with operand := some op } : Arguments κ ω).size = a.size + 1 := by
  simp [size, h]

end Arguments

/-- An argument that starts with a dash. -/
def Dashed (arg : String) : Prop := arg.toList.head? = some '-'

namespace ArgumentGrammar

variable {κ ω : Type} [DecidableEq κ]

/-- What is read from an argument list, when something has been found before it and the options may
    have been ended. -/
inductive Reads (g : ArgumentGrammar κ ω) :
    Bool → Arguments κ ω → List String → Arguments κ ω → Prop where
  | nil {ended : Bool} {found : Arguments κ ω} : Reads g ended found [] found
  /-- `--` ends the options. -/
  | ended {found a : Arguments κ ω} {rest : List String} : Reads g true found rest a →
    Reads g false found ("--" :: rest) a
  /-- An option takes the very next argument, whatever that is, and is taken once. -/
  | value {found a : Arguments κ ω} {arg text : String} {key : κ} {rest : List String} :
    arg ∉ helpWords → Dashed arg → arg ≠ "--" → g.option? arg = some key →
      found.values.lookup key = none →
        Reads g false { found with values := found.values ++ [(key, text)] } rest a →
          Reads g false found (arg :: text :: rest) a
  /-- Anything else is the one operand, if it may be that. As long as the options have not been
      ended it is no request for help and has no dash. -/
  | operand {ended : Bool} {found a : Arguments κ ω} {arg : String} {op : ω}
    {rest : List String} : (ended = false → arg ∉ helpWords ∧ ¬ Dashed arg) →
      found.operand = none → g.operand? arg = some op →
        Reads g ended { found with operand := some op } rest a →
          Reads g ended found (arg :: rest) a

variable {g : ArgumentGrammar κ ω} {s : ArgumentState κ ω} {a found : Arguments κ ω}
  {args : List String} {ended : Bool}

/-- A list that is accepted follows the rules, and help has not been asked for. -/
theorem reads_of_readFrom (h : g.readFrom s args = .ok a) :
    s.helpAsked = false ∧ Reads g s.optionsEnded s.found args a := by
  fun_induction readFrom g s args with
  | case1 => cases h
  | case2 s hhelp =>
    cases h
    exact ⟨by simpa using hhelp, .nil⟩
  -- a request for help is never taken back
  | case3 s arg rest hword ih => cases (ih h).1
  | case4 s rest hword hdash ih =>
    obtain ⟨hhelp, hrest⟩ := ih h
    rw [show s.optionsEnded = false by simpa using hdash.2]
    exact ⟨hhelp, .ended hrest⟩
  -- an option cannot be taken: help has been asked for, or it is unknown, given twice or without
  -- a text
  | case5 | case6 | case7 | case8 => cases h
  | case9 s arg hword hdash hend hhelp key text rest hkey hfree ih =>
    obtain ⟨-, hrest⟩ := ih h
    have hopen : s.optionsEnded = false := by simpa using hdash.2
    rw [hopen] at hrest ⊢
    have hplain : arg ∉ helpWords := fun hmem => hword ⟨hmem, by simp [hopen]⟩
    exact ⟨by simpa using hhelp,
      .value hplain hdash.1 hend hkey (Option.not_isSome_iff_eq_none.mp hfree) hrest⟩
  | case10 s arg rest hword hdash op hop hfree ih =>
    obtain ⟨hhelp, hrest⟩ := ih h
    refine ⟨hhelp, .operand (fun hopen => ?_) hfree hop hrest⟩
    exact ⟨fun hmem => hword ⟨hmem, by simp [hopen]⟩, fun hd => hdash ⟨hd, by simp [hopen]⟩⟩
  | case11 => cases h

/-- A list that follows the rules is accepted. -/
theorem Reads.readFrom (h : Reads g ended found args a) :
    g.readFrom ⟨false, ended, found⟩ args = .ok a := by
  induction h with
  | nil => rfl
  | @ended found a rest _ ih =>
    unfold ArgumentGrammar.readFrom
    rw [if_neg fun h => absurd h.1 (by decide), if_pos ⟨rfl, nofun⟩, if_pos rfl]
    exact ih
  | @value found a arg text key rest hplain hdash hend hkey hfree _ ih =>
    unfold ArgumentGrammar.readFrom
    rw [if_neg (by simp [hplain]), if_pos ⟨hdash, nofun⟩, if_neg hend, if_neg nofun, hkey]
    dsimp only
    rw [if_neg (by simp [hfree]), ih]
  | @operand ended found a arg op rest hplain hfree hop _ ih =>
    have hword : ¬ (arg ∈ helpWords ∧ ¬ ended = true) := by grind
    have hdash : ¬ (arg.toList.head? = some '-' ∧ ¬ ended = true) := by grind [Dashed]
    unfold ArgumentGrammar.readFrom
    rw [if_neg hword, if_neg hdash]
    dsimp only
    rw [hfree, hop]
    exact ih

/-- What is read from an argument list is what the rules give. -/
theorem read_eq_ok_iff : g.read args = .ok a ↔ Reads g false ⟨[], none⟩ args a :=
  ⟨fun h => (reads_of_readFrom h).2, Reads.readFrom⟩

/-- What has been found stays found. -/
theorem Reads.size_le (h : Reads g ended found args a) : found.size ≤ a.size := by
  induction h with
  | nil => exact Nat.le_refl _
  | ended _ ih => exact ih
  | value _ _ _ _ _ _ ih =>
    rw [Arguments.size_value] at ih
    exact Nat.le_of_succ_le ih
  | operand _ hfree _ _ ih =>
    rw [Arguments.size_operand hfree] at ih
    exact Nat.le_of_succ_le ih

/-- If nothing more is found, what is left to be read is nothing, or it ends the options. -/
theorem Reads.rest (h : Reads g ended found args a) (hsize : a.size ≤ found.size) :
    a = found ∧ (args = [] ∨ ended = false ∧ args = ["--"]) := by
  induction h with
  | nil => exact ⟨rfl, .inl rfl⟩
  | ended _ ih =>
    obtain ⟨rfl, rfl | ⟨hopen, -⟩⟩ := ih hsize
    · exact ⟨rfl, .inr ⟨rfl, rfl⟩⟩
    · cases hopen
  | value _ _ _ _ _ hrest =>
    have hmore := hrest.size_le
    rw [Arguments.size_value] at hmore
    omega
  | operand _ hfree _ hrest =>
    have hmore := hrest.size_le
    rw [Arguments.size_operand hfree] at hmore
    omega

end ArgumentGrammar

end LineShell
