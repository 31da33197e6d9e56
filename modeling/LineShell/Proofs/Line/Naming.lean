import LineShell.Proofs.Line.Grammar
import LineShell.Proofs.Line.Unreadable
/-!
    Commands that have no name.

    A pair of quotes is a word even when nothing stands between them, so a segment may start with a
    word that holds nothing, and the name of its command is then empty. Which segments do is read
    off their text (`Hollow`): up to the first blank there is nothing in them but such pairs, or a
    quote that is left open at the end. The lines without such a segment are exactly those of which
    every command has a name (`parseLine_named`). -/

namespace LineShell

/-- Up to its first blank the text stands for nothing: there are pairs of quotes with nothing
    between them, and at the end of the text perhaps a quote or a backslash that nothing follows. -/
inductive Hollow : List Char → Prop where
  | ended : Hollow []
  | blank {c : Char} (cs : List Char) : isBlank c = true → Hollow (c :: cs)
  | backslash : Hollow ['\\']
  | openSingle : Hollow ['\x27']
  | openDouble : Hollow ['\x22']
  | openEscape : Hollow ['\x22', '\\']
  | single {cs : List Char} : Hollow cs → Hollow ('\x27' :: '\x27' :: cs)
  | double {cs : List Char} : Hollow cs → Hollow ('\x22' :: '\x22' :: cs)

/-! ### Parts that stand for nothing -/

theorem Inner.value_ne_nil (u : Inner) : u.value ≠ [] := by
  cases u with
  | plain c h => simp [value]
  | escaped c => simp only [value]; split_ifs <;> simp

/-- Whatever stands between double quotes is a text. -/
theorem inner_value_eq_nil_iff (us : List Inner) : us.flatMap Inner.value = [] ↔ us = [] := by
  cases us with
  | nil => simp
  | cons u us => simp [u.value_ne_nil]

/-- Text put before a cutting is put before the word that it starts in. -/
theorem first_prepend (k : Cutting) (cs : List Char) :
    (k.prepend cs).first.getD [] = cs ++ k.first.getD [] := rfl

/-- A line that breaks off holds nothing if it does so at a quote or a backslash. -/
theorem Break.hollow {b : Break} (h : b.word?.getD [] = []) : Hollow b.written := by
  cases b with
  | backslash => exact .backslash
  | single cs hcs =>
    obtain rfl : cs = [] := h
    exact .openSingle
  | double us ended =>
    obtain rfl : us = [] := (inner_value_eq_nil_iff us).mp h
    cases ended
    · exact .openDouble
    · exact .openEscape

/-- A part that holds nothing is a pair of quotes. -/
theorem Part.hollow {p : Part} {rest : List Char} (h : p.value = []) (hrest : Hollow rest) :
    Hollow (p.written ++ rest) := by
  cases p with
  | plain c hc => cases h
  | escaped c => cases h
  | single cs hcs =>
    obtain rfl : cs = [] := h
    exact .single hrest
  | double us =>
    obtain rfl : us = [] := (inner_value_eq_nil_iff us).mp h
    exact .double hrest

/-! ### Words that hold nothing -/

theorem hollow_of_first {cs : List Char} (h : (cutWords .bare cs).first.getD [] = []) :
    Hollow cs := by
  -- a pair of quotes takes two characters from the text, so the induction is on its length
  induction hn : cs.length using Nat.strongRecOn generalizing cs with
  | _ n ih =>
    rcases exists_start cs with ⟨_ | b, rfl⟩ | ⟨c, rest, rfl⟩ | ⟨p, rest, rfl⟩
    · exact .ended
    · have hcut : cutWords .bare ((some b).elim [] Break.written) = ⟨b.word?, []⟩ :=
        cutWords_break b
      rw [hcut] at h
      exact Break.hollow h
    · exact .blank rest c.property
    · rw [cutWords_part, first_prepend, List.append_eq_nil_iff] at h
      exact Part.hollow h.1 (ih rest.length (by rw [← hn]; exact p.length_lt rest) h.2 rfl)

theorem Hollow.first {cs : List Char} (h : Hollow cs) :
    (cutWords .bare cs).first.getD [] = [] := by
  induction h with
  | ended => rfl
  | blank cs hc => rw [cutWords_cons, Quoting.step_bare_blank hc]; rfl
  | backslash => rfl
  | openSingle => rfl
  | openDouble => rfl
  | openEscape => rfl
  | single _ ih => rw [cutWords_openSingle, cutWords_closeSingle]; exact ih
  | double _ ih => rw [cutWords_openDouble, cutWords_closeDouble]; exact ih

/-- A text is hollow if the word that it starts in, if any, holds nothing. -/
theorem hollow_iff (cs : List Char) : Hollow cs ↔ (cutWords .bare cs).first.getD [] = [] :=
  ⟨Hollow.first, hollow_of_first⟩

instance (cs : List Char) : Decidable (Hollow cs) := decidable_of_iff' _ (hollow_iff cs)

/-- A segment that has a word starts in it. -/
theorem Solid.exists_first {cs : List Char} (h : Solid cs) (hword : (cutWords .bare cs).all ≠ []) :
    ∃ w ws, cutWords .bare cs = ⟨some w, ws⟩ := by
  rcases hcut : cutWords .bare cs with ⟨_ | w, ws⟩
  · obtain ⟨c, cs, -, -, rfl, -, hc, -⟩ := h
    rw [cutWords_cons] at hcut hword
    cases hs : (Quoting.bare.step c).2 with
    | plain t => rw [hs] at hcut; cases hcut
    | bar => rw [hs] at hcut; cases hcut
    | delimiter => rw [hs] at hcut; cases hcut
    | blank =>
      rw [(Quoting.isBlank_of_step_bare hs).1] at hc
      cases hc
    -- whether a word starts is open only behind a backslash
    | backslash =>
      rw [hs, Quoting.step_bare_of_backslash hs] at hcut hword
      cases cs with
      | nil => exact absurd rfl hword
      | cons d ds => rw [cutWords_cons] at hcut; cases hcut
  · exact ⟨w, ws, rfl⟩

/-! ### Names -/

/-- A command has no name exactly if its segment is hollow. -/
theorem name_eq_empty_iff {seg name : String} {rest : List String} (hseg : Solid seg.toList)
    (hwords : words seg = name :: rest) : name = "" ↔ Hollow seg.toList := by
  have hall : (cutWords .bare seg.toList).all ≠ [] := by
    intro hnil
    rw [words, hnil] at hwords
    cases hwords
  obtain ⟨w, ws, hcut⟩ := hseg.exists_first hall
  rw [words, hcut] at hwords
  obtain ⟨rfl, -⟩ := List.cons.inj hwords
  rw [hollow_iff, hcut]
  exact String.ofList_eq_empty_iff

theorem not_unreadable_of_parseLine {line : String} {stages : List Command}
    (h : parseLine line = .ok stages) : ¬ Unreadable line := by
  intro hline
  rw [parseLine_of_unreadable hline .noCommand] at h
  cases h

/-- What goes together with something else in each place holds throughout if that does. -/
theorem forall_mem_iff_of_forall₂ {α β : Type} {p : α → Prop} {q : β → Prop} {xs : List α}
    {ys : List β} (h : List.Forall₂ (fun x y => q y ↔ p x) xs ys) :
    (∀ y ∈ ys, q y) ↔ ∀ x ∈ xs, p x := by
  induction h with
  | nil => simp
  | cons hxy _ ih => rw [List.forall_mem_cons, List.forall_mem_cons, hxy, ih]

/-- The commands that a line is read as have a name unless their segments are hollow, so all of them
    have one exactly if no segment of the line is hollow. -/
theorem parseLine_named {line : String} {stages : List Command}
    (h : parseLine line = .ok stages) :
    List.Forall₂ (fun seg c => c.name = "" ↔ Hollow seg.toList) (segments line) stages ∧
      ((∀ c ∈ stages, c.name ≠ "") ↔ ∀ seg ∈ segments line, ¬ Hollow seg.toList) := by
  obtain ⟨stages', hstages, hread⟩ := parseLine_of_not_unreadable (not_unreadable_of_parseLine h)
  obtain rfl : stages' = stages := Except.ok.inj (hstages.symm.trans h)
  have hnames : List.Forall₂ (fun seg c => c.name = "" ↔ Hollow seg.toList) (segments line)
      stages' := by
    have hsolid : ∀ seg ∈ segments line, Solid seg.toList := fun _ => solid_of_mem_segments
    refine ((List.forall₂_and_left _ _).mpr ⟨hsolid, hread⟩).imp ?_
    rintro seg c ⟨hseg, -, rest, hwords⟩
    exact name_eq_empty_iff hseg hwords
  exact ⟨hnames, forall_mem_iff_of_forall₂ (hnames.imp fun _ _ hname => not_congr hname)⟩

/-- Empty quotes do no harm next to other text, or between the words behind the name. -/
theorem parseLine_named_quoted :
    parseLine "echo '' | \"\"a''" = .ok [⟨"echo", [""], none, none⟩, ⟨"a", [], none, none⟩] ∧
    ∀ c ∈ [(⟨"echo", [""], none, none⟩ : Command), ⟨"a", [], none, none⟩], c.name ≠ "" := by
  have h : parseLine "echo '' | \"\"a''" =
      .ok [⟨"echo", [""], none, none⟩, ⟨"a", [], none, none⟩] := by rfl
  exact ⟨h, (parseLine_named h).2.mpr (by decide)⟩

/-- Two quotes by themselves are a line that can be read, and its command has no name. -/
theorem parseLine_nameless :
    parseLine "''" = .ok [Command.named ""] ∧ ¬ ∀ c ∈ [Command.named ""], c.name ≠ "" := by
  decide

end LineShell
