import LineShell.Proofs.Line.Roles
import LineShell.Proofs.Line.Segmenting
import LineShell.Session.Line
/-!
    Lines that cannot be read as commands.

    A segment is never blank, but it may have no word all the same: a backslash that nothing follows
    is none, so the segment that is a backslash alone has no word, and it is the only one
    (`words_eq_nil_iff`). A line with such a segment, or with no segment at all, is the only kind
    that cannot be read (`parseLine_unreadable`); nothing of it is run. -/

namespace LineShell

/-- The line has no segment, or one of them is a backslash alone. -/
def Unreadable (line : String) : Prop :=
  (∀ c ∈ line.toList, isBlank c = true ∨ c = '|') ∨ "\\" ∈ segments line

/-! ### Segments without a word -/

/-- Only a backslash alone is a segment without a word. -/
theorem words_eq_nil_iff {seg : String} (h : Solid seg.toList) :
    words seg = [] ↔ seg = "\\" := by
  constructor
  · intro hnil
    obtain ⟨c, cs, ds, d, hstart, hend, hc, hd⟩ := h
    obtain ⟨bs, hbs, hseg⟩ := blanks_of_all_cutWords_eq_nil (List.map_eq_nil_iff.mp hnil)
    have hblank {b : Char} (hb : b ∈ bs) : isBlank b ≠ false := by
      rw [hbs b hb]
      exact nofun
    rcases hseg with hseg | hseg
    · exact absurd hc (hblank (by rw [← hseg, hstart]; exact List.mem_cons_self))
    · cases bs with
      | nil => exact String.toList_injective hseg
      | cons b bs =>
        obtain rfl : c = b := (List.cons.inj (hstart.symm.trans hseg)).1
        exact absurd hc (hblank List.mem_cons_self)
  · rintro rfl
    decide

/-! ### Lines without a segment -/

theorem Uncut.segmentsOf_eq_nil_iff {p : List Char} (h : Uncut .bare p) :
    segmentsOf p = [] ↔ ∀ c ∈ p, isBlank c = true ∨ c = '|' := by
  rcases h.margins with hblank | ⟨as, t, bs, has, hbs, rfl, ht⟩
  · simp only [segmentsOf_of_blanks hblank, true_iff]
    exact fun c hc => .inl (hblank c hc)
  · simp only [ht.segmentsOf_margins has hbs, reduceCtorEq, false_iff]
    intro hall
    -- the segment starts with something else
    obtain ⟨c, cs, -, -, rfl, -, hc, -⟩ := ht.solid
    rcases hall c (by simp) with hblank | rfl
    · rw [hblank] at hc
      cases hc
    · exact ht.uncut [] cs rfl rfl

theorem segmentsOf_eq_nil_iff (cs : List Char) :
    segmentsOf cs = [] ↔ ∀ c ∈ cs, isBlank c = true ∨ c = '|' := by
  induction cs using cutInduction with
  | uncut cs huncut => exact huncut.segmentsOf_eq_nil_iff
  | cut p rest huncut hafter ih =>
    rw [segmentsOf_append_bar hafter, List.append_eq_nil_iff, huncut.segmentsOf_eq_nil_iff, ih,
      List.forall_mem_append, List.forall_mem_cons]
    simp

theorem segments_eq_nil_iff (line : String) :
    segments line = [] ↔ ∀ c ∈ line.toList, isBlank c = true ∨ c = '|' := by
  rw [segments, List.map_eq_nil_iff, segmentsOf_eq_nil_iff]

/-! ### Reading all segments or none -/

theorem Command.parse_eq_error_iff {seg : String} {e : ParseError} :
    parse seg = .error e ↔ words seg = [] := by
  cases e
  rw [parse]
  cases words seg <;> simp [ofWords]

/-- The name of a command is the first word of its segment. -/
theorem Command.words_of_parse {seg : String} {c : Command} (h : parse seg = .ok c) :
    ∃ rest, words seg = c.name :: rest := by
  rw [parse] at h
  cases hwords : words seg with
  | nil =>
    rw [hwords] at h
    cases h
  | cons name rest =>
    rw [hwords, ofWords_eq_foldl] at h
    obtain rfl := Except.ok.inj h
    exact ⟨rest, by rw [foldl_take_name]; rfl⟩

/-- The stages are what the segments are read as, one for each in their order, and have the first
    words of these as their names. -/
def StagesOf (segs : List String) (stages : List Command) : Prop :=
  List.Forall₂ (fun seg c => Command.parse seg = .ok c ∧ ∃ rest, words seg = c.name :: rest)
    segs stages

theorem solid_of_mem_segments {line seg : String} (h : seg ∈ segments line) :
    Solid seg.toList := by
  obtain ⟨earlier, later, hsegs⟩ := List.append_of_mem h
  exact (segmentAt_of_eq hsegs).solid

theorem unreadable_iff {line : String} :
    Unreadable line ↔ segments line = [] ∨ ∃ seg ∈ segments line, words seg = [] := by
  rw [Unreadable, segments_eq_nil_iff]
  refine or_congr_right ⟨fun h => ⟨_, h, by decide⟩, ?_⟩
  rintro ⟨seg, hmem, hwords⟩
  exact (words_eq_nil_iff (solid_of_mem_segments hmem)).mp hwords ▸ hmem

theorem parseLine_of_unreadable {line : String} (h : Unreadable line) (e : ParseError) :
    parseLine line = .error e := by
  cases e
  rcases unreadable_iff.mp h with hnil | ⟨seg, hmem, hwords⟩
  · rw [parseLine, hnil]
    rfl
  · rcases mapM_cases Command.parse (segments line) with ⟨stages, -, hall⟩ | ⟨_, -, ⟨⟩, -, hread⟩
    · -- the segment would have been read
      obtain ⟨i, hi, rfl⟩ := List.getElem_of_mem hmem
      have hok := (List.forall₂_iff_get.mp hall).2 i hi (hall.length_eq ▸ hi)
      have herror : Command.parse (segments line)[i] = .error .noCommand :=
        Command.parse_eq_error_iff.mpr hwords
      cases hok.symm.trans herror
    · rw [parseLine, hread]

theorem parseLine_of_not_unreadable {line : String} (h : ¬ Unreadable line) :
    ∃ stages, parseLine line = .ok stages ∧ StagesOf (segments line) stages := by
  rw [unreadable_iff, not_or] at h
  rcases mapM_cases Command.parse (segments line) with
    ⟨stages, hread, hall⟩ | ⟨seg, hmem, e, hseg, -⟩
  · refine ⟨stages, ?_, hall.imp fun _ _ hparse => ⟨hparse, Command.words_of_parse hparse⟩⟩
    have hnil : stages ≠ [] := by
      rintro rfl
      exact h.1 (List.forall₂_nil_right_iff.mp hall)
    rw [parseLine, hread]
    split
    · simp_all
    · rfl
  · exact absurd ⟨seg, hmem, Command.parse_eq_error_iff.mp hseg⟩ h.2

/-- A line cannot be read if it holds blanks and bars only or one of its segments is a backslash
    alone, and then nothing of it is run. Every other line has a stage for each segment. -/
theorem parseLine_unreadable (line : String) :
    (∀ e, parseLine line = .error e ↔ Unreadable line) ∧
    (¬ Unreadable line →
      ∃ stages, parseLine line = .ok stages ∧ StagesOf (segments line) stages) ∧
    (Unreadable line → ∀ load s, Session.perform load line s = (⟨0, "", ""⟩, s)) := by
  refine ⟨fun e => ⟨fun herror => ?_, fun h => parseLine_of_unreadable h e⟩,
    parseLine_of_not_unreadable, fun h load s => ?_⟩
  · by_contra h
    obtain ⟨stages, hstages, -⟩ := parseLine_of_not_unreadable h
    rw [hstages] at herror
    cases herror
  · rw [Session.perform, parseLine_of_unreadable h .noCommand]

/-- A stray backslash is enough, although it is not alone before the line is cut. -/
example : parseLine "\\ | echo a" = .error .noCommand := by decide

end LineShell
