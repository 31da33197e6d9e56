import Mathlib.Data.List.TakeWhile
import LineShell.Proofs.Line.Scan
/-!
    Trimming a piece of a line before it is cut into words.

    A piece is trimmed without regard to its quoting. Blanks outside quotes mean nothing at either
    end, and a blank between quotes cannot stand at the end, but a blank after a backslash can: the
    trim takes the blank and leaves the backslash, which then stands for nothing. So the stages of
    a line get the words of its pieces exactly if no piece ends in such a blank
    (`stageWords_eq_iff`), and what is lost otherwise is that one character
    (`text_cutWords_trim`). -/

namespace LineShell

/-! ### What trimming takes away -/

theorem exists_blanks_trimStart (cs : List Char) :
    ∃ bs, (∀ b ∈ bs, isBlank b = true) ∧ cs = bs ++ trimStart cs :=
  ⟨cs.takeWhile isBlank, fun _ hb => List.mem_takeWhile_imp hb,
    List.takeWhile_append_dropWhile.symm⟩

theorem exists_blanks_trimEnd (cs : List Char) :
    ∃ bs, (∀ b ∈ bs, isBlank b = true) ∧ cs = trimEnd cs ++ bs := by
  obtain ⟨bs, hbs, h⟩ := exists_blanks_trimStart cs.reverse
  refine ⟨bs.reverse, by simpa using hbs, ?_⟩
  simpa [trimEnd, trimStart] using congrArg List.reverse h

/-- A text is its trim with blanks on both sides. -/
theorem exists_blanks_trim (cs : List Char) :
    ∃ as bs, (∀ a ∈ as, isBlank a = true) ∧ (∀ b ∈ bs, isBlank b = true) ∧
      cs = as ++ (trim cs ++ bs) := by
  obtain ⟨as, has, hstart⟩ := exists_blanks_trimStart cs
  obtain ⟨bs, hbs, hend⟩ := exists_blanks_trimEnd (trimStart cs)
  exact ⟨as, bs, has, hbs, by rw [trim, ← hend, ← hstart]⟩

theorem trim_cons_blank {c : Char} (h : isBlank c = true) (cs : List Char) :
    trim (c :: cs) = trim cs := by
  rw [trim, trimStart, List.dropWhile_cons_of_pos h]
  rfl

theorem trimEnd_append_blanks {bs : List Char} (h : ∀ b ∈ bs, isBlank b = true)
    (cs : List Char) : trimEnd (cs ++ bs) = trimEnd cs := by
  rw [trimEnd, List.reverse_append, List.dropWhile_append_of_pos (by simpa using h)]
  rfl

theorem trim_append_blanks {bs : List Char} (h : ∀ b ∈ bs, isBlank b = true) (cs : List Char) :
    trim (cs ++ bs) = trim cs := by
  rw [trim, trim, trimStart, List.dropWhile_append]
  split_ifs with hcs
  · have hbs : bs.dropWhile isBlank = [] := List.dropWhile_eq_nil_iff.mpr h
    rw [hbs, trimStart, List.isEmpty_iff.mp hcs]
  · exact trimEnd_append_blanks h _

/-- Trimming a text that ends in a character that is no blank works at its start only. -/
theorem trim_concat {c : Char} (h : isBlank c = false) (cs : List Char) :
    trim (cs ++ [c]) = trimStart cs ++ [c] := by
  rw [trim, trimStart, List.dropWhile_append]
  split_ifs with hcs
  · have hlast : trimEnd ([] ++ [c]) = [] ++ [c] := trimEnd_of_last h
    rw [List.dropWhile_cons_of_neg (by simp [h]), trimStart, List.isEmpty_iff.mp hcs]
    exact hlast
  · exact trimEnd_of_last h

theorem trim_eq_nil_iff (cs : List Char) : trim cs = [] ↔ ∀ c ∈ cs, isBlank c = true := by
  constructor
  · intro h c hc
    obtain ⟨as, bs, has, hbs, hcs⟩ := exists_blanks_trim cs
    rw [h, List.nil_append] at hcs
    rw [hcs] at hc
    rcases List.mem_append.mp hc with ha | hb
    · exact has c ha
    · exact hbs c hb
  · intro h
    have htrim := trim_append_blanks h []
    rwa [List.nil_append] at htrim

/-! ### Where a scan stands when the blanks come -/

theorem Quoting.after_bare_blanks {bs : List Char} (h : ∀ b ∈ bs, isBlank b = true) :
    Quoting.bare.after bs = .bare := by
  induction bs with
  | nil => rfl
  | cons b bs ih =>
    obtain ⟨hb, hbs⟩ := List.forall_mem_cons.mp h
    rw [after_cons, step_bare_blank hb]
    exact ih hbs

/-- Blanks do not close quotes. -/
theorem Quoting.after_blanks_of_quoted {q : Quoting} (hq : q = .single ∨ q = .double)
    {bs : List Char} (h : ∀ b ∈ bs, isBlank b = true) : q.after bs = q := by
  induction bs with
  | nil => rfl
  | cons b bs ih =>
    obtain ⟨hb, hbs⟩ := List.forall_mem_cons.mp h
    have hstep : (q.step b).1 = q := by
      have hslash : b ≠ '\\' := ne_of_isBlank hb (by decide)
      have hquote : b ≠ '\x27' := ne_of_isBlank hb (by decide)
      have hdouble : b ≠ '\x22' := ne_of_isBlank hb (by decide)
      rcases hq with rfl | rfl
      · simp [step, hquote]
      · simp [step, doubleSense, hslash, hdouble]
    rw [after_cons, hstep]
    exact ih hbs

/-- If blanks end a stretch outside quotes, they start there or after a backslash. -/
theorem Quoting.eq_of_after_blanks {q : Quoting} {bs : List Char}
    (h : ∀ b ∈ bs, isBlank b = true) (hend : q.after bs = .bare) :
    q = .bare ∨ q = .bareEscape ∧ bs ≠ [] := by
  cases q with
  | bare => exact .inl rfl
  | bareEscape => exact .inr ⟨rfl, by rintro rfl; cases hend⟩
  | single => rw [after_blanks_of_quoted (.inl rfl) h] at hend; cases hend
  | double => rw [after_blanks_of_quoted (.inr rfl) h] at hend; cases hend
  | doubleEscape =>
    cases bs with
    | nil => cases hend
    | cons b bs =>
      obtain ⟨-, hbs⟩ := List.forall_mem_cons.mp h
      rw [after_cons, show (Quoting.doubleEscape.step b).1 = .double from rfl,
        after_blanks_of_quoted (.inr rfl) hbs] at hend
      cases hend

/-! ### The words of a trimmed piece -/

/-- Trimming does not move the place where the quoting is read from. -/
theorem after_trim_append {p : List Char} :
    ∃ bs, (∀ b ∈ bs, isBlank b = true) ∧
      Quoting.bare.after p = (Quoting.bare.after (trim p)).after bs ∧
      (cutWords .bare p).all = (cutWords .bare (trim p ++ bs)).all := by
  obtain ⟨as, bs, has, hbs, hp⟩ := exists_blanks_trim p
  refine ⟨bs, hbs, ?_, ?_⟩
  · calc Quoting.bare.after p
        = Quoting.bare.after (as ++ (trim p ++ bs)) := congrArg _ hp
      _ = (Quoting.bare.after (trim p)).after bs := by
        rw [Quoting.after_append, Quoting.after_bare_blanks has, Quoting.after_append]
  · calc (cutWords .bare p).all
        = (cutWords .bare (as ++ (trim p ++ bs))).all := by rw [← hp]
      _ = (cutWords .bare (trim p ++ bs)).all := all_cutWords_blanks has _

/-- Of a piece that ends outside quotes the trim does so too, unless it leaves a backslash. -/
theorem after_trim {p : List Char} (h : Quoting.bare.after p = .bare) :
    Quoting.bare.after (trim p) = .bare ∨ Quoting.bare.after (trim p) = .bareEscape := by
  obtain ⟨bs, hbs, hafter, -⟩ := after_trim_append (p := p)
  rcases Quoting.eq_of_after_blanks hbs (hafter.symm.trans h) with hq | ⟨hq, -⟩
  · exact .inl hq
  · exact .inr hq

theorem all_cutWords_trim {p : List Char} (h : Quoting.bare.after (trim p) = .bare) :
    (cutWords .bare (trim p)).all = (cutWords .bare p).all := by
  obtain ⟨bs, hbs, -, hall⟩ := after_trim_append (p := p)
  rw [hall, cutWords_append_blanks hbs h]

/-- What a trim that leaves a backslash takes away: the blank after it. -/
theorem text_cutWords_trim {p : List Char} (h : Quoting.bare.after p = .bare)
    (hesc : Quoting.bare.after (trim p) = .bareEscape) :
    ∃ c, isBlank c = true ∧
      (cutWords .bare p).all.flatten = (cutWords .bare (trim p)).all.flatten ++ [c] := by
  obtain ⟨bs, hbs, hafter, hall⟩ := after_trim_append (p := p)
  rcases Quoting.eq_of_after_blanks hbs (hafter.symm.trans h) with hq | ⟨-, hne⟩
  · rw [hq] at hesc
    cases hesc
  · cases bs with
    | nil => exact absurd rfl hne
    | cons c bs =>
      obtain ⟨hc, hbs⟩ := List.forall_mem_cons.mp hbs
      refine ⟨c, hc, ?_⟩
      have htext := text_cutWords_append .bare (trim p) (c :: bs)
      have hrest : (cutWords .bare bs).text = [] := by
        have hnone := all_cutWords_blanks hbs []
        rw [List.append_nil] at hnone
        rw [Cutting.text, hnone]
        rfl
      rw [hesc, cutWords_cons, show Quoting.bareEscape.step c = (.bare, .plain [c]) from rfl,
        Sense.onto, Cutting.text_prepend, hrest] at htext
      rw [hall]
      exact htext

/-! ### Pieces that end in a blank after a backslash -/

/-- The text ends in a blank that a backslash outside quotes stands before, but for blanks that
    mean nothing. -/
def EndsInEscapedBlank (p : List Char) : Prop :=
  ∃ body c bs, p = body ++ '\\' :: c :: bs ∧ Quoting.bare.after body = .bare ∧
    isBlank c = true ∧ ∀ b ∈ bs, isBlank b = true

/-- A stretch that leaves a backslash outside quotes ends in it. -/
theorem Quoting.eq_concat_of_bareEscape {cs : List Char}
    (h : Quoting.bare.after cs = .bareEscape) :
    ∃ body, cs = body ++ ['\\'] ∧ Quoting.bare.after body = .bare := by
  obtain rfl | ⟨body, c, rfl⟩ := List.eq_nil_or_concat cs
  · cases h
  · rw [List.concat_eq_append] at h ⊢
    rw [after_append, after_cons] at h
    obtain ⟨hbody, rfl⟩ := step_eq_bareEscape h
    exact ⟨body, rfl, hbody⟩

/-- A piece ends in a blank after a backslash if its trim leaves the backslash. -/
theorem endsInEscapedBlank_iff {p : List Char} (h : Quoting.bare.after p = .bare) :
    EndsInEscapedBlank p ↔ Quoting.bare.after (trim p) = .bareEscape := by
  constructor
  · rintro ⟨body, c, bs, rfl, hbody, hc, hbs⟩
    have hblanks : ∀ b ∈ c :: bs, isBlank b = true := List.forall_mem_cons.mpr ⟨hc, hbs⟩
    obtain ⟨as, has, hsplit⟩ := exists_blanks_trimStart body
    have hstart : Quoting.bare.after (trimStart body) = .bare := by
      rw [hsplit, Quoting.after_append, Quoting.after_bare_blanks has] at hbody
      exact hbody
    have htrim : trim (body ++ '\\' :: c :: bs) = trimStart body ++ ['\\'] := by
      rw [show body ++ '\\' :: c :: bs = (body ++ ['\\']) ++ (c :: bs) by simp,
        trim_append_blanks hblanks, trim_concat (by decide)]
    rw [htrim, Quoting.after_append, hstart]
    rfl
  · intro hesc
    obtain ⟨as, bs, has, hbs, hp⟩ := exists_blanks_trim p
    obtain ⟨body, hbody, hbare⟩ := Quoting.eq_concat_of_bareEscape hesc
    have hend : Quoting.bareEscape.after bs = .bare := by
      rw [hp, Quoting.after_append, Quoting.after_bare_blanks has, Quoting.after_append, hesc] at h
      exact h
    cases bs with
    | nil => cases hend
    | cons c bs =>
      obtain ⟨hc, hbs⟩ := List.forall_mem_cons.mp hbs
      refine ⟨as ++ body, c, bs, ?_, ?_, hc, hbs⟩
      · rw [hp, hbody]
        simp
      · rw [Quoting.after_append, Quoting.after_bare_blanks has, hbare]

/-- Trimming a piece keeps its words exactly if it does not end in a blank after a backslash. -/
theorem all_cutWords_trim_iff {p : List Char} (h : Quoting.bare.after p = .bare) :
    (cutWords .bare (trim p)).all = (cutWords .bare p).all ↔ ¬ EndsInEscapedBlank p := by
  rw [endsInEscapedBlank_iff h]
  constructor
  · intro hall hesc
    obtain ⟨c, -, htext⟩ := text_cutWords_trim h hesc
    rw [hall] at htext
    simpa using congrArg List.length htext
  · intro hesc
    exact all_cutWords_trim ((after_trim h).resolve_right hesc)

/-- A text without a word is blanks, perhaps with a backslash at the end. -/
theorem blanks_of_all_cutWords_eq_nil {cs : List Char} (h : (cutWords .bare cs).all = []) :
    ∃ bs, (∀ b ∈ bs, isBlank b = true) ∧ (cs = bs ∨ cs = bs ++ ['\\']) := by
  induction cs with
  | nil => exact ⟨[], by simp, .inl rfl⟩
  | cons c cs ih =>
    rw [cutWords_cons] at h
    cases hs : (Quoting.bare.step c).2 with
    | plain t => simp [hs, Sense.onto] at h
    | bar => simp [hs, Sense.onto] at h
    | delimiter => simp [hs, Sense.onto] at h
    | blank =>
      obtain ⟨hc, hq⟩ := Quoting.isBlank_of_step_bare hs
      rw [hs, hq] at h
      obtain ⟨bs, hbs, hcs⟩ := ih h
      refine ⟨c :: bs, List.forall_mem_cons.mpr ⟨hc, hbs⟩, ?_⟩
      rcases hcs with rfl | rfl
      · exact .inl rfl
      · exact .inr rfl
    | backslash =>
      have hc : c = '\\' :=
        (Quoting.step_eq_bareEscape (Quoting.step_bare_of_backslash hs)).2
      rw [hs, Quoting.step_bare_of_backslash hs] at h
      cases cs with
      | nil => exact ⟨[], by simp, .inr (by rw [hc]; rfl)⟩
      | cons d ds =>
        rw [cutWords_cons] at h
        simp [Sense.onto, Quoting.step] at h

/-- A piece that ends outside quotes and has no word holds blanks only. -/
theorem isBlank_of_all_cutWords_eq_nil {p : List Char} (h : Quoting.bare.after p = .bare)
    (hall : (cutWords .bare p).all = []) : ∀ c ∈ p, isBlank c = true := by
  obtain ⟨bs, hbs, rfl | rfl⟩ := blanks_of_all_cutWords_eq_nil hall
  · exact hbs
  · rw [Quoting.after_append, Quoting.after_bare_blanks hbs] at h
    cases h

theorem all_cutWords_eq_nil_iff {p : List Char} (h : Quoting.bare.after p = .bare) :
    (cutWords .bare p).all = [] ↔ trim p = [] := by
  rw [trim_eq_nil_iff]
  constructor
  · exact isBlank_of_all_cutWords_eq_nil h
  · intro hp
    have hnone := all_cutWords_blanks hp []
    rwa [List.append_nil] at hnone

/-! ### Stages -/

/-- The words of each piece of a line as it stands, with the blanks at its ends. -/
def pieceWords (line : String) : List (List String) :=
  (piecesFrom .bare line.toList).map fun p => words (String.ofList p)

/-- A piece that ends outside quotes has a word if there is something left of it after trimming. -/
theorem words_ne_nil_iff {p : List Char} (h : Quoting.bare.after p = .bare) :
    words (String.ofList p) ≠ [] ↔ trim p ≠ [] := by
  rw [words_ofList, ne_eq, List.map_eq_nil_iff, all_cutWords_eq_nil_iff h]

/-- The stages of a line that ends outside quotes belong to its pieces that have a word, in order:
    each gets the words of its piece after trimming. -/
theorem stageWords_eq_map {line : String} (h : Quoting.bare.after line.toList = .bare) :
    stageWords line =
      ((piecesFrom .bare line.toList).filter fun p => words (String.ofList p) ≠ []).map
        fun p => words (String.ofList (trim p)) := by
  rw [stageWords, segments, segmentsOf, List.filter_map, List.map_map, List.map_map]
  refine congrArg _ (List.filter_congr fun p hp => ?_)
  exact decide_eq_decide.mpr (words_ne_nil_iff (after_of_mem_pieces h hp)).symm

theorem pieceWords_filter (line : String) :
    (pieceWords line).filter (· ≠ []) =
      ((piecesFrom .bare line.toList).filter fun p => words (String.ofList p) ≠ []).map
        fun p => words (String.ofList p) := by
  rw [pieceWords, List.filter_map]
  rfl

/-- A piece that ends in a blank after a backslash has a word, be it that blank alone. -/
theorem EndsInEscapedBlank.words_ne_nil {p : List Char} (h : Quoting.bare.after p = .bare)
    (hp : EndsInEscapedBlank p) : words (String.ofList p) ≠ [] := by
  rw [words_ne_nil_iff h]
  intro hnil
  rw [endsInEscapedBlank_iff h, hnil] at hp
  cases hp

/-- The stages of a line that ends outside quotes are read from the words of its pieces, those
    without words apart, exactly if no piece ends in a blank after a backslash. A piece that does
    loses that blank and no other character of its words. -/
theorem stageWords_eq_iff {line : String} (h : Quoting.bare.after line.toList = .bare) :
    (stageWords line = (pieceWords line).filter (· ≠ []) ↔
      ∀ p ∈ piecesFrom .bare line.toList, ¬ EndsInEscapedBlank p) ∧
    ∀ p ∈ piecesFrom .bare line.toList, EndsInEscapedBlank p → ∃ c, isBlank c = true ∧
      (cutWords .bare p).all.flatten = (cutWords .bare (trim p)).all.flatten ++ [c] := by
  constructor
  · rw [stageWords_eq_map h, pieceWords_filter, List.map_inj_left]
    constructor
    · intro hsame p hp hesc
      have hbare := after_of_mem_pieces h hp
      have hword : words (String.ofList p) ≠ [] := hesc.words_ne_nil hbare
      have htrim := hsame p (List.mem_filter.mpr ⟨hp, decide_eq_true hword⟩)
      simp only [words_ofList, map_ofList_inj] at htrim
      exact (all_cutWords_trim_iff hbare).mp htrim hesc
    · intro hnone p hp
      have hmem := (List.mem_filter.mp hp).1
      have htrim := (all_cutWords_trim_iff (after_of_mem_pieces h hmem)).mpr (hnone p hmem)
      simp only [words_ofList, htrim]
  · intro p hp hesc
    have hbare := after_of_mem_pieces h hp
    exact text_cutWords_trim hbare ((endsInEscapedBlank_iff hbare).mp hesc)

/-- Blanks after a backslash are kept inside a piece, and blanks between quotes at its end too. -/
theorem stageWords_escaped_blank_kept :
    Quoting.bare.after " a | b\\ \\  'c ' |".toList = .bare ∧
    stageWords " a | b\\ \\  'c ' |" = (pieceWords " a | b\\ \\  'c ' |").filter (· ≠ []) := by
  have h : Quoting.bare.after " a | b\\ \\  'c ' |".toList = .bare := by decide
  refine ⟨h, (stageWords_eq_iff h).1.mpr fun p hp => ?_⟩
  rw [endsInEscapedBlank_iff (after_of_mem_pieces h hp)]
  revert p
  decide

/-- The blank at the end of a line is lost although a backslash stands before it. -/
theorem stageWords_escaped_blank_lost :
    Quoting.bare.after "echo a\\ ".toList = .bare ∧
    pieceWords "echo a\\ " = [["echo", "a "]] ∧ stageWords "echo a\\ " = [["echo", "a"]] := by
  decide

end LineShell
