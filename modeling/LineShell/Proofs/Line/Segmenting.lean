import LineShell.Proofs.Line.Notation
/-!
    Segments as a normal form.

    A line is cut at the bars outside quotes, and nowhere else. Outside quotes the scan stands where
    it starts, so what is before a cut and what is behind it are lines of their own
    (`segmentsOf_append_bar`), and every line is stretches without cuts with bars between them
    (`cutInduction`). A segment is such a stretch without the blanks around it: cutting it again
    gives it back, and so do all segments of a line with bars between them
    (`segments_normalForm`). -/

namespace LineShell

/-! ### Cuts -/

theorem Quoting.step_bar_iff {q : Quoting} {c : Char} :
    (q.step c).2 = .bar ↔ q = .bare ∧ c = '|' := by
  constructor
  · intro h
    obtain ⟨rfl, -⟩ := step_eq_bar h
    simp only [step, bareSense] at h
    split_ifs at h with _ _ _ hc
    exact ⟨rfl, hc⟩
  · rintro ⟨rfl, rfl⟩
    rfl

theorem piecesFrom_ne_nil (q : Quoting) (cs : List Char) : piecesFrom q cs ≠ [] := by
  induction cs generalizing q with
  | nil => simp [piecesFrom]
  | cons c cs ih =>
    rw [piecesFrom_cons]
    split_ifs with hbar
    · simp
    · obtain ⟨p, ps, hps⟩ := List.exists_cons_of_ne_nil (ih (q.step c).1)
      simp [hps]

/-- A bar outside quotes parts what is before it from what is behind it. -/
theorem piecesFrom_append_bar {q : Quoting} {xs : List Char} (h : q.after xs = .bare)
    (ys : List Char) : piecesFrom q (xs ++ '|' :: ys) = piecesFrom q xs ++ piecesFrom .bare ys := by
  induction xs generalizing q with
  | nil =>
    obtain rfl : q = .bare := h
    rfl
  | cons x xs ih =>
    rw [List.cons_append, piecesFrom_cons, piecesFrom_cons, ih h]
    split_ifs with hbar
    · rfl
    · obtain ⟨p, ps, hps⟩ := List.exists_cons_of_ne_nil (piecesFrom_ne_nil (q.step x).1 xs)
      rw [hps]
      rfl

theorem segmentsOf_append_bar {xs : List Char} (h : Quoting.bare.after xs = .bare)
    (ys : List Char) : segmentsOf (xs ++ '|' :: ys) = segmentsOf xs ++ segmentsOf ys := by
  rw [segmentsOf, piecesFrom_append_bar h, List.map_append, List.filter_append]
  rfl

/-- No bar of the text is outside quotes. -/
def Uncut (q : Quoting) (cs : List Char) : Prop :=
  ∀ l r, cs = l ++ '|' :: r → q.after l ≠ .bare

theorem Uncut.tail {q : Quoting} {c : Char} {cs : List Char} (h : Uncut q (c :: cs)) :
    Uncut (q.step c).1 cs :=
  fun l r hcs => h (c :: l) r (congrArg (c :: ·) hcs)

theorem piecesFrom_of_uncut {q : Quoting} {cs : List Char} (h : Uncut q cs) :
    piecesFrom q cs = [cs] := by
  induction cs generalizing q with
  | nil => rfl
  | cons c cs ih =>
    have hbar : (q.step c).2 ≠ .bar := by
      intro hbar
      obtain ⟨rfl, rfl⟩ := Quoting.step_bar_iff.mp hbar
      exact h [] cs rfl rfl
    rw [piecesFrom_cons, if_neg hbar, ih h.tail]
    rfl

/-- A text has no cut, or it has a first one. -/
theorem uncut_or_exists_cut (q : Quoting) (cs : List Char) : Uncut q cs ∨
    ∃ p rest, cs = p ++ '|' :: rest ∧ q.after p = .bare ∧ Uncut q p := by
  induction cs generalizing q with
  | nil => exact .inl fun l r h => by simp at h
  | cons c cs ih =>
    by_cases hbar : q = .bare ∧ c = '|'
    · obtain ⟨rfl, rfl⟩ := hbar
      exact .inr ⟨[], cs, rfl, rfl, fun l r h => by simp at h⟩
    have hcons {cs : List Char} (h : Uncut (q.step c).1 cs) : Uncut q (c :: cs) := by
      rintro (_ | ⟨c', l⟩) r hl
      · rintro rfl
        exact hbar ⟨rfl, (List.cons.inj hl).1⟩
      · obtain ⟨rfl, hcs⟩ := List.cons.inj hl
        exact h l r hcs
    rcases ih (q.step c).1 with huncut | ⟨p, rest, rfl, hafter, huncut⟩
    · exact .inl (hcons huncut)
    · exact .inr ⟨c :: p, rest, rfl, hafter, hcons huncut⟩

/-- What holds of texts without a cut, and of a text with a first cut if it holds of what is behind
    that, holds of every text. -/
theorem cutInduction {P : List Char → Prop} (uncut : ∀ cs, Uncut .bare cs → P cs)
    (cut : ∀ p rest, Uncut .bare p → Quoting.bare.after p = .bare → P rest →
      P (p ++ '|' :: rest)) (cs : List Char) : P cs := by
  induction hn : cs.length using Nat.strongRecOn generalizing cs with
  | _ n ih =>
    rcases uncut_or_exists_cut .bare cs with huncut | ⟨p, rest, rfl, hafter, huncut⟩
    · exact uncut cs huncut
    · exact cut p rest huncut hafter (ih rest.length (by rw [← hn]; simp; omega) rest rfl)

/-! ### Stretches without a cut -/

theorem trim_blanks_append {as : List Char} (h : ∀ a ∈ as, isBlank a = true) (cs : List Char) :
    trim (as ++ cs) = trim cs := by
  induction as with
  | nil => rfl
  | cons a as ih =>
    obtain ⟨ha, has⟩ := List.forall_mem_cons.mp h
    rw [List.cons_append, trim_cons_blank ha, ih has]

theorem isBlank_of_trimStart {c : Char} {cs rest : List Char} (h : trimStart cs = c :: rest) :
    isBlank c = false := by
  have hhead := List.head?_dropWhile_not isBlank cs
  rw [show cs.dropWhile isBlank = c :: rest from h] at hhead
  exact hhead

/-- What trimming leaves has no blank at either end. -/
theorem solid_trim {cs : List Char} (h : trim cs ≠ []) : Solid (trim cs) := by
  obtain ⟨c, rest, hstart⟩ : ∃ c rest, trimStart cs = c :: rest := by
    refine List.exists_cons_of_ne_nil fun hnil => h ?_
    rw [trim, hnil]
    rfl
  obtain ⟨d, ds, hend⟩ : ∃ d ds, trimStart (trimStart cs).reverse = d :: ds := by
    refine List.exists_cons_of_ne_nil fun hnil => h ?_
    rw [trim, trimEnd, show (trimStart cs).reverse.dropWhile isBlank = [] from hnil]
    rfl
  have htrim : trim cs = ds.reverse ++ [d] := by
    rw [trim, trimEnd, show (trimStart cs).reverse.dropWhile isBlank = d :: ds from hend]
    simp
  obtain ⟨bs, -, hsplit⟩ := exists_blanks_trimEnd (trimStart cs)
  obtain ⟨c', cs', hcons⟩ := List.exists_cons_of_ne_nil h
  have hc : c' = c := by
    rw [hstart, show trimEnd (c :: rest) = trim cs by rw [trim, hstart], hcons] at hsplit
    exact (List.cons.inj hsplit).1.symm
  exact ⟨c', cs', ds.reverse, d, hcons, htrim, hc ▸ isBlank_of_trimStart hstart,
    isBlank_of_trimStart hend⟩

/-- A bar in a text with blanks around it is in the text. -/
theorem exists_bar_inside {as t bs xs ys : List Char} (has : ∀ a ∈ as, isBlank a = true)
    (hbs : ∀ b ∈ bs, isBlank b = true) (h : as ++ (t ++ bs) = xs ++ '|' :: ys) :
    ∃ l r, xs = as ++ l ∧ t = l ++ '|' :: r ∧ ys = r ++ bs := by
  have hbar {cs : List Char} (hcs : ∀ c ∈ cs, isBlank c = true) : '|' ∉ cs :=
    fun hmem => Bool.false_ne_true ((by decide : isBlank '|' = false).symm.trans (hcs _ hmem))
  obtain ⟨l, rfl, hrest⟩ : ∃ l, xs = as ++ l ∧ t ++ bs = l ++ '|' :: ys := by
    rcases List.append_eq_append_iff.mp h with ⟨l, hxs, hrest⟩ | ⟨l, rfl, hrest⟩
    · exact ⟨l, hxs, hrest⟩
    · cases l with
      | nil => exact ⟨[], by simp, hrest.symm⟩
      | cons c l =>
        obtain ⟨rfl, -⟩ := List.cons.inj hrest
        exact absurd (by simp) (hbar has)
  rcases List.append_eq_append_iff.mp hrest with ⟨r, rfl, hbs'⟩ | ⟨r, rfl, hys⟩
  · exact absurd (by simp [hbs']) (hbar hbs)
  · cases r with
    | nil =>
      obtain rfl : '|' :: ys = bs := hys
      exact absurd List.mem_cons_self (hbar hbs)
    | cons c r =>
      obtain ⟨rfl, hend⟩ := List.cons.inj hys
      exact ⟨l, r, rfl, rfl, hend⟩

/-- Blanks around a text do not matter to its cuts. -/
theorem uncut_margins_iff {as t bs : List Char} (has : ∀ a ∈ as, isBlank a = true)
    (hbs : ∀ b ∈ bs, isBlank b = true) : Uncut .bare (as ++ (t ++ bs)) ↔ Uncut .bare t := by
  have hafter (l : List Char) : Quoting.bare.after (as ++ l) = Quoting.bare.after l := by
    rw [Quoting.after_append, Quoting.after_bare_blanks has]
  constructor
  · rintro h l r rfl
    rw [← hafter]
    exact h (as ++ l) (r ++ bs) (by simp)
  · intro h xs ys hcs
    obtain ⟨l, r, rfl, ht, -⟩ := exists_bar_inside has hbs hcs
    rw [hafter]
    exact h l r ht

theorem segmentsOf_of_uncut {cs : List Char} (h : Uncut .bare cs) :
    segmentsOf cs = if trim cs = [] then [] else [trim cs] := by
  rw [segmentsOf, piecesFrom_of_uncut h]
  split_ifs with hnil <;> simp [hnil]

theorem uncut_of_blanks {bs : List Char} (h : ∀ b ∈ bs, isBlank b = true) : Uncut .bare bs := by
  rintro l r rfl
  have := h '|' (by simp)
  exact absurd this (by decide)

theorem segmentsOf_of_blanks {bs : List Char} (h : ∀ b ∈ bs, isBlank b = true) :
    segmentsOf bs = [] := by
  rw [segmentsOf_of_uncut (uncut_of_blanks h), if_pos ((trim_eq_nil_iff bs).mpr h)]

/-! ### Segments where they stand -/

/-- What a segment is by itself: it has no blank at its ends, and no bar that would cut it. -/
structure IsSegment (t : List Char) : Prop where
  solid : Solid t
  uncut : Uncut .bare t

/-- A segment between two parts of a line, with the segments of these before it and behind it. -/
structure Stands (line before seg after : List Char) : Prop where
  text : line = before ++ (seg ++ after)
  outside : Quoting.bare.after before = .bare
  parted : segmentsOf line = segmentsOf before ++ seg :: segmentsOf after

variable {line as t bs p rest before seg after xs ys : List Char}

theorem IsSegment.segmentsOf_margins (ht : IsSegment t) (has : ∀ a ∈ as, isBlank a = true)
    (hbs : ∀ b ∈ bs, isBlank b = true) : segmentsOf (as ++ (t ++ bs)) = [t] := by
  have htrim : trim (as ++ (t ++ bs)) = t := by
    rw [trim_blanks_append has, trim_append_blanks hbs, ht.solid.trim_eq]
  obtain ⟨c, cs, -, -, hcons, -⟩ := ht.solid
  rw [segmentsOf_of_uncut ((uncut_margins_iff has hbs).mpr ht.uncut), htrim,
    if_neg (by simp [hcons])]

theorem IsSegment.segmentsOf_eq (ht : IsSegment t) : segmentsOf t = [t] := by
  have h : segmentsOf ([] ++ (t ++ [])) = [t] := ht.segmentsOf_margins (by simp) (by simp)
  rwa [List.nil_append, List.append_nil] at h

/-- A stretch without a cut holds blanks only, or it is a segment between blanks. -/
theorem Uncut.margins (h : Uncut .bare p) : (∀ c ∈ p, isBlank c = true) ∨
    ∃ as t bs, (∀ a ∈ as, isBlank a = true) ∧ (∀ b ∈ bs, isBlank b = true) ∧
      p = as ++ (t ++ bs) ∧ IsSegment t := by
  by_cases hnil : trim p = []
  · exact .inl ((trim_eq_nil_iff p).mp hnil)
  · obtain ⟨as, bs, has, hbs, hp⟩ := exists_blanks_trim p
    have huncut : Uncut .bare (as ++ (trim p ++ bs)) := hp ▸ h
    exact .inr ⟨as, trim p, bs, has, hbs, hp, solid_trim hnil,
      (uncut_margins_iff has hbs).mp huncut⟩

/-- A bar in a stretch without a cut is inside its segment. -/
theorem Uncut.exists_bar (h : Uncut .bare (xs ++ '|' :: ys)) :
    ∃ as l r bs, (∀ a ∈ as, isBlank a = true) ∧ (∀ b ∈ bs, isBlank b = true) ∧ xs = as ++ l ∧
      ys = r ++ bs ∧ IsSegment (l ++ '|' :: r) := by
  rcases h.margins with hblank | ⟨as, t, bs, has, hbs, htext, ht⟩
  · exact absurd (hblank '|' (by simp)) (by decide)
  · obtain ⟨l, r, rfl, rfl, rfl⟩ := exists_bar_inside has hbs htext.symm
    exact ⟨as, l, r, bs, has, hbs, rfl, rfl, ht⟩

theorem IsSegment.stands (ht : IsSegment t) (has : ∀ a ∈ as, isBlank a = true)
    (hbs : ∀ b ∈ bs, isBlank b = true) : Stands (as ++ (t ++ bs)) as t bs := by
  refine ⟨rfl, Quoting.after_bare_blanks has, ?_⟩
  rw [ht.segmentsOf_margins has hbs, segmentsOf_of_blanks has, segmentsOf_of_blanks hbs]
  rfl

/-- The segment of the stretch before the first cut. -/
theorem IsSegment.stands_first (ht : IsSegment t) (has : ∀ a ∈ as, isBlank a = true)
    (hbs : ∀ b ∈ bs, isBlank b = true) (hcut : Quoting.bare.after (as ++ (t ++ bs)) = .bare)
    (rest : List Char) : Stands ((as ++ (t ++ bs)) ++ '|' :: rest) as t (bs ++ '|' :: rest) := by
  refine ⟨by simp, Quoting.after_bare_blanks has, ?_⟩
  rw [segmentsOf_append_bar hcut, segmentsOf_append_bar (Quoting.after_bare_blanks hbs),
    ht.segmentsOf_margins has hbs, segmentsOf_of_blanks has, segmentsOf_of_blanks hbs]
  rfl

/-- A segment behind a cut. -/
theorem Stands.behind (h : Stands rest before seg after) (hp : Quoting.bare.after p = .bare) :
    Stands (p ++ '|' :: rest) (p ++ '|' :: before) seg after := by
  refine ⟨by rw [h.text]; simp, ?_, ?_⟩
  · rw [Quoting.after_append, hp, Quoting.after_cons]
    exact h.outside
  · rw [segmentsOf_append_bar hp, segmentsOf_append_bar hp, h.parted, List.append_assoc]

/-- Every segment of a line stands in it. -/
theorem exists_stands {earlier later : List (List Char)}
    (h : segmentsOf line = earlier ++ seg :: later) : IsSegment seg ∧
      ∃ before after, Stands line before seg after ∧ segmentsOf before = earlier ∧
        segmentsOf after = later := by
  induction line using cutInduction generalizing earlier with
  | uncut cs huncut =>
    rcases huncut.margins with hblank | ⟨as, t, bs, has, hbs, rfl, ht⟩
    · simp [segmentsOf_of_blanks hblank] at h
    · rw [ht.segmentsOf_margins has hbs, List.singleton_eq_append_iff] at h
      simp only [List.cons.injEq, reduceCtorEq, and_false, or_false] at h
      obtain ⟨rfl, rfl, rfl⟩ := h
      exact ⟨ht, as, bs, ht.stands has hbs, segmentsOf_of_blanks has, segmentsOf_of_blanks hbs⟩
  | cut p rest huncut hafter ih =>
    rw [segmentsOf_append_bar hafter] at h
    -- the segment is that of the first stretch, or it is one of the rest
    have hrest {earlier' : List (List Char)} (h : segmentsOf rest = earlier' ++ seg :: later) :
        IsSegment seg ∧ ∃ before after, Stands (p ++ '|' :: rest) before seg after ∧
          segmentsOf before = segmentsOf p ++ earlier' ∧ segmentsOf after = later := by
      obtain ⟨hseg, before, after, hstands, hbefore, hlater⟩ := ih h
      refine ⟨hseg, _, after, hstands.behind hafter, ?_, hlater⟩
      rw [segmentsOf_append_bar hafter, hbefore]
    rcases huncut.margins with hblank | ⟨as, t, bs, has, hbs, rfl, ht⟩
    · rw [segmentsOf_of_blanks hblank, List.nil_append] at h
      simpa [segmentsOf_of_blanks hblank] using hrest h
    · rw [ht.segmentsOf_margins has hbs, List.singleton_append] at h
      cases earlier with
      | cons first earlier' =>
        obtain ⟨rfl, hlater⟩ := List.cons.inj h
        simpa [ht.segmentsOf_margins has hbs] using hrest hlater
      | nil =>
        obtain ⟨rfl, rfl⟩ := List.cons.inj h
        refine ⟨ht, as, _, ht.stands_first has hbs hafter rest, segmentsOf_of_blanks has, ?_⟩
        rw [segmentsOf_append_bar (Quoting.after_bare_blanks hbs), segmentsOf_of_blanks hbs]
        rfl

/-- A bar that is no cut is inside a segment that stands there. -/
theorem exists_stands_of_bar (h : Quoting.bare.after xs ≠ .bare) (ys : List Char) :
    ∃ before l r after, xs = before ++ l ∧ ys = r ++ after ∧
      Stands (xs ++ '|' :: ys) before (l ++ '|' :: r) after := by
  obtain ⟨line, hline⟩ : ∃ line, xs ++ '|' :: ys = line := ⟨_, rfl⟩
  rw [hline]
  induction line using cutInduction generalizing xs with
  | uncut cs huncut =>
    subst hline
    obtain ⟨as, l, r, bs, has, hbs, rfl, rfl, ht⟩ := huncut.exists_bar
    refine ⟨as, l, r, bs, rfl, rfl, ?_⟩
    simpa using ht.stands has hbs
  | cut p rest huncut hafter ih =>
    rcases List.append_eq_append_iff.mp hline with ⟨c, rfl, hys⟩ | ⟨c, rfl, hrest⟩
    · -- the bar is before the cut
      cases c with
      | nil => exact absurd (by simpa using hafter) h
      | cons d c =>
        obtain ⟨rfl, rfl⟩ := List.cons.inj hys
        obtain ⟨as, l, r, bs, has, hbs, rfl, rfl, ht⟩ := huncut.exists_bar
        refine ⟨as, l, r, bs ++ '|' :: rest, rfl, by simp, ?_⟩
        simpa using ht.stands_first has hbs (by simpa using hafter) rest
    · -- the bar is behind the cut
      cases c with
      | nil => exact absurd (by simpa using hafter) h
      | cons d c =>
        obtain ⟨rfl, hbehind⟩ := List.cons.inj hrest
        have hquoted : Quoting.bare.after c ≠ .bare := by
          rwa [Quoting.after_append, hafter, Quoting.after_cons] at h
        obtain ⟨before, l, r, after, rfl, rfl, hstands⟩ := ih hquoted hbehind.symm
        exact ⟨p ++ '|' :: before, l, r, after, by simp, rfl, hstands.behind hafter⟩

/-! ### Segments put together again -/

theorem segmentsOf_cons_blank {b : Char} (h : isBlank b = true) (cs : List Char) :
    segmentsOf (b :: cs) = segmentsOf cs := by
  rw [segmentsOf, piecesFrom_cons, Quoting.step_bare_blank h, if_neg (by simp),
    map_trim_modifyHead_blank h]
  rfl

/-- The scan of a segment that a cut follows stands outside quotes after one more blank, even if
    trimming has left it with a backslash at its end. -/
theorem after_segment_blank (hcut : Quoting.bare.after (as ++ (t ++ bs)) = .bare)
    (has : ∀ a ∈ as, isBlank a = true) (hbs : ∀ b ∈ bs, isBlank b = true) :
    Quoting.bare.after (t ++ [' ']) = .bare := by
  rw [Quoting.after_append, Quoting.after_bare_blanks has, Quoting.after_append] at hcut
  rw [Quoting.after_append]
  rcases Quoting.eq_of_after_blanks hbs hcut with hq | ⟨hq, -⟩
  · rw [hq]
    rfl
  · rw [hq]
    rfl

theorem segmentsOf_intercalate (line : List Char) :
    segmentsOf ([' ', '|', ' '].intercalate (segmentsOf line)) = segmentsOf line := by
  induction line using cutInduction with
  | uncut cs huncut =>
    rcases huncut.margins with hblank | ⟨as, t, bs, has, hbs, rfl, ht⟩
    · rw [segmentsOf_of_blanks hblank]
      rfl
    · rw [ht.segmentsOf_margins has hbs, List.intercalate_singleton, ht.segmentsOf_eq]
  | cut p rest huncut hafter ih =>
    rw [segmentsOf_append_bar hafter]
    rcases huncut.margins with hblank | ⟨as, t, bs, has, hbs, rfl, ht⟩
    · rwa [segmentsOf_of_blanks hblank, List.nil_append]
    · rw [ht.segmentsOf_margins has hbs, List.singleton_append]
      cases hsegs : segmentsOf rest with
      | nil => rw [List.intercalate_singleton, ht.segmentsOf_eq]
      | cons s ss =>
        rw [hsegs] at ih
        have hjoined : [' ', '|', ' '].intercalate (t :: s :: ss) =
            (t ++ [' ']) ++ '|' :: ' ' :: [' ', '|', ' '].intercalate (s :: ss) := by
          simp [List.intercalate_cons_cons]
        have ht' : segmentsOf ([] ++ (t ++ [' '])) = [t] :=
          ht.segmentsOf_margins (by simp) (by simp; decide)
        rw [List.nil_append] at ht'
        rw [hjoined, segmentsOf_append_bar (after_segment_blank hafter has hbs),
          segmentsOf_cons_blank (by decide), ih, ht']
        rfl

/-! ### Lines -/

/-- A segment of a line, between those before it and those behind it. -/
structure SegmentAt (line : String) (earlier : List String) (seg : String)
    (later : List String) : Prop where
  /-- It is not empty, and neither starts nor ends with a blank. -/
  solid : Solid seg.toList
  alone : segments seg = [seg]
  /-- The scan of the segment reads each of its bars as plain text. -/
  quoted (l r : List Char) : seg.toList = l ++ '|' :: r →
    ∃ text, ((Quoting.bare.after l).step '|').2 = .plain text
  /-- It is a piece of the line, and the other segments are those of what is around it. -/
  stands : ∃ before after, line = before ++ seg ++ after ∧ segments before = earlier ∧
    segments after = later

theorem segments_ofList (cs : List Char) :
    segments (String.ofList cs) = (segmentsOf cs).map String.ofList := by
  rw [segments, String.toList_ofList]

theorem Quoting.step_bar_plain {q : Quoting} (h : q ≠ .bare) :
    ∃ text, (q.step '|').2 = .plain text := by
  cases q with
  | bare => exact absurd rfl h
  | bareEscape => exact ⟨_, rfl⟩
  | single => exact ⟨_, rfl⟩
  | double => exact ⟨_, rfl⟩
  | doubleEscape => exact ⟨_, rfl⟩

theorem segmentAt_of_eq {line : String} {earlier later : List String} {seg : String}
    (h : segments line = earlier ++ seg :: later) : SegmentAt line earlier seg later := by
  obtain ⟨earlier', rest, hsegs, rfl, hrest⟩ := List.map_eq_append_iff.mp h
  obtain ⟨seg', later', rfl, rfl, rfl⟩ := List.map_eq_cons_iff.mp hrest
  obtain ⟨hseg, before, after, hstands, rfl, rfl⟩ := exists_stands hsegs
  refine ⟨?_, ?_, fun l r hl => ?_, String.ofList before, String.ofList after, ?_,
    segments_ofList before, segments_ofList after⟩
  · rw [String.toList_ofList]
    exact hseg.solid
  · rw [segments_ofList, hseg.segmentsOf_eq]
    rfl
  · rw [String.toList_ofList] at hl
    exact Quoting.step_bar_plain (hseg.uncut l r hl)
  · apply String.toList_injective
    simp [hstands.text]

theorem segments_intercalate (line : String) :
    segments (" | ".intercalate (segments line)) = segments line := by
  have hjoined : (" | ".intercalate (segments line)).toList =
      [' ', '|', ' '].intercalate (segmentsOf line.toList) := by
    rw [String.toList_intercalate, segments, List.map_map]
    simp [Function.comp_def]
  rw [segments, hjoined, segmentsOf_intercalate, segments]

/-- The segments of a line are a normal form of it. Each stands in the line as a piece of its own
    that is not cut again, and with bars between them they are cut as the line is. A bar of the
    line is either outside quotes, and then parts the segments, or inside a segment that has it as
    plain text. -/
theorem segments_normalForm (line : String) :
    (∀ earlier seg later, segments line = earlier ++ seg :: later →
      SegmentAt line earlier seg later) ∧
    segments (" | ".intercalate (segments line)) = segments line ∧
    parseLine (" | ".intercalate (segments line)) = parseLine line ∧
    ∀ xs ys, line = xs ++ "|" ++ ys →
      Quoting.bare.after xs.toList = .bare ∧ segments line = segments xs ++ segments ys ∨
      Quoting.bare.after xs.toList ≠ .bare ∧ ∃ before l r after, xs = before ++ l ∧
        ys = r ++ after ∧ segments line = segments before ++ (l ++ "|" ++ r) :: segments after := by
  have hjoined := segments_intercalate line
  refine ⟨fun _ _ _ => segmentAt_of_eq, hjoined, by rw [parseLine, parseLine, hjoined], ?_⟩
  rintro xs ys rfl
  have hline : segments (xs ++ "|" ++ ys) =
      (segmentsOf (xs.toList ++ '|' :: ys.toList)).map String.ofList := by
    rw [segments]
    simp
  by_cases h : Quoting.bare.after xs.toList = .bare
  · refine .inl ⟨h, ?_⟩
    rw [hline, segmentsOf_append_bar h, List.map_append]
    rfl
  · obtain ⟨before, l, r, after, hxs, hys, hstands⟩ := exists_stands_of_bar h ys.toList
    refine .inr ⟨h, .ofList before, .ofList l, .ofList r, .ofList after, ?_, ?_, ?_⟩
    · exact String.toList_injective (by simp [hxs])
    · exact String.toList_injective (by simp [hys])
    · rw [hline, hstands.parted, segments_ofList, segments_ofList, List.map_append, List.map_cons]
      simp [String.append_assoc]

/-- The bar between quotes stays, and so does the backslash that has lost its blank. -/
example : segments "a\\ || ' | ' |" = ["a\\", "' | '"] := by decide

end LineShell
