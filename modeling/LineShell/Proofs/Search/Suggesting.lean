import LineShell.Proofs.Line.Segmenting
import LineShell.Proofs.Search.Completing
/-!
    Suggestions go on from what has been typed.

    All completions start with the word that has been typed, so what they agree on starts with it
    too, and is longer in bytes exactly if it is another text. What texts agree on is their longest
    common start (`isCommonStart_commonStart`). It can be found by bytes as well: a text is compared
    with each of the others, and the least number of bytes for which it goes with them never ends
    inside a character (`upTo?_commonBytes`). So a suggestion only ever goes on from the word, by
    exactly what is certain (`suggest_extends`). -/

namespace LineShell

/-! ### Texts by their bytes -/

theorem byteCount_cons (c : Char) (cs : List Char) :
    byteCount (c :: cs) = c.utf8Size + byteCount cs := by
  rw [byteCount, Bytes.ofChars_cons, List.length_append, String.length_utf8EncodeChar]
  rfl

theorem byteCount_append (cs ds : List Char) :
    byteCount (cs ++ ds) = byteCount cs + byteCount ds := by
  induction cs with
  | nil => simp [byteCount, Bytes.ofChars]
  | cons c cs ih => rw [List.cons_append, byteCount_cons, byteCount_cons, ih, Nat.add_assoc]

theorem byteCount_eq_zero_iff {cs : List Char} : byteCount cs = 0 ↔ cs = [] := by
  cases cs with
  | nil => simp [byteCount, Bytes.ofChars]
  | cons c cs =>
    have hpos := c.utf8Size_pos
    rw [byteCount_cons]
    simp only [reduceCtorEq, iff_false]
    omega

theorem utf8ByteSize_ofList (cs : List Char) :
    (String.ofList cs).utf8ByteSize = byteCount cs := by
  simp [String.utf8ByteSize, List.utf8Encode, byteCount, Bytes.ofChars]

theorem utf8ByteSize_eq (s : String) : s.utf8ByteSize = byteCount s.toList := by
  rw [← utf8ByteSize_ofList, String.ofList_toList]

/-- A start of a text has fewer bytes unless it is the whole text. -/
theorem byteCount_lt_iff {p cs : List Char} (h : p <+: cs) :
    byteCount p < byteCount cs ↔ p ≠ cs := by
  obtain ⟨rest, rfl⟩ := h
  have hrest : byteCount rest = 0 ↔ rest = [] := byteCount_eq_zero_iff
  rw [byteCount_append, ne_eq, List.self_eq_append_right, ← hrest]
  omega

theorem byteCount_le {p cs : List Char} (h : p <+: cs) : byteCount p ≤ byteCount cs := by
  obtain ⟨rest, rfl⟩ := h
  rw [byteCount_append]
  omega

theorem takeBytes_append (front rest : List Char) :
    takeBytes (byteCount front) (front ++ rest) = front := by
  induction front with
  | nil =>
    cases rest with
    | nil => rfl
    | cons c rest =>
      have hpos := c.utf8Size_pos
      have hzero : ¬ c.utf8Size ≤ byteCount [] := by simp [byteCount, Bytes.ofChars]; omega
      rw [List.nil_append, takeBytes, if_neg hzero]
  | cons c front ih =>
    rw [List.cons_append, takeBytes, byteCount_cons, if_pos (Nat.le_add_right _ _),
      Nat.add_sub_cancel_left, ih]

/-- The text before a byte, if that byte is not inside a character. -/
def upTo? (n : Nat) (cs : List Char) : Option (List Char) :=
  if byteCount (takeBytes n cs) = n then some (takeBytes n cs) else none

theorem upTo?_append (front rest : List Char) :
    upTo? (byteCount front) (front ++ rest) = some front := by
  rw [upTo?, takeBytes_append, if_pos rfl]

theorem upTo?_of_prefix {p cs : List Char} (h : p <+: cs) : upTo? (byteCount p) cs = some p := by
  obtain ⟨rest, rfl⟩ := h
  exact upTo?_append p rest

/-! ### What texts agree on -/

/-- The longest text that all of the texts start with. -/
structure IsCommonStart (ws : List String) (p : List Char) : Prop where
  starts : ∀ w ∈ ws, p <+: w.toList
  longest (q : List Char) : (∀ w ∈ ws, q <+: w.toList) → q <+: p

/-- A text is a start of what two texts agree on exactly if both start with it. -/
theorem prefix_agreement_iff {q cs ds : List Char} :
    q <+: agreement cs ds ↔ q <+: cs ∧ q <+: ds := by
  induction cs generalizing q ds with
  | nil => simp +contextual [agreement]
  | cons c cs ih =>
    cases ds with
    | nil => simp +contextual [agreement]
    | cons d ds =>
      cases q with
      | nil => simp
      | cons x q =>
        rw [agreement]
        split_ifs with hcd
        · simp only [List.cons_prefix_cons, ih]
          grind
        · simp only [List.cons_prefix_cons]
          grind

theorem agreement_prefix_left (cs ds : List Char) : agreement cs ds <+: cs :=
  (prefix_agreement_iff.mp (List.prefix_refl _)).1

theorem agreement_prefix_right (cs ds : List Char) : agreement cs ds <+: ds :=
  (prefix_agreement_iff.mp (List.prefix_refl _)).2

theorem prefix_foldl_agreement_iff {q cs : List Char} {ws : List String} :
    q <+: ws.foldl (fun cs v => agreement cs v.toList) cs ↔
      q <+: cs ∧ ∀ w ∈ ws, q <+: w.toList := by
  induction ws generalizing cs with
  | nil => simp
  | cons w ws ih => rw [List.foldl_cons, ih, prefix_agreement_iff, List.forall_mem_cons, and_assoc]

theorem isCommonStart_commonStart {ws : List String} (h : ws ≠ []) :
    IsCommonStart ws (commonStart ws).toList := by
  cases ws with
  | nil => exact absurd rfl h
  | cons w ws =>
    have hiff {q : List Char} : q <+: (commonStart (w :: ws)).toList ↔
        ∀ v ∈ w :: ws, q <+: v.toList := by
      rw [commonStart, String.toList_ofList, prefix_foldl_agreement_iff, List.forall_mem_cons]
    exact ⟨hiff.mp (List.prefix_refl _), fun q hq => hiff.mpr hq⟩

/-- Two texts that are starts of each other are the same. -/
theorem eq_of_prefixes {p q : List Char} (hpq : p <+: q) (hqp : q <+: p) : p = q :=
  hpq.eq_of_length_le hqp.length_le

theorem IsCommonStart.eq {ws : List String} {p q : List Char} (hp : IsCommonStart ws p)
    (hq : IsCommonStart ws q) : p = q :=
  eq_of_prefixes (hq.longest p hp.starts) (hp.longest q hq.starts)

/-! ### What texts agree on, by bytes -/

/-- How many bytes of a text stand before the first character in which it differs from another. -/
def matchingBytes (cs ds : List Char) : Nat :=
  byteCount (((cs.zip ds).takeWhile fun p => p.1 = p.2).map Prod.fst)

/-- How many bytes of a text are in common with other texts, each of which it is compared with from
    its start. -/
def commonBytes (first : String) (rest : List String) : Nat :=
  rest.foldl (fun count w => min (matchingBytes first.toList w.toList) count)
    (byteCount first.toList)

theorem matchingBytes_eq (cs ds : List Char) : matchingBytes cs ds = byteCount (agreement cs ds) := by
  rw [matchingBytes]
  congr 1
  induction cs generalizing ds with
  | nil => rfl
  | cons c cs ih =>
    cases ds with
    | nil => rfl
    | cons d ds =>
      rw [agreement, List.zip_cons_cons]
      split_ifs with h
      · rw [List.takeWhile_cons_of_pos (by simpa using h), List.map_cons, ih]
      · rw [List.takeWhile_cons_of_neg (by simpa using h), List.map_nil]

/-- For a start of a text it is enough to compare the whole text. -/
theorem byteCount_agreement {p cs : List Char} (h : p <+: cs) (ds : List Char) :
    byteCount (agreement p ds) = min (matchingBytes cs ds) (byteCount p) := by
  rw [matchingBytes_eq]
  -- the texts differ inside of the start, or not before its end
  rcases List.prefix_or_prefix_of_prefix (agreement_prefix_left cs ds) h with hshort | hlong
  · have hsame : agreement p ds = agreement cs ds :=
      eq_of_prefixes
        (prefix_agreement_iff.mpr ⟨(agreement_prefix_left p ds).trans h, agreement_prefix_right p ds⟩)
        (prefix_agreement_iff.mpr ⟨hshort, agreement_prefix_right cs ds⟩)
    rw [hsame, Nat.min_eq_left (byteCount_le hshort)]
  · have hsame : agreement p ds = p :=
      eq_of_prefixes (agreement_prefix_left p ds)
        (prefix_agreement_iff.mpr ⟨List.prefix_refl _, hlong.trans (agreement_prefix_right cs ds)⟩)
    rw [hsame, Nat.min_eq_right (byteCount_le hlong)]

theorem byteCount_foldl_agreement {p cs : List Char} (h : p <+: cs) (ws : List String) :
    byteCount (ws.foldl (fun cs v => agreement cs v.toList) p) =
      ws.foldl (fun count w => min (matchingBytes cs w.toList) count) (byteCount p) := by
  induction ws generalizing p with
  | nil => rfl
  | cons w ws ih =>
    rw [List.foldl_cons, List.foldl_cons, ih ((agreement_prefix_left p w.toList).trans h),
      byteCount_agreement h]

/-- What a text has in common with others ends where a character ends. -/
theorem upTo?_commonBytes (first : String) (rest : List String) :
    upTo? (commonBytes first rest) first.toList = some (commonStart (first :: rest)).toList := by
  have hbytes : commonBytes first rest = byteCount (commonStart (first :: rest)).toList := by
    rw [commonStart, String.toList_ofList, byteCount_foldl_agreement (List.prefix_refl _)]
    rfl
  rw [hbytes]
  exact upTo?_of_prefix
    ((isCommonStart_commonStart (List.cons_ne_nil _ _)).starts first List.mem_cons_self)

/-! ### Going on from what has been typed -/

/-- What is given of the texts that have been found for a word: all of them, or the longest start
    that they have in common if there are several and it goes on from the word. -/
structure GoesOn (typed : List Char) (found given : List String) : Prop where
  starts : ∀ w ∈ given, typed <+: w.toList
  all : found.length < 2 ∨ IsCommonStart found typed → given = found
  narrowed : 2 ≤ found.length → ¬ IsCommonStart found typed →
    ∃ p, given = [p] ∧ IsCommonStart found p.toList ∧ typed <+: p.toList ∧ typed ≠ p.toList

theorem narrowed_goesOn (typed : String) {found : List String}
    (h : ∀ w ∈ found, typed.toList <+: w.toList) :
    GoesOn typed.toList found (narrowed typed found) := by
  by_cases hfew : found.length < 2
  · have hall : narrowed typed found = found := if_pos hfew
    rw [hall]
    exact ⟨h, fun _ => rfl, fun hmany => absurd hfew (Nat.not_lt.mpr hmany)⟩
  have hcommon : IsCommonStart found (commonStart found).toList := by
    refine isCommonStart_commonStart ?_
    rintro rfl
    exact hfew (by simp)
  have htyped : typed.toList <+: (commonStart found).toList := hcommon.longest _ h
  by_cases hsame : typed.toList = (commonStart found).toList
  · have hall : narrowed typed found = found := by
      simp [narrowed, utf8ByteSize_eq, hsame]
    rw [hall]
    exact ⟨h, fun _ => rfl, fun _ hno => absurd (hsame ▸ hcommon) hno⟩
  · have hone : narrowed typed found = [commonStart found] := by
      simp [narrowed, hfew, utf8ByteSize_eq, (byteCount_lt_iff htyped).mpr hsame]
    rw [hone]
    refine ⟨by simpa using htyped, fun hall => ?_, fun _ _ => ⟨_, rfl, hcommon, htyped, hsame⟩⟩
    exact absurd ((hall.resolve_left hfew).eq hcommon) hsame

/-- Every completion starts with what has been typed. -/
theorem prefix_of_mem_completions (m : Machine) (typed search : String) :
    ∀ w ∈ completions m typed search, typed.toList <+: w.toList := by
  intro w hw
  obtain ⟨name, hname, rfl⟩ := List.mem_map.mp hw
  rw [String.toList_append]
  exact (mem_completedNames.mp hname).1.trans (List.prefix_append _ _)

/-! ### Suggestions -/

/-- The word that is completed is what stands before the cursor, without the blanks at its start. -/
theorem suggest_before (m : Machine) (search : String) (before after : List Char) :
    suggest m search (String.ofList (before ++ after)) (byteCount before) =
      let word := trimStart before
      let typed := String.ofList word
      if word.any isBlank then (byteCount before, [])
      else (byteCount before - byteCount word,
        (narrowed typed (completions m typed search)).map fun name =>
          ⟨String.ofList (trimEnd name.toList), name⟩) := by
  rw [suggest, String.toList_ofList, takeBytes_append]

/-- What is answered for a word, the blanks before it, and nothing else before the cursor. No text is
    cut inside a character. -/
structure Answers (m : Machine) (search : String) (blanks word : List Char)
    (answer : Nat × List Suggestion) : Prop where
  /-- Nothing is suggested once the first word is over. -/
  beyond : (∃ c ∈ word, isBlank c = true) → answer = (byteCount (blanks ++ word), [])
  start : (∀ c ∈ word, isBlank c = false) → answer.1 = byteCount blanks ∧
    upTo? answer.1 (blanks ++ word) = some blanks
  inserted : (∀ c ∈ word, isBlank c = false) →
    GoesOn word (completions m (String.ofList word) search) (answer.2.map (·.inserted))
  /-- Comparing the completions by bytes gives what they agree on. -/
  compared (first : String) (rest : List String) :
    completions m (String.ofList word) search = first :: rest →
      upTo? (commonBytes first rest) first.toList = some (commonStart (first :: rest)).toList

theorem suggest_of_word (m : Machine) (search : String) {blanks word : List Char}
    (hstart : trimStart (blanks ++ word) = word) (after : List Char) :
    Answers m search blanks word
      (suggest m search (String.ofList ((blanks ++ word) ++ after)) (byteCount (blanks ++ word))) := by
  rw [suggest_before]
  dsimp only
  rw [hstart]
  refine ⟨fun hblank => if_pos (List.any_eq_true.mpr hblank), fun hword => ?_, fun hword => ?_,
    fun first rest _ => upTo?_commonBytes first rest⟩
  all_goals
    have hnone : ¬ word.any isBlank = true := by simpa using hword
    rw [if_neg hnone]
  · have hbytes : byteCount (blanks ++ word) - byteCount word = byteCount blanks := by
      rw [byteCount_append, Nat.add_sub_cancel]
    exact ⟨hbytes, by rw [hbytes, upTo?_append]⟩
  · have hgoes := narrowed_goesOn (String.ofList word)
      (prefix_of_mem_completions m (String.ofList word) search)
    rw [String.toList_ofList] at hgoes
    simpa [Function.comp_def] using hgoes

/-- Whatever stands around the cursor, before it are some blanks and then a word, and the word is
    all that is gone on from. What is inserted in its place are its completions, or the one start
    that they agree on where that goes further. -/
theorem suggest_extends (m : Machine) (search : String) (before after : List Char) :
    let line := String.ofList (before ++ after)
    upTo? (byteCount before) line.toList = some before ∧
    ∃ blanks word, before = blanks ++ word ∧ (∀ c ∈ blanks, isBlank c = true) ∧
      (∀ c ∈ word.head?, isBlank c = false) ∧
      Answers m search blanks word (suggest m search line (byteCount before)) := by
  intro line
  obtain ⟨blanks, hblanks, hsplit⟩ := exists_blanks_trimStart before
  refine ⟨?_, blanks, trimStart before, hsplit, hblanks, fun c hc => ?_, ?_⟩
  · rw [String.toList_ofList, upTo?_append]
  · obtain ⟨rest, hrest⟩ := List.head?_eq_some_iff.mp hc
    exact isBlank_of_trimStart hrest
  · have hanswers := suggest_of_word m search (congrArg trimStart hsplit).symm after
    rwa [← hsplit] at hanswers

/-- A character of two bytes that has been typed, and completions that agree on one more. -/
example : narrowed "é" ["éa ", "éab "] = ["éa"] ∧ commonBytes "éa " ["éab "] = 3 ∧
    upTo? 1 "éa ".toList = none := by decide

end LineShell
