import LineShell.Text.Bytes
import LineShell.Text.Cut
/-!
    Reading a text as lines, and writing entries as lines.

    An entry that holds a line feed comes back as several lines, and one that ends in a carriage
    return loses it (`lines_unlines`), so a list of entries survives exactly if it has neither
    (`lines_unlines_eq_iff`). A text that is read and written again has its breaks made plain and
    its last line ended (`unlines_lines`). In the bytes of what is written the lines are the pieces
    of the entries (`Bytes.completeLines_unlines`). -/

namespace LineShell

/-! ### Pieces -/

section Pieces

variable {α : Type} [DecidableEq α] {sep : α}

theorem cut_append_sep (cs ds : List α) :
    cut sep (cs ++ sep :: ds) = cut sep cs ++ cut sep ds := by
  induction cs with
  | nil => simp [cut]
  | cons c cs ih =>
    rw [List.cons_append, cut_cons, cut_cons, ih]
    by_cases hc : c = sep
    · simp [hc]
    · obtain ⟨p, ps, hps⟩ := List.exists_cons_of_ne_nil (cut_ne_nil sep cs)
      simp [hc, hps]

theorem cut_of_not_mem {cs : List α} (h : sep ∉ cs) : cut sep cs = [cs] := by
  induction cs with
  | nil => rfl
  | cons c cs ih =>
    rw [List.mem_cons, not_or] at h
    rw [cut_cons, if_neg (Ne.symm h.1), ih h.2]
    rfl

theorem not_mem_of_mem_cut {cs p : List α} (hp : p ∈ cut sep cs) : sep ∉ p := by
  induction cs generalizing p with
  | nil =>
    rw [List.mem_singleton.mp hp]
    exact List.not_mem_nil
  | cons c cs ih =>
    rw [cut_cons] at hp
    obtain ⟨q, qs, hqs⟩ := List.exists_cons_of_ne_nil (cut_ne_nil sep cs)
    rw [hqs] at hp ih
    by_cases hc : c = sep
    · rw [if_pos hc, List.mem_cons] at hp
      rcases hp with rfl | hp
      · exact List.not_mem_nil
      · exact ih hp
    · rw [if_neg hc, List.modifyHead_cons, List.mem_cons] at hp
      rcases hp with rfl | hp
      · rw [List.mem_cons, not_or]
        exact ⟨Ne.symm hc, ih List.mem_cons_self⟩
      · exact ih (List.mem_cons_of_mem q hp)

/-- What is cut into one piece has nothing to cut at. -/
theorem cut_eq_singleton_iff {cs p : List α} : cut sep cs = [p] ↔ sep ∉ cs ∧ p = cs := by
  constructor
  · intro h
    have hp : p = cs := by
      have hglued := intercalate_cut sep cs
      rwa [h, List.intercalate_singleton] at hglued
    refine ⟨?_, hp⟩
    rw [← hp]
    exact not_mem_of_mem_cut (h ▸ List.mem_singleton_self p)
  · rintro ⟨h, rfl⟩
    exact cut_of_not_mem h

/-- A list is a first stretch without the separator, or that, a separator and the rest. -/
theorem sepInduction {motive : List α → Prop} (sep : α)
    (last : ∀ cs, sep ∉ cs → motive cs)
    (more : ∀ p cs, sep ∉ p → motive cs → motive (p ++ sep :: cs)) (cs : List α) :
    motive cs := by
  by_cases h : sep ∈ cs
  · obtain ⟨p, rest, hcs, hp⟩ := List.eq_append_cons_of_mem h
    subst hcs
    exact more p rest hp (sepInduction sep last more rest)
  · exact last cs h
termination_by cs.length
decreasing_by simp +arith [hcs]

end Pieces

/-- A list whose elements are each replaced by one or more is the same again exactly if each is
    replaced by itself. -/
theorem flatMap_eq_self_iff {α : Type} {f : α → List α} (hf : ∀ a, f a ≠ []) {as : List α} :
    as.flatMap f = as ↔ ∀ a ∈ as, f a = [a] := by
  have hgrow : ∀ bs : List α, bs.length ≤ (bs.flatMap f).length := by
    intro bs
    induction bs with
    | nil => exact Nat.le_refl 0
    | cons b bs ih =>
      have hb := List.length_pos_iff.mpr (hf b)
      rw [List.flatMap_cons, List.length_append, List.length_cons]
      omega
  constructor
  · intro h
    induction as with
    | nil => simp
    | cons a as ih =>
      obtain ⟨b, bs, hbs⟩ := List.exists_cons_of_ne_nil (hf a)
      rw [List.flatMap_cons, hbs, List.cons_append, List.cons.injEq] at h
      obtain ⟨rfl, hrest⟩ := h
      -- no room is left for a second element
      have hnone : bs = [] := by
        have hlen := congrArg List.length hrest
        have hle := hgrow as
        rw [List.length_append] at hlen
        exact List.eq_nil_of_length_eq_zero (by omega)
      rw [hnone] at hbs hrest
      rintro c (_ | ⟨_, hc⟩)
      · exact hbs
      · exact ih hrest c hc
  · intro h
    induction as with
    | nil => rfl
    | cons a as ih =>
      rw [List.flatMap_cons, h a List.mem_cons_self,
        ih fun b hb => h b (List.mem_cons_of_mem a hb)]
      rfl

/-! ### From entries to lines -/

theorem dropReturn_eq_self_iff {cs : List Char} :
    dropReturn cs = cs ↔ cs.getLast? ≠ some '\r' := by
  unfold dropReturn
  by_cases h : cs.getLast? = some '\r'
  · rw [if_pos h]
    refine ⟨fun heq => ?_, fun hne => absurd h hne⟩
    have hlen := congrArg List.length heq
    rw [List.length_dropLast] at hlen
    have hnil : cs = [] := List.eq_nil_of_length_eq_zero (by omega)
    rw [hnil] at h
    cases h
  · rw [if_neg h]
    exact ⟨fun _ => h, fun _ => rfl⟩

theorem mem_of_mem_dropReturn {c : Char} {cs : List Char} (h : c ∈ dropReturn cs) : c ∈ cs := by
  unfold dropReturn at h
  split at h
  · exact List.dropLast_subset cs h
  · exact h

/-- The lines that an entry takes: the pieces between its line feeds, each without the carriage
    return at its end. -/
def entryLines (entry : String) : List String :=
  (cut '\n' entry.toList).map fun piece => String.ofList (dropReturn piece)

theorem entryLines_ne_nil (entry : String) : entryLines entry ≠ [] := by
  rw [entryLines, ne_eq, List.map_eq_nil_iff]
  exact cut_ne_nil _ _

theorem entryLines_eq_singleton_iff {entry : String} :
    entryLines entry = [entry] ↔ '\n' ∉ entry.toList ∧ entry.toList.getLast? ≠ some '\r' := by
  constructor
  · intro h
    obtain ⟨piece, hcut, hpiece⟩ := List.map_eq_singleton_iff.mp h
    obtain ⟨hfeed, rfl⟩ := cut_eq_singleton_iff.mp hcut
    have hkept := congrArg String.toList hpiece
    rw [String.toList_ofList] at hkept
    exact ⟨hfeed, dropReturn_eq_self_iff.mp hkept⟩
  · rintro ⟨hfeed, hreturn⟩
    rw [entryLines, cut_of_not_mem hfeed, List.map_singleton, dropReturn_eq_self_iff.mpr hreturn,
      String.ofList_toList]

/-- The characters of the lines that entries are written as. -/
def lineChars (entries : List String) : List Char :=
  entries.flatMap fun entry => entry.toList ++ ['\n']

theorem toList_unlines (entries : List String) : (unlines entries).toList = lineChars entries :=
  String.toList_ofList

theorem unlines_append (xs ys : List String) : unlines (xs ++ ys) = unlines xs ++ unlines ys := by
  rw [unlines, List.flatMap_append, String.ofList_append]
  rfl

theorem cut_lineChars (entries : List String) :
    cut '\n' (lineChars entries) = (entries.flatMap fun entry => cut '\n' entry.toList) ++ [[]] := by
  induction entries with
  | nil => rfl
  | cons entry rest ih =>
    have hcons : lineChars (entry :: rest) = entry.toList ++ '\n' :: lineChars rest := by
      simp [lineChars]
    rw [hcons, cut_append_sep, ih, List.flatMap_cons, List.append_assoc]

/-- What is written as lines is read as the lines that each entry takes. -/
theorem lines_unlines (entries : List String) :
    lines (unlines entries) = entries.flatMap entryLines := by
  unfold lines
  rw [toList_unlines, cut_lineChars]
  simp [List.map_flatMap, Function.comp_def]
  rfl

/-- Entries survive exactly if none holds a line feed or ends in a carriage return. -/
theorem lines_unlines_eq_iff {entries : List String} :
    lines (unlines entries) = entries ↔
      ∀ entry ∈ entries, '\n' ∉ entry.toList ∧ entry.toList.getLast? ≠ some '\r' := by
  rw [lines_unlines, flatMap_eq_self_iff entryLines_ne_nil]
  simp only [entryLines_eq_singleton_iff]

/-- Entries without line feeds can be told from what is written. -/
theorem unlines_injective {xs ys : List String} (hxs : ∀ x ∈ xs, '\n' ∉ x.toList)
    (hys : ∀ y ∈ ys, '\n' ∉ y.toList) (h : unlines xs = unlines ys) : xs = ys := by
  have hread : ∀ zs : List String, (∀ z ∈ zs, '\n' ∉ z.toList) →
      (cut '\n' (unlines zs).toList).dropLast.map String.ofList = zs := by
    intro zs hzs
    rw [toList_unlines, cut_lineChars, List.dropLast_concat]
    induction zs with
    | nil => rfl
    | cons z zs ih =>
      rw [List.flatMap_cons, cut_of_not_mem (hzs z List.mem_cons_self), List.map_append,
        ih fun y hy => hzs y (List.mem_cons_of_mem z hy)]
      simp
  rw [← hread xs hxs, h, hread ys hys]

/-! ### From a text to its lines -/

/-- Every carriage return with a line feed made a line feed, from left to right. -/
def plainBreaks : List Char → List Char
  | '\r' :: '\n' :: cs => '\n' :: plainBreaks cs
  | c :: cs => c :: plainBreaks cs
  | [] => []

/-- A line feed put at the end, unless one is there or there is nothing. -/
def ended (cs : List Char) : List Char :=
  if cs = [] ∨ cs.getLast? = some '\n' then cs else cs ++ ['\n']

/-- The text that is left of a text when it is read as lines and written again. -/
def settled (text : String) : String := String.ofList (ended (plainBreaks text.toList))

theorem lines_of_not_mem {cs : List Char} (h : '\n' ∉ cs) :
    lines (String.ofList cs) = if cs = [] then [] else [String.ofList cs] := by
  unfold lines
  rw [String.toList_ofList, cut_of_not_mem h]
  by_cases hcs : cs = [] <;> simp [hcs]

theorem lines_append_feed (cs ds : List Char) :
    lines (String.ofList (cs ++ '\n' :: ds)) =
      entryLines (String.ofList cs) ++ lines (String.ofList ds) := by
  unfold lines entryLines
  obtain ⟨q, qs, hqs⟩ := List.exists_cons_of_ne_nil (cut_ne_nil '\n' ds)
  simp only [String.toList_ofList, cut_append_sep, hqs]
  rw [List.dropLast_append_of_ne_nil (List.cons_ne_nil q qs), List.getLast?_append,
    List.getLast?_cons, Option.some_or]
  simp [Function.comp_def]

theorem plainBreaks_of_not_mem {cs : List Char} (h : '\n' ∉ cs) : plainBreaks cs = cs := by
  fun_induction plainBreaks cs with
  | case1 => simp at h
  | case2 c cs _ ih => rw [ih (List.not_mem_of_not_mem_cons h)]
  | case3 => rfl

theorem plainBreaks_append_feed {cs : List Char} (h : '\n' ∉ cs) (ds : List Char) :
    plainBreaks (cs ++ '\n' :: ds) = dropReturn cs ++ '\n' :: plainBreaks ds := by
  induction cs with
  | nil => simp [plainBreaks, dropReturn]
  | cons c cs ih =>
    cases cs with
    | nil =>
      by_cases hc : c = '\r' <;> simp [plainBreaks, dropReturn, hc]
    | cons d cs =>
      -- a character with another behind it is not next to the line feed
      have hd : d ≠ '\n' := by
        rintro rfl
        exact h (by simp)
      have hplain : plainBreaks (c :: d :: (cs ++ '\n' :: ds)) =
          c :: plainBreaks (d :: (cs ++ '\n' :: ds)) := by
        rw [plainBreaks]
        rintro _ _ heq
        cases heq
        exact hd rfl
      have hdrop : dropReturn (c :: d :: cs) = c :: dropReturn (d :: cs) := by
        simp [dropReturn]
        split <;> rfl
      rw [List.cons_append, List.cons_append, hplain, hdrop]
      rw [← List.cons_append, ih (List.not_mem_of_not_mem_cons h)]
      rfl

theorem ended_append_feed (cs ds : List Char) :
    ended (cs ++ '\n' :: ds) = cs ++ '\n' :: ended ds := by
  unfold ended
  cases ds with
  | nil => simp
  | cons d ds =>
    have hlast : (cs ++ '\n' :: d :: ds).getLast? = (d :: ds).getLast? := by
      rw [List.getLast?_append, List.getLast?_cons_cons, List.getLast?_cons, Option.some_or]
    rw [hlast]
    by_cases hfeed : (d :: ds).getLast? = some '\n' <;> simp [hfeed]

theorem ended_of_not_mem {cs : List Char} (h : '\n' ∉ cs) :
    ended cs = if cs = [] then [] else cs ++ ['\n'] := by
  have hlast : cs.getLast? ≠ some '\n' := fun hlast => h (List.mem_of_getLast? hlast)
  by_cases hcs : cs = [] <;> simp [ended, hcs, hlast]

/-- A text that is read as lines and written again has plain breaks, and its last line is ended. -/
theorem unlines_lines (text : String) : unlines (lines text) = settled text := by
  obtain ⟨cs, rfl⟩ : ∃ cs, text = String.ofList cs := ⟨text.toList, String.ofList_toList.symm⟩
  rw [settled, String.toList_ofList]
  induction cs using sepInduction '\n' with
  | last cs hcs =>
    rw [lines_of_not_mem hcs, plainBreaks_of_not_mem hcs, ended_of_not_mem hcs]
    by_cases hnil : cs = [] <;> simp [hnil, unlines]
  | more p cs hp ih =>
    have hfirst : entryLines (String.ofList p) = [String.ofList (dropReturn p)] := by
      rw [entryLines, String.toList_ofList, cut_of_not_mem hp]
      rfl
    rw [lines_append_feed, hfirst, unlines_append, ih, plainBreaks_append_feed hp,
      ended_append_feed]
    simp [unlines, String.append_assoc]

example : settled "a\r\r\nb\r\n\nc" = "a\r\nb\n\nc\n" := rfl

/-- No line of a text holds a line feed. -/
theorem not_mem_of_mem_lines {text line : String} (h : line ∈ lines text) :
    '\n' ∉ line.toList := by
  obtain ⟨piece, hpiece, rfl⟩ := List.mem_map.mp h
  rw [String.toList_ofList]
  rw [List.mem_append, List.mem_map, List.mem_filter, Option.mem_toList] at hpiece
  rcases hpiece with ⟨whole, hwhole, rfl⟩ | ⟨hlast, -⟩
  · intro hfeed
    exact not_mem_of_mem_cut (List.dropLast_subset _ hwhole) (mem_of_mem_dropReturn hfeed)
  · exact not_mem_of_mem_cut (List.mem_of_getLast? hlast)

/-- Reading and writing a second time changes nothing exactly if no line that was read ends in a
    carriage return. -/
theorem settled_settled_iff (text : String) :
    settled (settled text) = settled text ↔
      ∀ line ∈ lines text, line.toList.getLast? ≠ some '\r' := by
  have hfeeds : ∀ line ∈ lines text, '\n' ∉ line.toList := fun _ => not_mem_of_mem_lines
  calc settled (settled text) = settled text
      ↔ unlines (lines (unlines (lines text))) = unlines (lines text) := by
        rw [unlines_lines, unlines_lines]
    _ ↔ lines (unlines (lines text)) = lines text := by
        refine ⟨fun h => ?_, congrArg unlines⟩
        exact unlines_injective (fun _ => not_mem_of_mem_lines) hfeeds h
    _ ↔ ∀ line ∈ lines text, '\n' ∉ line.toList ∧ line.toList.getLast? ≠ some '\r' :=
        lines_unlines_eq_iff
    _ ↔ ∀ line ∈ lines text, line.toList.getLast? ≠ some '\r' := by
        refine ⟨fun h line hline => (h line hline).2, fun h line hline => ?_⟩
        exact ⟨hfeeds line hline, h line hline⟩

/-! ### The lines of a byte string -/

namespace Bytes

/-- A byte of an encoded character is the character itself or does not belong to ASCII. -/
theorem of_mem_encode {c : Char} {b : UInt8} (h : b ∈ String.utf8EncodeChar c) :
    b.toNat = c.val.toNat ∨ 128 ≤ b.toNat := by
  unfold String.utf8EncodeChar at h
  dsimp only at h
  split at h
  · rw [List.mem_singleton.mp h]
    left
    rw [UInt8.toNat_ofNat']
    omega
  right
  split at h
  · simp only [List.mem_cons, List.not_mem_nil, or_false] at h
    rcases h with rfl | rfl <;> rw [UInt8.toNat_ofNat'] <;> omega
  split at h
  · simp only [List.mem_cons, List.not_mem_nil, or_false] at h
    rcases h with rfl | rfl | rfl <;> rw [UInt8.toNat_ofNat'] <;> omega
  · simp only [List.mem_cons, List.not_mem_nil, or_false] at h
    rcases h with rfl | rfl | rfl | rfl <;> rw [UInt8.toNat_ofNat'] <;> omega

/-- Only a line feed has the byte of a line feed in its encoding. -/
theorem feed_mem_ofChars_iff (cs : List Char) : 10 ∈ ofChars cs ↔ '\n' ∈ cs := by
  rw [ofChars, List.mem_flatMap]
  constructor
  · rintro ⟨c, hc, hfeed⟩
    rcases of_mem_encode hfeed with heq | hhigh
    · have hchar : c = '\n' := Char.ext (UInt32.toNat_inj.mp heq.symm)
      rwa [hchar] at hc
    · exact absurd hhigh (by decide)
  · intro h
    exact ⟨'\n', h, by decide⟩

/-- The pieces of an encoded text are the encoded pieces of the text. -/
theorem cut_ofChars (cs : List Char) : cut 10 (ofChars cs) = (cut '\n' cs).map ofChars := by
  induction cs using sepInduction '\n' with
  | last cs hcs =>
    rw [cut_of_not_mem hcs, cut_of_not_mem (mt (feed_mem_ofChars_iff cs).mp hcs)]
    rfl
  | more p cs hp ih =>
    have hbytes : ofChars (p ++ '\n' :: cs) = ofChars p ++ 10 :: ofChars cs := by
      rw [ofChars, List.flatMap_append, List.flatMap_cons]
      rfl
    rw [hbytes, cut_append_sep, cut_append_sep, ih, cut_of_not_mem hp,
      cut_of_not_mem (mt (feed_mem_ofChars_iff p).mp hp)]
    rfl

/-- The lines that a line feed ends. -/
def completeLines (bytes : Bytes) : List Bytes := (cut 10 bytes).dropLast

/-- What is written as lines has the pieces of each entry for its complete lines. -/
theorem completeLines_unlines (entries : List String) :
    completeLines (ofText (unlines entries)) =
      (entries.flatMap fun entry => cut '\n' entry.toList).map ofChars := by
  rw [completeLines, ofText, cut_ofChars, toList_unlines, cut_lineChars, List.map_append,
    List.map_singleton, List.dropLast_concat]

end Bytes

end LineShell
