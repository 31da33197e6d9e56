import LineShell.File.Walk
import LineShell.Proofs.Text.Lines
/-!
    The names of a path.

    Slashes only separate names, so a relative path adds its names to those of the base that it is
    joined to (`pathNames_joinPath`), and the text of a place has the names of the place
    (`pathNames_placeText`). -/

namespace LineShell

/-- What stands between two slashes of a path. -/
def IsPiece (name : String) : Prop := name ≠ "" ∧ '/' ∉ name.toList

/-- What a place in the tree may be called. -/
structure IsName (name : String) : Prop where
  piece : IsPiece name
  not_here : name ≠ "."
  not_up : name ≠ ".."
  short : name.utf8ByteSize ≤ nameLimit

theorem isPiece_of_mem_pathNames {path name : String} (h : name ∈ pathNames path) :
    IsPiece name := by
  obtain ⟨piece, hpiece, rfl⟩ := List.mem_map.mp h
  obtain ⟨hcut, hsome⟩ := List.mem_filter.mp hpiece
  refine ⟨?_, ?_⟩
  · rw [ne_eq, String.ofList_eq_empty_iff]
    exact of_decide_eq_true hsome
  · rw [String.toList_ofList]
    exact not_mem_of_mem_cut hcut

theorem cutNonempty_append_sep (cs ds : List Char) :
    cutNonempty '/' (cs ++ '/' :: ds) = cutNonempty '/' cs ++ cutNonempty '/' ds := by
  rw [cutNonempty, cut_append_sep, List.filter_append]
  rfl

theorem cutNonempty_of_not_mem {cs : List Char} (hsome : cs ≠ []) (h : '/' ∉ cs) :
    cutNonempty '/' cs = [cs] := by
  rw [cutNonempty, cut_of_not_mem h]
  simp [hsome]

namespace IsPiece

variable {name : String}

theorem pathNames_eq (h : IsPiece name) : pathNames name = [name] := by
  have hsome : name.toList ≠ [] := fun hnil => h.1 (String.toList_eq_nil_iff.mp hnil)
  rw [pathNames, cutNonempty_of_not_mem hsome h.2, List.map_singleton, String.ofList_toList]

theorem pathComponents_eq (h : IsPiece name) : pathComponents name = [name] := by
  rw [pathComponents, h.pathNames_eq]
  rfl

theorem not_absolute (h : IsPiece name) : isAbsolute name = false := by
  refine Bool.eq_false_iff.mpr fun habs => h.2 ?_
  exact List.mem_of_mem_head? (of_decide_eq_true habs)

theorem not_endsInSlash (h : IsPiece name) : endsInSlash name = false := by
  refine Bool.eq_false_iff.mpr fun hends => h.2 ?_
  exact List.mem_of_getLast? (of_decide_eq_true hends)

end IsPiece

theorem endsInSlash_iff {path : String} :
    endsInSlash path = true ↔ ∃ cs, path.toList = cs ++ ['/'] := by
  rw [endsInSlash, decide_eq_true_iff, List.getLast?_eq_some_iff]

/-- A relative path adds its names to those of its base. -/
theorem pathNames_joinPath {base path : String} (hrel : isAbsolute path = false) :
    pathNames (joinPath base path) = pathNames base ++ pathNames path := by
  unfold joinPath pathNames
  rw [if_neg (by rw [hrel]; exact nofun), ← List.map_append]
  refine congrArg (List.map String.ofList) ?_
  split
  · rename_i hbase
    rcases hbase with rfl | hslash
    · simp [cutNonempty, cut]
    · obtain ⟨cs, hcs⟩ := endsInSlash_iff.mp hslash
      rw [String.toList_append, hcs, List.append_assoc, List.singleton_append,
        cutNonempty_append_sep, cutNonempty_append_sep]
      simp [cutNonempty, cut]
  · rw [String.toList_append, String.toList_append, List.append_assoc]
    exact cutNonempty_append_sep base.toList path.toList

theorem endsInSlash_joinPath {base path : String} (hrel : isAbsolute path = false)
    (hsome : path ≠ "") : endsInSlash (joinPath base path) = endsInSlash path := by
  have hne : path.toList ≠ [] := fun h => hsome (String.toList_eq_nil_iff.mp h)
  have hlast (cs : List Char) : (cs ++ path.toList).getLast? = path.toList.getLast? := by
    rw [List.getLast?_append, List.getLast?_eq_some_getLast hne]
    rfl
  unfold joinPath endsInSlash
  rw [if_neg (by rw [hrel]; exact nofun)]
  split
  · rw [String.toList_append, hlast]
  · rw [String.toList_append, hlast]

theorem isAbsolute_joinPath_relative {base path : String} (hrel : isAbsolute path = false) :
    isAbsolute (joinPath base path) = isAbsolute base := by
  unfold joinPath
  rw [if_neg (by rw [hrel]; exact nofun)]
  by_cases hbase : base = ""
  · rw [if_pos (.inl hbase), hbase, String.empty_append, hrel]
    rfl
  · obtain ⟨c, cs, hcs⟩ := List.exists_cons_of_ne_nil
      (fun h => hbase (String.toList_eq_nil_iff.mp h) : base.toList ≠ [])
    split <;> simp [isAbsolute, hcs]

theorem pathNames_ne_nil {path : String} (hrel : isAbsolute path = false) (hsome : path ≠ "") :
    pathNames path ≠ [] := by
  obtain ⟨c, cs, hcs⟩ := List.exists_cons_of_ne_nil
    (fun h => hsome (String.toList_eq_nil_iff.mp h) : path.toList ≠ [])
  have hc : c ≠ '/' := by
    rintro rfl
    rw [isAbsolute, hcs] at hrel
    exact absurd rfl (of_decide_eq_false hrel)
  obtain ⟨p, ps, hps⟩ := List.exists_cons_of_ne_nil (cut_ne_nil '/' cs)
  rw [pathNames, hcs, cutNonempty, cut_cons, if_neg hc, hps]
  simp

theorem joinPath_ne_empty {base path : String} (hsome : path ≠ "") : joinPath base path ≠ "" := by
  have hne : path.toList ≠ [] := fun h => hsome (String.toList_eq_nil_iff.mp h)
  intro h
  have hnil : (joinPath base path).toList = [] := by rw [h]; rfl
  unfold joinPath at hnil
  repeat' split at hnil
  all_goals simp_all

theorem mem_joinPath {base path : String} {c : Char} (hc : c ≠ '/')
    (hrel : isAbsolute path = false) :
    c ∈ (joinPath base path).toList ↔ c ∈ base.toList ∨ c ∈ path.toList := by
  unfold joinPath
  rw [if_neg (by rw [hrel]; exact nofun)]
  split <;> simp [hc]

theorem size_le_joinPath (base path : String) :
    path.utf8ByteSize ≤ (joinPath base path).utf8ByteSize := by
  unfold joinPath
  split
  · exact Nat.le_refl _
  · split
    · rw [String.utf8ByteSize_append]
      omega
    · rw [String.utf8ByteSize_append]
      omega

theorem base_size_le_joinPath {base path : String} (hrel : isAbsolute path = false) :
    base.utf8ByteSize ≤ (joinPath base path).utf8ByteSize := by
  unfold joinPath
  rw [if_neg (by rw [hrel]; exact nofun)]
  split <;> simp only [String.utf8ByteSize_append] <;> omega

theorem isAbsolute_placeText (p : Place) : isAbsolute (FileTree.placeText p) = true :=
  isAbsolute_append rfl

/-- The text of a place has the names of the place. -/
theorem pathNames_placeText {p : Place} (hp : ∀ name ∈ p, IsPiece name) :
    pathNames (FileTree.placeText p) = p := by
  have hcut : ∀ q : Place, (∀ name ∈ q, IsPiece name) →
      cutNonempty '/' (['/'].intercalate (q.map String.toList)) = q.map String.toList := by
    intro q hq
    induction q with
    | nil => rfl
    | cons name rest ih =>
      obtain ⟨hsome, hslash⟩ := hq name List.mem_cons_self
      have hname := cutNonempty_of_not_mem (fun h => hsome (String.toList_eq_nil_iff.mp h)) hslash
      have hrest := ih fun n hn => hq n (List.mem_cons_of_mem _ hn)
      cases rest with
      | nil => simpa [List.intercalate] using hname
      | cons name' rest =>
        rw [List.map_cons, List.map_cons, List.intercalate_cons_cons, List.append_assoc,
          List.singleton_append, cutNonempty_append_sep, hname, ← List.map_cons, hrest]
        rfl
  have htext : (FileTree.placeText p).toList =
      [] ++ '/' :: ['/'].intercalate (p.map String.toList) := by
    rw [FileTree.placeText, String.toList_append, String.toList_intercalate]
    rfl
  rw [pathNames, htext, cutNonempty_append_sep, hcut p hp, List.map_append, List.map_map]
  simp [cutNonempty, cut]

end LineShell
