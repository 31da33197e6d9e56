import LineShell.Completion
import LineShell.Proofs.File.Listing
import LineShell.Proofs.Search.Separators
import LineShell.Proofs.Text.Order
/-!
    What is offered to complete a command name.

    Completing enumerates the directories of the search path, and running a command tries its name
    in each of them. The one takes the right to read a directory, the other the right to search it.
    But for that both come to the same: a name that can stand in a directory is offered exactly if
    it starts with what has been typed and means something, and not only in directories that cannot
    be read (`Offered.means`). The names are offered in the order of their bytes, each once, in
    whatever order a directory lists them. -/

namespace LineShell

/-! ### Names in increasing order -/

section Increasing

variable {name n : String} {names : List String}

theorem mem_insertName : n ∈ insertName name names ↔ n = name ∨ n ∈ names := by
  induction names with
  | nil => simp [insertName]
  | cons first rest ih =>
    rw [insertName]
    split
    · rw [List.mem_cons]
    · split
      · rename_i heq
        simp [heq]
      · rw [List.mem_cons, ih, List.mem_cons]
        exact or_left_comm

theorem insertName_increasing (h : names.Pairwise (· < ·)) :
    (insertName name names).Pairwise (· < ·) := by
  induction names with
  | nil => exact List.pairwise_singleton _ _
  | cons first rest ih =>
    obtain ⟨hfirst, hrest⟩ := List.pairwise_cons.mp h
    rw [insertName]
    split
    · rename_i hlt
      refine List.pairwise_cons.mpr ⟨fun n hn => ?_, h⟩
      rcases List.mem_cons.mp hn with rfl | hn
      · exact hlt
      · exact String.lt_trans hlt (hfirst n hn)
    · rename_i hle
      split
      · exact h
      · rename_i hne
        -- the names are in a linear order
        have hlt : first < name := by
          by_cases hlt : first < name
          · exact hlt
          · exact absurd (String.le_antisymm (String.not_lt.mp hlt) (String.not_lt.mp hle)) hne
        refine List.pairwise_cons.mpr ⟨fun n hn => ?_, ih hrest⟩
        rcases mem_insertName.mp hn with rfl | hn
        · exact hlt
        · exact hfirst n hn

theorem mem_foldr_insertName : n ∈ names.foldr insertName [] ↔ n ∈ names := by
  induction names with
  | nil => exact Iff.rfl
  | cons name rest ih => rw [List.foldr_cons, mem_insertName, ih, List.mem_cons]

theorem foldr_insertName_increasing (names : List String) :
    (names.foldr insertName []).Pairwise (· < ·) := by
  induction names with
  | nil => exact .nil
  | cons name rest ih => exact insertName_increasing ih

theorem nodup_of_increasing (h : names.Pairwise (· < ·)) : names.Nodup := by
  refine h.imp fun hlt heq => ?_
  rw [heq] at hlt
  exact String.lt_irrefl _ hlt

/-- Names in increasing order are determined by which they are. -/
theorem eq_of_increasing {names' : List String} (h : names.Pairwise (· < ·))
    (h' : names'.Pairwise (· < ·)) (hmem : ∀ n, n ∈ names ↔ n ∈ names') : names = names' := by
  have hperm := (List.perm_ext_iff_of_nodup (nodup_of_increasing h) (nodup_of_increasing h')).mpr
    hmem
  refine hperm.eq_of_pairwise (fun a b _ _ hab hba => ?_) h h'
  exact absurd (String.lt_trans hab hba) (String.lt_irrefl a)

end Increasing

/-! ### Names that run something -/

variable {e : Environment} {m m' : Machine} {typed search dir name : String}

theorem mem_builtinNames_iff :
    name ∈ Builtin.all.map (·.name) ↔ Builtin.ofName? name ≠ none := by
  rw [List.mem_map, ne_eq, Option.eq_none_iff_forall_ne_some]
  constructor
  · rintro ⟨b, -, rfl⟩ hnone
    exact hnone b (Builtin.ofName?_name b)
  · intro hnone
    rw [Classical.not_forall_not] at hnone
    obtain ⟨b, hb⟩ := hnone
    exact ⟨b, Builtin.mem_all b, (Builtin.ofName?_eq_some_iff.mp hb).symm⟩

theorem mem_executablesIn : name ∈ executablesIn m dir ↔
    m.tree.Listed m.workDir dir name ∧ m.isExecutable (joinPath dir name) = true := by
  unfold executablesIn FileTree.Listed
  cases m.tree.listDirectory m.workDir dir with
  | error f => simp
  | ok names => simp

/-- What is found by completing. -/
theorem mem_completedNames : name ∈ completedNames m typed search ↔
    typed.toList <+: name.toList ∧ (Builtin.ofName? name ≠ none ∨
      ∃ dir ∈ searchElements search, m.tree.Listed m.workDir dir name ∧
        m.isExecutable (joinPath dir name) = true) := by
  rw [completedNames, mem_foldr_insertName, List.mem_filter, startsWith, List.isPrefixOf_iff_prefix,
    List.mem_append, mem_builtinNames_iff, List.mem_flatMap, and_comm]
  simp only [mem_executablesIn]

/-- The word of a command name stays as it is unless it is the home directory. -/
theorem underHome_of_isPiece (hname : IsPiece name)
    (hhome : ¬ (name = "~" ∧ e.homeDirectory? ≠ none)) : e.underHome name = name := by
  unfold Environment.underHome
  split
  · rename_i home hword hsome
    rw [← String.ofList_toList (s := name), hword] at hhome
    exact absurd ⟨rfl, by rw [hsome]; exact nofun⟩ hhome
  · rename_i rest home hword hsome
    have hslash := hname.2
    rw [hword] at hslash
    simp at hslash
  · rfl

theorem findCommand_of_isPiece (hname : IsPiece name) :
    findCommand m search name dir = searchCommand m search name := by
  rw [findCommand, hname.not_absolute, hname.pathComponents_eq, hname.not_endsInSlash]
  rfl

/-- What is found by running. -/
theorem meaningOf_ne_unknown_iff (hname : IsPiece name)
    (hhome : ¬ (name = "~" ∧ e.homeDirectory? ≠ none)) :
    meaningOf e m name ≠ .unknown ↔ Builtin.ofName? name ≠ none ∨
      ∃ dir ∈ searchElements e.commandPath, dir ≠ "" ∧
        m.isExecutable (joinPath dir name) = true := by
  cases hbuiltin : Builtin.ofName? name with
  | some b => simp [meaningOf, hbuiltin]
  | none =>
    rw [meaningOf_eq_ofFound hbuiltin, underHome_of_isPiece hname hhome,
      findCommand_of_isPiece hname]
    have hunknown {found : Option String} : Meaning.ofFound found ≠ .unknown ↔ found ≠ none := by
      cases found <;> simp [Meaning.ofFound]
    rw [hunknown, ne_eq, searchCommand_eq_none_iff]
    simp

/-- A directory that can be read lists what can be run from it. -/
theorem listed_and_executable_iff (hground : m.tree.Grounded m.workDir) (hname : IsPiece name) :
    m.tree.Listed m.workDir dir name ∧ m.isExecutable (joinPath dir name) = true ↔
      m.tree.CanList m.workDir dir ∧ m.isExecutable (joinPath dir name) = true := by
  refine and_congr_left fun hexec => ⟨fun ⟨names, hlist, _⟩ => ⟨names, hlist⟩, fun hread => ?_⟩
  unfold Machine.isExecutable FileTree.isExecutable at hexec
  split at hexec
  · rename_i mode content hnode
    exact m.tree.listed_of_node hground hread.ne_empty hname hread hnode rfl
  · cases hexec

/-- A name stands for a program in directories of the search path, but in none that can be read. -/
def Unlisted (m : Machine) (search name : String) : Prop :=
  Builtin.ofName? name = none ∧ ∀ dir ∈ searchElements search,
    m.isExecutable (joinPath dir name) = true → ¬ m.tree.CanList m.workDir dir

/-- What has been found means something, and in a directory that can be read. -/
theorem offered_iff_of_isPiece (hground : m.tree.Grounded m.workDir) (hname : IsPiece name)
    (hhome : ¬ (name = "~" ∧ e.homeDirectory? ≠ none)) :
    name ∈ completedNames m typed e.commandPath ↔ typed.toList <+: name.toList ∧
      meaningOf e m name ≠ .unknown ∧ ¬ Unlisted m e.commandPath name := by
  rw [mem_completedNames, meaningOf_ne_unknown_iff hname hhome, Unlisted]
  simp only [listed_and_executable_iff hground hname]
  refine and_congr_right fun _ => ?_
  by_cases hbuiltin : Builtin.ofName? name = none
  · simp only [hbuiltin, ne_eq, not_true_eq_false, false_or, true_and]
    constructor
    · rintro ⟨dir, hmem, hread, hexec⟩
      exact ⟨⟨dir, hmem, hread.ne_empty, hexec⟩, fun hhidden => hhidden dir hmem hexec hread⟩
    · rintro ⟨-, hseen⟩
      refine Classical.byContradiction fun hnone => ?_
      exact hseen fun dir hmem hexec hread => hnone ⟨dir, hmem, hread, hexec⟩
  · exact ⟨fun _ => ⟨.inl hbuiltin, fun h => hbuiltin h.1⟩, fun _ => .inl hbuiltin⟩

/-- Where all directories can be read from which a name can be run, it is not hidden. -/
theorem not_unlisted_of_canList (hname : IsPiece name)
    (hhome : ¬ (name = "~" ∧ e.homeDirectory? ≠ none)) (hmeans : meaningOf e m name ≠ .unknown)
    (hread : ∀ dir ∈ searchElements e.commandPath, dir ≠ "" →
      m.isExecutable (joinPath dir name) = true → m.tree.CanList m.workDir dir) :
    ¬ Unlisted m e.commandPath name := by
  rintro ⟨hbuiltin, hhidden⟩
  rcases (meaningOf_ne_unknown_iff hname hhome).mp hmeans with hsome | ⟨dir, hmem, hdir, hexec⟩
  · exact hsome hbuiltin
  · exact hhidden dir hmem hexec (hread dir hmem hdir hexec)

theorem completedNames_congr (htree : m'.tree.get? = m.tree.get?) (hdir : m'.workDir = m.workDir) :
    completedNames m' typed search = completedNames m typed search := by
  refine eq_of_increasing (foldr_insertName_increasing _) (foldr_insertName_increasing _)
    fun n => ?_
  have hexec (path : String) : m'.isExecutable path = m.isExecutable path := by
    simp only [Machine.isExecutable, FileTree.isExecutable, hdir, FileTree.node?_congr htree]
  change n ∈ completedNames m' typed search ↔ n ∈ completedNames m typed search
  simp only [mem_completedNames, hexec, hdir, FileTree.listed_congr htree]

/-! ### What is offered -/

/-- What is offered for a prefix and a search path is what runs something by way of it. -/
structure Offered (m : Machine) (typed search : String) (found : List String) : Prop where
  /-- A name without a slash is offered, with a space behind it, exactly if it starts with what has
      been typed and means something in an environment with that search path, and not only in
      directories that cannot be read. `~` means a home directory, where there is one. -/
  means (e : Environment) (name : String) : e.commandPath = search → name ≠ "" →
    '/' ∉ name.toList → ¬ (name = "~" ∧ e.homeDirectory? ≠ none) →
      (name ++ " " ∈ found ↔ typed.toList <+: name.toList ∧ meaningOf e m name ≠ .unknown ∧
        ¬ Unlisted m search name)
  /-- Where the directories can be read from which it can be run, that it means something is
      enough. -/
  readable (e : Environment) (name : String) : e.commandPath = search → name ≠ "" →
    '/' ∉ name.toList → ¬ (name = "~" ∧ e.homeDirectory? ≠ none) →
      (∀ dir ∈ searchElements search, dir ≠ "" → m.isExecutable (joinPath dir name) = true →
        m.tree.CanList m.workDir dir) →
      (name ++ " " ∈ found ↔ typed.toList <+: name.toList ∧ meaningOf e m name ≠ .unknown)
  nodup : found.Nodup
  /-- The names are in the order of their bytes. -/
  increasing : ∃ names : List String, found = names.map (· ++ " ") ∧
    names.Pairwise fun name name' => Bytes.ofText name < Bytes.ofText name'
  /-- The order in which a directory lists its names has no part in it. -/
  unordered (m' : Machine) : m'.tree.get? = m.tree.get? → m'.workDir = m.workDir →
    completions m' typed search = found

/-- What is offered is exactly what could be run and can be listed, as long as the directory that the
    process is in, and what is above it, are directories. -/
theorem completions_offered (hground : m.tree.Grounded m.workDir) (typed search : String) :
    Offered m typed search (completions m typed search) := by
  have hspace {a b : String} (h : a ++ " " = b ++ " ") : a = b := by
    have hlist := congrArg String.toList h
    rw [String.toList_append, String.toList_append] at hlist
    exact String.toList_injective (List.append_cancel_right hlist)
  have hmem (name : String) : name ++ " " ∈ completions m typed search ↔
      name ∈ completedNames m typed search := by
    rw [completions, List.mem_map]
    exact ⟨fun ⟨n, hn, heq⟩ => hspace heq ▸ hn, fun hn => ⟨name, hn, rfl⟩⟩
  have hincreasing : (completedNames m typed search).Pairwise (· < ·) :=
    foldr_insertName_increasing _
  constructor
  case means =>
    rintro e name rfl hsome hslash hhome
    rw [hmem, offered_iff_of_isPiece hground ⟨hsome, hslash⟩ hhome]
  case readable =>
    rintro e name rfl hsome hslash hhome hread
    rw [hmem, offered_iff_of_isPiece hground ⟨hsome, hslash⟩ hhome]
    refine and_congr_right fun _ => and_iff_left_of_imp fun hmeans => ?_
    exact not_unlisted_of_canList ⟨hsome, hslash⟩ hhome hmeans hread
  case nodup =>
    rw [completions]
    exact List.pairwise_map.mpr ((nodup_of_increasing hincreasing).imp fun hne heq =>
      hne (hspace heq))
  case increasing =>
    exact ⟨completedNames m typed search, rfl, hincreasing.imp Bytes.ofText_lt⟩
  case unordered =>
    intro m' htree hdir
    rw [completions, completions, completedNames_congr htree hdir]

/-- Of a file in two directories of the search path and a builtin with the same first letter both
    are offered, once each. -/
theorem completions_offered_tool :
    toolMachine.tree.Grounded toolMachine.workDir ∧
      Offered toolMachine "t" "/p::/h" ["t ", "type "] := by
  have hground : toolMachine.tree.Grounded toolMachine.workDir := .root toolMachine.tree
  have hfound : completions toolMachine "t" "/p::/h" = ["t ", "type "] := by decide +kernel
  refine ⟨hground, ?_⟩
  rw [← hfound]
  exact completions_offered hground "t" "/p::/h"

/-- A machine with an executable file in a directory that may be searched, but not read. -/
def hiddenMachine : Machine :=
  ⟨⟨[(["p"], .directory 0o311), (["p", "tool"], .file 0o755 [])]⟩, .root, [], 0, [], []⟩

/-- The file is found by its name, and its name is not offered. -/
theorem completions_hidden :
    hiddenMachine.tree.Grounded hiddenMachine.workDir ∧
      (⟨[("PATH", "/p")], "/", false⟩ : Environment).commandPath = "/p" ∧
      meaningOf ⟨[("PATH", "/p")], "/", false⟩ hiddenMachine "tool" = .program "/p/tool" ∧
      ¬ ("tool " ∈ completions hiddenMachine "too" "/p" ↔ "too".toList <+: "tool".toList ∧
        meaningOf ⟨[("PATH", "/p")], "/", false⟩ hiddenMachine "tool" ≠ .unknown) := by
  have hfound : meaningOf ⟨[("PATH", "/p")], "/", false⟩ hiddenMachine "tool" =
      .program "/p/tool" := by decide +kernel
  have hoffered : completions hiddenMachine "too" "/p" = [] := by decide +kernel
  refine ⟨.root hiddenMachine.tree, by decide +kernel, hfound, fun hiff => ?_⟩
  rw [hoffered, hfound] at hiff
  exact List.not_mem_nil (hiff.mpr ⟨by decide, nofun⟩)

end LineShell
