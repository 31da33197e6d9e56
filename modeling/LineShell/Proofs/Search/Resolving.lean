import Mathlib.Data.List.TakeWhile
import LineShell.Pipeline.Start
import LineShell.Proofs.Search.Completing
/-!
    Where a command name leads.

    A name that is no builtin's has its `~` replaced, and what is left is a path, a path from the
    current directory, or a name that is searched for (`Leads`). Words that end in `/.` are the
    exception, since the dot is no component of a path (`Dotted.endsInDot`). Whatever program is
    found has a slash in its path, so it is started from that path and not searched for again
    (`meaningOf_iff_leads`). -/

namespace LineShell

/-- A path leads to a program: to a regular file with an execute bit. -/
def IsProgram (m : Machine) (path : String) : Prop :=
  ∃ mode content, m.tree.node? m.workDir path = some (.file mode content) ∧
    mode &&& FileTree.executeBits ≠ 0

/-- Where the program is that a word means. -/
inductive Leads (e : Environment) (m : Machine) (word : String) : String → Prop where
  | itself : isAbsolute word = true → IsProgram m word → Leads e m word word
  | here : isAbsolute word = false → '/' ∈ word.toList → IsProgram m (e.fromHere word) →
      Leads e m word (e.fromHere word)
  /-- In the first directory of the search path that has a program of that name. -/
  | searched (earlier later : List String) (dir : String) : word ≠ "" → '/' ∉ word.toList →
      searchElements e.commandPath = earlier ++ dir :: later → dir ≠ "" →
      IsProgram m (joinPath dir word) →
      (∀ d ∈ earlier, d ≠ "" → ¬ IsProgram m (joinPath d word)) →
      Leads e m word (joinPath dir word)

/-- A word that stands for something in the home directory. -/
def IsTilde (word : String) : Prop := word = "~" ∨ "~/".toList <+: word.toList

/-- The path goes on with a slash behind the directory, and then as the word does behind its `~` and
    the slashes that follow. -/
def LiesUnder (home word path : String) : Prop :=
  ∃ slashes rest, word = "~" ++ slashes ++ rest ∧ (∀ c ∈ slashes.toList, c = '/') ∧
    isAbsolute rest = false ∧ path = (if endsInSlash home then home else home ++ "/") ++ rest

/-! ### Programs -/

variable {e : Environment} {m : Machine} {search word path dir name home : String}

theorem isExecutable_iff : m.isExecutable path = true ↔ IsProgram m path := by
  unfold Machine.isExecutable FileTree.isExecutable IsProgram
  cases m.tree.node? m.workDir path with
  | none => simp
  | some n => cases n <;> simp

/-- A program that is found behind a path is in a directory. -/
theorem IsProgram.directory (h : IsProgram m (joinPath dir word)) (hname : IsPiece word)
    (hdir : dir ≠ "") (hground : m.tree.Grounded m.workDir) :
    m.tree.isDirectory m.workDir dir = true := by
  obtain ⟨mode, content, hnode, -⟩ := h
  unfold FileTree.node? at hnode
  cases hfind : m.tree.find m.workDir (joinPath dir word) with
  | error f =>
    rw [hfind] at hnode
    cases hnode
  | ok seat =>
    obtain ⟨s, -, -, hdirectory, -⟩ := FileTree.walk_of_find_joinPath hground hdir hname hfind
    exact FileTree.isDirectory_iff.mpr ⟨s, hdirectory⟩

theorem slash_mem_joinPath (h : dir ≠ "" ∨ '/' ∈ path.toList) :
    '/' ∈ (joinPath dir path).toList := by
  unfold joinPath
  split
  · rename_i habs
    exact List.mem_of_mem_head? (of_decide_eq_true habs)
  · split
    · rename_i hbase
      rw [String.toList_append, List.mem_append]
      rcases h with hdir | hslash
      · exact .inl (List.mem_of_getLast? (of_decide_eq_true (hbase.resolve_left hdir)))
      · exact .inr hslash
    · simp

/-! ### Finding -/

theorem searchCommand_eq_some_iff : searchCommand m search name = some path ↔
    ∃ earlier later dir, searchElements search = earlier ++ dir :: later ∧ dir ≠ "" ∧
      joinPath dir name = path ∧ IsProgram m (joinPath dir name) ∧
      ∀ d ∈ earlier, d ≠ "" → ¬ IsProgram m (joinPath d name) := by
  rw [searchCommand, List.find?_map, List.find?_filter, Option.map_eq_some_iff]
  simp only [List.find?_eq_some_iff_append, Function.comp_apply, Bool.not_eq_true',
    ← Bool.not_eq_true, decide_eq_true_iff, isExecutable_iff, not_and]
  constructor
  · rintro ⟨dir, ⟨⟨hdir, hprogram⟩, earlier, later, hsplit, hearlier⟩, hpath⟩
    exact ⟨earlier, later, dir, hsplit, hdir, hpath, hprogram, hearlier⟩
  · rintro ⟨earlier, later, dir, hsplit, hdir, hpath, hprogram, hearlier⟩
    exact ⟨dir, ⟨⟨hdir, hprogram⟩, earlier, later, hsplit, hearlier⟩, hpath⟩

/-- What is behind the last slash of a path is the last of its names. -/
theorem exists_last_name (hslash : '/' ∈ path.toList) (hopen : endsInSlash path = false) :
    ∃ front last, path.toList = front ++ '/' :: last ∧
      (pathNames path).getLast? = some (String.ofList last) := by
  obtain ⟨last, front, hreverse, hlast⟩ :=
    List.eq_append_cons_of_mem (List.mem_reverse.mpr hslash)
  have hpath : path.toList = front.reverse ++ '/' :: last.reverse := by
    simpa using congrArg List.reverse hreverse
  have hsome : last.reverse ≠ [] := by
    intro hnil
    rw [endsInSlash, hpath, hnil] at hopen
    simp at hopen
  refine ⟨front.reverse, last.reverse, hpath, ?_⟩
  rw [pathNames, hpath, cutNonempty_append_sep, cutNonempty_of_not_mem hsome (by simpa using hlast)]
  simp

/-- A path of which only its first name is left ends in a dot behind a slash. -/
theorem Dotted.endsInDot {first : String} (h : Dotted path first) :
    ['/', '.'] <:+ path.toList := by
  obtain ⟨k, hnames⟩ := h.names
  have hslash : '/' ∈ path.toList := by
    refine Decidable.byContradiction fun hslash => ?_
    have hsome : path ≠ "" := by
      rintro rfl
      cases hnames
    rw [IsPiece.pathNames_eq ⟨hsome, hslash⟩] at hnames
    cases hnames
  obtain ⟨front, last, hpath, hlast⟩ := exists_last_name hslash h.unslashed
  have hdot : (pathNames path).getLast? = some "." := by
    rw [hnames, List.replicate_succ', ← List.cons_append, List.getLast?_concat]
  obtain rfl : last = ['.'] := String.ofList_injective (Option.some.inj (hlast.symm.trans hdot))
  exact ⟨front, hpath.symm⟩

section Finding

variable (hdot : ¬ ['/', '.'] <:+ word.toList)
include hdot

theorem Leads.findCommand (h : Leads e m word path) :
    findCommand m e.commandPath word e.directory = some path := by
  have hwhole (first : String) : ¬ Dotted word first := fun hdotted => hdot hdotted.endsInDot
  cases h with
  | itself habs hprogram =>
    rw [LineShell.findCommand, if_pos habs]
    exact executable?_eq_some_iff.mpr ⟨rfl, isExecutable_iff.mpr hprogram⟩
  | here _ hslash hprogram =>
    rw [findCommand_of_slash hslash hwhole]
    exact executable?_eq_some_iff.mpr ⟨rfl, isExecutable_iff.mpr hprogram⟩
  | searched earlier later dir hsome hslash hsplit hdir hprogram hearlier =>
    rw [findCommand_of_isPiece ⟨hsome, hslash⟩]
    exact searchCommand_eq_some_iff.mpr
      ⟨earlier, later, dir, hsplit, hdir, rfl, hprogram, hearlier⟩

theorem leads_of_findCommand (h : findCommand m e.commandPath word e.directory = some path) :
    Leads e m word path := by
  have hwhole (first : String) : ¬ Dotted word first := fun hdotted => hdot hdotted.endsInDot
  by_cases hslash : '/' ∈ word.toList
  · rw [findCommand_of_slash hslash hwhole] at h
    obtain ⟨rfl, hexec⟩ := executable?_eq_some_iff.mp h
    cases habs : isAbsolute word with
    | false => exact .here habs hslash (isExecutable_iff.mp hexec)
    | true =>
      rw [joinPath_absolute habs] at hexec ⊢
      exact .itself habs (isExecutable_iff.mp hexec)
  · by_cases hempty : word = ""
    · subst hempty
      cases h
    · rw [findCommand_of_isPiece ⟨hempty, hslash⟩] at h
      obtain ⟨earlier, later, dir, hsplit, hdir, rfl, hprogram, hearlier⟩ :=
        searchCommand_eq_some_iff.mp h
      exact .searched earlier later dir hempty hslash hsplit hdir hprogram hearlier

theorem findCommand_eq_some_iff :
    findCommand m e.commandPath word e.directory = some path ↔ Leads e m word path :=
  ⟨leads_of_findCommand hdot, Leads.findCommand hdot⟩

end Finding

/-- Whatever is found has a slash in its path. -/
theorem slash_mem_of_findCommand {here : String} (h : findCommand m search word here = some path) :
    '/' ∈ path.toList := by
  unfold findCommand at h
  split at h
  · rename_i habs
    obtain ⟨rfl, -⟩ := executable?_eq_some_iff.mp h
    exact List.mem_of_mem_head? (of_decide_eq_true habs)
  split at h
  · cases h
  · obtain ⟨_, _, _, -, hdir, rfl, -⟩ := searchCommand_eq_some_iff.mp h
    exact slash_mem_joinPath (.inl hdir)
  · rename_i hmore hsingle
    obtain ⟨rfl, -⟩ := executable?_eq_some_iff.mp h
    refine slash_mem_joinPath (.inr (Decidable.byContradiction fun hslash => ?_))
    -- a word without a slash is its only name, if it is any
    by_cases hempty : word = ""
    · subst hempty
      exact hmore rfl
    · have hname : IsPiece word := ⟨hempty, hslash⟩
      exact hsingle word hname.pathComponents_eq hname.not_endsInSlash

/-! ### The home directory -/

theorem homeDirectory?_eq_some_iff :
    e.homeDirectory? = some home ↔ e.get? "HOME" = some home ∧ home ≠ "" := by
  rw [Environment.homeDirectory?, Environment.getNonempty?, Option.filter_eq_some_iff,
    decide_eq_true_iff]

/-- The home directory comes into a word only in the place of a `~`. -/
theorem isTilde_of_underHome_ne (h : e.underHome word ≠ word) :
    IsTilde word ∧ ∃ home, e.get? "HOME" = some home ∧ home ≠ "" := by
  unfold Environment.underHome at h
  split at h
  · rename_i home hword hhome
    exact ⟨.inl (String.toList_injective hword), home, homeDirectory?_eq_some_iff.mp hhome⟩
  · rename_i rest home hword hhome
    exact ⟨.inr ⟨rest, hword.symm⟩, home, homeDirectory?_eq_some_iff.mp hhome⟩
  · exact absurd rfl h

theorem joinPath_relative (hdir : dir ≠ "") (hrel : isAbsolute path = false) :
    joinPath dir path = (if endsInSlash dir then dir else dir ++ "/") ++ path := by
  rw [joinPath, if_neg (Bool.eq_false_iff.mp hrel)]
  by_cases hends : endsInSlash dir = true
  · rw [if_pos (.inr hends), if_pos hends]
  · rw [if_neg (not_or.mpr ⟨hdir, hends⟩), if_neg hends]

theorem isAbsolute_dropWhile_slash (cs : List Char) :
    isAbsolute (String.ofList (cs.dropWhile (· = '/'))) = false := by
  have hhead := List.head?_dropWhile_not (· = '/') cs
  rw [isAbsolute, String.toList_ofList]
  cases hfirst : (cs.dropWhile (· = '/')).head? with
  | none => rfl
  | some c => simpa [hfirst] using hhead

theorem underHome_liesUnder (hword : IsTilde word) (hhome : e.get? "HOME" = some home)
    (hsome : home ≠ "") : LiesUnder home word (e.underHome word) := by
  have hdirectory := homeDirectory?_eq_some_iff.mpr ⟨hhome, hsome⟩
  rcases hword with rfl | ⟨rest, hrest⟩
  · refine ⟨"", "", rfl, nofun, rfl, ?_⟩
    rw [Environment.underHome, hdirectory]
    exact joinPath_relative hsome rfl
  · have hslashes (c : Char) (hc : c ∈ rest.takeWhile (· = '/')) : c = '/' := by
      simpa using List.mem_takeWhile_imp hc
    have hrel := isAbsolute_dropWhile_slash rest
    refine ⟨String.ofList ('/' :: rest.takeWhile (· = '/')),
      String.ofList (rest.dropWhile (· = '/')), ?_, ?_, hrel, ?_⟩
    · apply String.toList_injective
      rw [← hrest]
      simp
    · rw [String.toList_ofList]
      exact List.forall_mem_cons.mpr ⟨rfl, hslashes⟩
    · rw [← joinPath_relative hsome hrel, Environment.underHome, hdirectory, ← hrest]
      rfl

/-! ### Starting -/

/-- What is started depends on no other path than the one that has been found. -/
theorem startCommand_congr {load load' : Loader} {c : Command} {s : Session}
    (hmeaning : meaningOf s.env s.machine c.name = .program path)
    (hload : ∀ l dir tree, l.path = .ofString path → load l dir tree = load' l dir tree)
    (staged : Bool) : startCommand load c staged s = startCommand load' c staged s := by
  have hlaunch : (launchOf s.env c path).load load s.machine =
      (launchOf s.env c path).load load' s.machine := by
    unfold Launch.load
    split
    · rfl
    split
    · rfl
    · exact hload _ _ _ rfl
  rw [startCommand, startCommand, hmeaning]
  simp only [hlaunch]

/-! ### Meanings -/

theorem meaningOf_eq_builtin_iff {b : Builtin} :
    meaningOf e m name = .builtin b ↔ name = b.name := by
  rw [← Builtin.ofName?_eq_some_iff, meaningOf]
  cases Builtin.ofName? name with
  | some b' => simp
  | none => cases findCommand m e.commandPath (e.underHome name) e.directory <;> simp

theorem ofName?_eq_none_iff : Builtin.ofName? name = none ↔ ∀ b : Builtin, name ≠ b.name := by
  simp only [Option.eq_none_iff_forall_ne_some, ne_eq, Builtin.ofName?_eq_some_iff]

theorem meaningOf_eq_ofFound_iff (found : Option String) : meaningOf e m name = .ofFound found ↔
    (∀ b : Builtin, name ≠ b.name) ∧
      findCommand m e.commandPath (e.underHome name) e.directory = found := by
  rw [← ofName?_eq_none_iff]
  cases hname : Builtin.ofName? name with
  | some b =>
    rw [meaningOf, hname]
    cases found <;> simp [Meaning.ofFound]
  | none =>
    rw [meaningOf_eq_ofFound hname]
    cases findCommand m e.commandPath (e.underHome name) e.directory <;> cases found <;>
      simp [Meaning.ofFound]

/-- What a name means. A builtin's name means the builtin and nothing else does, whatever the
    environment and the files are. Any other name leads to a program or is unknown. The directories
    that are searched in vain before it are those that are none, or in which no program has the
    name. The home directory has a part in it only for words that start with a `~`, and these then
    lie under it. -/
theorem meaningOf_iff_leads (e : Environment) (m : Machine) (name : String) :
    (∀ b, meaningOf e m name = .builtin b ↔ name = b.name) ∧
    (¬ ['/', '.'] <:+ (e.underHome name).toList →
      (∀ path, meaningOf e m name = .program path ↔
        (∀ b : Builtin, name ≠ b.name) ∧ Leads e m (e.underHome name) path) ∧
      (meaningOf e m name = .unknown ↔
        (∀ b : Builtin, name ≠ b.name) ∧ ∀ path, ¬ Leads e m (e.underHome name) path)) ∧
    (m.tree.Grounded m.workDir → ∀ word dir, word ≠ "" → '/' ∉ word.toList → dir ≠ "" →
      IsProgram m (joinPath dir word) → m.tree.isDirectory m.workDir dir = true) ∧
    (e.underHome name ≠ name → IsTilde name ∧ ∃ home, e.get? "HOME" = some home ∧ home ≠ "") ∧
    (∀ home, IsTilde name → e.get? "HOME" = some home → home ≠ "" →
      LiesUnder home name (e.underHome name)) ∧
    ∀ path, meaningOf e m name = .program path → '/' ∈ path.toList ∧
      ∀ load load' : Loader,
        (∀ l dir tree, l.path = .ofString path → load l dir tree = load' l dir tree) →
        ∀ c staged s, c.name = name → s.env = e → s.machine = m →
          startCommand load c staged s = startCommand load' c staged s := by
  have hfound (found : Option String) := @meaningOf_eq_ofFound_iff e m name found
  refine ⟨fun _ => meaningOf_eq_builtin_iff, fun hdot => ⟨fun path => ?_, ?_⟩,
    fun hground word dir hsome hslash hdir h => h.directory ⟨hsome, hslash⟩ hdir hground,
    isTilde_of_underHome_ne, fun _ hword hhome hsome => underHome_liesUnder hword hhome hsome,
    fun path hpath => ⟨?_, ?_⟩⟩
  · rw [← findCommand_eq_some_iff hdot]
    exact hfound (some path)
  · simp only [← findCommand_eq_some_iff hdot, ← ne_eq, ← Option.eq_none_iff_forall_ne_some]
    exact hfound none
  · exact slash_mem_of_findCommand ((hfound (some path)).mp hpath).2
  · rintro load load' hload c staged s rfl rfl rfl
    exact startCommand_congr hpath hload staged

/-- Directories that are missing, or hold something else of that name, are passed over. -/
example :
    let tree : FileTree := ⟨[(["a"], .directory usualMode), (["a", "t"], .directory usualMode),
      (["b"], .directory usualMode), (["b", "t"], .file 0o644 []), (["c"], .directory usualMode),
      (["c", "t"], .file 0o755 [])]⟩
    meaningOf ⟨[("PATH", "/a:/x::/b:/c")], "/", false⟩ ⟨tree, .root, [], 0, [], []⟩ "t" =
      .program "/c/t" := by
  decide +kernel

/-- However many slashes stand behind the `~`, the home directory stays in front. -/
example : (⟨[("HOME", "h")], "/", false⟩ : Environment).underHome "~//x" = "h/x" := by decide

end LineShell
