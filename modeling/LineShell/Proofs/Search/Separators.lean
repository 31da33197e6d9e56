import LineShell.Proofs.File.Names
import LineShell.Search
/-!
    Command names with a slash in them.

    Such a name is a path of its own, and what it means does not depend on the search path. The one
    exception is a relative path that has nothing but `.` behind its first name, as `x/.` has
    (`Dotted`): of that only the first name is left, and that is searched for. So the rule holds of
    a name exactly if it is no such path or its first name is an executable file nowhere
    (`keepsToPath_iff`). -/

namespace LineShell

/-! ### The names of a path with a slash -/

theorem cutNonempty_eq_nil_iff {α : Type} [DecidableEq α] {sep : α} {cs : List α} :
    cutNonempty sep cs = [] ↔ ∀ c ∈ cs, c = sep := by
  induction cs with
  | nil => simp [cutNonempty, cut]
  | cons c cs ih =>
    rw [List.forall_mem_cons, ← ih, cutNonempty, cut_cons]
    by_cases hc : c = sep
    · simp [cutNonempty, hc]
    · obtain ⟨p, ps, hps⟩ := List.exists_cons_of_ne_nil (cut_ne_nil sep cs)
      simp [hc, hps]

/-- A relative path with a slash in it that is not its last letter has two names or more. -/
theorem pathNames_eq_cons_cons {path : String} (hrel : isAbsolute path = false)
    (hopen : endsInSlash path = false) (hslash : '/' ∈ path.toList) :
    ∃ first second rest, pathNames path = first :: second :: rest := by
  obtain ⟨cs, ds, hpath, hcs⟩ := List.eq_append_cons_of_mem hslash
  have hfirst : cs ≠ [] := by
    rintro rfl
    simp [isAbsolute, hpath] at hrel
  have hsecond : cutNonempty '/' ds ≠ [] := by
    intro hnil
    have hall := cutNonempty_eq_nil_iff.mp hnil
    have hlast : ('/' :: ds).getLast? = some '/' := by
      rw [List.getLast?_eq_some_getLast (List.cons_ne_nil _ _), Option.some.injEq]
      rcases List.mem_cons.mp (List.getLast_mem (List.cons_ne_nil '/' ds)) with h | h
      · exact h
      · exact hall _ h
    rw [endsInSlash, hpath, List.getLast?_append, hlast] at hopen
    simp at hopen
  obtain ⟨second, rest, hrest⟩ := List.exists_cons_of_ne_nil hsecond
  refine ⟨String.ofList cs, String.ofList second, rest.map String.ofList, ?_⟩
  rw [pathNames, hpath, cutNonempty_append_sep, cutNonempty_of_not_mem hfirst hcs, hrest]
  rfl

theorem pathComponents_eq_singleton_iff {path name : String} :
    pathComponents path = [name] ↔ ∃ k, pathNames path = name :: List.replicate k "." := by
  unfold pathComponents
  cases hnames : pathNames path with
  | nil => simp
  | cons first rest =>
    dsimp only
    rw [List.cons.injEq, List.filter_eq_nil_iff]
    constructor
    · rintro ⟨rfl, hall⟩
      refine ⟨rest.length, congrArg (first :: ·) (List.eq_replicate_iff.mpr ⟨rfl, ?_⟩)⟩
      intro name hname
      simpa using hall name hname
    · rintro ⟨k, hk⟩
      obtain ⟨rfl, rfl⟩ := List.cons.inj hk
      refine ⟨rfl, fun name hname => ?_⟩
      simp [List.eq_of_mem_replicate hname]

/-- A relative path that has nothing but `.` behind its first name, and that at least once. -/
structure Dotted (path first : String) : Prop where
  relative : isAbsolute path = false
  unslashed : endsInSlash path = false
  names : ∃ k, pathNames path = first :: List.replicate (k + 1) "."

/-! ### Searching -/

theorem no_colon_of_mem_searchElements {search dir : String} (h : dir ∈ searchElements search) :
    ':' ∉ dir.toList := by
  obtain ⟨piece, hpiece, rfl⟩ := List.mem_map.mp h
  rw [String.toList_ofList]
  exact not_mem_of_mem_cut hpiece

/-- A search path without a colon is one directory. -/
theorem searchElements_singleton {dir : String} (h : ':' ∉ dir.toList) :
    searchElements dir = [dir] := by
  rw [searchElements, cut_of_not_mem h, List.map_singleton, String.ofList_toList]

variable {e : Environment} {m : Machine} {search path dir name first : String}

theorem searchCommand_eq_none_iff : searchCommand m search name = none ↔
    ∀ dir ∈ searchElements search, dir ≠ "" → m.isExecutable (joinPath dir name) = false := by
  simp [searchCommand, List.find?_eq_none]

/-- What stands in the only directory of a search path is found. -/
theorem searchCommand_singleton (hdir : dir ≠ "") (hcolon : ':' ∉ dir.toList)
    (hexec : m.isExecutable (joinPath dir name) = true) :
    searchCommand m dir name = some (joinPath dir name) := by
  simp [searchCommand, searchElements_singleton hcolon, hdir, hexec]

theorem findCommand_of_dotted (h : Dotted path first) :
    findCommand m search path dir = searchCommand m search first := by
  obtain ⟨k, hnames⟩ := h.names
  have hcomponents := pathComponents_eq_singleton_iff.mpr ⟨k + 1, hnames⟩
  rw [findCommand, h.relative, hcomponents, h.unslashed]
  rfl

/-- Any other path with a slash in it means itself, as seen from the current directory. -/
theorem findCommand_of_slash (hslash : '/' ∈ path.toList) (h : ∀ first, ¬ Dotted path first) :
    findCommand m search path dir = executable? m (joinPath dir path) := by
  unfold findCommand
  cases hrel : isAbsolute path with
  | true => rw [if_pos rfl, joinPath_absolute hrel]
  | false =>
    rw [if_neg Bool.false_ne_true]
    split
    · rename_i hcomponents
      -- a path with something in it has a name at least
      have hsome : path ≠ "" := by
        rintro rfl
        exact List.not_mem_nil hslash
      obtain ⟨name, rest, hnames⟩ := List.exists_cons_of_ne_nil (pathNames_ne_nil hrel hsome)
      rw [pathComponents, hnames] at hcomponents
      cases hcomponents
    · rename_i name hcomponents hopen
      obtain ⟨k, hnames⟩ := pathComponents_eq_singleton_iff.mp hcomponents
      obtain ⟨_, _, _, htwo⟩ := pathNames_eq_cons_cons hrel hopen hslash
      cases k with
      | zero => rw [hnames] at htwo; cases htwo
      | succ k => exact absurd ⟨hrel, hopen, k, hnames⟩ (h name)
    · rfl

/-! ### What a name means, whatever the search path -/

theorem Vars.lookup_filter_ne {name other : String} (h : name ≠ other) (vars : Vars) :
    (vars.filter (·.1 ≠ other)).lookup name = vars.lookup name := by
  induction vars with
  | nil => rfl
  | cons v vs ih =>
    obtain ⟨key, value⟩ := v
    rw [List.filter_cons]
    by_cases hkey : key = other
    · have hname : (name == key) = false := by simpa [hkey] using h
      simpa [hkey, List.lookup_cons, show (name == other) = false from hkey ▸ hname] using ih
    · simp only [ne_eq, hkey, not_false_eq_true, decide_true, ↓reduceIte, List.lookup_cons]
      split
      · rfl
      · exact ih

/-- The environments are alike but for the search path. -/
structure Environment.SameButPath (e e' : Environment) : Prop where
  directory : e'.directory = e.directory
  vars : ∀ name, name ≠ "PATH" → e'.get? name = e.get? name

namespace Environment

theorem SameButPath.refl (e : Environment) : e.SameButPath e := ⟨rfl, fun _ _ => rfl⟩

/-- The search path can be set to anything. -/
theorem SameButPath.set (e : Environment) (search : String) :
    e.SameButPath (e.set "PATH" search) := by
  refine ⟨rfl, fun name hname => ?_⟩
  have hkey : (name == "PATH") = false := by simpa using hname
  rw [get?, get?, Environment.set, Vars.set, List.lookup_cons, hkey]
  exact Vars.lookup_filter_ne hname e.vars

theorem commandPath_set (e : Environment) (search : String) :
    (e.set "PATH" search).commandPath = search := by
  simp [commandPath, get?, Environment.set, Vars.set]

theorem SameButPath.underHome {e' : Environment} (h : e.SameButPath e') (word : String) :
    e'.underHome word = e.underHome word := by
  have hhome : e'.homeDirectory? = e.homeDirectory? := by
    rw [homeDirectory?, homeDirectory?, getNonempty?, getNonempty?, h.vars "HOME" (by decide)]
  rw [Environment.underHome, Environment.underHome, hhome]

end Environment

/-- A name means the same whatever the search path, and if it means an executable file then that of
    its own path. -/
structure KeepsToPath (e : Environment) (m : Machine) (name : String) : Prop where
  same (e₁ e₂ : Environment) : e.SameButPath e₁ → e.SameButPath e₂ →
    meaningOf e₁ m name = meaningOf e₂ m name
  own (e' : Environment) (path : String) : e.SameButPath e' →
    meaningOf e' m name = .program path →
      path = e.fromHere (e.underHome name) ∧ m.isExecutable path = true

/-- What a name means that is no builtin's, by what has been found for it. -/
def Meaning.ofFound : Option String → Meaning
  | some path => .program path
  | none => .unknown

theorem Meaning.ofFound_eq_program_iff {found : Option String} :
    ofFound found = .program path ↔ found = some path := by
  cases found <;> simp [ofFound]

theorem meaningOf_eq_ofFound (hname : Builtin.ofName? name = none) :
    meaningOf e m name =
      .ofFound (findCommand m e.commandPath (e.underHome name) e.directory) := by
  rw [meaningOf, hname]
  rfl

theorem executable?_eq_some_iff {found : String} :
    executable? m path = some found ↔ found = path ∧ m.isExecutable path = true := by
  rw [executable?, Option.ite_none_right_eq_some, Option.some.injEq, and_comm, eq_comm]

/-- What the path of a name means by itself. -/
def ownMeaning (e : Environment) (m : Machine) (name : String) : Meaning :=
  .ofFound (executable? m (e.fromHere (e.underHome name)))

theorem meaningOf_of_slash (hname : Builtin.ofName? name = none)
    (hslash : '/' ∈ (e.underHome name).toList) (h : ∀ first, ¬ Dotted (e.underHome name) first)
    {e' : Environment} (hsame : e.SameButPath e') :
    meaningOf e' m name = ownMeaning e m name := by
  rw [meaningOf_eq_ofFound hname, hsame.underHome, hsame.directory, findCommand_of_slash hslash h]
  rfl

theorem meaningOf_of_dotted (hname : Builtin.ofName? name = none)
    (h : Dotted (e.underHome name) first) {e' : Environment} (hsame : e.SameButPath e') :
    meaningOf e' m name = .ofFound (searchCommand m e'.commandPath first) := by
  rw [meaningOf_eq_ofFound hname, hsame.underHome, findCommand_of_dotted h]

/-- A name with a slash means what its own path does, whatever the search path, exactly if it is not
    one of those of which only the first name is left, or that is an executable file in no
    directory. -/
theorem keepsToPath_iff (hname : Builtin.ofName? name = none)
    (hslash : '/' ∈ (e.underHome name).toList) :
    (KeepsToPath e m name ↔ ∀ first dir, Dotted (e.underHome name) first → dir ≠ "" →
      ':' ∉ dir.toList → m.isExecutable (joinPath dir first) = false) ∧
    ((∀ first, ¬ Dotted (e.underHome name) first) → ∀ e', e.SameButPath e' →
      meaningOf e' m name = ownMeaning e m name) := by
  refine ⟨⟨fun hkeeps first dir hdotted hdir hcolon => ?_, fun hnowhere => ?_⟩,
    fun h e' hsame => meaningOf_of_slash hname hslash h hsame⟩
  · -- with the search path `dir` the first name would be found there, and without one nowhere
    rw [Bool.eq_false_iff]
    intro hexec
    have hfound := meaningOf_of_dotted (m := m) hname hdotted (.set e dir)
    have hnone := meaningOf_of_dotted (m := m) hname hdotted (.set e "")
    rw [Environment.commandPath_set, searchCommand_singleton hdir hcolon hexec] at hfound
    rw [Environment.commandPath_set, searchCommand_eq_none_iff.mpr (by
      simp [searchElements_singleton])] at hnone
    have hsame := hkeeps.same _ _ (.set e dir) (.set e "")
    rw [hfound, hnone] at hsame
    exact Meaning.noConfusion hsame
  · by_cases h : ∃ first, Dotted (e.underHome name) first
    · obtain ⟨first, hdotted⟩ := h
      have hunknown {e' : Environment} (hsame : e.SameButPath e') :
          meaningOf e' m name = .unknown := by
        have hnone : searchCommand m e'.commandPath first = none :=
          searchCommand_eq_none_iff.mpr fun dir hmem hdir =>
            hnowhere first dir hdotted hdir (no_colon_of_mem_searchElements hmem)
        rw [meaningOf_of_dotted hname hdotted hsame, hnone]
        rfl
      refine ⟨fun e₁ e₂ h₁ h₂ => (hunknown h₁).trans (hunknown h₂).symm, fun e' path hsame hp => ?_⟩
      rw [hunknown hsame] at hp
      cases hp
    · rw [not_exists] at h
      have hown {e' : Environment} (hsame : e.SameButPath e') :
          meaningOf e' m name = ownMeaning e m name := meaningOf_of_slash hname hslash h hsame
      refine ⟨fun e₁ e₂ h₁ h₂ => (hown h₁).trans (hown h₂).symm, fun e' path hsame hp => ?_⟩
      rw [hown hsame, ownMeaning, Meaning.ofFound_eq_program_iff, executable?_eq_some_iff] at hp
      obtain ⟨rfl, hexec⟩ := hp
      exact ⟨rfl, hexec⟩

/-- A machine with executable files `t` in `/h` and in `/p`, and `a` in `/p`. -/
def toolMachine : Machine :=
  ⟨⟨[(["h"], .directory usualMode), (["h", "t"], .file 0o755 []), (["p"], .directory usualMode),
    (["p", "a"], .file 0o755 []), (["p", "t"], .file 0o755 [])]⟩, .root, [], 0, [], []⟩

/-- In the root, with a relative home directory. -/
def toolEnvironment : Environment := ⟨[("HOME", "h"), ("PATH", "/p")], "/", false⟩

/-- A file under the home directory is not looked for elsewhere, although that is relative. -/
theorem keepsToPath_underHome :
    Builtin.ofName? "~/t" = none ∧ '/' ∈ (toolEnvironment.underHome "~/t").toList ∧
      KeepsToPath toolEnvironment toolMachine "~/t" ∧
      meaningOf toolEnvironment toolMachine "~/t" = .program "/h/t" := by
  have hname : Builtin.ofName? "~/t" = none := by rfl
  have hslash : '/' ∈ (toolEnvironment.underHome "~/t").toList := by decide +kernel
  have hwhole (first : String) : ¬ Dotted (toolEnvironment.underHome "~/t") first := by
    intro h
    obtain ⟨k, hnames⟩ := h.names
    have htwo : pathNames (toolEnvironment.underHome "~/t") = ["h", "t"] := by decide +kernel
    rw [htwo, List.replicate_succ] at hnames
    exact absurd (List.cons.inj (List.cons.inj hnames).2).1 (by decide)
  obtain ⟨hkeeps, hown⟩ := keepsToPath_iff (m := toolMachine) hname hslash
  refine ⟨hname, hslash, hkeeps.mpr fun first _ h => absurd h (hwhole first), ?_⟩
  rw [hown hwhole _ (.refl _)]
  decide +kernel

/-- `a/.` is looked for in the search path, where `a` is found, although there is nothing in the
    current directory. -/
theorem not_keepsToPath_dot :
    Builtin.ofName? "a/." = none ∧ '/' ∈ (toolEnvironment.underHome "a/.").toList ∧
      meaningOf toolEnvironment toolMachine "a/." = .program "/p/a" ∧
      meaningOf (toolEnvironment.set "PATH" "/h") toolMachine "a/." = .unknown ∧
      ¬ KeepsToPath toolEnvironment toolMachine "a/." := by
  have hfound : meaningOf toolEnvironment toolMachine "a/." = .program "/p/a" := by decide +kernel
  have hnone : meaningOf (toolEnvironment.set "PATH" "/h") toolMachine "a/." = .unknown := by
    decide +kernel
  refine ⟨by rfl, by decide +kernel, hfound, hnone, fun hkeeps => ?_⟩
  have hsame := hkeeps.same _ _ (.refl _) (.set _ "/h")
  rw [hfound, hnone] at hsame
  exact Meaning.noConfusion hsame

end LineShell
