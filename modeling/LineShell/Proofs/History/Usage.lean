import LineShell.Builtin.Run
import LineShell.Proofs.Arguments.Reading
/-!
    What may be asked of `history`.

    `history` takes one thing at most, an option with its file or a count, and `--` before the count
    or at the end. That leaves a handful of forms (`Asks`), next to a single integer, which is a
    count whatever its sign. An argument list of no such form is refused with its own words and
    changes nothing (`history_usage`). -/

namespace LineShell

namespace HistoryOption

/-- How an option is written. -/
def spellings : HistoryOption → List String
  | .read => ["-r", "--read"]
  | .write => ["-w", "--write"]
  | .append => ["-a", "--append"]

/-- What an option asks for with its file. -/
def request : HistoryOption → String → HistoryRequest
  | .read => .read
  | .write => .write
  | .append => .append

end HistoryOption

namespace HistoryRequest

/-- The argument lists that `history` takes, and what each of them asks for. A file may be any text,
    one that looks like an option or a number as well. -/
inductive Asks : List String → HistoryRequest → Prop where
  /-- A single integer is a count, a negative one counts as zero. -/
  | integer {arg : String} {n : Int} : signedNumeral? 64 arg = some n →
    Asks [arg] (.list (some (max n 0).toNat))
  | all : Asks [] (.list none)
  | allEnded : Asks ["--"] (.list none)
  | count {arg : String} {c : Nat} : signedNumeral? 64 arg = none →
    unsignedNumeral? 64 arg = some c → Asks [arg] (.list (some c))
  | countEnded {arg : String} {c : Nat} : unsignedNumeral? 64 arg = some c →
    Asks [arg, "--"] (.list (some c))
  | endedCount {arg : String} {c : Nat} : unsignedNumeral? 64 arg = some c →
    Asks ["--", arg] (.list (some c))
  | file {opt file : String} {key : HistoryOption} : opt ∈ key.spellings →
    Asks [opt, file] (key.request file)
  | fileEnded {opt file : String} {key : HistoryOption} : opt ∈ key.spellings →
    Asks [opt, file, "--"] (key.request file)

theorem option?_eq_some_iff {arg : String} {key : HistoryOption} :
    option? arg = some key ↔ arg ∈ key.spellings := by
  unfold option?
  cases key <;> grind [HistoryOption.spellings]

/-- An option is not mistaken for anything else. -/
theorem dashed_of_mem_spellings {arg : String} {key : HistoryOption} (h : arg ∈ key.spellings) :
    arg ∉ helpWords ∧ Dashed arg ∧ arg ≠ "--" := by
  cases key <;> simp only [HistoryOption.spellings, List.mem_cons, List.not_mem_nil, or_false] at h
  all_goals
    rcases h with rfl | rfl
    all_goals exact ⟨by decide, rfl, by decide⟩

/-- A count starts with a digit or a plus sign. -/
theorem not_dashed_of_unsignedNumeral? {bits : Nat} {arg : String} {c : Nat}
    (h : unsignedNumeral? bits arg = some c) : ¬ Dashed arg := by
  intro hdash
  obtain ⟨rest, hrest⟩ := List.head?_eq_some_iff.mp hdash
  have hnone : digitsValue? ('-' :: rest) = none := by simp [digitsValue?]
  simp [unsignedNumeral?, hrest, hnone] at h

/-- A count is not mistaken for anything else. -/
theorem plain_of_unsignedNumeral? {arg : String} {c : Nat}
    (h : unsignedNumeral? 64 arg = some c) : arg ∉ helpWords ∧ ¬ Dashed arg := by
  refine ⟨fun hword => ?_, not_dashed_of_unsignedNumeral? h⟩
  have hnone : ∀ word ∈ helpWords, unsignedNumeral? 64 word = none := by decide
  rw [hnone arg hword] at h
  cases h

/-- A request is made of one thing at most. -/
theorem size_le_of_ofArguments? {a : Arguments HistoryOption Nat} {r : HistoryRequest}
    (h : ofArguments? a = some r) : a.size ≤ 1 := by
  obtain ⟨values, operand⟩ := a
  unfold ofArguments? at h
  split at h <;> simp_all [Arguments.size]

theorem ofArguments?_value (key : HistoryOption) (file : String) :
    ofArguments? ⟨[(key, file)], none⟩ = some (key.request file) := by
  cases key <;> rfl

/-- What the arguments count, if they are a single integer. -/
theorem count?_eq_some_iff {args : List String} {n : Nat} : count? args = some n ↔
    ∃ arg i, args = [arg] ∧ signedNumeral? 64 arg = some i ∧ n = (max i 0).toNat := by
  have hmax (i : Int) : i.toNat = (max i 0).toNat := by omega
  match args with
  | [] => simp [count?]
  | [arg] => simp [count?, hmax, eq_comm]
  | _ :: _ :: _ => simp [count?]

/-- Only lists of the forms that there are follow the rules and make a request. -/
theorem asks_of_reads {args : List String} {a : Arguments HistoryOption Nat} {r : HistoryRequest}
    (h : grammar.Reads false ⟨[], none⟩ args a) (hr : ofArguments? a = some r)
    (hcount : ∀ arg, args = [arg] → signedNumeral? 64 arg = none) : Asks args r := by
  -- as soon as one thing has been found, nothing but the end of the options may follow
  have hsize := size_le_of_ofArguments? hr
  cases h with
  | nil =>
    cases hr
    exact .all
  | ended hrest =>
    cases hrest with
    | nil =>
      cases hr
      exact .allEnded
    | operand _ _ hop hrest =>
      obtain ⟨rfl, rfl | ⟨hopen, -⟩⟩ := hrest.rest hsize
      · cases hr
        exact .endedCount hop
      · cases hopen
  | value _ _ _ hkey _ hrest =>
    obtain ⟨rfl, hargs⟩ := hrest.rest hsize
    obtain rfl := Option.some.inj ((ofArguments?_value _ _).symm.trans hr)
    rcases hargs with rfl | ⟨-, rfl⟩
    · exact .file (option?_eq_some_iff.mp hkey)
    · exact .fileEnded (option?_eq_some_iff.mp hkey)
  | operand _ _ hop hrest =>
    obtain ⟨rfl, rfl | ⟨-, rfl⟩⟩ := hrest.rest hsize
    · cases hr
      exact .count (hcount _ rfl) hop
    · cases hr
      exact .countEnded hop

/-- An option and its file, whatever that is, are read and taken. -/
theorem reads_file {opt file : String} {key : HistoryOption} (h : opt ∈ key.spellings)
    {rest : List String} {a : Arguments HistoryOption Nat}
    (hrest : grammar.Reads false ⟨[(key, file)], none⟩ rest a) :
    grammar.Reads false ⟨[], none⟩ (opt :: file :: rest) a := by
  obtain ⟨hword, hdash, hend⟩ := dashed_of_mem_spellings h
  exact .value hword hdash hend (option?_eq_some_iff.mpr h) rfl hrest

/-- So is a count, whether or not the options have been ended. -/
theorem reads_count {arg : String} {c : Nat} (h : unsignedNumeral? 64 arg = some c)
    {ended : Bool} {rest : List String} {a : Arguments HistoryOption Nat}
    (hrest : grammar.Reads ended ⟨[], some c⟩ rest a) :
    grammar.Reads ended ⟨[], none⟩ (arg :: rest) a :=
  .operand (fun _ => plain_of_unsignedNumeral? h) rfl h hrest

/-- A list of one of the forms follows the rules and makes the request, or it is an integer. -/
theorem Asks.reads {args : List String} {r : HistoryRequest} (h : Asks args r) :
    (∃ n, count? args = some n ∧ r = .list (some n)) ∨
      count? args = none ∧
        ∃ a, grammar.Reads false ⟨[], none⟩ args a ∧ ofArguments? a = some r := by
  cases h with
  | integer hn => exact .inl ⟨_, count?_eq_some_iff.mpr ⟨_, _, rfl, hn, rfl⟩, rfl⟩
  | all => exact .inr ⟨rfl, _, .nil, rfl⟩
  | allEnded => exact .inr ⟨rfl, _, .ended .nil, rfl⟩
  | count hnone hc => exact .inr ⟨by simp [count?, hnone], _, reads_count hc .nil, rfl⟩
  | countEnded hc => exact .inr ⟨rfl, _, reads_count hc (.ended .nil), rfl⟩
  | endedCount hc => exact .inr ⟨rfl, _, .ended (reads_count hc .nil), rfl⟩
  | file hopt => exact .inr ⟨rfl, _, reads_file hopt .nil, ofArguments?_value _ _⟩
  | fileEnded hopt => exact .inr ⟨rfl, _, reads_file hopt (.ended .nil), ofArguments?_value _ _⟩

/-- The forms are all that is taken, and each asks for what it says. -/
theorem ofArgs?_eq_some_iff {args : List String} {r : HistoryRequest} :
    ofArgs? args = some r ↔ Asks args r := by
  constructor
  · intro h
    unfold ofArgs? at h
    cases hcount : count? args with
    | some n =>
      obtain ⟨arg, i, rfl, hi, rfl⟩ := count?_eq_some_iff.mp hcount
      rw [hcount] at h
      cases h
      exact .integer hi
    | none =>
      rw [hcount] at h
      dsimp only at h
      cases hread : grammar.read args with
      | error e => rw [hread] at h; cases h
      | ok a =>
        rw [hread] at h
        refine asks_of_reads (ArgumentGrammar.read_eq_ok_iff.mp hread) h ?_
        rintro arg rfl
        simpa [count?] using hcount
  · intro h
    unfold ofArgs?
    rcases h.reads with ⟨n, hcount, rfl⟩ | ⟨hcount, a, hread, hr⟩
    · rw [hcount]
    · rw [hcount, ArgumentGrammar.read_eq_ok_iff.mpr hread]
      exact hr

end HistoryRequest

/-! ### What is answered -/

namespace History

/-- The entries that a listing of the last ones, or of all, shows, each with its number. -/
def shown (h : History) (last : Option Nat) : List (String × Nat) :=
  match last with
  | some c => (h.entries.zipIdx 1).drop (h.length - c)
  | none => h.entries.zipIdx 1

theorem listingFrom_eq_join (number : Nat) (entries : List String) :
    listingFrom number entries =
      String.join ((entries.zipIdx number).map fun e => listingLine e.2 e.1) := by
  induction entries generalizing number with
  | nil => rfl
  | cons entry rest ih =>
    rw [listingFrom, ih, List.zipIdx_cons, List.map_cons, String.join_cons]

/-- Numbers stay with their entries. -/
theorem drop_zipIdx (entries : List String) (count number : Nat) :
    (entries.zipIdx number).drop count = (entries.drop count).zipIdx (number + count) := by
  induction entries generalizing count number with
  | nil => simp
  | cons entry rest ih =>
    cases count with
    | zero => rfl
    | succ count =>
      rw [List.zipIdx_cons, List.drop_succ_cons, List.drop_succ_cons, ih]
      congr 1
      omega

theorem listing_eq_join (h : History) (last : Option Nat) :
    h.listing last = String.join ((h.shown last).map fun e => listingLine e.2 e.1) := by
  cases last with
  | none => exact listingFrom_eq_join 1 h.entries
  | some c =>
    rw [shown, drop_zipIdx, Nat.add_comm 1, ← listingFrom_eq_join]
    rfl

end History

/-- `history` takes the argument lists of a few forms and no others. Any other list it refuses with
    the words of that list, and nothing is changed; where a listing is asked for it answers with the
    last entries under their own numbers, and changes nothing either. -/
theorem history_usage (args : List String) :
    (∀ r, HistoryRequest.ofArgs? args = some r ↔ HistoryRequest.Asks args r) ∧
    (∀ s, (∀ r, ¬ HistoryRequest.Asks args r) → Builtin.history.run args false s =
      (⟨0, none, some ("history: " ++ " ".intercalate args ++ ": is not a valid argument\n")⟩,
        s)) ∧
    ∀ s last, HistoryRequest.Asks args (.list last) → Builtin.history.run args false s =
      (⟨0, some (String.join ((s.history.shown last).map fun e =>
        "    " ++ toString e.2 ++ "  " ++ e.1 ++ "\n")), none⟩, s) := by
  have hrun (s : Session) : Builtin.history.run args false s = consultHistory args s := rfl
  refine ⟨fun r => HistoryRequest.ofArgs?_eq_some_iff, fun s hnone => ?_, fun s last hlist => ?_⟩
  · have hargs : HistoryRequest.ofArgs? args = none :=
      Option.eq_none_iff_forall_ne_some.mpr fun r hr =>
        hnone r (HistoryRequest.ofArgs?_eq_some_iff.mp hr)
    rw [hrun, consultHistory, hargs]
    rfl
  · rw [hrun, consultHistory, HistoryRequest.ofArgs?_eq_some_iff.mpr hlist]
    dsimp only
    rw [History.listing_eq_join]
    rfl

/-- A file may be called like an option, and a count may stand behind the end of the options. -/
example : HistoryRequest.ofArgs? ["-r", "--", "--"] = some (.read "--") ∧
    HistoryRequest.ofArgs? ["--", "+3"] = some (.list (some 3)) ∧
    HistoryRequest.ofArgs? ["-r", "f", "3"] = none := by decide

end LineShell
