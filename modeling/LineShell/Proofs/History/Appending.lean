import LineShell.Proofs.File.Writing
import LineShell.Proofs.Session.Frame
import LineShell.Proofs.Text.Lines
/-!
    Every entry of the history is appended once, and in order.

    The history is used by calls, each of which finds the files in whatever state they are and may
    fail on them. From an empty history on, the appends that succeed deliver the entries up to the
    mark, each in the one delivery that moved the mark past it (`Accounted`, kept by every call in
    `Accounted.call`); a call that fails leaves entries and mark where they were, so what it was to
    append is pending still (`appended_once`). A session does nothing else to its history
    (`Session.Course.calls`). -/

namespace LineShell

/-! ### The calls -/

/-- What the history can be asked to do. -/
inductive HistoryCall where
  | record (line : String)
  | load (path : String)
  | store (path : String)
  | listing (last : Option Nat)
  | flush (path : String)
  deriving DecidableEq, Repr

/-- What a call answers. -/
inductive HistoryReply where
  | done
  /-- So many entries were added or appended. -/
  | counted (n : Nat)
  | listed (text : String)
  | failed (e : Failure)
  deriving DecidableEq, Repr

/-- What comes of a call. -/
structure HistoryAnswer where
  reply : HistoryReply
  history : History
  machine : Machine

/-- Pending entries that a file has been made to end with. -/
structure Delivery where
  path : String
  entries : List String
  /-- The machine that the call has found. -/
  before : Machine
  after : Machine

/-- The bytes that are appended. -/
def Delivery.bytes (d : Delivery) : Bytes := Bytes.ofText (unlines d.entries)

namespace HistoryCall

/-- Makes a call on the machine as it is then. -/
def perform (h : History) (m : Machine) : HistoryCall → HistoryAnswer
  | .record line => ⟨.done, h.record line, m⟩
  | .load path => match h.load m path with
    | .ok (n, h) => ⟨.counted n, h, m⟩
    | .error e => ⟨.failed e, h, m⟩
  | .store path => match h.store m path with
    | (.ok _, m) => ⟨.done, h, m⟩
    | (.error e, m) => ⟨.failed e, h, m⟩
  | .listing last => ⟨.listed (h.listing last), h, m⟩
  | .flush path => match h.flush m path with
    | (.ok (n, h), m) => ⟨.counted n, h, m⟩
    | (.error e, m) => ⟨.failed e, h, m⟩

/-- What the call delivers to a file, if it appends and does not fail. -/
def delivery? (h : History) (m : Machine) : HistoryCall → Option Delivery
  | .flush path => match h.flush m path with
    | (.ok _, after) => some ⟨path, h.pending, m, after⟩
    | (.error _, _) => none
  | _ => none

end HistoryCall

namespace History

/-- The history after some calls, each on the machine that it finds. -/
def after (h : History) : List (Machine × HistoryCall) → History
  | [] => h
  | (m, call) :: rest => (call.perform h m).history.after rest

/-- What these calls deliver to files, in their order. -/
def deliveries (h : History) : List (Machine × HistoryCall) → List Delivery
  | [] => []
  | (m, call) :: rest =>
    (call.delivery? h m).toList ++ (call.perform h m).history.deliveries rest

theorem after_append (h : History) (calls calls' : List (Machine × HistoryCall)) :
    h.after (calls ++ calls') = (h.after calls).after calls' := by
  induction calls generalizing h with
  | nil => rfl
  | cons call calls ih => exact ih _

end History

/-! ### A delivery -/

/-- The file that the path means ends with the bytes now: it has been made if it was not there, and
    nothing else is different. -/
structure AppendsTo (path : String) (bytes : Bytes) (m m' : Machine) : Prop where
  grown : ∃ p, (m.openFile path true).1 = .ok ⟨p, true, 0⟩ ∧
    m'.tree.get? p = some ((openedNode true (m.tree.get? p)).grow bytes) ∧
    m.tree.SameBut p m'.tree
  streams : m' = { m with tree := m'.tree }

theorem Machine.writeFile_appendsTo {m m' : Machine} {path text : String}
    (h : m.writeFile path true text = (.ok (), m')) : AppendsTo path (Bytes.ofText text) m m' := by
  unfold Machine.writeFile at h
  rcases hwrite : m.tree.writeFile m.workDir path true (Bytes.ofText text) with ⟨r, t⟩
  rw [hwrite] at h
  cases h
  obtain ⟨p, hopen, hsame, hnode⟩ := FileTree.writeFile_ok hwrite
  exact ⟨⟨p, hopen, hnode, hsame⟩, rfl⟩

namespace History

variable {h : History} {m m' : Machine} {path : String}

/-- Appending is writing the pending entries to the end of the file, and moving the mark. -/
theorem flush_ok {n : Nat} {h' : History} (hflush : h.flush m path = (.ok (n, h'), m')) :
    n = h.pending.length ∧ h' = { h with appended := h.length } ∧
      AppendsTo path (Bytes.ofText (unlines h.pending)) m m' := by
  unfold flush at hflush
  rcases hwrite : m.writeFile path true (unlines h.pending) with ⟨_ | _, m''⟩ <;>
    rw [hwrite] at hflush <;> cases hflush
  exact ⟨rfl, rfl, m.writeFile_appendsTo hwrite⟩

theorem load_ok {n : Nat} {h' : History} (hload : h.load m path = .ok (n, h')) :
    ∃ more, h' = h.extend more := by
  unfold load at hload
  split at hload <;> cases hload
  exact ⟨_, rfl⟩

end History

/-! ### What has been delivered -/

theorem Bytes.ofText_append (s t : String) : ofText (s ++ t) = ofText s ++ ofText t := by
  rw [ofText, String.toList_append]
  exact List.flatMap_append

/-- The entries of deliveries are the entries of the history up to its mark, which is in bounds. -/
structure Accounted (h : History) (delivered : List Delivery) : Prop where
  bounded : h.appended ≤ h.length
  once : delivered.flatMap (·.entries) = h.entries.take h.appended
  written (d : Delivery) : d ∈ delivered → AppendsTo d.path d.bytes d.before d.after

namespace Accounted

variable {h : History} {delivered : List Delivery}

theorem empty : Accounted .empty [] := ⟨Nat.le_refl _, rfl, nofun⟩

/-- New entries are behind the mark. -/
theorem extend (hd : Accounted h delivered) (more : List String) :
    Accounted (h.extend more) delivered where
  bounded := by
    rw [History.length, History.extend, List.length_append]
    exact Nat.le_add_right_of_le hd.bounded
  once := by
    rw [hd.once]
    exact (List.take_append_of_le_length hd.bounded).symm
  written := hd.written

/-- A delivery is what is behind the mark, and moves the mark to the end. -/
theorem deliver (hd : Accounted h delivered) {d : Delivery} (hentries : d.entries = h.pending)
    (hwritten : AppendsTo d.path d.bytes d.before d.after) :
    Accounted { h with appended := h.length } (delivered ++ [d]) where
  bounded := Nat.le_refl _
  once := by
    rw [List.flatMap_append, hd.once, List.flatMap_singleton, hentries, History.pending,
      List.take_append_drop]
    exact List.take_length.symm
  written d' hmem := by
    rcases List.mem_append.mp hmem with hold | hnew
    · exact hd.written d' hold
    · rw [List.mem_singleton.mp hnew]
      exact hwritten

/-- A call keeps the account. -/
theorem call (hd : Accounted h delivered) (m : Machine) (call : HistoryCall) :
    Accounted (call.perform h m).history (delivered ++ (call.delivery? h m).toList) := by
  have hidle {h' : History} (hd' : Accounted h' delivered) : Accounted h' (delivered ++ []) := by
    rwa [List.append_nil]
  cases call with
  | record line => exact hidle (hd.extend [line])
  | load path =>
    refine hidle ?_
    rw [HistoryCall.perform]
    split
    · rename_i n h' hload
      obtain ⟨more, rfl⟩ := History.load_ok hload
      exact hd.extend more
    · exact hd
  | store path =>
    refine hidle ?_
    rw [HistoryCall.perform]
    split <;> exact hd
  | listing last => exact hidle hd
  | flush path =>
    rcases hflush : h.flush m path with ⟨e | ⟨n, h'⟩, m'⟩
    · rw [HistoryCall.delivery?, HistoryCall.perform, hflush]
      exact hidle hd
    · obtain ⟨-, rfl, hwritten⟩ := History.flush_ok hflush
      rw [HistoryCall.delivery?, HistoryCall.perform, hflush]
      exact hd.deliver rfl hwritten

/-- And so do any number of them. -/
theorem calls (hd : Accounted h delivered) (calls : List (Machine × HistoryCall)) :
    Accounted (h.after calls) (delivered ++ h.deliveries calls) := by
  induction calls generalizing h delivered with
  | nil =>
    rw [History.deliveries, List.append_nil]
    exact hd
  | cons c calls ih =>
    rw [History.deliveries, ← List.append_assoc]
    exact ih (hd.call c.1 c.2)

/-- The bytes that are delivered are those of the entries up to the mark. -/
theorem bytes (hd : Accounted h delivered) :
    delivered.flatMap Delivery.bytes = Bytes.ofText (unlines (h.entries.take h.appended)) := by
  rw [← hd.once]
  clear hd
  induction delivered with
  | nil => rfl
  | cons d rest ih =>
    rw [List.flatMap_cons, ih, List.flatMap_cons, unlines_append, Bytes.ofText_append]
    rfl

end Accounted

/-! ### Calls that fail, and calls that append -/

namespace HistoryCall

/-- A call that fails leaves the history as it was, and delivers nothing. -/
theorem perform_failed {h : History} {m : Machine} {call : HistoryCall} {e : Failure}
    (hfailed : (call.perform h m).reply = .failed e) :
    (call.perform h m).history = h ∧ call.delivery? h m = none := by
  cases call with
  | record line => cases hfailed
  | listing last => cases hfailed
  | load path =>
    rw [perform] at hfailed ⊢
    cases hload : h.load m path with
    | ok loaded =>
      rw [hload] at hfailed
      cases hfailed
    | error e => exact ⟨rfl, rfl⟩
  | store path =>
    rw [perform]
    split <;> exact ⟨rfl, rfl⟩
  | flush path =>
    rw [perform] at hfailed ⊢
    rw [delivery?]
    rcases hflush : h.flush m path with ⟨e | flushed, m'⟩
    · exact ⟨rfl, rfl⟩
    · rw [hflush] at hfailed
      cases hfailed

/-- Appending fails, or delivers what is pending and answers how many entries that is. -/
theorem perform_flush (h : History) (m : Machine) (path : String) :
    let answer := (HistoryCall.flush path).perform h m
    (∃ e, answer.reply = .failed e) ∨
      (HistoryCall.flush path).delivery? h m = some ⟨path, h.pending, m, answer.machine⟩ ∧
        answer.reply = .counted h.pending.length ∧
        answer.history = { h with appended := h.length } := by
  dsimp only
  rw [perform, delivery?]
  rcases hflush : h.flush m path with ⟨e | ⟨n, h'⟩, m'⟩
  · exact .inl ⟨e, rfl⟩
  · obtain ⟨rfl, rfl, -⟩ := History.flush_ok hflush
    exact .inr ⟨rfl, rfl, rfl⟩

end HistoryCall

/-- After any calls from an empty history on, the mark is in bounds, and the entries up to it are
    exactly what the appends that succeeded have put at the ends of their files, each once and in
    order. The next call, if it fails, leaves entries and mark as they are, and if it appends, it
    delivers all that is behind the mark and answers how many entries that is. -/
theorem History.appended_once (calls : List (Machine × HistoryCall)) :
    let h := History.empty.after calls
    let delivered := History.empty.deliveries calls
    h.appended ≤ h.length ∧
      delivered.flatMap (·.entries) = h.entries.take h.appended ∧
      delivered.flatMap Delivery.bytes = Bytes.ofText (unlines (h.entries.take h.appended)) ∧
      (∀ d ∈ delivered, AppendsTo d.path d.bytes d.before d.after) ∧
      (∀ (m : Machine) (call : HistoryCall) (e : Failure), (call.perform h m).reply = .failed e →
        (call.perform h m).history = h ∧ call.delivery? h m = none) ∧
      ∀ (m : Machine) (path : String), let answer := (HistoryCall.flush path).perform h m
        (∃ e, answer.reply = .failed e) ∨
          (HistoryCall.flush path).delivery? h m =
              some ⟨path, h.entries.drop h.appended, m, answer.machine⟩ ∧
            answer.reply = .counted (h.entries.drop h.appended).length ∧
            answer.history = { h with appended := h.length } := by
  have haccount := Accounted.empty.calls calls
  rw [List.nil_append] at haccount
  exact ⟨haccount.bounded, haccount.once, haccount.bytes, haccount.written,
    fun _ _ _ => HistoryCall.perform_failed, HistoryCall.perform_flush _⟩

/-- What an append that fails was to deliver is delivered by the next that does not. -/
example :
    let m : Machine := ⟨.empty, .root, [], 0, [], []⟩
    let calls := [(m, .record "a"), (m, .flush "/"), (m, .record "b"), (m, .flush "/f"),
      (m, .flush "/g")]
    (History.empty.deliveries calls).map (·.entries) = [["a", "b"], []] := by
  decide +kernel

/-! ### The history of a session -/

/-- A session starts with an empty history, or one that a file has been loaded into. -/
theorem Session.start_calls (e : Environment) (m : Machine) :
    ∃ calls, (Session.start e m).history = History.empty.after calls := by
  change ∃ calls, Session.recalledHistory e m = History.empty.after calls
  rw [Session.recalledHistory]
  split
  · exact ⟨[], rfl⟩
  · rename_i path _
    split
    · refine ⟨[(m, .load path)], ?_⟩
      rw [History.after, HistoryCall.perform]
      cases History.empty.load m path with
      | error e => rfl
      | ok loaded => rfl
    · exact ⟨[], rfl⟩

theorem Session.Acted.calls {c : Command} {m : Machine} {s t : Session} (h : s.Acted c m t) :
    ∃ calls, t.history = s.history.after calls := by
  rcases h.appended with happended | ⟨file, n, -, hflush⟩
  · have ht : t.history = ⟨t.history.entries, t.history.appended⟩ := rfl
    rcases h.entries with hentries | ⟨file, text, -, hread, hentries⟩
    · refine ⟨[], ?_⟩
      rw [ht, hentries, happended]
      rfl
    · refine ⟨[(m, .load (s.env.fromHere file))], ?_⟩
      rw [ht, hentries, happended, History.after, HistoryCall.perform, History.load, hread]
      rfl
  · refine ⟨[(m, .flush (s.env.fromHere file))], ?_⟩
    rw [History.after, HistoryCall.perform]
    rcases hanswer : s.history.flush m (s.env.fromHere file) with ⟨r, m'⟩
    rw [hanswer] at hflush
    dsimp only at hflush
    rw [hflush]
    rfl

theorem LineFrame.calls {line : String} {s t : Session} (h : LineFrame line s t) :
    ∃ calls, t.history = s.history.after calls := by
  have hkept (hk : s.Kept t) : ∃ calls, t.history = s.history.after calls := ⟨[], hk.history⟩
  cases hread : parseLine line with
  | error e => exact hkept (h.unread e hread)
  | ok cs =>
    match cs, hread with
    | [], hread => exact hkept (h.piped [] hread nofun)
    | [c], hread => exact (h.alone c hread).calls
    | c :: c' :: rest, hread => exact hkept (h.piped (c :: c' :: rest) hread nofun)

/-- Whatever is done in a session, its history has only been used by calls. -/
theorem Session.Course.calls {load : Loader} {s t : Session} {submitted : List String}
    (h : s.Course load submitted t) : ∃ calls, t.history = s.history.after calls := by
  induction h with
  | start => exact ⟨[], rfl⟩
  | @submit _ t line _ ih =>
    obtain ⟨calls, hcalls⟩ := ih
    obtain ⟨calls', hline⟩ := LineFrame.calls (Session.submit_lineFrame load line t)
    have hrecord : ∃ recording, (t.record line).history = t.history.after recording := by
      rw [Session.record]
      split
      · exact ⟨[], rfl⟩
      · exact ⟨[(t.machine, .record line)], rfl⟩
    obtain ⟨recording, hrecorded⟩ := hrecord
    refine ⟨calls ++ recording ++ calls', ?_⟩
    rw [History.after_append, History.after_append, ← hcalls, ← hrecorded, ← hline]
  | @perform _ t line _ ih =>
    obtain ⟨calls, hcalls⟩ := ih
    obtain ⟨calls', hline⟩ := LineFrame.calls (Session.perform_lineFrame load line t)
    refine ⟨calls ++ calls', ?_⟩
    rw [History.after_append, ← hcalls, ← hline]
  | elsewhere m _ ih => exact ih

end LineShell
