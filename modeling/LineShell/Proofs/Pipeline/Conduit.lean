import LineShell.Process
/-!
    The way of bytes from a stage of a pipeline to the next.

    A conduit is what lies between the source, which puts bytes out, and the program of the next
    stage, which reads them: what is left at the source, what the pump that copies carries, and what
    is in the pipe that is the program's standard input. Everybody acts when it likes, in pieces of
    any size, and the program may close its input early. Whatever is done, what has been read and
    what is on the way, one after the other, is what has been put out (`step_onWay`), and the pump
    only stops once there is nothing more to come or nobody to read it (`Fed.step`). -/

namespace LineShell

/-- Who holds the end at which the output of a source is taken. -/
inductive Holder where
  /-- The shell, which has not started the next stage. -/
  | shell
  /-- A pump, which holds the writing end of the program's standard input, too. -/
  | pump
  | nobody
  deriving DecidableEq, Repr

/-- What lies between a stage and the next. -/
structure Conduit where
  /-- What the source has put out and nobody has taken. -/
  left : Bytes
  /-- Whether the source may put out more. -/
  growing : Bool
  holder : Holder
  /-- What the pump has taken and not yet written. -/
  carried : Bytes
  /-- What is in the pipe to the program. -/
  pipe : Bytes
  /-- Whether the program has its end of the pipe open. -/
  reading : Bool
  deriving DecidableEq, Repr

/-- What is done along a conduit. -/
inductive Act where
  /-- The source puts out bytes. -/
  | write (bytes : Bytes)
  /-- The last writing end of the source is closed. -/
  | shut
  /-- The pump takes a chunk, of any size. -/
  | take (chunk : Bytes)
  /-- The pump writes some of what it carries. -/
  | pass (part : Bytes)
  /-- The pump finds the end of the source and closes the program's input. -/
  | finish
  /-- The pump cannot write, since nobody reads, and closes both. -/
  | giveUp
  /-- The program reads. -/
  | read (part : Bytes)
  /-- The program closes its input. -/
  | leave
  deriving DecidableEq, Repr

namespace Act

/-- What the source puts out. -/
def given : Act → Bytes
  | write bytes => bytes
  | _ => []

/-- What the program reads. -/
def got : Act → Bytes
  | read part => part
  | _ => []

end Act

/-- All that a source puts out. -/
def givenIn (acts : List Act) : Bytes := acts.flatMap Act.given

/-- All that a program reads. -/
def gotIn (acts : List Act) : Bytes := acts.flatMap Act.got

theorem givenIn_append (acts more : List Act) :
    givenIn (acts ++ more) = givenIn acts ++ givenIn more :=
  List.flatMap_append

theorem gotIn_append (acts more : List Act) : gotIn (acts ++ more) = gotIn acts ++ gotIn more :=
  List.flatMap_append

theorem givenIn_concat (acts : List Act) (a : Act) :
    givenIn (acts ++ [a]) = givenIn acts ++ a.given := by
  rw [givenIn_append]
  exact congrArg _ (List.flatMap_singleton _ _)

theorem gotIn_concat (acts : List Act) (a : Act) : gotIn (acts ++ [a]) = gotIn acts ++ a.got := by
  rw [gotIn_append]
  exact congrArg _ (List.flatMap_singleton _ _)

namespace Conduit

/-- No conduit: nothing comes, and nobody is there to take it. -/
def none : Conduit := ⟨[], false, .nobody, [], [], false⟩

/-- What the next act makes of a conduit, if it can be done. -/
def step (c : Conduit) : Act → Option Conduit
  | .write bytes =>
    if c.growing ∧ c.holder ≠ .nobody then some { c with left := c.left ++ bytes } else .none
  | .shut => if c.growing then some { c with growing := false } else .none
  | .take chunk =>
    if c.holder = .pump ∧ c.carried = [] ∧ chunk ≠ [] ∧ chunk <+: c.left then
      some { c with carried := chunk, left := c.left.drop chunk.length }
    else .none
  | .pass part =>
    if c.holder = .pump ∧ c.reading ∧ part <+: c.carried then
      some { c with carried := c.carried.drop part.length, pipe := c.pipe ++ part }
    else .none
  | .finish =>
    if c.holder = .pump ∧ c.carried = [] ∧ c.left = [] ∧ ¬ c.growing then
      some { c with holder := .nobody }
    else .none
  | .giveUp =>
    if c.holder = .pump ∧ c.carried ≠ [] ∧ ¬ c.reading then some { c with holder := .nobody }
    else .none
  | .read part =>
    if c.reading ∧ part <+: c.pipe then some { c with pipe := c.pipe.drop part.length } else .none
  | .leave => if c.reading then some { c with reading := false } else .none

/-- What a number of acts make of a conduit. -/
def play : List Act → Conduit → Option Conduit
  | [], c => some c
  | a :: acts, c => (c.step a).bind (play acts)

/-- What is on the way, from the program back to the source. -/
def onWay (c : Conduit) : Bytes := c.pipe ++ c.carried ++ c.left

variable {c c' : Conduit} {a : Act} {acts : List Act}

theorem append_drop_of_prefix {part bytes : Bytes} (h : part <+: bytes) :
    part ++ bytes.drop part.length = bytes := by
  obtain ⟨rest, rfl⟩ := h
  rw [List.drop_left]

/-- What is read comes from the front of what is on the way, what is put out comes to its end, and
    nothing else changes it. -/
theorem step_onWay (h : c.step a = some c') : a.got ++ c'.onWay = c.onWay ++ a.given := by
  cases a <;> simp only [step, Option.ite_none_right_eq_some, Option.some.injEq] at h <;>
    obtain ⟨hable, rfl⟩ := h
  case write bytes => simp [Act.got, Act.given, onWay]
  case take chunk =>
    obtain ⟨-, hcarried, -, hchunk⟩ := hable
    simp [Act.got, Act.given, onWay, hcarried, append_drop_of_prefix hchunk]
  case pass part =>
    have hpart := append_drop_of_prefix hable.2.2
    simp only [Act.got, Act.given, onWay, List.nil_append, List.append_nil, List.append_assoc]
    rw [← List.append_assoc part, hpart]
  case read part =>
    have hpart := append_drop_of_prefix hable.2
    simp only [Act.got, Act.given, onWay, List.append_nil]
    rw [← List.append_assoc, ← List.append_assoc, hpart]
  all_goals simp [Act.got, Act.given, onWay]

theorem none_step (a : Act) : none.step a = .none := by
  cases a <;> rfl

theorem none_play (h : none.play acts = some c) :
    c = none ∧ acts = [] := by
  cases acts with
  | nil => exact ⟨(Option.some.inj h).symm, rfl⟩
  | cons a acts =>
    rw [play, none_step] at h
    cases h

/-- A pump that has stopped does not start again. -/
theorem holder_of_step (hholder : c.holder ≠ .pump)
    (h : c.step a = some c') : c'.holder ≠ .pump := by
  cases a <;> simp only [step, Option.ite_none_right_eq_some, Option.some.injEq] at h <;>
    obtain ⟨hable, rfl⟩ := h
  case take | pass | finish | giveUp => exact absurd hable.1 hholder
  all_goals exact hholder

/-! ### A source that is not a program -/

/-- A source that puts out no more does not start again. -/
theorem step_of_still (hstill : c.growing = false) (h : c.step a = some c') :
    c'.growing = false ∧ a.given = [] := by
  cases a <;> simp only [step, Option.ite_none_right_eq_some, Option.some.injEq] at h <;>
    obtain ⟨hable, rfl⟩ := h
  case write bytes =>
    rw [hstill] at hable
    cases hable.1
  case shut => exact ⟨rfl, rfl⟩
  all_goals exact ⟨hstill, rfl⟩

/-! ### A program that reads, and one that does not -/

/-- Nothing goes to a program. -/
structure Idle (c : Conduit) : Prop where
  holder : c.holder ≠ .pump
  carried : c.carried = []
  pipe : c.pipe = []
  reading : c.reading = false

theorem Idle.step (hidle : c.Idle) (h : c.step a = some c') :
    c'.Idle ∧ a.got = [] := by
  obtain ⟨hholder, hcarried, hpipe, hreading⟩ := hidle
  cases a <;> simp only [Conduit.step, Option.ite_none_right_eq_some, Option.some.injEq] at h <;>
    obtain ⟨hable, rfl⟩ := h
  case write | shut => exact ⟨⟨hholder, hcarried, hpipe, hreading⟩, rfl⟩
  case take | pass | finish | giveUp => exact absurd hable.1 hholder
  case read =>
    rw [hreading] at hable
    cases hable.1
  case leave =>
    rw [hreading] at hable
    cases hable

/-- All that the source has to give has been passed on. -/
def Exhausted (c : Conduit) : Prop := c.left = [] ∧ c.carried = [] ∧ c.growing = false

/-- A pump has been set to work for a program, and these acts have been done. -/
structure Fed (acts : List Act) (c : Conduit) : Prop where
  holder : c.holder ≠ .shell
  /-- Only the program closes its end. -/
  reading : c.reading = false → .leave ∈ acts
  /-- Only then, or at the end of the source, does the pump close the other. -/
  closed : c.holder = .nobody → c.Exhausted ∨ .leave ∈ acts

theorem Fed.step (hfed : c.Fed acts) (h : c.step a = some c') : c'.Fed (acts ++ [a]) := by
  obtain ⟨hholder, hreading, hclosed⟩ := hfed
  have hmem {b : Act} (hb : b ∈ acts) : b ∈ acts ++ [a] := List.mem_append_left _ hb
  cases a <;> simp only [Conduit.step, Option.ite_none_right_eq_some, Option.some.injEq] at h <;>
    obtain ⟨hable, rfl⟩ := h
  case write bytes =>
    refine ⟨hholder, fun hr => hmem (hreading hr), fun hnobody => ?_⟩
    exact absurd hnobody hable.2
  case shut =>
    refine ⟨hholder, fun hr => hmem (hreading hr), fun hnobody => ?_⟩
    exact (hclosed hnobody).imp (fun hex => ⟨hex.1, hex.2.1, rfl⟩) hmem
  case take chunk =>
    refine ⟨hholder, fun hr => hmem (hreading hr), fun hnobody => ?_⟩
    exact absurd (hable.1.symm.trans hnobody) nofun
  case pass part =>
    refine ⟨hholder, fun hr => hmem (hreading hr), fun hnobody => ?_⟩
    exact absurd (hable.1.symm.trans hnobody) nofun
  case finish =>
    obtain ⟨-, hcarried, hleft, hgrowing⟩ := hable
    refine ⟨nofun, fun hr => hmem (hreading hr), fun _ => .inl ⟨hleft, hcarried, ?_⟩⟩
    exact Bool.eq_false_iff.mpr hgrowing
  case giveUp =>
    have hleave := hmem (hreading (Bool.eq_false_iff.mpr hable.2.2))
    exact ⟨nofun, fun _ => hleave, fun _ => .inr hleave⟩
  case read part =>
    exact ⟨hholder, fun hr => hmem (hreading hr), fun hnobody => (hclosed hnobody).imp_right hmem⟩
  case leave =>
    have hleave : Act.leave ∈ acts ++ [.leave] := List.mem_concat_self
    exact ⟨hholder, fun _ => hleave, fun _ => .inr hleave⟩

/-- A program that closes its input early makes the pump stop with a byte that nobody reads. -/
example :
    play [.write [1, 2, 3], .take [1, 2], .pass [1], .read [1], .leave, .giveUp]
      ⟨[], true, .pump, [], [], true⟩ = some ⟨[3], true, .nobody, [2], [], false⟩ := by
  decide

end Conduit

end LineShell
