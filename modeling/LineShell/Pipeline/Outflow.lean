import LineShell.Process
/-!
    Where what a program writes goes: to the shell's own channel, to a file, or into a pipe that
    keeps it for its reader.

    A program's writes are delivered one after the other, so two channels that end in one place
    receive them in the order in which they were written. -/

namespace LineShell

/-- Where a channel of a program goes. -/
inductive Outflow where
  /-- The same channel of the shell's own process. -/
  | shell
  | file (f : OpenFile)
  /-- A pipe, with all that has been written to it. -/
  | pipe (written : Bytes)
  deriving DecidableEq, Repr

/-- The sink that a redirection gives, or another one if there is none. -/
def Outflow.ofRedirect (redirect : Option OpenFile) (other : Outflow) : Outflow :=
  match redirect with
  | some f => .file f
  | none => other

/-- What a pipe holds; nothing for the other sinks. -/
def Outflow.held : Outflow → Bytes
  | .pipe written => written
  | _ => []

/-- The machine after bytes on a channel of the shell's own process. -/
def Machine.receive (m : Machine) (channel : Channel) (bytes : Bytes) : Machine :=
  match channel with
  | .output => { m with output := m.output ++ bytes }
  | .error  => { m with diagnostics := m.diagnostics ++ bytes }

/-- One write to a sink. -/
def Outflow.write (channel : Channel) (bytes : Bytes) : Outflow → Machine → Outflow × Machine
  | .shell, m => (.shell, m.receive channel bytes)
  | .file f, m => let (f, m) := m.writeOpen f bytes; (.file f, m)
  | .pipe written, m => (.pipe (written ++ bytes), m)

/-- What a program notices of a sink. -/
def Outflow.outlet (m : Machine) : Outflow → Outlet
  | .file f => match m.tree.get? f.place with
    | some (.file _ _) => .file f.place
    | some (.device .full) => .full
    | _ => .stream
  | _ => .stream

/-- Where the two channels of a program go. -/
structure Outflows where
  output : Outflow
  error : Outflow
  deriving DecidableEq, Repr

/-- One write to a channel. -/
def Outflows.write (channel : Channel) (bytes : Bytes) (k : Outflows) (m : Machine) :
    Outflows × Machine :=
  match channel with
  | .output => let (output, m) := k.output.write channel bytes m; ({ k with output }, m)
  | .error  => let (error, m) := k.error.write channel bytes m; ({ k with error }, m)

/-- All that a program writes, in order. -/
def Outflows.deliver : Outflows → List (Channel × Bytes) → Machine → Outflows × Machine
  | k, [], m => (k, m)
  | k, (channel, bytes) :: rest, m =>
    let (k, m) := k.write channel bytes m
    k.deliver rest m

end LineShell
