import LineShell.Environment
import LineShell.Line.Command
import LineShell.Text.Octet
/-!
    Programs that are started: what one is started with, and what it does.

    How executables behave is a parameter (`Loader`): loading one either fails or gives a behaviour,
    which says for every input what the program writes, how much of its input it takes, what becomes
    of the files and how it ends. A program cannot be loaded with U+0000 among its arguments or
    variables, or in a directory that is not there or that it may not search. -/

namespace LineShell

/-- How a program ended, as the system encodes it in 32 bits. -/
abbrev WaitStatus := Int32

namespace WaitStatus

/-- The part of a status that says which signal ended the program. -/
def signalBits (status : WaitStatus) : Nat := status.toUInt32.toNat % 128

/-- The exit code of a status: the code that the program gave if it gave one, 128 and the signal's
    number if a signal ended it, -1 if it has not ended. -/
def code (status : WaitStatus) : Int :=
  if status.signalBits = 0 then status.toUInt32.toNat / 256 % 256
  else if status.signalBits = 127 then -1
  else 128 + status.signalBits

/-- The status of a program that gave an exit code. -/
def exited (code : Nat) : WaitStatus := Int32.ofNat (code % 256 * 256)

/-- The status of a program that a signal ended. -/
def signaled (number : Nat) : WaitStatus := Int32.ofNat (number % 128)

end WaitStatus

/-- The signal that ends a program which writes where nobody reads. -/
def brokenPipeSignal : Nat := 13

/-- The signal that ends a program in any case. -/
def killSignal : Nat := 9

/-- The signal that stops a program in any case. -/
def stopSignal : Nat := 19

/-- The exit code of a command that was not found. -/
def unknownCode : Int := 127

/-- The exit code of a command that was found and could not be started. -/
def cannotStartCode : Int := 126

/-- The variables that a program is started with. -/
abbrev RawVars := List (Text × Text)

/-- The signals that a program never sees: those that it ignores, and those that are held back from
    it. -/
structure SignalMask where
  ignored : List Nat
  blocked : List Nat
  deriving DecidableEq, Repr

namespace SignalMask

/-- Every signal is seen. -/
def clear : SignalMask := ⟨[], []⟩

/-- More signals are ignored, apart from those that are seen in any case. -/
def ignoring (m : SignalMask) (numbers : List Nat) : SignalMask :=
  { m with ignored := m.ignored ++ numbers.filter fun n =>
      !m.ignored.contains n && n ≠ killSignal && n ≠ stopSignal }

/-- Whether a signal is not seen. -/
def hides (m : SignalMask) (number : Nat) : Bool :=
  m.ignored.contains number || m.blocked.contains number

end SignalMask

/-- What a program is started with. -/
structure Launch where
  /-- The path of the executable. -/
  path : Text
  /-- The name that it was called by. -/
  name : Text
  args : List Text
  vars : RawVars
  /-- The path of the directory that it works in. -/
  dir : String
  signals : SignalMask
  deriving DecidableEq, Repr

/-- Whether anything that is handed to the program holds U+0000. -/
def Launch.holdsNul (l : Launch) : Bool :=
  (l.path :: l.name :: l.args ++ l.vars.flatMap fun v => [v.1, v.2]).any fun t => '\x00' ∈ t

/-- What becomes of what a program writes on a channel. -/
inductive Outlet where
  /-- It is taken. -/
  | stream
  /-- It goes to the regular file at a place. -/
  | file (p : Place)
  /-- It is refused, as if no space were left. -/
  | full
  /-- It goes into a pipe, whose reader goes away after so many bytes more. -/
  | pipe (room : Nat)
  /-- It is closed. -/
  | closed
  deriving DecidableEq, Repr

/-! ### Room in pipes

What is written into a pipe is cut off after so many bytes, which stands for a reader that goes
away. Where a reader would have wanted more, it is all done again with more room. -/

/-- How many bytes are written into a pipe at first. -/
def firstRoom : Nat := 65536

/-- How many more bytes are written when that was too little. -/
def widened (room : Nat) : Nat := 8 * room

/-- How often more bytes are written. -/
def widenings : Nat := 3

/-- The largest number of bytes that a pipe takes. -/
def largestRoom : Nat := Nat.pow 2 25

/-- What a program reads from. -/
inductive Inlet where
  /-- A regular file, of which so many bytes have been read before; its place is known if the file
      is one of those that programs can name. -/
  | file (p : Option Place) (before : Nat)
  | stream
  /-- A directory, which cannot be read. -/
  | directory
  /-- Something that is open for writing only. -/
  | writeOnly
  | closed
  deriving DecidableEq, Repr

/-- What becomes of what is written after some bytes have been. -/
def Outlet.after (o : Outlet) (bytes : Bytes) : Outlet :=
  match o with
  | .pipe room => .pipe (room - bytes.length)
  | o => o

/-- As many of some bytes as can be written. -/
def Outlet.accepted (o : Outlet) (bytes : Bytes) : Bytes :=
  match o with
  | .pipe room => if bytes.length ≤ room then bytes else bytes.take room
  | _ => bytes

/-- Where a program reads after so many bytes more have been read. -/
def Inlet.after (i : Inlet) (count : Nat) : Inlet :=
  match i with
  | .file p before => .file p (before + count)
  | i => i

/-- Whether a program reads from a regular file. -/
def Inlet.isFile : Inlet → Bool
  | .file _ _ => true
  | _ => false

/-- What a program can see of its own streams. -/
structure Streams where
  /-- What it can read. -/
  input : Bytes
  inlet : Inlet
  output : Outlet
  error : Outlet
  deriving DecidableEq, Repr

/-- What a program does. -/
structure Execution where
  /-- What it writes, in order. -/
  writes : List (Channel × Bytes)
  /-- How many bytes of its input it takes. -/
  taken : Nat
  tree : FileTree
  status : WaitStatus

/-- What a loaded program does with its streams and the files. -/
abbrev Behaviour := Streams → FileTree → Execution

/-- How executables are loaded: in a directory, among the files, to a behaviour. -/
abbrev Loader := Launch → Seat → FileTree → Except Fault Behaviour

/-- Loads the program of a launch on a machine. -/
def Launch.load (l : Launch) (load : Loader) (m : Machine) : Except Fault Behaviour :=
  if l.holdsNul then .error .nulInArgument
  else match m.tree.enterDirectory m.workDir l.dir with
    | .error f => .error f
    | .ok dir => load l dir m.tree

end LineShell
