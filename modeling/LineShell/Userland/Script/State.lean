import LineShell.Process
import LineShell.Userland.Script.Arithmetic
import LineShell.Userland.Script.Command
import LineShell.Userland.Script.Signal
/-!
    What a script acts on.

    Every process of a script has a scope of its own: variables, functions, options, descriptors.
    A subshell starts with a copy of its parent's scope and leaves that one alone. Files, open
    streams and what has been written are shared by all of them (`State`). Descriptors that were
    duplicated from each other share one stream, so what is read or written by one of them counts
    for the other.

    A script that is running either goes on or stops for a reason (`Stop`). -/

namespace LineShell.Script

/-- What descriptors are open on. -/
inductive Stream where
  /-- Something to read that is used up by reading. -/
  | source (rest : Bytes) (inlet : Inlet)
  /-- A channel of the script's own process. -/
  | own (channel : Channel)
  | file (f : OpenFile) (readable writable : Bool)
  | directory
  /-- What has been written to a pipe, the latest first, and how many bytes more its reader
      wants. -/
  | pipe (chunks : List Bytes) (room : Nat)

/-- A variable; it may be known without having a value. -/
structure Variable where
  value : Option Text
  exported : Bool
  readOnly : Bool

/-- Why the commands that come next are left out. -/
inductive Skip where
  /-- So many loops are left; the last of them goes on if `again` says so. -/
  | loops (count : Nat) (again : Bool)
  /-- The function, or the file that is being read, is left. -/
  | function
  deriving DecidableEq

/-- What one process of a script knows. -/
structure Scope where
  /-- The name that the script goes by. -/
  name : Text
  args : List Text
  vars : List (Text × Variable)
  functions : List (Text × Cmd)
  aliases : List (Text × Text)
  /-- The letters of the options that are set. -/
  options : List Char
  /-- The stream that each open descriptor leads to. -/
  descriptors : List (Nat × Nat)
  dir : Seat
  /-- The path of the directory as it was reached. -/
  logical : Text
  /-- What is done about signals; nothing at all for an empty text. -/
  traps : List (Signal × Text)
  /-- The signals that the process never sees, whatever is to be done about them. -/
  hidden : SignalMask
  documents : List (Nat × Word)
  nextDocument : Nat
  /-- How many loops a command could leave, and what the innermost would end with. -/
  loops : Nat
  loopStatus : Nat
  skip : Option Skip
  /-- The variables that the running functions will give back, innermost first. -/
  frames : List (List (Text × Option Variable))
  /-- How many functions are running. -/
  depth : Nat
  /-- The builtin that is running. -/
  command : Option Text
  line : Nat
  /-- The line that is read next. -/
  nextLine : Nat
  status : Nat
  /-- What the last command substitution of the command ended with. -/
  substituted : Nat
  /-- The number of the process, and that of the process that the script was started as. -/
  process : Nat
  shell : Nat
  lastTask : Option Nat
  tasks : List Nat
  /-- The programs whose places are remembered, and whether the directory has changed since. -/
  tracked : List (Text × Bool)
  /-- The argument whose options are read next, and how far they have been read. -/
  optionIndex : Nat
  optionOffset : Option Nat
  mask : Nat

/-- A command that runs beside its shell. It is run when it is waited for. -/
structure Task where
  process : Nat
  scope : Scope
  body : Cmd
  outcome : Option WaitStatus
  /-- Whether it has been waited for. It cannot be signaled any more then. -/
  awaited : Bool

/-- What a process of a script acts on. -/
structure State extends Scope where
  tree : FileTree
  streams : Array Stream
  /-- What has been written to the process's own channels, the latest first. -/
  writes : List (Channel × Bytes)
  ownOutput : Outlet
  ownError : Outlet
  /-- What the running builtin has to say, the latest first, and whether saying it failed. -/
  said : List Text
  failed : Bool
  pending : List Task
  nextProcess : Nat
  /-- The signals that processes have still to see. -/
  signals : List (Nat × Signal)

/-- Why a script stops. -/
inductive Stop where
  /-- An error that ends the shell, unless a command can take it. -/
  | failure
  /-- The end that was asked for. -/
  | exit
  | killed (signal : Signal)

/-- What a script does. -/
abbrev Action := EStateM Stop State

namespace State

/-- The stream of a descriptor. -/
def stream? (s : State) (fd : Nat) : Option Stream :=
  (s.descriptors.lookup fd).bind fun id => s.streams[id]?

/-- The state with the stream of a descriptor replaced. -/
def setStream (s : State) (fd : Nat) (stream : Stream) : State :=
  match s.descriptors.lookup fd with
  | some id => { s with streams := s.streams.setIfInBounds id stream }
  | none => s

/-- The state without a descriptor. -/
def close (s : State) (fd : Nat) : State :=
  { s with descriptors := s.descriptors.filter (·.1 ≠ fd) }

/-- What becomes of what is written on a channel of the process. -/
def ownOutlet (s : State) : Channel → Outlet
  | .output => s.ownOutput
  | .error => s.ownError

/-- What becomes of what is written to a descriptor. -/
def outlet (s : State) (fd : Nat) : Outlet :=
  match s.stream? fd with
  | some (.own channel) => s.ownOutlet channel
  | some (.file f _ true) => match s.tree.get? f.place with
    | some (.file _ _) => .file f.place
    | some (.device .full) => .full
    | _ => .stream
  | some (.pipe _ room) => .pipe room
  | _ => .closed

/-- The state after bytes have been written to a descriptor, as far as that is possible. -/
def deliver (s : State) (fd : Nat) (bytes : Bytes) : State :=
  match s.stream? fd with
  | some (.own channel) =>
    let bytes := (s.ownOutlet channel).accepted bytes
    let s := { s with writes := (channel, bytes) :: s.writes }
    match channel with
    | .output => { s with ownOutput := s.ownOutput.after bytes }
    | .error => { s with ownError := s.ownError.after bytes }
  | some (.file f readable true) =>
    let (f, tree) := s.tree.writeAnyway f bytes
    { s with tree }.setStream fd (.file f readable true)
  | some (.pipe chunks room) =>
    let bytes := Outlet.accepted (.pipe room) bytes
    s.setStream fd (.pipe (bytes :: chunks) (room - bytes.length))
  | _ => s

/-- What a descriptor has left to read, and where it comes from. -/
def readable (s : State) (fd : Nat) : Bytes × Inlet :=
  match s.stream? fd with
  | some (.source rest inlet) => (rest, inlet)
  | some (.file f true _) => match s.tree.get? f.place with
    | some (.file _ content) => (content.drop f.offset, .file (some f.place) f.offset)
    | _ => ([], .stream)
  | some .directory => ([], .directory)
  | some (.file _ false _) | some (.own _) | some (.pipe _ _) => ([], .writeOnly)
  | none => ([], .closed)

/-- The state after bytes have been taken from a descriptor. -/
def take (s : State) (fd count : Nat) : State :=
  match s.stream? fd with
  | some (.source rest inlet) => s.setStream fd (.source (rest.drop count) (inlet.after count))
  | some (.file f true writable) =>
    s.setStream fd (.file { f with offset := f.offset + count } true writable)
  | _ => s

/-- The value of a variable. -/
def get? (s : State) (name : Text) : Option Text := (s.vars.lookup name).bind (·.value)

/-- Whether an option is set. -/
def has (s : State) (option : Char) : Bool := s.options.contains option

/-- The state with what is known of a variable replaced, or the variable added at the end. -/
def setVariable (s : State) (name : Text) (v : Variable) : State :=
  if (s.vars.lookup name).isSome then
    { s with vars := s.vars.map fun e => if e.1 = name then (name, v) else e }
  else { s with vars := s.vars ++ [(name, v)] }

/-- The state without a variable. -/
def dropVariable (s : State) (name : Text) : State :=
  { s with vars := s.vars.filter (·.1 ≠ name) }

/-- The state after a variable has changed. The places of programs are forgotten with the path on
    which they have been found. -/
def afterChange (s : State) (name : Text) : State :=
  if name = "PATH".toList then { s with tracked := [] } else s

/-- The characters that separate fields. -/
def separators (s : State) : Text := (s.get? "IFS").getD " \t\n"

/-- The action of a trap. -/
def trap? (s : State) (signal : Signal) : Option Text := s.traps.lookup signal

/-- The signals that programs do not see which are started now. -/
def handedSignals (s : State) : SignalMask :=
  s.hidden.ignoring ((s.traps.filter fun e => e.2 = [] && e.1 ≠ 0).map (·.1))

/-- Whether something is to be done before the shell goes away. -/
def hasTraps (s : State) : Bool := s.traps.any (·.2 ≠ [])

/-- The place of a name among so many places. -/
def slot (size : Nat) (name : Text) : Nat :=
  ((name.headD '\x00').toNat * 16 + (name.map Char.toNat).foldl (· + ·) 0) % size

/-- Named things in the order of their places. -/
def inSlots {α : Type} (size : Nat) (named : List (Text × α)) : List (Text × α) :=
  (List.range size).flatMap fun k => named.filter fun e => slot size e.1 = k

/-- The variables that programs are started with. -/
def environment (s : State) : RawVars :=
  let exported := s.vars.filterMap fun (name, v) =>
    if v.exported then v.value.map fun value => (name, value) else none
  inSlots 39 exported

/-- The state with another scope. -/
def withScope (s : State) (scope : Scope) : State := { s with toScope := scope }

end State

/-! ### What scripts do -/

/-- Sets what a command ends with. -/
def setStatus (status : Nat) : Action Unit := modify fun s => { s with status }

/-- Stops the process as by a signal. -/
def die {α : Type} (signal : Signal) : Action α := throw (.killed signal)

/-- The shell gets the signal of a process that writes where nobody reads, which ends it unless
    something else is done about it. -/
def getBrokenPipe : Action Unit := do
  let s ← get
  if s.hidden.hides brokenPipeSignal then return
  match s.trap? brokenPipeSignal with
  | none => die brokenPipeSignal
  | some [] => return
  | some _ => set { s with signals := s.signals ++ [(s.process, brokenPipeSignal)] }

/-- The shell itself writes to a descriptor; whether that was possible. -/
def write (fd : Nat) (text : Text) : Action Bool := do
  if text = [] then return true
  let s ← get
  match s.outlet fd with
  | .pipe room =>
    let bytes := text.toBytes
    set (s.deliver fd bytes)
    if bytes.length ≤ room then return true
    getBrokenPipe
    return false
  | .full | .closed => return false
  | _ =>
    set (s.deliver fd text.toBytes)
    return true

/-- The shell writes a line about what went wrong. -/
def complain (text : Text) : Action Unit := do
  let s ← get
  let command : Text := match s.command with
    | some name => name ++ ": "
    | none => []
  let _ ← write 2 (s.name ++ ": " ++ Text.ofNat s.line ++ ": " ++ command ++ text ++ "\n")

/-- A builtin says something, which is written when it ends. -/
def say (text : Text) : Action Unit := modify fun s => { s with said := text :: s.said }

/-- Writes what the running builtin has said. -/
def flush : Action Unit := do
  let s ← get
  if s.said ≠ [] then
    set { s with said := [] }
    let written ← write 1 s.said.reverse.flatten
    if !written then modify fun s => { s with failed := true }

/-- An error that ends the shell, unless a command can take it. -/
def abortWith {α : Type} (status : Nat) (text : Text) : Action α := do
  complain text
  flush
  setStatus status
  throw .failure

/-- An error that ends the shell with the usual exit code. -/
def abort {α : Type} (text : Text) : Action α := abortWith 2 text

/-- A whole number in an argument, which may be negative. -/
def integer (t : Text) : Action Int :=
  match decimal? t with
  | some n => return n
  | none => abort ("Illegal number: " ++ t)

/-- A whole number in an argument. -/
def number (t : Text) : Action Nat := do
  let n ← integer t
  if 0 ≤ n ∧ n ≤ 2147483647 then return n.toNat else abort ("Illegal number: " ++ t)

/-- What is known of a variable, which must have the form of one. -/
def lookup (name : Text) : Action (Option Variable) := do
  if ¬ isName name then abort (name ++ ": bad variable name")
  return (← get).vars.lookup name

/-- Changes a variable, unless it is protected. -/
def changeVar (name : Text) (change : Variable → Variable) : Action Unit := do
  let old ← lookup name
  if old.any (·.readOnly) then abort (name ++ ": is read only")
  let s ← get
  set (s.setVariable name (change (old.getD ⟨none, s.has 'a', false⟩)))

/-- Sets a variable. -/
def setVar (name value : Text) (exporting : Bool) : Action Unit := do
  changeVar name fun v => { v with value := some value, exported := exporting || v.exported }
  modify (·.afterChange name)
  if name = "OPTIND".toList then
    let n ← number value
    modify fun s => { s with optionIndex := if n = 0 then 1 else n, optionOffset := none }

/-- Repeats a step as long as it asks for that, up to a bound beyond which a script never ends. -/
def repeatStep (step : Action Bool) : Nat → Action Unit
  | 0 => die brokenPipeSignal
  | n + 1 => do
    if ← step then repeatStep step n

/-- How often a step may be repeated. -/
def repeatLimit : Nat := 10000000000

/-- Neighbouring writes to one channel as one. The writes are given the latest first. -/
def mergeWrites : List (Channel × Bytes) → List (Channel × List Bytes) → List (Channel × Bytes)
  | [], merged => merged.map fun w => (w.1, w.2.flatten)
  | w :: ws, (channel, chunks) :: merged =>
    if w.1 = channel then mergeWrites ws ((channel, w.2 :: chunks) :: merged)
    else mergeWrites ws ((w.1, [w.2]) :: (channel, chunks) :: merged)
  | w :: ws, [] => mergeWrites ws [(w.1, [w.2])]

end LineShell.Script
