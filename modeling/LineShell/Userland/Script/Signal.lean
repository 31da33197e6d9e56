import LineShell.Process
import LineShell.Userland.Script.Pattern
/-!
    Signals: their numbers, the names that scripts give them, and what is said about a program that
    one of them has ended. -/

namespace LineShell.Script

/-- A signal by its number. Zero stands for the end of a script. -/
abbrev Signal := Nat

/-- The first number that is no signal. -/
def signalLimit : Nat := 65

/-- The names of the signals from the first one on; those without a name go by their number. -/
def signalNames : List String :=
  ["HUP", "INT", "QUIT", "ILL", "TRAP", "ABRT", "BUS", "FPE", "KILL", "USR1", "SEGV", "USR2",
   "PIPE", "ALRM", "TERM", "16", "CHLD", "CONT", "STOP", "TSTP", "TTIN", "TTOU", "URG", "XCPU",
   "XFSZ", "VTALRM", "PROF", "WINCH", "IO", "PWR", "SYS", "32", "33", "RTMIN"] ++
  (List.range 15).map (fun k => "RTMIN+" ++ toString (k + 1)) ++
  (List.range 14).map (fun k => "RTMAX-" ++ toString (14 - k)) ++ ["RTMAX"]

/-- The name of a signal. -/
def Signal.name (s : Signal) : String :=
  if s = 0 then "EXIT" else signalNames.getD (s - 1) (toString s)

/-- The signal that a name or a number means, from a first one on. -/
def Signal.ofText? (first : Nat) (t : Text) : Option Signal :=
  if t ≠ [] ∧ t.all Char.isDigit then
    let n := t.foldl (fun n c => 10 * n + (c.toNat - '0'.toNat)) 0
    if n < signalLimit then some n else none
  else
    let upper := t.map Char.toUpper
    (List.range signalLimit).find? fun s => first ≤ s && upper = (Signal.name s).toList

/-- The signals that a process takes in any case. -/
def firmSignals : List Signal := [killSignal, stopSignal]

/-- The signal of a process that reaches for memory it does not have. -/
def segmentSignal : Signal := 11

/-- The signal that asks a process to end. -/
def terminateSignal : Signal := 15

/-- The signal for an interrupt. -/
def interruptSignal : Signal := 2

/-- The signal that asks a process to end and to leave a trace of itself. -/
def quitSignal : Signal := 3

/-- Whether a process goes on if it does nothing about the signal. -/
def Signal.isHarmless (s : Signal) : Bool := s ∈ [17, 18, 19, 20, 21, 22, 23, 28]

/-- What the signals from the first one on mean. -/
def signalMeanings : List String :=
  ["Hangup", "Interrupt", "Quit", "Illegal instruction", "Trace/breakpoint trap", "Aborted",
   "Bus error", "Floating point exception", "Killed", "User defined signal 1",
   "Segmentation fault", "User defined signal 2", "Broken pipe", "Alarm clock", "Terminated",
   "Stack fault", "Child exited", "Continued", "Stopped (signal)", "Stopped",
   "Stopped (tty input)", "Stopped (tty output)", "Urgent I/O condition",
   "CPU time limit exceeded", "File size limit exceeded", "Virtual timer expired",
   "Profiling timer expired", "Window changed", "I/O possible", "Power failure",
   "Bad system call"]

/-- What a signal means. -/
def Signal.meaning (s : Signal) : String :=
  if 34 ≤ s then "Real-time signal " ++ toString (s - 34)
  else signalMeanings.getD (s - 1) ("Unknown signal " ++ toString s)

/-- What a shell says about a program that it has waited for and that a signal has ended. -/
def Signal.report? (s : Signal) : Option String :=
  if s = 0 ∨ s = interruptSignal ∨ s = 13 then none else some s.meaning

end LineShell.Script
