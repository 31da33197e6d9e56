import LineShell.Userland.Programs.Call
import LineShell.Userland.Script.Signal
import LineShell.Text.Numeral
/-!
    Signals that a program is to ignore or not to see.

    Options say which signals the program that is started ignores, which it takes as usual, and
    which are held back from it. Two signals can be neither ignored nor held back. -/

namespace LineShell

open Script (Signal firmSignals)

/-- The name of a signal as `env` writes it, if there is such a signal. -/
def signalName? (number : Nat) : Option Text :=
  if number = 0 then some "EXIT"
  else if number = 16 then some "STKFLT"
  else if number = 29 then some "POLL"
  else if number = 32 ∨ number = 33 ∨ 64 < number then none
  else some (Signal.name number)

/-- Other names of signals. -/
def signalAliases : List (String × Nat) := [("IO", 29), ("IOT", 6), ("CLD", 17), ("16", 16)]

/-- The signal that a name or a number means. -/
def signalOfName? (text : Text) : Option Nat :=
  let named (name : Text) : Option Nat :=
    ((List.range 65).find? fun n => signalName? n = some name).orElse fun _ =>
      (signalAliases.find? (·.1.toList = name)).map (·.2)
  if text.head?.any Char.isDigit then
    let number := (digitsValue? text).map fun n => if 0xFF ≤ n then n % 256 else n % 128
    number.filter fun n => (signalName? n).isSome
  else
    let upper := text.map Char.toUpper
    (named upper).orElse fun _ => match upper with
      | 'S' :: 'I' :: 'G' :: rest => named rest
      | _ => none

/-- What is to be done about a signal. -/
inductive SignalAction where
  | ignore | default
  deriving DecidableEq

/-- What options say about signals. -/
structure SignalPlan where
  /-- What is to be done about signals, and whether it matters if it cannot be done. -/
  actions : List (Nat × SignalAction × Bool)
  /-- Which signals are to be held back or let through. -/
  holds : List (Nat × Bool)

namespace SignalPlan

/-- Nothing is said. -/
def none : SignalPlan := ⟨[], []⟩

/-- The signals that there are. -/
def allSignals : List Nat := (List.range 65).filter fun n => n ≠ 0 && (signalName? n).isSome

/-- Entries with one more put before those that are about something else. -/
def put {α : Type} (all : List (Nat × α)) (number : Nat) (value : α) : List (Nat × α) :=
  (number, value) :: all.filter (·.1 ≠ number)

/-- The signals that the value of an option lists, or the first word in it that means none. -/
def readList (value : Text) : Except Text (List Nat) :=
  let words := (cut ',' value).filter (· ≠ [])
  words.mapM fun word => match (signalOfName? word).filter (· ≠ 0) with
    | some n => .ok n
    | Option.none => .error word

/-- The plan after something has been said about signals; `firmly` says that it matters if it cannot
    be done. -/
def changeFor (p : SignalPlan) (name : String) (firmly : Bool) (numbers : List Nat) : SignalPlan :=
  let act (action : SignalAction) : List (Nat × SignalAction × Bool) :=
    numbers.foldl (fun all n => put all n (action, firmly)) p.actions
  let hold (held : Bool) : List (Nat × Bool) := numbers.foldl (fun all n => put all n held) p.holds
  match name with
  | "ignore-signal" => ⟨act .ignore, p.holds⟩
  | "default-signal" => ⟨act .default, hold false⟩
  | _ => ⟨p.actions, hold true⟩

/-- The plan after one more option, or the word in its value that means no signal. Without a value
    it is about all signals. -/
def change (p : SignalPlan) (name : String) (value : Text) : Except Text SignalPlan :=
  match name with
  | "ignore-signal" | "default-signal" | "block-signal" =>
    .ok (p.changeFor name false allSignals)
  | "ignore-signal=" => (readList value).map (p.changeFor "ignore-signal" true)
  | "default-signal=" => (readList value).map (p.changeFor "default-signal" true)
  | "block-signal=" => (readList value).map (p.changeFor "block-signal" true)
  | _ => .ok p

/-- The plan of options. -/
def ofOptions (o : Options) : Except Text SignalPlan :=
  o.given.foldlM (fun p e => p.change e.1 e.2) none

/-- The signal for which what is to be done cannot be done. -/
def fault? (p : SignalPlan) : Option Nat :=
  firmSignals.find? fun n => (p.actions.lookup n).any (·.2)

/-- The signals that a program does not see that is started by the plan. -/
def apply (p : SignalPlan) (m : SignalMask) : SignalMask :=
  let ignored (n : Nat) : Bool := match p.actions.lookup n with
    | some (action, _) => action = .ignore
    | Option.none => m.ignored.contains n
  let blocked (n : Nat) : Bool := (p.holds.lookup n).getD (m.blocked.contains n)
  let free := allSignals.filter (!firmSignals.contains ·)
  ⟨free.filter ignored, free.filter blocked⟩

/-- What is noted about the plan, up to the signal for which it cannot be done. -/
def notes (p : SignalPlan) : List Text :=
  let shown (n : Nat) : Text := (signalName? n).getD [] ++ " (" ++ Text.ofNat n ++ ")"
  let action (n : Nat) : Option Text := (p.actions.lookup n).map fun (action, _) =>
    "Reset signal " ++ shown n ++ " to "
      ++ (if action = .ignore then "IGNORE".toList else "DEFAULT")
      ++ if firmSignals.contains n then " (failure ignored)" else ""
  let hold (n : Nat) : Option Text := (p.holds.lookup n).map fun held =>
    "signal " ++ shown n ++ " mask set to " ++ if held then "BLOCK".toList else "UNBLOCK"
  match p.fault? with
  | some n => (allSignals.takeWhile (· ≠ n)).filterMap action
  | Option.none => allSignals.filterMap action ++ allSignals.filterMap hold

/-- A list of the signals that a program does not see. -/
def listing (m : SignalMask) : List Text :=
  allSignals.filterMap fun n =>
    let words := (if m.blocked.contains n then ["BLOCK".toList] else [])
      ++ (if m.ignored.contains n then ["IGNORE".toList] else [])
    let name := (signalName? n).getD []
    let number := Text.ofNat n
    if words = [] then Option.none
    else some (name ++ List.replicate (10 - name.length) ' ' ++ " ("
      ++ List.replicate (2 - number.length) ' ' ++ number ++ "): "
      ++ [','].intercalate words)

end SignalPlan

end LineShell
