import LineShell.Session.Line
/-!
    A session that reads its lines from the standard input.

    A line editor makes lines of the input (`LineReader`). It reads all of it ahead, so the programs
    that are started find it at its end. The dialogue ends with the first line that ends the shell,
    with the input, or when the editor fails to read; the history is saved in each of these cases.
    An editor that breaks down ends the dialogue on the spot. -/

namespace LineShell

/-- What a line editor comes back with when it is asked for a line. -/
inductive TypedLine where
  | line (text : String)
  /-- What was typed has been given up. -/
  | interrupted
  /-- The line cannot be read. -/
  | failed (fault : Fault)
  /-- The editor has broken down. -/
  | broken
  deriving DecidableEq, Repr

/-- What a line editor makes of all that it can read, up to the end. -/
abbrev LineReader := Bytes → List TypedLine

/-- How a dialogue ends. -/
inductive Ending where
  /-- With the exit code of the last line. -/
  | finished (code : Int)
  | unreadable (fault : Fault)
  /-- On the spot, with nothing saved. -/
  | abandoned
  deriving DecidableEq, Repr

namespace Session

/-- The session after a reply has been written to the standard output and error. -/
def answer (r : Reply) (s : Session) : Session :=
  { s with machine := (s.machine.print r.output).complain r.error }

/-- Lines are accepted one after the other, with a prompt before each attempt to read one and before
    the end of the input; `code` is the exit code of the line before. -/
def converse (load : Loader) (prompt : String) :
    Int → List TypedLine → Session → Ending × Session
  | code, [], s => (.finished code, { s with machine := s.machine.print prompt })
  | code, .interrupted :: rest, s =>
    converse load prompt code rest { s with machine := s.machine.print prompt }
  | _, .failed fault :: _, s => (.unreadable fault, { s with machine := s.machine.print prompt })
  | _, .broken :: _, s => (.abandoned, { s with machine := s.machine.print prompt })
  | _, .line line :: rest, s =>
    let (reply, s) := submit load line { s with machine := s.machine.print prompt }
    let s := s.answer reply
    if s.env.closing then (.finished reply.code, s)
    else converse load prompt reply.code rest s

/-- Reads lines to the end and saves the history. -/
def dialogue (load : Loader) (read : LineReader) (prompt : String) (s : Session) :
    Ending × Session :=
  let lines := read s.machine.input
  let drained := { s with machine := s.machine.readInput s.machine.input.length }
  match converse load prompt 0 lines drained with
  | (.abandoned, s) => (.abandoned, s)
  | (ending, s) => (ending, s.keepHistory)

end Session

end LineShell
