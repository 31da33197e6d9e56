import LineShell.Text.Blank
import LineShell.Text.Bytes
import LineShell.Text.Cut
import LineShell.Text.Numeral
import LineShell.Line.Command
import LineShell.File.Fault
import LineShell.File.PathText
import LineShell.File.Tree
import LineShell.File.Access
import LineShell.Error
import LineShell.Completion
import LineShell.Arguments
import LineShell.Builtin.Run
import LineShell.Process
import LineShell.Redirect
import LineShell.Pipeline.Run
import LineShell.Session.Line
import LineShell.Dialogue
import LineShell.Invocation
import LineShell.Userland.Programs.Count
import LineShell.Userland.Programs.ByteMap
import LineShell.Userland.Programs.Pattern.Notation
import LineShell.Userland.Programs.Plain
import LineShell.Userland.Programs.System
import LineShell.Main
import LineShell.Proofs.Line.Scan
import LineShell.Proofs.Line.Trimming
import LineShell.Proofs.Line.Notation
import LineShell.Proofs.Line.Roles
import LineShell.Proofs.Line.Segmenting
import LineShell.Proofs.Line.Unreadable
import LineShell.Proofs.Pipeline.Frame
import LineShell.Proofs.Pipeline.Turn
import LineShell.Proofs.Session.Frame
import LineShell.Proofs.Pipeline.DataFlow
import LineShell.Proofs.Line.Grammar
import LineShell.Proofs.Pipeline.Outcome
import LineShell.Proofs.File.Writing
import LineShell.Proofs.File.Step
import LineShell.Proofs.File.Place
import LineShell.Proofs.Text.Lines
import LineShell.Proofs.History.Appending
import LineShell.Proofs.History.FileForm
import LineShell.Proofs.Session.Reporting
import LineShell.Proofs.Session.Keeping
import LineShell.Proofs.Session.Overwriting
import LineShell.Proofs.Session.Chain
import LineShell.Proofs.Pipeline.Alone
import LineShell.Proofs.Session.Conversation
import LineShell.Proofs.Pipeline.Conduit
import LineShell.Proofs.Pipeline.Schedule
import LineShell.Proofs.Pipeline.Conservation
import LineShell.Proofs.Pipeline.InTurn
import LineShell.Proofs.Pipeline.Enactment
import LineShell.Proofs.File.Names
import LineShell.Proofs.File.Denial
import LineShell.Proofs.File.Way
import LineShell.Proofs.Session.Ways
import LineShell.Proofs.Session.Orientation
import LineShell.Proofs.Session.Refusal
import LineShell.Proofs.Search.Separators
import LineShell.Proofs.File.Listing
import LineShell.Proofs.Text.Order
import LineShell.Proofs.Search.Completing
import LineShell.Proofs.Search.Resolving
import LineShell.Proofs.Session.Carrying
import LineShell.Proofs.File.Holding
import LineShell.Proofs.Session.Targets
import LineShell.Proofs.Session.Landing
import LineShell.Proofs.Line.Naming
import LineShell.Proofs.Session.LastCode
import LineShell.Proofs.Arguments.Reading
import LineShell.Proofs.History.Usage
import LineShell.Proofs.Search.Suggesting
