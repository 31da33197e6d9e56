/-!
    Why an operation on a file or a program fails, and how it is worded. -/

namespace LineShell

/-- Why an operation on a file or a program fails. -/
inductive Fault where
  | notFound
  | permissionDenied
  | notExecutable
  | notDirectory
  | isDirectory
  | noSpace
  | nameTooLong
  | linkLoop
  | badDescriptor
  /-- The file is open, but not for reading. -/
  | notReadable
  | brokenPipe
  | exists
  | notEmpty
  | invalid
  /-- A text was asked for and the bytes are none. -/
  | notText
  /-- A path holds U+0000. -/
  | nulInPath
  /-- An argument or a variable of a program holds U+0000. -/
  | nulInArgument
  deriving DecidableEq, Repr

/-- What went wrong, in words. -/
def Fault.reason : Fault → String
  | .notFound         => "No such file or directory"
  | .notExecutable    => "Exec format error"
  | .permissionDenied => "Permission denied"
  | .notDirectory     => "Not a directory"
  | .isDirectory      => "Is a directory"
  | .noSpace          => "No space left on device"
  | .nameTooLong      => "File name too long"
  | .linkLoop         => "Too many levels of symbolic links"
  | .badDescriptor    => "Bad file descriptor"
  | .notReadable      => "Bad file descriptor"
  | .brokenPipe       => "Broken pipe"
  | .exists           => "File exists"
  | .notEmpty         => "Directory not empty"
  | .invalid          => "Invalid argument"
  | .notText          => "stream did not contain valid UTF-8"
  | .nulInPath        => "file name contained an unexpected NUL byte"
  | .nulInArgument    => "nul byte found in provided data"

/-- The number that the system gives the fault, if the system found it. -/
def Fault.number? : Fault → Option Nat
  | .notFound         => some 2
  | .notExecutable    => some 8
  | .permissionDenied => some 13
  | .notDirectory     => some 20
  | .isDirectory      => some 21
  | .noSpace          => some 28
  | .nameTooLong      => some 36
  | .linkLoop         => some 40
  | .badDescriptor    => some 9
  | .notReadable      => some 9
  | .brokenPipe       => some 32
  | .exists           => some 17
  | .notEmpty         => some 39
  | .invalid          => some 22
  | .notText | .nulInPath | .nulInArgument => none

/-- Whether only reading an open file finds the fault out. -/
def Fault.isUnreadable (f : Fault) : Bool := f = .isDirectory || f = .notReadable

/-- The wording of a fault: the reason, and the system's number where there is one. -/
def Fault.message (f : Fault) : String :=
  match f.number? with
  | some n => f.reason ++ " (os error " ++ toString n ++ ")"
  | none   => f.reason

end LineShell
