/-!
# Errors of the host
What the operating system answers when a file cannot be used or a program cannot be started, and
the text it gives for that.
-/

namespace LintDispatch

/-- An error of the host. -/
inductive HostError where
  /-- Nothing exists at the path. -/
  | missing
  /-- The path may not be used in this way. -/
  | denied
  /-- A file stands where the path needs a directory. -/
  | notDirectory
  /-- A directory stands where a file is needed. -/
  | isDirectory
  /-- A name or the whole path is too long. -/
  | nameTooLong
  /-- Something is already there. -/
  | alreadyThere
  /-- The directory is not empty. -/
  | notEmpty
  /-- Only root may do this, or nobody. -/
  | notPermitted
  /-- No process has this number. -/
  | noProcess
  /-- Nothing stands behind the device. -/
  | noDevice
  /-- The arguments of a program are too long. -/
  | argumentsTooLong
  /-- The file is no program. -/
  | noProgram
  /-- The descriptor is not open, or not for this. -/
  | badDescriptor
  /-- An argument makes no sense here. -/
  | invalid
  /-- The device is full. -/
  | noSpace
  /-- There are no positions in what is to be read. -/
  | notSeekable
  /-- Nobody reads any more. -/
  | brokenPipe
  /-- The path holds a zero byte. -/
  | zeroInPath
  /-- An argument holds a zero byte. -/
  | zeroInArgument
  /-- The file is not UTF-8 text. -/
  | notText
  /-- Any other error, by its text. -/
  | other (text : String)
  deriving DecidableEq, Repr, Inhabited

namespace HostError

/-- What is wrong, in words. -/
def reason : HostError → String
  | .missing => "No such file or directory"
  | .denied => "Permission denied"
  | .notDirectory => "Not a directory"
  | .isDirectory => "Is a directory"
  | .nameTooLong => "File name too long"
  | .alreadyThere => "File exists"
  | .notEmpty => "Directory not empty"
  | .notPermitted => "Operation not permitted"
  | .noProcess => "No such process"
  | .noDevice => "No such device or address"
  | .argumentsTooLong => "Argument list too long"
  | .noProgram => "Exec format error"
  | .badDescriptor => "Bad file descriptor"
  | .invalid => "Invalid argument"
  | .noSpace => "No space left on device"
  | .notSeekable => "Illegal seek"
  | .brokenPipe => "Broken pipe"
  | .zeroInPath => "file name contained an unexpected NUL byte"
  | .zeroInArgument => "nul byte found in provided data"
  | .notText => "stream did not contain valid UTF-8"
  | .other text => text

/-- The number of an error that the operating system itself reports. -/
def number? : HostError → Option Nat
  | .notPermitted => some 1
  | .missing => some 2
  | .noProcess => some 3
  | .noDevice => some 6
  | .argumentsTooLong => some 7
  | .noProgram => some 8
  | .badDescriptor => some 9
  | .denied => some 13
  | .alreadyThere => some 17
  | .notDirectory => some 20
  | .isDirectory => some 21
  | .invalid => some 22
  | .noSpace => some 28
  | .notSeekable => some 29
  | .brokenPipe => some 32
  | .nameTooLong => some 36
  | .notEmpty => some 39
  | .zeroInPath | .zeroInArgument | .notText | .other _ => none

/-- The text of an error: what is wrong, and the number if there is one. -/
def message (e : HostError) : String :=
  match e.number? with
  | some n => e.reason ++ " (os error " ++ toString n ++ ")"
  | none => e.reason

end HostError

end LintDispatch
