/-! # File system faults

The ways a file operation can fail, each with the text the operating system has for it.
-/

namespace MicroDevice

/-- Why a file operation failed. -/
inductive IoFault where
  | notFound
  | permissionDenied
  | alreadyExists
  | notADirectory
  | isADirectory
  | nameTooLong
  | invalidText
  | nulInName
  | connectionRefused
  | connectionClosed
  deriving DecidableEq, Repr

/-- The text of a fault as the operating system or the reader states it. -/
def IoFault.message : IoFault → String
  | notFound => "No such file or directory (os error 2)"
  | permissionDenied => "Permission denied (os error 13)"
  | alreadyExists => "File exists (os error 17)"
  | notADirectory => "Not a directory (os error 20)"
  | isADirectory => "Is a directory (os error 21)"
  | nameTooLong => "File name too long (os error 36)"
  | invalidText => "stream did not contain valid UTF-8"
  | nulInName => "file name contained an unexpected NUL byte"
  | connectionRefused => "Connection refused (os error 111)"
  | connectionClosed => "OpenOCD closed the connection"

end MicroDevice
