import FormData.Boundary

/-!
# Faults

What can go wrong, and how it is worded.

A fault is kept as its cause. The wording is a function of the cause and of
nothing else, so that two faults worded differently are different and a
program can act on one without reading its text.

Two faults carry what the operating system had to say. That is either one of
its numbered errors, or a bare kind of failure with no number, or a kind with
a text of its own; and a path that holds a zero octet is refused before the
system is asked at all. All of these have a kind, which tells a missing file
from a forbidden one whatever the text says.

## Main definitions

* `IoKind`: The kinds of failure, by name.
* `OsError`: The numbered errors of the operating system.
* `IoFault`: A failed request to the operating system.
* `Fault`: What can go wrong in the library.
* `Fault.message`: The wording of a fault.
-/

namespace FormData

/-- The kinds of failure that callers can tell apart. -/
inductive IoKind where
  | notFound
  | permissionDenied
  | notADirectory
  | isADirectory
  | invalidInput
  | invalidFilename
  | filesystemLoop
  | tooManyOpenFiles
  | outOfMemory
  | other
  | uncategorized
  deriving Repr, DecidableEq

namespace IoKind

/-- The name of a kind. -/
def name : IoKind → String
  | .notFound => "NotFound"
  | .permissionDenied => "PermissionDenied"
  | .notADirectory => "NotADirectory"
  | .isADirectory => "IsADirectory"
  | .invalidInput => "InvalidInput"
  | .invalidFilename => "InvalidFilename"
  | .filesystemLoop => "FilesystemLoop"
  | .tooManyOpenFiles => "TooManyOpenFiles"
  | .outOfMemory => "OutOfMemory"
  | .other => "Other"
  | .uncategorized => "Uncategorized"

/-- The kinds, each of them once. -/
def all : List IoKind :=
  [.notFound, .permissionDenied, .notADirectory, .isADirectory, .invalidInput,
   .invalidFilename, .filesystemLoop, .tooManyOpenFiles, .outOfMemory, .other,
   .uncategorized]

/-- The kind of this name. -/
def named? (name : String) : Option IoKind :=
  all.find? (fun kind => kind.name == name)

/-- The text of a failure that has a kind and nothing more. -/
def text : IoKind → String
  | .notFound => "entity not found"
  | .permissionDenied => "permission denied"
  | .notADirectory => "not a directory"
  | .isADirectory => "is a directory"
  | .invalidInput => "invalid input parameter"
  | .invalidFilename => "invalid filename"
  | .filesystemLoop => "filesystem loop or indirection limit (e.g. symlink loop)"
  | .tooManyOpenFiles => "too many open files"
  | .outOfMemory => "out of memory"
  | .other => "other error"
  | .uncategorized => "uncategorized error"

end IoKind

/-- The numbered errors of the operating system. -/
inductive OsError where
  | notPermitted
  | noEntry
  | noMemory
  | accessDenied
  | noDevice
  | notDirectory
  | isDirectory
  | invalidArgument
  | tooManyOpen
  | nameTooLong
  | tooManyLinks
  deriving Repr, DecidableEq

namespace OsError

/-- The number of an error. -/
def number : OsError → Nat
  | .notPermitted => 1
  | .noEntry => 2
  | .noMemory => 12
  | .accessDenied => 13
  | .noDevice => 19
  | .notDirectory => 20
  | .isDirectory => 21
  | .invalidArgument => 22
  | .tooManyOpen => 24
  | .nameTooLong => 36
  | .tooManyLinks => 40

/-- The errors, each of them once. -/
def all : List OsError :=
  [.notPermitted, .noEntry, .noMemory, .accessDenied, .noDevice, .notDirectory,
   .isDirectory, .invalidArgument, .tooManyOpen, .nameTooLong, .tooManyLinks]

/-- The error of this number. -/
def ofNumber? (n : Nat) : Option OsError :=
  all.find? (fun e => e.number == n)

/-- What the system calls an error. -/
def text : OsError → String
  | .notPermitted => "Operation not permitted"
  | .noEntry => "No such file or directory"
  | .noMemory => "Cannot allocate memory"
  | .accessDenied => "Permission denied"
  | .noDevice => "No such device"
  | .notDirectory => "Not a directory"
  | .isDirectory => "Is a directory"
  | .invalidArgument => "Invalid argument"
  | .tooManyOpen => "Too many open files"
  | .nameTooLong => "File name too long"
  | .tooManyLinks => "Too many levels of symbolic links"

/-- The kind of an error. -/
def kind : OsError → IoKind
  | .notPermitted => .permissionDenied
  | .noEntry => .notFound
  | .noMemory => .outOfMemory
  | .accessDenied => .permissionDenied
  | .noDevice => .uncategorized
  | .notDirectory => .notADirectory
  | .isDirectory => .isADirectory
  | .invalidArgument => .invalidInput
  | .tooManyOpen => .tooManyOpenFiles
  | .nameTooLong => .invalidFilename
  | .tooManyLinks => .filesystemLoop

end OsError

/-- A failed request to the operating system. -/
inductive IoFault where
  /-- The system answered with a numbered error. -/
  | os (e : OsError)
  /-- All that is known is the kind. -/
  | bare (kind : IoKind)
  /-- The failure has a text of its own. -/
  | described (kind : IoKind) (text : String)
  /-- A path holds a zero octet and cannot be handed to the system. -/
  | zeroInPath
  deriving Repr, DecidableEq

namespace IoFault

/-- The wording of a failure. -/
def message : IoFault → String
  | .os e => e.text ++ " (os error " ++ toString e.number ++ ")"
  | .bare kind => kind.text
  | .described _ text => text
  | .zeroInPath => "file name contained an unexpected NUL byte"

/-- The kind of a failure. -/
def kind : IoFault → IoKind
  | .os e => e.kind
  | .bare kind => kind
  | .described kind _ => kind
  | .zeroInPath => .invalidInput

end IoFault

/-- What can go wrong in the library. -/
inductive Fault where
  /-- A token cannot serve as a boundary. -/
  | invalidBoundary (flaw : TokenFlaw)
  /-- A file cannot be opened. -/
  | cannotOpen (path : Bytes) (cause : IoFault)
  /-- A path leads to something that is not a regular file. -/
  | notAFile (path : Bytes)
  /-- A stretch of a file cannot be mapped. -/
  | cannotMap (path : Bytes) (offset : Nat) (cause : IoFault)
  /-- A traversal has nothing left to yield. -/
  | exhausted
  deriving Repr, DecidableEq

namespace Fault

/-- The wording of a fault. -/
def message : Fault → String
  | .invalidBoundary flaw => "invalid boundary: " ++ flaw.reason
  | .cannotOpen path cause =>
    "can't open file part " ++ Quoted.path path ++ ": " ++ cause.message
  | .notAFile path => "file part " ++ Quoted.path path ++ " is not a regular file"
  | .cannotMap path offset cause =>
    "can't map file part " ++ Quoted.path path ++ " at offset " ++ toString offset
      ++ ": " ++ cause.message
  | .exhausted => "body iterator is exhausted"

/-- What the operating system had to say, where it was asked. -/
def cause? : Fault → Option IoFault
  | .cannotOpen _ cause => some cause
  | .cannotMap _ _ cause => some cause
  | .invalidBoundary _ | .notAFile _ | .exhausted => none

/-- The kind of failure, where the operating system was asked. -/
def ioKind? (fault : Fault) : Option IoKind :=
  fault.cause?.map IoFault.kind

end Fault

end FormData
