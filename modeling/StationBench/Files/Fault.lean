/-!
# Faults of files

Why a file cannot be read or written, with the name of the kind of fault and the text that messages
give for it.
-/
namespace StationBench

inductive FileFault
  | notFound
  | isDirectory
  | notDirectory
  | alreadyExists
  | nameTooLong
  | invalidData
  | invalidInput
  | other (name text : String)
deriving DecidableEq, Repr

namespace FileFault

def name : FileFault → String
  | .notFound => "NotFound"
  | .isDirectory => "IsADirectory"
  | .notDirectory => "NotADirectory"
  | .alreadyExists => "AlreadyExists"
  | .nameTooLong => "InvalidFilename"
  | .invalidData => "InvalidData"
  | .invalidInput => "InvalidInput"
  | .other name _ => name

def text : FileFault → String
  | .notFound => "No such file or directory (os error 2)"
  | .isDirectory => "Is a directory (os error 21)"
  | .notDirectory => "Not a directory (os error 20)"
  | .alreadyExists => "File exists (os error 17)"
  | .nameTooLong => "File name too long (os error 36)"
  | .invalidData => "stream did not contain valid UTF-8"
  | .invalidInput => "file name contained an unexpected NUL byte"
  | .other _ text => text

/-- The fault that systems know by a number. -/
def ofCode? (code : Nat) : Option FileFault :=
  match code with
  | 2 => some .notFound
  | 13 => some (.other "PermissionDenied" "Permission denied (os error 13)")
  | 17 => some .alreadyExists
  | 20 => some .notDirectory
  | 21 => some .isDirectory
  | 28 => some (.other "StorageFull" "No space left on device (os error 28)")
  | 36 => some .nameTooLong
  | _ => none

end FileFault

end StationBench
