import Chip8.Files.Path

/-!
Files as the program sees them: the bytes of a file, the names in a folder, or
the reason why there are none.
-/

namespace Chip8

/-- Why a path leads to no file. -/
inductive FileFault where
  | missing
  | notAFolder
  | isAFolder
  | nameTooLong
  /-- Something other than a folder stands in the place of one. -/
  | taken
  /-- The path has a character that no path can have. -/
  | nulInPath
  /-- The path has no bytes. -/
  | unencodable
deriving DecidableEq, Repr

/-- The system's number of a fault. -/
def FileFault.code : FileFault → Nat
  | .missing => 2
  | .notAFolder => 20
  | .isAFolder => 21
  | .nameTooLong => 36
  | .taken => 17
  | .nulInPath => 22
  | .unencodable => 84

/-- The system's wording of a fault. -/
def FileFault.text : FileFault → String
  | .missing => "No such file or directory"
  | .notAFolder => "Not a directory"
  | .isAFolder => "Is a directory"
  | .nameTooLong => "File name too long"
  | .taken => "File exists"
  | .nulInPath => "Invalid argument"
  | .unencodable => "Invalid or incomplete multibyte or wide character"

/-- A view of the file system. -/
structure Files where
  /-- The bytes of a file. -/
  read : Path → Except FileFault (List UInt8)
  /-- The names of the plain files in a folder, in any order. -/
  names : Path → Except FileFault (List Points)

end Chip8
