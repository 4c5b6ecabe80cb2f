import Chip8.Text.Points

/-!
Paths: names of files and folders.  A path is kept by its parts, without the
empty ones and the ones that stay in place; steps to the parent are kept.
-/

namespace Chip8

structure Path where
  /-- Whether the path starts at the root of the file system. -/
  rooted : Bool
  parts : List Points
deriving DecidableEq, Repr

namespace Path

/-- The mark between two parts. -/
def slash : Nat := 0x2F

def ofText (text : Points) : Path where
  rooted := text.startsWith "/"
  parts := (text.split slash).filter fun part => part != "" && part != "."

/-- The text of a path; the path without parts is a point. -/
def text (path : Path) : Points :=
  if path.rooted then "/" ++ Points.intercalate "/" path.parts
  else if path.parts.isEmpty then "."
  else Points.intercalate "/" path.parts

def child (folder : Path) (name : Points) : Path :=
  { folder with parts := folder.parts ++ [name] }

/-- The last part. -/
def name (path : Path) : Points :=
  path.parts.getLast?.getD ""

/-- The mark before the last piece of a name. -/
def point : Nat := 0x2E

/-- A name cut before its last point.  A point that begins or ends the name does
not count. -/
def splitName (name : Points) : Points × Points :=
  let back := name.points.reverse
  let suffix := (back.takeWhile (· != point)).reverse
  let front := (back.dropWhile (· != point)).drop 1
  if suffix.isEmpty || front.isEmpty then (name, "")
  else (⟨front.reverse⟩, ⟨point :: suffix⟩)

/-- The last part without what follows its last point. -/
def stem (path : Path) : Points := (splitName path.name).1

/-- The last part from its last point on. -/
def suffix (path : Path) : Points := (splitName path.name).2

end Path
end Chip8
