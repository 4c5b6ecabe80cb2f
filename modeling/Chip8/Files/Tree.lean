import Chip8.Files
import Chip8.Files.Name

/-!
A file system of a handful of files, held as a table of what each path leads
to.  Paths start at a working folder; what lies outside it is taken as folders
with nothing known inside, and what is put there is not kept.
-/

namespace Chip8

/-- What a path leads to. -/
inductive FileEntry where
  | folder
  | file (bytes : List UInt8)
deriving DecidableEq, Repr

/-- The entries of the working folder and of the folders in it, by the names on
the way to them. -/
structure FileTree where
  entries : List (List FileName × FileEntry)
deriving DecidableEq, Repr

namespace FileTree

def empty : FileTree := ⟨[]⟩

/-- What stands at the end of some names. -/
def find? (tree : FileTree) (names : List FileName) : Option FileEntry :=
  if names.isEmpty then some .folder else tree.entries.lookup names

def delete (tree : FileTree) (names : List FileName) : FileTree :=
  ⟨tree.entries.filter fun (place, _) => place != names⟩

/-- Put an entry in the place of what was there. -/
def put (tree : FileTree) (names : List FileName) (entry : FileEntry) : FileTree :=
  ⟨(names, entry) :: (tree.delete names).entries⟩

/-- The most bytes of a name. -/
def nameLimit : Nat := 255

/-- One more byte than a path may have. -/
def pathLimit : Nat := 4096

/-- Where a walk stands: at the end of some names, or outside the working
folder. -/
inductive Place where
  | inside (names : List FileName)
  | outside
deriving DecidableEq, Repr

/-- What stands at a place. -/
def at? (tree : FileTree) : Place → Option FileEntry
  | .inside names => tree.find? names
  | .outside => some .folder

def Place.parent : Place → Place
  | .inside [] => .outside
  | .inside names => .inside names.dropLast
  | .outside => .outside

/-- The place of a name in the folder at a place.  Something need not stand
there. -/
def step (tree : FileTree) (place : Place) (name : FileName) : Except FileFault Place :=
  if tree.at? place ≠ some .folder then .error .notAFolder
  else if name = FileName.parent then .ok place.parent
  else if nameLimit < name.length then .error .nameTooLong
  else
    match place with
    | .outside => .error .missing
    | .inside names => .ok (.inside (names ++ [name]))

/-- One name further. -/
def descend (tree : FileTree) (place : Place) (name : FileName) : Except FileFault Place := do
  let next ← tree.step place name
  if (tree.at? next).isSome then return next else throw .missing

/-- The names on the way of a path. -/
def namesOf (path : Path) : Except FileFault (List FileName) :=
  match FileName.encode? path.text, path.parts.mapM FileName.encode? with
  | some bytes, some names =>
      if bytes.contains 0 then .error .nulInPath
      else if pathLimit ≤ bytes.length then .error .nameTooLong
      else .ok names
  | _, _ => .error .unencodable

/-- Where the walk of a path starts. -/
def start (path : Path) : Place := if path.rooted then .outside else .inside []

/-- The place a path leads to. -/
def walk (tree : FileTree) (path : Path) : Except FileFault Place := do
  (← namesOf path).foldlM tree.descend (start path)

/-- One name further, into a folder that is made if it is missing. -/
def enter (tree : FileTree) (place : Place) (name : FileName) :
    Except FileFault (FileTree × Place) :=
  match place with
  | .outside => .ok (tree, .outside)
  | .inside _ => do
      let next ← tree.step place name
      match tree.at? next, next with
      | none, .inside names => return (tree.put names .folder, next)
      | _, _ => return (tree, next)

/-- Walk through folders and make those that are missing.  All of them must be
folders. -/
def enterAll (tree : FileTree) (place : Place) :
    List FileName → Except FileFault (FileTree × Place)
  | [] =>
      if tree.at? place = some .folder then .ok (tree, place) else .error .taken
  | name :: rest => do
      let (tree, next) ← tree.enter place name
      tree.enterAll next rest

/-- Make a folder, and the folders it lies in. -/
def addFolder (tree : FileTree) (path : Path) : Except FileFault FileTree := do
  return (← tree.enterAll (start path) (← namesOf path)).1

/-- Write a file in a folder. -/
def write (tree : FileTree) (folder : Place) (name : FileName) (bytes : List UInt8) :
    Except FileFault FileTree :=
  match folder with
  | .outside => .ok tree
  | .inside _ => do
      let place ← tree.step folder name
      match tree.at? place, place with
      | some .folder, _ => throw .isAFolder
      | _, .inside names => return tree.put names (.file bytes)
      | _, .outside => return tree

/-- Write a file, and make the folders it lies in. -/
def addFile (tree : FileTree) (path : Path) (bytes : List UInt8) :
    Except FileFault FileTree := do
  let names ← namesOf path
  let (tree, folder) ← tree.enterAll (start path) names.dropLast
  tree.write folder (names.getLast?.getD FileName.parent) bytes

/-- Take away the file that a path leads to. -/
def remove (tree : FileTree) (path : Path) : Except FileFault FileTree := do
  let place ← tree.walk path
  match tree.at? place, place with
  | some (.file _), .inside names => return tree.delete names
  | some .folder, _ => throw .isAFolder
  | _, _ => throw .missing

def read (tree : FileTree) (path : Path) : Except FileFault (List UInt8) := do
  match tree.at? (← tree.walk path) with
  | some (.file bytes) => return bytes
  | some .folder => throw .isAFolder
  | none => throw .missing

/-- The name of an entry that stands in a folder. -/
def nameIn? (folder : List FileName) (entry : List FileName × FileEntry) : Option FileName :=
  if entry.1.dropLast = folder then entry.1.getLast? else none

def isFile (tree : FileTree) (path : Path) : Except FileFault Bool := do
  match tree.at? (← tree.walk path) with
  | some (.file _) => return true
  | _ => return false

/-- The names of the plain files in the folder at a path, as texts.  Each entry of
the folder is looked at by its own path, which may be too long. -/
def names (tree : FileTree) (path : Path) : Except FileFault (List Points) := do
  let place ← tree.walk path
  match tree.at? place, place with
  | some .folder, .inside folder =>
      ((tree.entries.filterMap (nameIn? folder)).map FileName.decode).filterM
        fun name => tree.isFile (path.child name)
  | some .folder, .outside => return []
  | some (.file _), _ => throw .notAFolder
  | none, _ => throw .missing

/-- The tree as the program sees it. -/
def files (tree : FileTree) : Files where
  read := tree.read
  names := tree.names

end FileTree
end Chip8
