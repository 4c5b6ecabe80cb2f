import Chip8.Failure
import Chip8.Memory

/-!
Program files: reading one, and finding those of a folder.
-/

namespace Chip8.Rom

/-- The ends of the names of program files. -/
def suffixes : List Points := [".ch8", ".c8"]

/-- The bytes of a program file that fits in memory. -/
def read (files : Files) (path : Path) : Except Failure (List UInt8) :=
  match files.read path with
  | .error fault =>
      match fault.breakdown? with
      | some cause => .error (.breakdown cause)
      | none => .error (.fault (.programUnreadable path.text fault.text))
  | .ok bytes =>
      if programLimit < bytes.length then
        .error (.fault (.programTooBig bytes.length (programStart + bytes.length)))
      else .ok bytes

def isRomName (name : Points) : Bool :=
  suffixes.contains (Path.splitName name).2.lower

/-- The program files of a folder, in the order of their names. -/
def find (files : Files) (folder : Path) : Except FileFault (List Path) := do
  let names := (← files.names folder).filter isRomName
  return (names.mergeSort Points.before).map folder.child

end Chip8.Rom
