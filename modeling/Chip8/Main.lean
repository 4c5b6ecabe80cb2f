import Chip8.Program

/-!
The command as it is run from a shell.  The files that the command line speaks
of are read beforehand; everything else is `Program.run`.
-/

namespace Chip8

/-- The fault that an error of the system stands for. -/
def FileFault.ofError : IO.Error → FileFault
  | .inappropriateType _ code _ =>
      if code.toNat = FileFault.notAFolder.code then .notAFolder else .isAFolder
  | .invalidArgument .. => .nameTooLong
  | _ => .missing

/-- The bytes of a file, or why there are none. -/
def readFile (path : Path) : IO (Except FileFault (List UInt8)) := do
  try
    return .ok (← IO.FS.readBinFile path.text.toString).toList
  catch error =>
    return .error (.ofError error)

/-- The names of the plain files in the working folder. -/
def localNames : IO (List Points) := do
  let entries ← (← IO.currentDir).readDir
  let files ← entries.toList.filterM fun entry => return !(← entry.path.isDir)
  return files.map fun entry => entry.fileName

/-- The files that a command line can ask for. -/
def gatherFiles (arguments : List Points) : IO Files := do
  let names ← localNames
  let listed : Files :=
    { read := fun _ => .error .missing, names := fun _ => .ok names }
  let options := match CommandLine.parse arguments with
    | .ok (.run options) => options
    | _ => {}
  let paths := (Program.configPath? options).toList ++
    (Program.romPath? listed options).toList
  let contents ← paths.mapM fun path => return (path, ← readFile path)
  return { listed with read := fun path => (contents.lookup path).getD (.error .missing) }

/-- A sequence of random bytes. -/
def randomBytes : IO (Nat → Int) := do
  let seed ← IO.rand 0 0x3FFFFFFFFFFFFFFF
  return fun number => ((mixHash seed.toUInt64 number.toUInt64) >>> 56).toNat

end Chip8

def main (words : List String) : IO UInt32 := do
  let arguments := words.map Chip8.Points.ofString
  let world : Chip8.World :=
    { files := ← Chip8.gatherFiles arguments
      random := ← Chip8.randomBytes
      frames := []
      source := .ticker }
  let report := Chip8.Program.run world arguments
  IO.print report.console.out
  IO.eprint report.console.err.toString
  match report.ending with
  | .exit code => return code.toUInt32
  | .crash _ => return 1
