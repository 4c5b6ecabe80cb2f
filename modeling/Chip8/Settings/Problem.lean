import Chip8.Files
import Chip8.Json.Value
import Chip8.Settings

/-!
The ways in which a document of settings can be wrong.
-/

namespace Chip8

/-- What is wrong with a document of settings. -/
inductive Problem where
  /-- The file cannot be read. -/
  | unreadable (path : Path) (fault : FileFault)
  /-- The file is no document. -/
  | malformed (path : Path) (complaint : String)
  /-- The document is not an object. -/
  | notAnObject (path : Path)
  /-- The document names settings that there are not. -/
  | unknownKeys (names : List Points)
  /-- The dialect is neither a name nor an object. -/
  | dialectShape (value : Json.Value)
  /-- No dialect has the name. -/
  | unknownPreset (name : Points)
  /-- The dialect names points that there are not. -/
  | unknownPoints (names : List Points)
  /-- The choice on a point is not a truth value. -/
  | choiceNotBoolean (name : Points) (value : Json.Value)
  /-- A number is not a whole one above zero. -/
  | notPositive (name : String) (value : Json.Value)
  /-- No colour has the name. -/
  | unknownColor (value : Json.Value)

/-- Names in order, with commas between. -/
def joinedNames (names : List Points) : Points :=
  .intercalate ", " (names.mergeSort Points.before)

/-- The message shown for a problem.  The names in it are shown as they stand in
the document. -/
def Problem.message : Problem → Points
  | .unknownKeys names => "Unknown config key(s): " ++ joinedNames names
  | .unknownPoints names => "Unknown quirk(s): " ++ joinedNames names
  | .unreadable path fault =>
      "Cannot read config " ++ path.text ++ ": [Errno " ++ toString fault.code ++ "] " ++
        fault.text ++ ": " ++ Quoted.quote path.text
  | .malformed path complaint => "Invalid JSON in " ++ path.text ++ ": " ++ complaint
  | .notAnObject path => "Config " ++ path.text ++ " must contain a JSON object"
  | .dialectShape value => "quirks must be a preset name or an object, got " ++ value.shown
  | .unknownPreset name =>
      "Unknown quirks preset " ++ Quoted.quote name ++ " (known: " ++
        ", ".intercalate (Preset.all.map Preset.name) ++ ")"
  | .choiceNotBoolean name value =>
      "Quirk " ++ Quoted.quote name ++ " must be a boolean, got " ++ value.shown
  | .notPositive name value => name ++ " must be a positive integer, got " ++ value.shown
  | .unknownColor value =>
      "Unknown color " ++ value.shown ++ " (known: " ++
        ", ".intercalate (Color.all.map Color.name) ++ ")"

end Chip8
