import Chip8.Failure
import Chip8.Json.Reader

/-!
Settings from documents.  The names are checked first, then the dialect, then
the numbers in a fixed order, then the colour; the first thing wrong is
reported.  `Settings.override` changes settings that are there already and
checks the outcome again.
-/

namespace Chip8

/-- The members of a document, and whether it also has entries under something
other than a text. -/
structure Entries where
  members : List (Points × Json.Value)
  unnamed : Bool

namespace Entries

def empty : Entries := ⟨[], false⟩

/-- The two parts of an item that stands for a pair. -/
def pair : Json.Value → Except Breakdown (Json.Value × Json.Value)
  | .array [name, value] => .ok (name, value)
  | .text ⟨[name, value]⟩ => .ok (.text ⟨[name]⟩, .text ⟨[value]⟩)
  | .object [(name, _), (value, _)] => .ok (.text name, .text value)
  | .array _ | .text _ | .object _ => .error .wrongShape
  | _ => .error .wrongType

/-- Add a pair.  A list or an object cannot name an entry. -/
def add (entries : Entries) (item : Json.Value) : Except Breakdown Entries := do
  match ← pair item with
  | (.text name, value) =>
      return { entries with members := Json.insertMember name value entries.members }
  | (.array _, _) | (.object _, _) => throw .wrongType
  | _ => return { entries with unnamed := true }

/-- The entries of a document: the members of an object, or a list of pairs. -/
def ofValue : Json.Value → Except Breakdown Entries
  | .object members => .ok ⟨members, false⟩
  | .array items => items.foldlM add empty
  | .text ⟨[]⟩ => .ok empty
  | .text _ => .error .wrongShape
  | _ => .error .wrongType

end Entries

/-- A breakdown as a failure. -/
def orBreakdown {α : Type} : Except Breakdown α → Except Failure α
  | .ok value => .ok value
  | .error breakdown => .error (.breakdown breakdown)

/-- Fails unless every name is known.  Names that are not texts cannot even be
reported. -/
def checkNames (entries : Entries) (known : List String)
    (report : List Points → Problem) : Except Failure Unit :=
  let unknown := (entries.members.map (·.1)).filter fun name =>
    !(known.map Points.ofString).contains name
  if entries.unnamed then .error (.breakdown .wrongType)
  else if unknown.isEmpty then .ok ()
  else .error (.problem (report unknown))

/-- The named dialect; the case of its letters does not matter. -/
def Dialect.ofPresetName (name : Points) : Except Failure Dialect :=
  match Preset.all.find? fun preset => Points.ofString preset.name == name.lower with
  | some preset => .ok preset.dialect
  | none => .error (.problem (.unknownPreset name))

/-- The dialect that a value names.  Only a text can be a name. -/
def Dialect.ofPreset : Json.Value → Except Failure Dialect
  | .text name => ofPresetName name
  | _ => .error (.breakdown .presetNotText)

/-- The dialect that choices are made from: the one the entries name, or the
standard one. -/
def Dialect.basis (entries : Entries) : Except Failure Dialect :=
  match Json.member? (.ofString "preset") entries.members with
  | none => .ok {}
  | some value => ofPreset value

def Dialect.chooseMember (dialect : Dialect) :
    Points × Json.Value → Except Failure Dialect
  | (name, .boolean value) =>
      match Point.all.find? fun point => Points.ofString point.name == name with
      | some point => .ok (dialect.choose point value)
      | none => .ok dialect
  | (name, value) => .error (.problem (.choiceNotBoolean name value))

/-- The dialect of some entries: a name of one, and choices that differ. -/
def Dialect.ofEntries (entries : Entries) : Except Failure Dialect := do
  let basis ← basis entries
  let choices := entries.members.filter fun (name, _) => name != .ofString "preset"
  checkNames ⟨choices, entries.unnamed⟩ (Point.all.map Point.name) .unknownPoints
  choices.foldlM chooseMember basis

def Dialect.ofDocument (document : Json.Value) : Except Failure Dialect := do
  ofEntries (← orBreakdown (Entries.ofValue document))

/-- The dialect of the settings: a name or an object. -/
def Dialect.ofSetting : Json.Value → Except Failure Dialect
  | .text name => ofPresetName name
  | .object members => ofEntries ⟨members, false⟩
  | value => .error (.problem (.dialectShape value))

namespace Settings

def names : List String :=
  ["clock_hz", "timer_hz", "input_hz", "scale", "color", "quirks"]

/-- Values that take the place of settings. -/
structure Changes where
  clockHz : Option Json.Value := none
  timerHz : Option Json.Value := none
  inputHz : Option Json.Value := none
  scale : Option Json.Value := none
  color : Option Json.Value := none
  dialect : Option Dialect := none

/-- A number setting after a change. -/
def number (name : String) (kept : Positive) : Option Json.Value → Except Failure Positive
  | none => .ok kept
  | some (.integer value) =>
      if h : 0 < value.toNat then .ok ⟨value.toNat, h⟩
      else .error (.problem (.notPositive name (.integer value)))
  | some value => .error (.problem (.notPositive name value))

/-- The colour after a change.  A list or an object cannot be looked up. -/
def colorAfter (kept : Color) : Option Json.Value → Except Failure Color
  | none => .ok kept
  | some (.text name) =>
      match Color.all.find? fun color => Points.ofString color.name == name with
      | some color => .ok color
      | none => .error (.problem (.unknownColor (.text name)))
  | some (.array _) | some (.object _) => .error (.breakdown .wrongType)
  | some value => .error (.problem (.unknownColor value))

/-- Settings after changes. -/
def override (settings : Settings) (changes : Changes) : Except Failure Settings := do
  let clockHz ← number "clock_hz" settings.clockHz changes.clockHz
  let timerHz ← number "timer_hz" settings.timerHz changes.timerHz
  let inputHz ← number "input_hz" settings.inputHz changes.inputHz
  let scale ← number "scale" settings.scale changes.scale
  let color ← colorAfter settings.color changes.color
  return { clockHz, timerHz, inputHz, scale, color
           dialect := changes.dialect.getD settings.dialect }

/-- The changes that members ask for, with the dialect read already. -/
def changesOf (members : List (Points × Json.Value)) (dialect : Option Dialect) : Changes :=
  let value (name : String) := Json.member? (.ofString name) members
  { clockHz := value "clock_hz"
    timerHz := value "timer_hz"
    inputHz := value "input_hz"
    scale := value "scale"
    color := value "color"
    dialect := dialect }

/-- The settings of some entries; what they leave out is standard. -/
def ofEntries (entries : Entries) : Except Failure Settings := do
  checkNames entries names .unknownKeys
  let dialect ← match Json.member? (.ofString "quirks") entries.members with
    | none => pure {}
    | some value => Dialect.ofSetting value
  standard.override (changesOf entries.members (some dialect))

def ofDocument (document : Json.Value) : Except Failure Settings := do
  ofEntries (← orBreakdown (Entries.ofValue document))

/-- Whether a value stands for "no change". -/
def isNull : Json.Value → Bool
  | .null => true
  | _ => false

/-- The one name that no change can have, with or without a value: it stands for
the settings that are changed. -/
def reservedName : String := "self"

/-- Settings after the changes that the members of an object ask for.  A member
without a value asks for none.  A dialect that is not an object is refused, after
all else has been checked. -/
def overrideMembers (settings : Settings) (members : List (Points × Json.Value)) :
    Except Failure Settings := do
  let asked := members.filter fun (_, value) => !isNull value
  let choices := Json.member? (.ofString "quirks") asked
  let dialect ← match choices with
    | some (.object choices) => some <$> Dialect.ofEntries ⟨choices, false⟩
    | _ => pure none
  if members.any fun (name, _) => name == .ofString reservedName then
    throw (.breakdown .wrongType)
  if asked.any fun (name, _) => !(names.map Points.ofString).contains name then
    throw (.breakdown .wrongType)
  let changed ← settings.override (changesOf asked dialect)
  match choices, dialect with
  | some _, none => throw (.breakdown .presetNotText)
  | _, _ => return changed

/-- The document in the bytes of a file. -/
def readDocument (path : Path) (bytes : List UInt8) : Except Failure Json.Value :=
  match String.fromUTF8? bytes.toByteArray with
  | none => .error (.breakdown .undecodable)
  | some content =>
      let text := Json.unifyLineEnds content
      match Json.read text with
      | .ok document => .ok document
      | .error (.malformed complaint offset) =>
          .error (.problem (.malformed path (complaint.located text offset)))
      | .error .numeralTooLong => .error (.breakdown .numeralTooLong)
      | .error .tooDeep => .error (.breakdown .tooDeep)

def load (files : Files) (path : Path) : Except Failure Settings :=
  match files.read path with
  | .error fault =>
      match fault.breakdown? with
      | some cause => .error (.breakdown cause)
      | none => .error (.problem (.unreadable path fault))
  | .ok bytes => do
      match ← readDocument path bytes with
      | .object members => ofEntries ⟨members, false⟩
      | _ => throw (.problem (.notAnObject path))

end Settings
end Chip8
