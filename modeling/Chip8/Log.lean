import Chip8.Keypad
import Chip8.Text.Points

/-!
Log entries: what the parts of the program note while they work.  An entry is
shown if its level reaches the one asked for.
-/

namespace Chip8.Log

/-- How much an entry matters. -/
inductive Level where
  | debug
  | info
  | warning
  | error
deriving DecidableEq, Repr

namespace Level

/-- Every level, from the least up. -/
def all : List Level := [.debug, .info, .warning, .error]

def name : Level → String
  | .debug => "DEBUG"
  | .info => "INFO"
  | .warning => "WARNING"
  | .error => "ERROR"

/-- The place of a level among all. -/
def rank : Level → Nat
  | .debug => 0
  | .info => 1
  | .warning => 2
  | .error => 3

def ofName? (name : String) : Option Level :=
  all.find? fun level => level.name == name

end Level

/-- A part of the program that makes entries. -/
inductive Part where
  | commandLine
  | settings
  | rom
  | memory
  | keyWait
  | machine
  | window
deriving DecidableEq, Repr

/-- The name a part signs with. -/
def Part.name : Part → String
  | .commandLine => "meowchip.cli"
  | .settings => "meowchip.config"
  | .rom => "meowchip.rom"
  | .memory => "meowchip.memory"
  | .keyWait => "meowchip.keywait"
  | .machine => "meowchip.engine"
  | .window => "meowchip.frontend"

structure Entry where
  level : Level
  part : Part
  text : Points
deriving DecidableEq, Repr

def Entry.line (entry : Entry) : Points :=
  entry.level.name ++ " " ++ entry.part.name ++ ": " ++ entry.text ++ "\n"

/-- The lines of the entries that reach a level. -/
def lines (least : Level) (entries : List Entry) : Points :=
  .join ((entries.filter fun entry => least.rank ≤ entry.level.rank).map Entry.line)

/-- What the step of a key wait notes. -/
def ofWait (before after : KeyWait) : List Entry :=
  match before, after with
  | .awaitingKeyUp x key, .idle =>
      let digit := Hex.padded 1 key
      [⟨.debug, .keyWait,
        "Key " ++ digit ++ " released, V" ++ Hex.padded 1 x ++ " = " ++ digit⟩]
  | before, after =>
      if before.phase = after.phase then []
      else [⟨.debug, .keyWait, "Key wait: " ++ before.phase ++ " -> " ++ after.phase⟩]

/-- What the loading of a program notes. -/
def ofLoad (program : List UInt8) : Entry :=
  ⟨.debug, .memory,
    "Loaded " ++ toString program.length ++ " program bytes at $" ++ Hex.padded 3 programStart⟩

/-- What the reading of a program file notes. -/
def ofRead (name : Points) (program : List UInt8) : Entry :=
  ⟨.info, .rom, "Read ROM " ++ name ++ " (" ++ toString program.length ++ " bytes)"⟩

end Chip8.Log
