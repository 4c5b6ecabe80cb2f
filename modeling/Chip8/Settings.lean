import Chip8.Dialect

/-!
Settings: the rates, the scale, the colour and the dialect to run with.
-/

namespace Chip8

abbrev Positive := { value : Nat // 0 < value }

structure Rgb where
  red : UInt8
  green : UInt8
  blue : UInt8
deriving DecidableEq, Repr

inductive Color where
  | green
  | amber
  | white
  | blue
deriving DecidableEq, Repr

namespace Color

def all : List Color := [.green, .amber, .white, .blue]

def name : Color → String
  | .green => "green"
  | .amber => "amber"
  | .white => "white"
  | .blue => "blue"

def rgb : Color → Rgb
  | .green => ⟨0, 255, 128⟩
  | .amber => ⟨255, 176, 0⟩
  | .white => ⟨220, 220, 220⟩
  | .blue => ⟨100, 180, 255⟩

def ofName? (name : String) : Option Color :=
  all.find? fun color => color.name == name

end Color

/-- What the program runs with. -/
structure Settings where
  clockHz : Positive
  timerHz : Positive
  inputHz : Positive
  scale : Positive
  color : Color
  dialect : Dialect
deriving DecidableEq, Repr

/-- The settings where nothing else is asked for. -/
def Settings.standard : Settings where
  clockHz := ⟨500, by decide⟩
  timerHz := ⟨60, by decide⟩
  inputHz := ⟨60, by decide⟩
  scale := ⟨12, by decide⟩
  color := .green
  dialect := {}

def framesPerSecond : Nat := 60

/-- The steps in a frame of the window, at least one. -/
def Settings.cyclesPerFrame (settings : Settings) : Nat :=
  max 1 (settings.clockHz.val / framesPerSecond)

/-- The steps between two ticks of the timers, at least one. -/
def Settings.cyclesPerTick (settings : Settings) : Nat :=
  max 1 (settings.clockHz.val / settings.timerHz.val)

end Chip8
