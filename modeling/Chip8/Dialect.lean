/-!
Dialects: the points on which interpreters of the instruction set differ, each
read at exactly one place of the machine, and the two dialects with a name.
-/

namespace Chip8

/-- A choice on each point of difference. -/
structure Dialect where
  /-- The bitwise operations clear the flag register. -/
  resetFlagOnLogic : Bool := true
  /-- Bulk copies leave the index register behind the block. -/
  advanceIndexOnCopy : Bool := true
  /-- Shifts take the second register and not the first. -/
  shiftSecondRegister : Bool := true
  /-- The jump with offset adds the register its word names and not `V0`. -/
  jumpByNamedRegister : Bool := false
  /-- Sprites are cut off at the edge of the screen. -/
  clipSprites : Bool := true
deriving DecidableEq, Repr

/-- The points of difference. -/
inductive Dialect.Point where
  | resetFlagOnLogic
  | advanceIndexOnCopy
  | shiftSecondRegister
  | jumpByNamedRegister
  | clipSprites
deriving DecidableEq, Repr

namespace Dialect

def Point.all : List Point :=
  [.resetFlagOnLogic, .advanceIndexOnCopy, .shiftSecondRegister, .jumpByNamedRegister,
   .clipSprites]

/-- The name a document calls a point by. -/
def Point.name : Point → String
  | .resetFlagOnLogic => "reset_flag_on_logic_ops"
  | .advanceIndexOnCopy => "increment_index_on_bulk_copy"
  | .shiftSecondRegister => "use_secondary_register_in_shift"
  | .jumpByNamedRegister => "use_source_register_in_jump"
  | .clipSprites => "clip_sprites"

def choice (dialect : Dialect) : Point → Bool
  | .resetFlagOnLogic => dialect.resetFlagOnLogic
  | .advanceIndexOnCopy => dialect.advanceIndexOnCopy
  | .shiftSecondRegister => dialect.shiftSecondRegister
  | .jumpByNamedRegister => dialect.jumpByNamedRegister
  | .clipSprites => dialect.clipSprites

/-- A dialect with the choice on one point changed. -/
def choose (dialect : Dialect) (point : Point) (value : Bool) : Dialect :=
  match point with
  | .resetFlagOnLogic => { dialect with resetFlagOnLogic := value }
  | .advanceIndexOnCopy => { dialect with advanceIndexOnCopy := value }
  | .shiftSecondRegister => { dialect with shiftSecondRegister := value }
  | .jumpByNamedRegister => { dialect with jumpByNamedRegister := value }
  | .clipSprites => { dialect with clipSprites := value }

/-- A choice on one point changes that point and no other. -/
theorem choice_choose (dialect : Dialect) (point other : Point) (value : Bool) :
    (dialect.choose point value).choice other =
      if other = point then value else dialect.choice other := by
  cases point <;> cases other <;> rfl

end Dialect

inductive Preset where
  | chip8
  | schip
deriving DecidableEq, Repr

def Preset.all : List Preset := [.chip8, .schip]

def Preset.name : Preset → String
  | .chip8 => "chip8"
  | .schip => "schip"

def Preset.dialect : Preset → Dialect
  | .chip8 => {}
  | .schip =>
      { resetFlagOnLogic := false
        advanceIndexOnCopy := false
        shiftSecondRegister := false
        jumpByNamedRegister := true
        clipSprites := true }

/-- The dialect with exactly the given name. -/
def Preset.ofName? (name : String) : Option Preset :=
  Preset.all.find? fun preset => preset.name == name

end Chip8
