import Chip8.Registers

/-!
Instructions: the words that are one, and what they stand for.
`Instruction.decode?` is the machine's reading of words.
-/

namespace Chip8

/-- An address that an instruction can name. -/
abbrev Address := Fin 4096

/-- The address of the low twelve bits of a number. -/
def Address.ofNat (value : Nat) : Address := ⟨value % 4096, Nat.mod_lt value (by decide)⟩

/-- The operations on two registers. -/
inductive Arithmetic where
  | load
  | or
  | and
  | xor
  | add
  | subtract
  | shiftRight
  | subtractFrom
  | shiftLeft
deriving DecidableEq, Repr

def Arithmetic.ofNibble? : Nat → Option Arithmetic
  | 0x0 => some .load
  | 0x1 => some .or
  | 0x2 => some .and
  | 0x3 => some .xor
  | 0x4 => some .add
  | 0x5 => some .subtract
  | 0x6 => some .shiftRight
  | 0x7 => some .subtractFrom
  | 0xE => some .shiftLeft
  | _ => none

inductive Instruction where
  /-- Darken the screen. -/
  | clearScreen
  /-- Go back to the address on top of the stack. -/
  | returnFromCall
  /-- Go to an address. -/
  | jump (target : Address)
  /-- Go to an address and keep the way back. -/
  | call (target : Address)
  /-- Skip if a register has a value. -/
  | skipIfByte (x : Register) (value : UInt8)
  /-- Skip unless a register has a value. -/
  | skipUnlessByte (x : Register) (value : UInt8)
  /-- Skip if two registers agree. -/
  | skipIfSame (x y : Register)
  /-- Skip unless two registers agree. -/
  | skipUnlessSame (x y : Register)
  /-- Give a register a value. -/
  | setByte (x : Register) (value : UInt8)
  /-- Add a value to a register, without a carry. -/
  | addByte (x : Register) (value : UInt8)
  /-- Operate on two registers. -/
  | arithmetic (operation : Arithmetic) (x y : Register)
  /-- Point the index register at an address. -/
  | setIndex (target : Address)
  /-- Go to an address plus a register. -/
  | jumpOffset (x : Register) (target : Address)
  /-- Give a register a random number under a mask. -/
  | random (x : Register) (mask : UInt8)
  /-- Draw the sprite at the index register. -/
  | draw (x y : Register) (height : Fin 16)
  /-- Skip if the key a register names is held. -/
  | skipIfHeld (x : Register)
  /-- Skip unless the key a register names is held. -/
  | skipUnlessHeld (x : Register)
  /-- Read the delay timer. -/
  | readDelay (x : Register)
  /-- Wait for a key. -/
  | awaitKey (x : Register)
  /-- Set the delay timer. -/
  | setDelay (x : Register)
  /-- Set the sound timer. -/
  | setSound (x : Register)
  /-- Move the index register on. -/
  | addIndex (x : Register)
  /-- Point the index register at the glyph of a digit. -/
  | glyph (x : Register)
  /-- Write the three decimal digits of a register. -/
  | decimal (x : Register)
  /-- Write the registers up to one. -/
  | store (x : Register)
  /-- Read the registers up to one. -/
  | fetch (x : Register)
deriving DecidableEq, Repr

namespace Instruction

/-- The instruction of a word; words of more than sixteen bits are read too. -/
def decode? (word : Nat) : Option Instruction :=
  let x : Register := nibble (word / 256)
  let y : Register := nibble (word / 16)
  let value := UInt8.ofNat word
  let target := Address.ofNat word
  match word / 4096 % 16 with
  | 0x0 =>
      if word = 0x00E0 then some .clearScreen
      else if word = 0x00EE then some .returnFromCall
      else none
  | 0x1 => some (.jump target)
  | 0x2 => some (.call target)
  | 0x3 => some (.skipIfByte x value)
  | 0x4 => some (.skipUnlessByte x value)
  | 0x5 => if word % 16 = 0 then some (.skipIfSame x y) else none
  | 0x6 => some (.setByte x value)
  | 0x7 => some (.addByte x value)
  | 0x8 => (Arithmetic.ofNibble? (word % 16)).map (.arithmetic · x y)
  | 0x9 => if word % 16 = 0 then some (.skipUnlessSame x y) else none
  | 0xA => some (.setIndex target)
  | 0xB => some (.jumpOffset x target)
  | 0xC => some (.random x value)
  | 0xD => some (.draw x y (nibble word))
  | 0xE =>
      match word % 256 with
      | 0x9E => some (.skipIfHeld x)
      | 0xA1 => some (.skipUnlessHeld x)
      | _ => none
  | _ =>
      match word % 256 with
      | 0x07 => some (.readDelay x)
      | 0x0A => some (.awaitKey x)
      | 0x15 => some (.setDelay x)
      | 0x18 => some (.setSound x)
      | 0x1E => some (.addIndex x)
      | 0x29 => some (.glyph x)
      | 0x33 => some (.decimal x)
      | 0x55 => some (.store x)
      | 0x65 => some (.fetch x)
      | _ => none

end Instruction
end Chip8
