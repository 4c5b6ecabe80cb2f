import Chip8.Instruction

/-!
Disassembly: words as they stand in a listing.  Words are read here by their
digits and by two tables of texts, apart from the machine's own reading of them.
-/

namespace Chip8
namespace Disassembly

def registerName (x : Register) : String := "V" ++ Hex.padded 1 x

def addressText (target : Address) : String := "$" ++ Hex.padded 3 target

def byteText (value : UInt8) : String := "$" ++ Hex.padded 2 value.toNat

/-- The names of the operations on two registers, by the last digit of the
word. -/
def operationNames : List (Nat × String) :=
  [(0x0, "LD"), (0x1, "OR"), (0x2, "AND"), (0x3, "XOR"), (0x4, "ADD"),
   (0x5, "SUB"), (0x6, "SHR"), (0x7, "SUBN"), (0xE, "SHL")]

/-- The texts of the words that begin with `F`, by the low byte of the word,
with `Vx` for the register. -/
def templates : List (Nat × String) :=
  [(0x07, "LD Vx, DT"), (0x0A, "LD Vx, K"), (0x15, "LD DT, Vx"),
   (0x18, "LD ST, Vx"), (0x1E, "ADD I, Vx"), (0x29, "LD F, Vx"),
   (0x33, "LD B, Vx"), (0x55, "LD [I], Vx"), (0x65, "LD Vx, [I]")]

/-- The characters of a template with a name in place of every `Vx`. -/
def fillChars (name : List Char) : List Char → List Char
  | [] => []
  | 'V' :: 'x' :: rest => name ++ fillChars name rest
  | char :: rest => char :: fillChars name rest

/-- A template with a name in place of every `Vx`. -/
def fill (name template : String) : String :=
  String.ofList (fillChars name.toList template.toList)

/-- The text of a word that is an instruction.  The jump with offset names the
register it adds, which the dialect decides. -/
def text? (word : Nat) (jumpByNamed : Bool) : Option String :=
  let x := registerName (nibble (word / 256))
  let y := registerName (nibble (word / 16))
  let target := addressText (Address.ofNat word)
  let value := byteText (UInt8.ofNat word)
  let first := word / 4096 % 16
  let last := word % 16
  let low := word % 256
  if word = 0x00E0 then some "CLS"
  else if word = 0x00EE then some "RET"
  else if first = 0x1 then some ("JP " ++ target)
  else if first = 0x2 then some ("CALL " ++ target)
  else if first = 0x3 then some ("SE " ++ x ++ ", " ++ value)
  else if first = 0x4 then some ("SNE " ++ x ++ ", " ++ value)
  else if first = 0x5 ∧ last = 0x0 then some ("SE " ++ x ++ ", " ++ y)
  else if first = 0x6 then some ("LD " ++ x ++ ", " ++ value)
  else if first = 0x7 then some ("ADD " ++ x ++ ", " ++ value)
  else if first = 0x8 then
    (operationNames.lookup last).map fun name => name ++ " " ++ x ++ ", " ++ y
  else if first = 0x9 ∧ last = 0x0 then some ("SNE " ++ x ++ ", " ++ y)
  else if first = 0xA then some ("LD I, " ++ target)
  else if first = 0xB then
    some (if jumpByNamed then "JP " ++ x ++ ", " ++ target else "JP V0, " ++ target)
  else if first = 0xC then some ("RND " ++ x ++ ", " ++ value)
  else if first = 0xD then some ("DRW " ++ x ++ ", " ++ y ++ ", " ++ toString last)
  else if first = 0xE ∧ low = 0x9E then some ("SKP " ++ x)
  else if first = 0xE ∧ low = 0xA1 then some ("SKNP " ++ x)
  else if first = 0xF then (templates.lookup low).map (fill x)
  else none

end Disassembly

/-- A word as it stands in a listing; a word that is no instruction is shown
as a number. -/
def disassemble (word : Nat) (jumpByNamed : Bool) : String :=
  (Disassembly.text? word jumpByNamed).getD ("??? $" ++ Hex.padded 4 word)

end Chip8
