import Chip8.Text.Hex
import Chip8.Text.Points

/-!
The faults of the machine and of the program around it.  A fault names its
cause; the wording is in this module alone.
-/

namespace Chip8

/-- What the machine, or the loading of a program into it, cannot recover
from. -/
inductive Fault where
  /-- A program that would end past the end of memory. -/
  | programTooBig (size endAddress : Int)
  /-- A word that is no instruction, with the address it was met at. -/
  | unsupportedOpcode (opcode : Int) (address : Option Int)
  /-- A key number that no key of the keypad has. -/
  | keyOutOfRange (index : Int)
  /-- A key wait asked for while one is under way for the given register. -/
  | keyWaitPending (register : Int)
  /-- A call with every slot of the stack taken. -/
  | stackOverflow (depth : Int)
  /-- A return with nothing on the stack. -/
  | stackUnderflow
  /-- A read or write outside memory. -/
  | outOfBounds (address length : Int)
  /-- A program file that cannot be read. -/
  | programUnreadable (path reason : Points)
deriving DecidableEq, Repr

namespace Fault

/-! The wording of each message around its details, which are texts already. -/

def programTooBigText (size endAddress : Points) : Points :=
  "ROM of " ++ size ++ " bytes would extend to $" ++ endAddress ++ ", past end of memory"

def unsupportedOpcodeText (opcode : Points) : Option Points → Points
  | none => "Unsupported opcode $" ++ opcode
  | some address => "Unsupported opcode $" ++ opcode ++ " at $" ++ address

def keyOutOfRangeText (index : Points) : Points :=
  "Key index " ++ index ++ " outside keypad range 0x0-0xF"

def keyWaitPendingText (register : Points) : Points :=
  "Key wait for V" ++ register ++ " already in progress"

def stackOverflowText (depth : Points) : Points :=
  "Stack overflow: more than " ++ depth ++ " nested calls"

def stackUnderflowText : Points := "Stack underflow: return with empty stack"

def outOfBoundsText (address length : Points) : Points :=
  "Memory access out of bounds: $" ++ address ++ " (+" ++ length ++ " bytes)"

def programUnreadableText (path reason : Points) : Points :=
  "Failed to load ROM " ++ path ++ ": " ++ reason

def message : Fault → Points
  | .programTooBig size endAddress =>
      programTooBigText (toString size) (Hex.signed 4 endAddress)
  | .unsupportedOpcode opcode address =>
      unsupportedOpcodeText (Hex.signed 4 opcode) (address.map fun place => Hex.signed 3 place)
  | .keyOutOfRange index => keyOutOfRangeText (Hex.marked 4 index)
  | .keyWaitPending register => keyWaitPendingText (Hex.signed 0 register)
  | .stackOverflow depth => stackOverflowText (toString depth)
  | .stackUnderflow => stackUnderflowText
  | .outOfBounds address length => outOfBoundsText (Hex.signed 4 address) (toString length)
  | .programUnreadable path reason => programUnreadableText path reason

end Fault
end Chip8
