import Chip8.Fault
import Chip8.Json.Value

/-!
Notices: messages about faults, made from details of any kind.  A detail that is
shown as it is may be anything; one that is shown in hexadecimal must be a whole
number.  With the details of a fault a notice is the message of the fault.
-/

namespace Chip8

/-- What a notice is about. -/
inductive Notice where
  | programTooBig
  | unsupportedOpcode
  | keyOutOfRange
  | keyWaitPending
  | stackOverflow
  | stackUnderflow
  | outOfBounds
  | programUnreadable
  /-- Something that its details say themselves. -/
  | plain
deriving DecidableEq, Repr

namespace Notice

/-- Why there is no notice. -/
inductive Refusal where
  /-- Too many details or too few. -/
  | wrongCount
  /-- A detail that is no number and no text where a number is asked for. -/
  | notANumber
  /-- A text or a fraction where a whole number is asked for. -/
  | notWhole
deriving DecidableEq, Repr

/-- A detail as it is. -/
def plainText : Json.Value → Points
  | .text value => value
  | value => value.shown

/-- A detail that is a whole number; a truth value counts as one or zero. -/
def whole : Json.Value → Except Refusal Int
  | .integer value => .ok value
  | .boolean value => .ok (if value then 1 else 0)
  | .text _ | .real _ => .error .notWhole
  | .null | .array _ | .object _ => .error .notANumber

/-- A detail in hexadecimal. -/
def hexText (width : Nat) (detail : Json.Value) : Except Refusal Points :=
  (fun value => Hex.signed width value) <$> whole detail

/-- The address an unknown word was met at, if one is told. -/
def addressText : Json.Value → Except Refusal (Option Points)
  | .null => .ok none
  | detail => some <$> hexText 3 detail

def message : Notice → List Json.Value → Except Refusal Points
  | .programTooBig, [size, endAddress] =>
      Fault.programTooBigText (plainText size) <$> hexText 4 endAddress
  | .unsupportedOpcode, [opcode] =>
      (Fault.unsupportedOpcodeText · none) <$> hexText 4 opcode
  | .unsupportedOpcode, [opcode, address] => do
      let place ← addressText address
      return Fault.unsupportedOpcodeText (← hexText 4 opcode) place
  | .keyOutOfRange, [index] =>
      (fun index => Fault.keyOutOfRangeText (Hex.marked 4 index)) <$> whole index
  | .keyWaitPending, [register] => Fault.keyWaitPendingText <$> hexText 0 register
  | .stackOverflow, [depth] => .ok (Fault.stackOverflowText (plainText depth))
  | .stackUnderflow, [] => .ok Fault.stackUnderflowText
  | .outOfBounds, [address] => (Fault.outOfBoundsText · "1") <$> hexText 4 address
  | .outOfBounds, [address, length] =>
      (Fault.outOfBoundsText · (plainText length)) <$> hexText 4 address
  | .programUnreadable, [path, reason] =>
      .ok (Fault.programUnreadableText (plainText path) (plainText reason))
  | .plain, [] => .ok ""
  | .plain, [detail] => .ok (plainText detail)
  | .plain, details => .ok ("(" ++ ", ".intercalate (Json.shownItems details) ++ ")")
  | _, _ => .error .wrongCount

end Notice

/-- What a fault is, as a notice. -/
def Fault.notice : Fault → Notice × List Json.Value
  | .programTooBig size endAddress => (.programTooBig, [.integer size, .integer endAddress])
  | .unsupportedOpcode opcode none => (.unsupportedOpcode, [.integer opcode])
  | .unsupportedOpcode opcode (some address) =>
      (.unsupportedOpcode, [.integer opcode, .integer address])
  | .keyOutOfRange index => (.keyOutOfRange, [.integer index])
  | .keyWaitPending register => (.keyWaitPending, [.integer register])
  | .stackOverflow depth => (.stackOverflow, [.integer depth])
  | .stackUnderflow => (.stackUnderflow, [])
  | .outOfBounds address length => (.outOfBounds, [.integer address, .integer length])
  | .programUnreadable path reason =>
      (.programUnreadable, [.text path, .text reason])

/-- The notice of a fault is the message of the fault. -/
theorem Fault.message_notice (fault : Fault) :
    fault.notice.1.message fault.notice.2 = .ok fault.message := by
  cases fault with
  | unsupportedOpcode opcode address =>
      cases address <;> rfl
  | programTooBig size endAddress =>
      simp only [notice, Notice.message, Notice.plainText, Json.Value.shown]
      rfl
  | stackOverflow depth =>
      simp only [notice, Notice.message, Notice.plainText, Json.Value.shown]
      rfl
  | outOfBounds address length =>
      simp only [notice, Notice.message, Notice.plainText, Json.Value.shown]
      rfl
  | programUnreadable path reason => rfl
  | keyOutOfRange index => rfl
  | keyWaitPending register => rfl
  | stackUnderflow => rfl

end Chip8
