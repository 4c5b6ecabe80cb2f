import Mathlib.Tactic.IntervalCases
import Chip8.Disassembly
import Chip8.Proofs.Faults
import Chip8.Proofs.Lines

/-!
Listings and the machine read words alike.  Every word has a line, by the
machine's own reading of it, and what `disassemble` writes is that line.  So a
listing marks the words that the machine does not know and no others, and what
stands in it says what the machine will do.
-/

namespace Chip8

def Arithmetic.mnemonic : Arithmetic → Mnemonic
  | load => .ld
  | or => .or
  | and => .and
  | xor => .xor
  | add => .add
  | subtract => .sub
  | shiftRight => .shr
  | subtractFrom => .subn
  | shiftLeft => .shl

namespace Instruction

/-- The line of an instruction.  The jump with offset names the register it
adds, which the dialect decides. -/
def line (jumpByNamed : Bool) : Instruction → Line
  | clearScreen => ⟨.cls, []⟩
  | returnFromCall => ⟨.ret, []⟩
  | jump target => ⟨.jp, [.address target]⟩
  | call target => ⟨.call, [.address target]⟩
  | skipIfByte x value => ⟨.se, [.register x, .byte value]⟩
  | skipUnlessByte x value => ⟨.sne, [.register x, .byte value]⟩
  | skipIfSame x y => ⟨.se, [.register x, .register y]⟩
  | skipUnlessSame x y => ⟨.sne, [.register x, .register y]⟩
  | setByte x value => ⟨.ld, [.register x, .byte value]⟩
  | addByte x value => ⟨.add, [.register x, .byte value]⟩
  | arithmetic operation x y => ⟨operation.mnemonic, [.register x, .register y]⟩
  | setIndex target => ⟨.ld, [.index, .address target]⟩
  | jumpOffset x target =>
      ⟨.jp, [.register (if jumpByNamed then x else .first), .address target]⟩
  | random x mask => ⟨.rnd, [.register x, .byte mask]⟩
  | draw x y height => ⟨.drw, [.register x, .register y, .rows height]⟩
  | skipIfHeld x => ⟨.skp, [.register x]⟩
  | skipUnlessHeld x => ⟨.sknp, [.register x]⟩
  | readDelay x => ⟨.ld, [.register x, .delay]⟩
  | awaitKey x => ⟨.ld, [.register x, .key]⟩
  | setDelay x => ⟨.ld, [.delay, .register x]⟩
  | setSound x => ⟨.ld, [.sound, .register x]⟩
  | addIndex x => ⟨.add, [.index, .register x]⟩
  | glyph x => ⟨.ld, [.glyph, .register x]⟩
  | decimal x => ⟨.ld, [.decimal, .register x]⟩
  | store x => ⟨.ld, [.block, .register x]⟩
  | fetch x => ⟨.ld, [.register x, .block]⟩

end Instruction

/-- The instruction of a line.  The register of a jump with offset is the first
digit of its address, whatever register the line names. -/
def Line.instruction? : Line → Option Instruction
  | ⟨.cls, []⟩ => some .clearScreen
  | ⟨.ret, []⟩ => some .returnFromCall
  | ⟨.jp, [.address target]⟩ => some (.jump target)
  | ⟨.call, [.address target]⟩ => some (.call target)
  | ⟨.se, [.register x, .byte value]⟩ => some (.skipIfByte x value)
  | ⟨.sne, [.register x, .byte value]⟩ => some (.skipUnlessByte x value)
  | ⟨.se, [.register x, .register y]⟩ => some (.skipIfSame x y)
  | ⟨.sne, [.register x, .register y]⟩ => some (.skipUnlessSame x y)
  | ⟨.ld, [.register x, .byte value]⟩ => some (.setByte x value)
  | ⟨.add, [.register x, .byte value]⟩ => some (.addByte x value)
  | ⟨.ld, [.register x, .register y]⟩ => some (.arithmetic .load x y)
  | ⟨.or, [.register x, .register y]⟩ => some (.arithmetic .or x y)
  | ⟨.and, [.register x, .register y]⟩ => some (.arithmetic .and x y)
  | ⟨.xor, [.register x, .register y]⟩ => some (.arithmetic .xor x y)
  | ⟨.add, [.register x, .register y]⟩ => some (.arithmetic .add x y)
  | ⟨.sub, [.register x, .register y]⟩ => some (.arithmetic .subtract x y)
  | ⟨.shr, [.register x, .register y]⟩ => some (.arithmetic .shiftRight x y)
  | ⟨.subn, [.register x, .register y]⟩ => some (.arithmetic .subtractFrom x y)
  | ⟨.shl, [.register x, .register y]⟩ => some (.arithmetic .shiftLeft x y)
  | ⟨.ld, [.index, .address target]⟩ => some (.setIndex target)
  | ⟨.jp, [.register _, .address target]⟩ => some (.jumpOffset (nibble (target / 256)) target)
  | ⟨.rnd, [.register x, .byte mask]⟩ => some (.random x mask)
  | ⟨.drw, [.register x, .register y, .rows height]⟩ => some (.draw x y height)
  | ⟨.skp, [.register x]⟩ => some (.skipIfHeld x)
  | ⟨.sknp, [.register x]⟩ => some (.skipUnlessHeld x)
  | ⟨.ld, [.register x, .delay]⟩ => some (.readDelay x)
  | ⟨.ld, [.register x, .key]⟩ => some (.awaitKey x)
  | ⟨.ld, [.delay, .register x]⟩ => some (.setDelay x)
  | ⟨.ld, [.sound, .register x]⟩ => some (.setSound x)
  | ⟨.add, [.index, .register x]⟩ => some (.addIndex x)
  | ⟨.ld, [.glyph, .register x]⟩ => some (.glyph x)
  | ⟨.ld, [.decimal, .register x]⟩ => some (.decimal x)
  | ⟨.ld, [.block, .register x]⟩ => some (.store x)
  | ⟨.ld, [.register x, .block]⟩ => some (.fetch x)
  | _ => none

/-- The line of a word, by the machine's reading of it. -/
def lineOf (word : Nat) (jumpByNamed : Bool) : Line :=
  match Instruction.decode? word with
  | some instruction => instruction.line jumpByNamed
  | none => ⟨.unknown, [.word word]⟩

/-- A line says which instruction it stands for, though one of its operands may
be another register than the word holds. -/
theorem instruction?_lineOf (word : Nat) (jumpByNamed : Bool) :
    (lineOf word jumpByNamed).instruction? = Instruction.decode? word := by
  unfold lineOf
  cases decoded : Instruction.decode? word with
  | none => rfl
  | some instruction =>
      cases instruction with
      | jumpOffset x target =>
          -- A word keeps the register of this jump as the first digit of its address.
          obtain ⟨rfl, rfl⟩ := Instruction.operandsIn_of_decode? decoded
          have digit : nibble (word / 256) = nibble (Address.ofNat word / 256 : Nat) := by
            apply Fin.ext
            simp only [nibble, Address.ofNat]
            omega
          rw [digit]
          rfl
      | arithmetic operation x y => cases operation <;> rfl
      | _ => rfl

theorem mnemonic_lineOf (word : Nat) (jumpByNamed : Bool) :
    (lineOf word jumpByNamed).mnemonic = .unknown ↔ Instruction.decode? word = none := by
  unfold lineOf
  cases Instruction.decode? word with
  | none => simp
  | some instruction =>
      cases instruction with
      | arithmetic operation x y => cases operation <;> simp [Instruction.line, Arithmetic.mnemonic]
      | _ => simp [Instruction.line]

/-! What is written for a word is its line. -/

namespace Disassembly

@[simp] theorem toList_registerName (x : Register) :
    (registerName x).toList = (Operand.register x).chars := by
  simp [registerName, Operand.chars, Hex.padded]

@[simp] theorem toList_addressText (target : Address) :
    (addressText target).toList = (Operand.address target).chars := by
  simp [addressText, Operand.chars, Hex.padded]

@[simp] theorem toList_byteText (value : UInt8) :
    (byteText value).toList = (Operand.byte value).chars := by
  simp [byteText, Operand.chars, Hex.padded]

theorem toList_fill (x : Register) (template : String) :
    (fill (registerName x) template).toList =
      fillChars (Operand.register x).chars template.toList := by
  rw [fill, String.toList_ofList, toList_registerName]

theorem chars_first : (Operand.register .first).chars = ['V', '0'] := by
  simp [Operand.chars, Register.first, Hex.paddedDigits, Hex.digits, Hex.digit]

theorem lookup_operationNames : ∀ last < 16,
    operationNames.lookup last =
      (Arithmetic.ofNibble? last).map fun operation => operation.mnemonic.name := by
  decide

/-- The two readings of a word agree: both find an instruction, and the text is
the one of its line, or neither does. -/
def Agree (word : Nat) (jumpByNamed : Bool) : Prop :=
  (text? word jumpByNamed).map String.toList =
    (Instruction.decode? word).map fun instruction => (instruction.line jumpByNamed).chars

variable {word : Nat} (jumpByNamed : Bool)

theorem agree_of_arithmetic (first : word / 4096 % 16 = 0x8) : Agree word jumpByNamed := by
  have cls : word ≠ 0x00E0 := by omega
  have ret : word ≠ 0x00EE := by omega
  simp only [Agree, text?, Instruction.decode?, cls, ret, first, Nat.reduceEqDiff, if_false,
    if_true, false_and]
  rw [lookup_operationNames _ (Nat.mod_lt _ (by decide))]
  cases Arithmetic.ofNibble? (word % 16) with
  | none => rfl
  | some operation => simp [Instruction.line, Line.chars]

theorem agree_of_keySkip (first : word / 4096 % 16 = 0xE) : Agree word jumpByNamed := by
  have cls : word ≠ 0x00E0 := by omega
  have ret : word ≠ 0x00EE := by omega
  simp only [Agree, text?, Instruction.decode?, cls, ret, first, Nat.reduceEqDiff, if_false,
    false_and, true_and]
  by_cases held : word % 256 = 0x9E
  · simp [held, Instruction.line, Line.chars, Mnemonic.name]
  by_cases unheld : word % 256 = 0xA1
  · simp [unheld, Instruction.line, Line.chars, Mnemonic.name]
  rw [if_neg held, if_neg unheld]
  split <;> trivial

theorem agree_of_template (first : word / 4096 % 16 = 0xF) : Agree word jumpByNamed := by
  have cls : word ≠ 0x00E0 := by omega
  have ret : word ≠ 0x00EE := by omega
  simp only [Agree, text?, Instruction.decode?, cls, ret, first, Nat.reduceEqDiff, if_false,
    if_true, false_and]
  split
  case h_10 =>
    simp only [imp_false] at *
    have missing : templates.lookup (word % 256) = none := by
      rw [List.lookup_eq_none_iff]
      simp [templates, *]
    rw [missing]
    rfl
  all_goals
    next low =>
      rw [low]
      simp only [templates, List.lookup_cons, Nat.reduceBEq, Option.map_some, toList_fill]
      rfl

theorem agree (word : Nat) (jumpByNamed : Bool) : Agree word jumpByNamed := by
  -- Two words are read whole; all others go by their first digit.
  by_cases cls : word = 0x00E0
  · subst cls
    rfl
  by_cases ret : word = 0x00EE
  · subst ret
    rfl
  have lt : word / 4096 % 16 < 16 := Nat.mod_lt _ (by decide)
  generalize first_eq : word / 4096 % 16 = first at lt
  interval_cases first
  case «8» => exact agree_of_arithmetic jumpByNamed first_eq
  case «14» => exact agree_of_keySkip jumpByNamed first_eq
  case «15» => exact agree_of_template jumpByNamed first_eq
  all_goals
    simp only [Agree, text?, Instruction.decode?, cls, ret, first_eq, Nat.reduceEqDiff, if_false,
      if_true, false_and, true_and, Option.map_some, Option.map_none, Option.some.injEq]
  case «5» | «9» =>
    split
    next => simp [Instruction.line, Line.chars, Mnemonic.name]
    next => rfl
  case «11» =>
    cases jumpByNamed with
    | true => simp [Instruction.line, Line.chars, Mnemonic.name]
    | false => simp [Instruction.line, Line.chars, Mnemonic.name, chars_first]
  case «13» => simp [Instruction.line, Line.chars, Mnemonic.name, Operand.chars, nibble]
  all_goals simp [Instruction.line, Line.chars, Mnemonic.name, Operand.chars]

end Disassembly

theorem toList_disassemble (word : Nat) (jumpByNamed : Bool) :
    (disassemble word jumpByNamed).toList = (lineOf word jumpByNamed).chars := by
  have agree := Disassembly.agree word jumpByNamed
  unfold Disassembly.Agree at agree
  unfold disassemble lineOf
  cases decoded : Instruction.decode? word with
  | none =>
      rw [decoded, Option.map_none, Option.map_eq_none_iff] at agree
      rw [agree]
      simp [Line.chars, Mnemonic.name, Operand.chars, Hex.padded]
  | some instruction =>
      rw [decoded, Option.map_some] at agree
      obtain ⟨text, found, same⟩ := Option.map_eq_some_iff.mp agree
      rw [found, Option.getD_some, same]

/-- Words that are written alike have one line. -/
theorem lineOf_eq_of_disassemble_eq {a b : Nat} {jumpByNamed : Bool}
    (same : disassemble a jumpByNamed = disassemble b jumpByNamed) :
    lineOf a jumpByNamed = lineOf b jumpByNamed := by
  apply Line.chars_injective
  rw [← toList_disassemble, ← toList_disassemble, same]

namespace Machine

theorem performHazard?_ne_unsupportedOpcode (machine : Machine) (instruction : Instruction)
    (opcode : Int) (address : Option Int) :
    machine.performHazard? instruction ≠ some (.unsupportedOpcode opcode address) := by
  cases instruction with
  | awaitKey x => cases register : machine.wait.register? <;> simp [performHazard?, register]
  | _ => simp [performHazard?]

/-- A word is unsupported just if it is no instruction; other faults are told
from this one. -/
theorem execute_unsupported_iff (around : Surroundings) (machine : Machine) (word : Nat)
    (opcode : Int) (address : Option Int) :
    (machine.execute around word).2 = .error (.unsupportedOpcode opcode address) ↔
      Instruction.decode? word = none ∧ opcode = word ∧
        address = some (machine.registers.counter.toNat : Int) := by
  cases decoded : Instruction.decode? word with
  | none =>
      rw [execute, decoded]
      simp [eq_comm]
  | some instruction =>
      rw [execute_of_decode decoded, ← faultOf?_eq_some_iff, faultOf?_perform]
      simp [performHazard?_ne_unsupportedOpcode]

/-- A listing marks just the words that the machine refuses as unsupported, and
shows them by the digits that the message of the fault has. -/
theorem disassemble_unknown_iff (word : Nat) (jumpByNamed : Bool) (around : Surroundings)
    (machine : Machine) :
    ("???".toList <+: (disassemble word jumpByNamed).toList ↔
      ∃ opcode address,
        (machine.execute around word).2 = .error (.unsupportedOpcode opcode address)) ∧
    ∀ opcode address,
      (machine.execute around word).2 = .error (.unsupportedOpcode opcode address) →
      disassemble word jumpByNamed = "??? $" ++ Hex.padded 4 word ∧
      (Fault.unsupportedOpcode opcode address).message =
        "Unsupported opcode $" ++ (Hex.padded 4 word : Points) ++ " at $" ++
          Hex.padded 3 machine.registers.counter.toNat := by
  simp only [execute_unsupported_iff]
  constructor
  · rw [toList_disassemble, Line.unknown_prefix_iff, mnemonic_lineOf]
    constructor
    · intro undecoded
      exact ⟨word, _, undecoded, rfl, rfl⟩
    · rintro ⟨_, _, undecoded, _⟩
      exact undecoded
  · rintro _ _ ⟨undecoded, rfl, rfl⟩
    constructor
    · rw [← String.toList_inj, toList_disassemble, lineOf, undecoded]
      simp [Line.chars, Mnemonic.name, Operand.chars, Hex.padded]
    · rfl

theorem disassemble_unknown_iff_wide :
    "???".toList <+: (disassemble 0x100E0 true).toList ∧
      disassemble 0x100E0 true = "??? $" ++ Hex.padded 4 0x100E0 ∧
      (Fault.unsupportedOpcode 0x100E0 (some 0x1000)).message =
        "Unsupported opcode $" ++ (Hex.padded 4 0x100E0 : Points) ++ " at $" ++
          Hex.padded 3 0x1000 := by
  have refused : (adrift.execute quiet 0x100E0).2 =
      .error (.unsupportedOpcode 0x100E0 (some 0x1000)) := rfl
  have alike := disassemble_unknown_iff 0x100E0 true quiet adrift
  exact ⟨alike.1.mpr ⟨_, _, refused⟩, alike.2 _ _ refused⟩

/-- What stands in a listing says what the machine does: words that are written
alike are carried out alike, whichever register the listing shows for the jump
with offset. -/
theorem execute_eq_of_disassemble_eq {a b : Nat} {jumpByNamed : Bool}
    (same : disassemble a jumpByNamed = disassemble b jumpByNamed) (around : Surroundings)
    (machine : Machine) : machine.execute around a = machine.execute around b := by
  have lines := lineOf_eq_of_disassemble_eq same
  have decoded : Instruction.decode? a = Instruction.decode? b := by
    rw [← instruction?_lineOf a jumpByNamed, lines, instruction?_lineOf]
  cases found : Instruction.decode? a with
  | none =>
      rw [lineOf, lineOf, ← decoded, found] at lines
      obtain rfl : a = b := by simpa using lines
      rfl
  | some instruction =>
      rw [execute_of_decode found, execute_of_decode (decoded.symm.trans found)]

theorem execute_eq_of_disassemble_eq_wide :
    disassemble 0x18124 false = disassemble 0x8124 false ∧
      adrift.execute quiet 0x18124 = adrift.execute quiet 0x8124 := by
  have same : disassemble 0x18124 false = disassemble 0x8124 false := rfl
  exact ⟨same, execute_eq_of_disassemble_eq same quiet adrift⟩

end Machine
end Chip8
