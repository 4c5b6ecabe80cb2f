import Chip8.Proofs.Mnemonics
import Chip8.Proofs.Operations

/-!
A listing names what a word reads.  Two machines that differ in one byte register come
to the same on a word whose line does not name that register, but for the bulk store,
whose line stands for every register up to the one it names.
-/

namespace Chip8

/-! The operands of a line stand in what is written. -/

theorem Operand.chars_register (x : Register) : (register x).chars = ['V', Hex.digit x] := by
  rw [chars, Hex.paddedDigits, Hex.digits, if_pos x.isLt]
  rfl

theorem infix_intercalate (separator : List Char) {texts : List (List Char)} {text : List Char}
    (member : text ∈ texts) : text <:+: separator.intercalate texts := by
  induction texts with
  | nil => cases member
  | cons first rest ih =>
      cases rest with
      | nil =>
          obtain rfl := List.mem_singleton.mp member
          exact List.intercalate_singleton.symm ▸ List.infix_rfl
      | cons second rest =>
          rw [List.intercalate_cons_cons]
          rcases List.mem_cons.mp member with rfl | later
          · exact List.infix_append_of_infix_left List.infix_append_left
          · exact List.infix_append_of_infix_right (ih later)

theorem Line.infix_chars {line : Line} {operand : Operand} (member : operand ∈ line.operands) :
    operand.chars <:+: line.chars := by
  obtain ⟨mnemonic, operands⟩ := line
  cases operands with
  | nil => cases member
  | cons first rest =>
      have listed := infix_intercalate [',', ' '] (List.mem_map_of_mem (f := Operand.chars) member)
      exact (listed.trans (List.suffix_cons ' ' _).isInfix).trans (List.suffix_append _ _).isInfix

namespace Registers

theorem eq_of_get {a b : Registers} (same : ∀ x, a.get x = b.get x)
    (rest : ∀ v, { a with v } = { b with v }) : a = b := by
  have values : a.v = b.v := Vector.ext fun place small => same ⟨place, small⟩
  calc
    a = { a with v := b.v } := by rw [← values]
    _ = b := rest b.v

theorem get_set_of_ne (registers : Registers) {r x : Register} (apart : r ≠ x) (value : UInt8) :
    (registers.set r value).get x = registers.get x := by
  rw [get_set, if_neg apart.symm]

theorem set_comm (registers : Registers) {r x : Register} (apart : r ≠ x) (value other : UInt8) :
    (registers.set r value).set x other = (registers.set x other).set r value := by
  have places : r.val ≠ x.val := fun same => apart (Fin.ext same)
  simp [set, Vector.set_comm value other places]

/-- What has come of registers, and of the same with another value in one of them: they
are the same, for the register has been written over, or they still differ in it and
in nothing else, and the register has been left alone. -/
def Unread (registers : Registers) (r : Register) (value : UInt8) (first second : Registers) :
    Prop :=
  second = first ∨ (first.get r = registers.get r ∧ second = first.set r value)

namespace Unread

variable {registers first second : Registers} {r : Register} {value : UInt8}

theorem start (registers : Registers) (r : Register) (value : UInt8) :
    registers.Unread r value registers (registers.set r value) :=
  .inr ⟨rfl, rfl⟩

theorem set (unread : registers.Unread r value first second) (x : Register) (other : UInt8) :
    registers.Unread r value (first.set x other) (second.set x other) := by
  rcases unread with rfl | ⟨kept, rfl⟩
  · exact .inl rfl
  · by_cases apart : r = x
    · subst apart
      exact .inl (by simp [Registers.set])
    · exact .inr ⟨(first.get_set_of_ne (Ne.symm apart) other).trans kept,
        first.set_comm apart value other⟩

theorem record (unread : registers.Unread r value first second) (x : Register) (result : UInt8)
    (flag : Option UInt8) :
    registers.Unread r value (first.record x result flag) (second.record x result flag) := by
  cases flag with
  | none => exact unread.set x result
  | some bit => exact (unread.set x result).set .flag bit

theorem setFirst (unread : registers.Unread r value first second) (values : List UInt8) :
    registers.Unread r value (first.setFirst values) (second.setFirst values) := by
  rcases unread with rfl | ⟨kept, rfl⟩
  · exact .inl rfl
  rcases Nat.lt_or_ge r.val values.length with covered | past
  · refine .inl (eq_of_get (fun y => ?_) fun _ => rfl)
    rw [get_setFirst, get_setFirst, get_set]
    split
    next here =>
      subst here
      simp [covered]
    next => rfl
  · refine .inr ⟨?_, eq_of_get (fun y => ?_) fun _ => rfl⟩
    · rw [get_setFirst, List.getElem?_eq_none past, Option.getD_none, kept]
    · rw [get_setFirst, get_set, get_set, get_setFirst]
      split
      next here =>
        subst here
        simp [past]
      next => rfl

theorem index (unread : registers.Unread r value first second) (index : UInt16) :
    registers.Unread r value { first with index } { second with index } := by
  rcases unread with rfl | ⟨kept, rfl⟩
  · exact .inl rfl
  · exact .inr ⟨kept, rfl⟩

end Unread
end Registers

namespace Machine

/-- The machine with another value in a byte register. -/
def withRegister (machine : Machine) (r : Register) (value : UInt8) : Machine :=
  { machine with registers := machine.registers.set r value }

/-- What has come of a machine, and of the same with another value in a byte register:
one flow or one fault, and machines alike in all but the registers, where the one in
question has not been read. -/
def Unread (machine : Machine) (r : Register) (value : UInt8)
    (first second : Machine × Except Fault Flow) : Prop :=
  second.2 = first.2 ∧ second.1 = { first.1 with registers := second.1.registers } ∧
    machine.registers.Unread r value first.1.registers second.1.registers

section Performing

variable {machine : Machine} {r : Register} {instruction : Instruction}

/-- An instruction does not read a register that its line does not name, but for the
bulk store. -/
theorem perform_withRegister (value : UInt8)
    (unnamed : .register r ∉ (instruction.line machine.dialect.jumpByNamedRegister).operands)
    (unstored : ∀ x, instruction ≠ .store x) (around : Surroundings) :
    Unread machine r value (machine.perform around instruction)
      ((machine.withRegister r value).perform around instruction) := by
  have start := Registers.Unread.start machine.registers r value
  cases instruction with
  | store x => exact absurd rfl (unstored x)
  | arithmetic operation x y =>
      obtain ⟨apart, away⟩ : r ≠ x ∧ r ≠ y := by simpa [Instruction.line] using unnamed
      rw [perform_arithmetic, perform_arithmetic]
      dsimp only [withRegister]
      rw [machine.registers.get_set_of_ne apart, machine.registers.get_set_of_ne away]
      exact ⟨rfl, rfl, start.record x _ _⟩
  | setByte x _ | random x _ | readDelay x =>
      rw [perform.eq_def, perform.eq_def]
      exact ⟨rfl, rfl, start.set x _⟩
  | addByte x _ =>
      have apart : r ≠ x := by simpa [Instruction.line] using unnamed
      rw [perform.eq_def, perform.eq_def]
      dsimp only [withRegister]
      rw [machine.registers.get_set_of_ne apart]
      exact ⟨rfl, rfl, start.set x _⟩
  | draw x y height =>
      obtain ⟨apart, away⟩ : r ≠ x ∧ r ≠ y := by simpa [Instruction.line] using unnamed
      rw [perform.eq_def, perform.eq_def]
      dsimp only [withRegister, Registers.set_index]
      rw [machine.registers.get_set_of_ne apart, machine.registers.get_set_of_ne away]
      split
      next => exact ⟨rfl, rfl, start⟩
      next =>
        -- The line does not name the flag register, but what it held is written over.
        exact ⟨rfl, rfl, start.set .flag _⟩
  | fetch x =>
      rw [perform.eq_def, perform.eq_def]
      dsimp only [withRegister, Registers.set_index]
      split
      next => exact ⟨rfl, rfl, start⟩
      next values _ => exact ⟨rfl, rfl, (start.setFirst values).index _⟩
  | skipIfByte x _ | skipUnlessByte x _ | skipIfHeld x | skipUnlessHeld x | setDelay x | setSound x
  | addIndex x | glyph x | decimal x =>
      have apart : r ≠ x := by simpa [Instruction.line] using unnamed
      rw [perform.eq_def, perform.eq_def]
      dsimp only [withRegister, Registers.set_index]
      rw [machine.registers.get_set_of_ne apart]
      (try split) <;> exact ⟨rfl, rfl, .inr ⟨rfl, rfl⟩⟩
  | skipIfSame x y | skipUnlessSame x y =>
      obtain ⟨apart, away⟩ : r ≠ x ∧ r ≠ y := by simpa [Instruction.line] using unnamed
      rw [perform.eq_def, perform.eq_def]
      dsimp only [withRegister]
      rw [machine.registers.get_set_of_ne apart, machine.registers.get_set_of_ne away]
      exact ⟨rfl, rfl, start⟩
  | jumpOffset x target =>
      have apart : r ≠ if machine.dialect.jumpByNamedRegister then x else .first := by
        simpa [Instruction.line] using unnamed
      have same := machine.registers.get_set_of_ne apart value
      rw [perform.eq_def, perform.eq_def]
      dsimp only [withRegister]
      refine ⟨?_, rfl, start⟩
      exact congrArg
        (fun added : UInt8 => Except.ok (Flow.jump (UInt16.ofNat (target + added.toNat)))) same
  | clearScreen | jump _ | setIndex _ =>
      rw [perform.eq_def, perform.eq_def]
      exact ⟨rfl, rfl, .inr ⟨rfl, rfl⟩⟩
  | returnFromCall | call _ | awaitKey _ =>
      rw [perform.eq_def, perform.eq_def]
      dsimp only [withRegister, Registers.set_stack, Registers.set_counter]
      split <;> exact ⟨rfl, rfl, .inr ⟨rfl, rfl⟩⟩

end Performing

/-- A machine does not read a register that the listing of a word does not name, but for
the bulk store: whatever the register holds, the word comes to the same flow or the
same fault, and to the same machine but for that register, which is left alone or is
written over with one value. -/
theorem execute_of_unnamed (around : Surroundings) (machine : Machine) (word : Nat) (r : Register)
    (value : UInt8) (unstored : hasForm "FX55" word = false)
    (unnamed : ¬ ['V', Hex.digit r] <:+:
      (disassemble word machine.dialect.jumpByNamedRegister).toList) :
    Unread machine r value (machine.execute around word)
      ((machine.withRegister r value).execute around word) := by
  cases decoded : Instruction.decode? word with
  | none =>
      rw [execute, execute, decoded]
      exact ⟨rfl, rfl, Registers.Unread.start machine.registers r value⟩
  | some instruction =>
      rw [execute_of_decode decoded, execute_of_decode decoded]
      apply perform_withRegister
      · intro named
        apply unnamed
        rw [toList_disassemble, lineOf, decoded, ← Operand.chars_register]
        exact Line.infix_chars named
      · rintro x rfl
        have stored : hasForm "FX55" word = true := Instruction.hasForm_of_decode? decoded
        rw [stored] at unstored
        exact Bool.noConfusion unstored

/-- The bulk load of four registers covers what the third held, and its line names the
fourth. -/
theorem execute_of_unnamed_fetch :
    hasForm "FX55" 0xF365 = false ∧
      ¬ ['V', Hex.digit 2] <:+: (disassemble 0xF365 true).toList ∧
      Unread flagged 2 77 (flagged.execute quiet 0xF365)
        ((flagged.withRegister 2 77).execute quiet 0xF365) := by
  have unstored : hasForm "FX55" 0xF365 = false := by decide
  have unnamed : ¬ ['V', Hex.digit 2] <:+: (disassemble 0xF365 true).toList := by
    rw [toList_disassemble]
    change ¬ ['V', Hex.digit 2] <:+: Line.chars ⟨.ld, [.register 3, .block]⟩
    simp only [Line.chars, List.map_cons, Operand.chars_register]
    decide
  exact ⟨unstored, unnamed, execute_of_unnamed quiet flagged 0xF365 2 77 unstored unnamed⟩

end Machine
end Chip8
