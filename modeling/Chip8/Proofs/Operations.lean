import Chip8.Proofs.Faults

/-!
Operations on two registers.  `Arithmetic.Computes` says in whole numbers what an
operation is to make of two values: a sum, a difference or a shifted value is never
cut, since the flag holds what the result has no room for.  The machine reads both
values first and writes the result before the flag, so it makes no difference which
of the two registers and the flag register are one.
-/

namespace Chip8

/-- What an operation is to make of two values: the result, and what is written to
the flag register if anything is. -/
def Arithmetic.Computes (dialect : Dialect) (a b result : Nat) (flag : Option Nat)
    (operation : Arithmetic) : Prop :=
  let source := if dialect.shiftSecondRegister then b else a
  let cleared := if dialect.resetFlagOnLogic then some 0 else none
  match operation with
  | .load => result = b ∧ flag = none
  | .or => result = a ||| b ∧ flag = cleared
  | .and => result = a &&& b ∧ flag = cleared
  | .xor => result = a ^^^ b ∧ flag = cleared
  | .add => ∃ carry ≤ 1, flag = some carry ∧ 256 * carry + result = a + b
  | .subtract => ∃ kept ≤ 1, flag = some kept ∧ result + b = a + 256 * (1 - kept)
  | .subtractFrom => ∃ kept ≤ 1, flag = some kept ∧ result + a = b + 256 * (1 - kept)
  | .shiftRight => ∃ lost ≤ 1, flag = some lost ∧ 2 * result + lost = source
  | .shiftLeft => ∃ lost ≤ 1, flag = some lost ∧ 256 * lost + result = 2 * source

namespace Arithmetic

theorem toNat_bit (c : Prop) [Decidable c] :
    (if c then (1 : UInt8) else 0).toNat = if c then 1 else 0 := by
  split <;> rfl

theorem bit_le (c : Prop) [Decidable c] : (if c then (1 : UInt8) else 0).toNat ≤ 1 := by
  split <;> decide

theorem add_exact (a b : UInt8) :
    256 * (if a.toNat + b.toNat > 255 then (1 : UInt8) else 0).toNat + (a + b).toNat =
      a.toNat + b.toNat := by
  have small := a.toNat_lt
  have otherSmall := b.toNat_lt
  rw [toNat_bit, UInt8.toNat_add]
  split <;> omega

theorem subtract_exact (a b : UInt8) :
    (a - b).toNat + b.toNat =
      a.toNat + 256 * (1 - (if b ≤ a then (1 : UInt8) else 0).toNat) := by
  have small := a.toNat_lt
  have otherSmall := b.toNat_lt
  rw [toNat_bit, UInt8.toNat_sub]
  simp only [UInt8.le_iff_toNat_le]
  split <;> omega

theorem shiftRight_exact (source : UInt8) :
    2 * (source >>> 1).toNat + (source &&& 1).toNat = source.toNat := by
  have one : (1 : UInt8).toNat = 1 := rfl
  rw [UInt8.toNat_shiftRight, UInt8.toNat_and, one, Nat.and_one_is_mod]
  simp only [Nat.reduceMod, Nat.shiftRight_eq_div_pow, Nat.reducePow]
  omega

theorem shiftLeft_exact (source : UInt8) :
    256 * (source >>> 7).toNat + (source <<< 1).toNat = 2 * source.toNat := by
  have small := source.toNat_lt
  have one : (1 : UInt8).toNat = 1 := rfl
  have seven : (7 : UInt8).toNat = 7 := rfl
  rw [UInt8.toNat_shiftRight, UInt8.toNat_shiftLeft, one, seven]
  simp only [Nat.reduceMod, Nat.shiftRight_eq_div_pow, Nat.shiftLeft_eq, Nat.reducePow]
  omega

/-- The bit that a shift drops. -/
theorem lost_le (source : UInt8) : (source &&& 1).toNat ≤ 1 ∧ (source >>> 7).toNat ≤ 1 := by
  have right := shiftRight_exact source
  have left := shiftLeft_exact source
  have small := source.toNat_lt
  have one : (1 : UInt8).toNat = 1 := rfl
  rw [UInt8.toNat_and, one, Nat.and_one_is_mod]
  omega

/-- The machine computes what it is to compute. -/
theorem computes_apply (dialect : Dialect) (operation : Arithmetic) (a b : UInt8) :
    operation.Computes dialect a.toNat b.toNat (operation.apply dialect a b).1.toNat
      ((operation.apply dialect a b).2.map UInt8.toNat) := by
  have source : (if dialect.shiftSecondRegister then b else a).toNat =
      if dialect.shiftSecondRegister then b.toNat else a.toNat := apply_ite _ _ _ _
  have cleared : (if dialect.resetFlagOnLogic then some (0 : UInt8) else none).map UInt8.toNat =
      if dialect.resetFlagOnLogic then some 0 else none := by split <;> rfl
  cases operation with
  | load => exact ⟨rfl, rfl⟩
  | or => exact ⟨UInt8.toNat_or a b, cleared⟩
  | and => exact ⟨UInt8.toNat_and a b, cleared⟩
  | xor => exact ⟨UInt8.toNat_xor a b, cleared⟩
  | add => exact ⟨_, bit_le _, rfl, add_exact a b⟩
  | subtract => exact ⟨_, bit_le _, rfl, subtract_exact a b⟩
  | subtractFrom => exact ⟨_, bit_le _, rfl, subtract_exact b a⟩
  | shiftRight => exact ⟨_, (lost_le _).1, rfl, (shiftRight_exact _).trans source⟩
  | shiftLeft => exact ⟨_, (lost_le _).2, rfl, (shiftLeft_exact _).trans (congrArg (2 * ·) source)⟩

/-- What is written to the flag register is one bit. -/
theorem Computes.flag_le {dialect : Dialect} {operation : Arithmetic} {a b result : Nat}
    {flag : Option Nat} (computes : operation.Computes dialect a b result flag) :
    ∀ bit ∈ flag, bit ≤ 1 := by
  cases operation with
  | load =>
      obtain ⟨_, rfl⟩ := computes
      simp
  | or | and | xor =>
      obtain ⟨_, rfl⟩ := computes
      split <;> simp
  | add | subtract | subtractFrom | shiftRight | shiftLeft =>
      obtain ⟨bit, small, rfl, _⟩ := computes
      simpa using small

end Arithmetic

/-- The registers after a result has been written to one of them and then, if there is
one, a flag to the flag register. -/
def Registers.record (registers : Registers) (x : Register) (result : UInt8)
    (flag : Option UInt8) : Registers :=
  flag.elim (registers.set x result) ((registers.set x result).set .flag)

theorem Registers.get_record (registers : Registers) (x r : Register) (result : UInt8)
    (flag : Option UInt8) :
    (registers.record x result flag).get r =
      if r = .flag then flag.getD (if r = x then result else registers.get r)
      else if r = x then result else registers.get r := by
  cases flag with
  | none => simp [record, get_set]
  | some bit => simp [record, get_set]

namespace Machine

theorem perform_arithmetic (around : Surroundings) (machine : Machine) (operation : Arithmetic)
    (x y : Register) :
    let outcome := operation.apply machine.dialect (machine.registers.get x)
      (machine.registers.get y)
    machine.perform around (.arithmetic operation x y) =
      ({ machine with registers := machine.registers.record x outcome.1 outcome.2 },
       .ok .advance) := by
  rw [perform.eq_def]
  dsimp only
  split
  next value applied =>
    rw [applied]
    rfl
  next value flag applied =>
    rw [applied]
    rfl

/-- Operations on two registers compute with what the registers hold before the
instruction, and write the result and then the flag, whichever of the registers and
the flag register are one.  Nothing else changes.  So the flag wins over a result that
was written to its register, and any other result stands. -/
theorem execute_arithmetic (around : Surroundings) (machine : Machine) (operation : Arithmetic)
    (word : Nat) (form : hasForm operation.form word = true) :
    let x : Register := nibble (word / 256)
    let y : Register := nibble (word / 16)
    ∃ (result : UInt8) (flag : Option UInt8),
      operation.Computes machine.dialect (machine.registers.get x).toNat
        (machine.registers.get y).toNat result.toNat (flag.map UInt8.toNat) ∧
      result.toNat ≤ 255 ∧ (∀ bit ∈ flag, bit.toNat ≤ 1) ∧
      machine.execute around word =
        ({ machine with registers := machine.registers.record x result flag }, .ok .advance) ∧
      (∀ bit ∈ flag, (machine.registers.record x result flag).get .flag = bit) ∧
      ((flag = none ∨ x ≠ .flag) → (machine.registers.record x result flag).get x = result) := by
  intro x y
  have computes := operation.computes_apply machine.dialect (machine.registers.get x)
    (machine.registers.get y)
  refine ⟨_, _, computes, ?_, ?_, ?_, ?_, ?_⟩
  · exact Nat.le_of_lt_succ (UInt8.toNat_lt _)
  · intro bit written
    exact computes.flag_le bit.toNat (Option.mem_map_of_mem _ written)
  · rw [execute_of_decode (Instruction.decode?_of_arithmetic form), perform_arithmetic]
  · intro bit written
    rw [Registers.get_record, if_pos rfl, written]
    rfl
  · intro stands
    rw [Registers.get_record]
    rcases stands with unflagged | apart
    · simp [unflagged]
    · simp [apart]

/-- The machine `adrift` with a value in its flag register. -/
def flagged : Machine := { adrift with registers := adrift.registers.set .flag 200 }

/-- Both operands and the flag are one register: 200 and 200 are 144 and a carry, and
the carry is what stays. -/
theorem execute_arithmetic_flagged :
    hasForm Arithmetic.add.form 0x8FF4 = true ∧
      (flagged.execute quiet 0x8FF4).1.registers.get .flag = 1 ∧
      (flagged.execute quiet 0x8FF4).2 = .ok .advance := by
  have form : hasForm Arithmetic.add.form 0x8FF4 = true := by decide
  obtain ⟨result, flag, ⟨carry, _, carried, sum⟩, small, _, executes, wins, _⟩ :=
    execute_arithmetic quiet flagged .add 0x8FF4 form
  obtain ⟨bit, rfl, rfl⟩ := Option.map_eq_some_iff.mp carried
  have carries : 256 * bit.toNat + result.toNat = 400 := sum.trans (by decide)
  have one : bit = 1 := UInt8.toNat_inj.mp (show bit.toNat = 1 by omega)
  rw [executes]
  exact ⟨form, (wins bit rfl).trans one, rfl⟩

end Machine
end Chip8
