import Mathlib.Data.List.Basic
import Chip8.Proofs.HexText
import Chip8.Registers

/-!
A dump can be read back.  Its lines are parted by line ends and the words of a line by
blanks, and no word has either of them, so a dump gives its words back whatever their
width.  A register stands in its word with all its digits.
-/

namespace Chip8.Registers

/-- A text without the marks that part the words of a dump. -/
def Unparted (chars : List Char) : Prop := ∀ char ∈ chars, char ≠ ' ' ∧ char ≠ '\n'

instance (chars : List Char) : Decidable (Unparted chars) :=
  List.decidableBAll (fun char => char ≠ ' ' ∧ char ≠ '\n') chars

theorem unparted_paddedDigits (width number : Nat) : Unparted (Hex.paddedDigits width number) :=
  Hex.forall_mem_paddedDigits (by decide) width number

theorem unparted_repr (number : Nat) : Unparted number.repr.toList := by
  intro char member
  rw [Nat.toList_repr] at member
  have digit := Nat.isDigit_of_mem_toDigits (by decide) (by decide) member
  constructor <;> (rintro rfl; exact absurd digit (by decide))

theorem decimal_injective : Function.Injective fun number : Nat => number.repr.toList := by
  have back : Function.LeftInverse (Nat.ofDigitChars 10 · 0)
      fun number : Nat => number.repr.toList := by
    intro number
    simp only [Nat.toList_repr, Nat.ofDigitChars_ten_toDigits]
  exact back.injective

/-- The words of some byte registers. -/
def byteWords (values : List UInt8) : List (List Char) :=
  values.map fun value => Hex.paddedDigits 2 value.toNat

theorem byteWords_injective : Function.Injective byteWords :=
  List.map_injective_iff.mpr fun _ _ same =>
    UInt8.toNat_inj.mp (Hex.paddedDigits_injective 2 same)

/-- The words of a dump, line by line.  Two blanks have an empty word between them. -/
def dumpWords (registers : Registers) : List (List (List Char)) :=
  [["PC:".toList, '$' :: Hex.paddedDigits 3 registers.counter.toNat, [],
    "I:".toList, '$' :: Hex.paddedDigits 3 registers.index.toNat, [],
    "SP:".toList, registers.stack.depth.repr.toList],
   ["DT:".toList, Hex.paddedDigits 2 registers.delay.toNat, [],
    "ST:".toList, Hex.paddedDigits 2 registers.sound.toNat],
   "V0-V7:".toList :: byteWords (registers.v.toList.take 8),
   "V8-VF:".toList :: byteWords (registers.v.toList.drop 8)]

theorem unparted_of_mem_byteWords {values : List UInt8} :
    ∀ word ∈ byteWords values, Unparted word :=
  List.forall_mem_map.mpr fun value _ => unparted_paddedDigits 2 value.toNat

theorem unparted_of_mem_dumpWords (registers : Registers) :
    ∀ line ∈ registers.dumpWords, ∀ word ∈ line, Unparted word := by
  have address (number : Nat) : Unparted ('$' :: Hex.paddedDigits 3 number) :=
    List.forall_mem_cons.mpr ⟨by decide, unparted_paddedDigits 3 number⟩
  have timer (value : UInt8) : Unparted (Hex.paddedDigits 2 value.toNat) :=
    unparted_paddedDigits 2 value.toNat
  simp only [dumpWords, List.forall_mem_cons, List.not_mem_nil, false_imp_iff, implies_true,
    and_true]
  refine ⟨?pointers, ?timers, ?low, ?high⟩
  case pointers =>
    exact ⟨by decide, address _, by decide, by decide, address _, by decide, by decide,
      unparted_repr _⟩
  case timers => exact ⟨by decide, timer _, by decide, by decide, timer _⟩
  case low => exact ⟨by decide, unparted_of_mem_byteWords⟩
  case high => exact ⟨by decide, unparted_of_mem_byteWords⟩

theorem toList_byteLine (values : List UInt8) :
    (byteLine values).toList = [' '].intercalate (byteWords values) := by
  rw [byteLine, String.toList_intercalate, List.map_map, byteWords]
  simp [Hex.padded, Function.comp_def]

/-- A dump is its words, parted by blanks and line ends. -/
theorem toList_dump (registers : Registers) :
    registers.dump.toList = ['\n'].intercalate (registers.dumpWords.map [' '].intercalate) := by
  have length : registers.v.toList.length = 16 := Vector.length_toList
  have low : byteWords (registers.v.toList.take 8) ≠ [] := by
    rw [byteWords, ← List.length_pos_iff]
    simp [length]
  have high : byteWords (registers.v.toList.drop 8) ≠ [] := by
    rw [byteWords, ← List.length_pos_iff]
    simp [length]
  have lines : registers.dumpLines.map String.toList =
      registers.dumpWords.map [' '].intercalate := by
    simp only [dumpLines, dumpWords, List.map_cons, List.map_nil, String.toList_append,
      toList_byteLine, Hex.padded, String.toList_ofList, Nat.toString_eq_repr,
      List.intercalate_cons_cons, List.intercalate_singleton, List.intercalate_cons_of_ne_nil low,
      List.intercalate_cons_of_ne_nil high]
    simp
  rw [dump, String.toList_intercalate, lines]
  rfl

theorem notMem_intercalate {char mark : Char} (apart : char ≠ mark) {words : List (List Char)}
    (absent : ∀ word ∈ words, char ∉ word) : char ∉ [mark].intercalate words := by
  induction words with
  | nil => exact List.not_mem_nil
  | cons word rest ih =>
      obtain ⟨here, later⟩ := List.forall_mem_cons.mp absent
      cases rest with
      | nil => rwa [List.intercalate_singleton]
      | cons next rest =>
          rw [List.intercalate_cons_cons, List.mem_append, List.mem_append, List.mem_singleton]
          rintro ((there | same) | there)
          · exact here there
          · exact apart same
          · exact ih later there

/-- A dump gives its words back. -/
theorem splitOn_dump (registers : Registers) :
    (registers.dump.toList.splitOn '\n').map (List.splitOn ' ') = registers.dumpWords := by
  have unparted := registers.unparted_of_mem_dumpWords
  have lines : registers.dump.toList.splitOn '\n' =
      registers.dumpWords.map [' '].intercalate := by
    rw [toList_dump]
    refine List.splitOn_intercalate '\n' (List.forall_mem_map.mpr ?_) (List.cons_ne_nil _ _)
    intro line member
    refine notMem_intercalate (by decide) fun word among ends => ?_
    exact (unparted line member word among '\n' ends).2 rfl
  have words : ∀ line ∈ registers.dumpWords, ([' '].intercalate line).splitOn ' ' = line := by
    intro line member
    refine List.splitOn_intercalate ' ' (fun word among blank => ?_) ?_
    · exact (unparted line member word among ' ' blank).1 rfl
    · rintro rfl
      simp [dumpWords] at member
  rw [lines, List.map_map]
  exact (List.map_congr_left words).trans (List.map_id _)

/-- Dumps are alike just if all that they show is: the program counter, the index
register, the depth of the stack, both timers and the sixteen byte registers. -/
theorem dump_eq_iff (first second : Registers) :
    first.dump = second.dump ↔
      first.counter = second.counter ∧ first.index = second.index ∧
      first.stack.depth = second.stack.depth ∧
      first.delay = second.delay ∧ first.sound = second.sound ∧ first.v = second.v := by
  constructor
  · intro same
    have words : first.dumpWords = second.dumpWords := by
      rw [← splitOn_dump, ← splitOn_dump, same]
    simp only [dumpWords, List.cons.injEq, true_and, and_true, and_assoc] at words
    obtain ⟨counter, index, depth, delay, sound, low, high⟩ := words
    have byteRegisters : first.v.toList = second.v.toList := by
      rw [← List.take_append_drop 8 first.v.toList, byteWords_injective low,
        byteWords_injective high, List.take_append_drop]
    exact ⟨UInt16.toNat_inj.mp (Hex.paddedDigits_injective 3 counter),
      UInt16.toNat_inj.mp (Hex.paddedDigits_injective 3 index),
      decimal_injective depth,
      UInt8.toNat_inj.mp (Hex.paddedDigits_injective 2 delay),
      UInt8.toNat_inj.mp (Hex.paddedDigits_injective 2 sound), Vector.toList_inj.mp byteRegisters⟩
  · rintro ⟨counter, index, depth, delay, sound, v⟩
    simp only [dump, dumpLines, counter, index, depth, delay, sound, v]

end Chip8.Registers
