import Chip8.Listing
import Chip8.Proofs.Mnemonics

/-!
A program is recovered from its listing.  Every word of sixteen bits is read back from what is
written for it, also a word that is no instruction, and the last byte of an odd program stands
behind a mark that no word has.  So the lines give the program back, wherever it starts and
whichever register they show for the jump with offset.
-/

namespace Chip8

/-! The word of a line. -/

/-- The last digit of the words of an operation. -/
def Arithmetic.digit : Arithmetic → Nat
  | load => 0x0
  | or => 0x1
  | and => 0x2
  | xor => 0x3
  | add => 0x4
  | subtract => 0x5
  | shiftRight => 0x6
  | subtractFrom => 0x7
  | shiftLeft => 0xE

/-- The word of sixteen bits that stands for an instruction. -/
def Instruction.word : Instruction → Nat
  | clearScreen => 0x00E0
  | returnFromCall => 0x00EE
  | jump target => 0x1000 + target
  | call target => 0x2000 + target
  | skipIfByte x value => 0x3000 + 256 * x + value.toNat
  | skipUnlessByte x value => 0x4000 + 256 * x + value.toNat
  | skipIfSame x y => 0x5000 + 256 * x + 16 * y
  | setByte x value => 0x6000 + 256 * x + value.toNat
  | addByte x value => 0x7000 + 256 * x + value.toNat
  | arithmetic operation x y => 0x8000 + 256 * x + 16 * y + operation.digit
  | skipUnlessSame x y => 0x9000 + 256 * x + 16 * y
  | setIndex target => 0xA000 + target
  | jumpOffset _ target => 0xB000 + target
  | random x mask => 0xC000 + 256 * x + mask.toNat
  | draw x y height => 0xD000 + 256 * x + 16 * y + height
  | skipIfHeld x => 0xE09E + 256 * x
  | skipUnlessHeld x => 0xE0A1 + 256 * x
  | readDelay x => 0xF007 + 256 * x
  | awaitKey x => 0xF00A + 256 * x
  | setDelay x => 0xF015 + 256 * x
  | setSound x => 0xF018 + 256 * x
  | addIndex x => 0xF01E + 256 * x
  | glyph x => 0xF029 + 256 * x
  | decimal x => 0xF033 + 256 * x
  | store x => 0xF055 + 256 * x
  | fetch x => 0xF065 + 256 * x

/-- An instruction tells its word: the form has the digits that are fixed, and the operands
are the others. -/
theorem Instruction.word_of_decode? {word : Nat} {instruction : Instruction}
    (small : word < 65536) (decoded : decode? word = some instruction) :
    instruction.word = word := by
  have fixed := hasForm_of_decode? decoded
  have operands := operandsIn_of_decode? decoded
  cases instruction with
  | arithmetic operation x y =>
      obtain ⟨rfl, rfl⟩ := operands
      cases operation
      all_goals
        simp [form, Arithmetic.form, hasForm, wordDigits, markDigit?] at fixed
        simp only [Instruction.word, Arithmetic.digit, nibble]
        omega
  | _ =>
      simp [form, hasForm, wordDigits, markDigit?] at fixed
      simp only [OperandsIn] at operands
      simp only [Instruction.word, operands, nibble, Address.ofNat, UInt8.toNat_ofNat']
      omega

namespace Line

/-- The word of a line, which names it or an instruction. -/
def word? : Line → Option Nat
  | ⟨.unknown, [.word value]⟩ => some value
  | line => line.instruction?.map Instruction.word

theorem word?_of_instruction? {line : Line} {instruction : Instruction}
    (stands : line.instruction? = some instruction) : line.word? = some instruction.word := by
  unfold word?
  split
  next value => cases stands
  next => rw [stands, Option.map_some]

theorem word?_lineOf {word : Nat} (small : word < 65536) (jumpByNamed : Bool) :
    (lineOf word jumpByNamed).word? = some word := by
  have stands := instruction?_lineOf word jumpByNamed
  cases decoded : Instruction.decode? word with
  | none =>
      rw [lineOf, decoded]
      rfl
  | some instruction =>
      rw [word?_of_instruction? (stands.trans decoded),
        Instruction.word_of_decode? small decoded]

end Line

namespace Listing

/-- What a line has behind its address. -/
def text (line : String) : List Char :=
  (line.toList.dropWhile (· != ':')).drop 3

/-- The bytes of a line.  Only the mark of a single byte begins with a point. -/
def bytes? (line : String) : Option (List UInt8) :=
  match text line with
  | '.' :: rest => some [UInt8.ofNat (Hex.value (rest.drop 6))]
  | text => do
      let word ← (← Line.read? text).word?
      return [UInt8.ofNat (word / 256), UInt8.ofNat word]

/-- The program of a listing. -/
def program? (lines : List String) : Option (List UInt8) :=
  (lines.mapM bytes?).map List.flatten

theorem text_append (address : Int) (rest : String) :
    text (listingAddress address ++ rest) = rest.toList := by
  have unmarked : ∀ char ∈ (Hex.signed 4 address).toList, char ≠ ':' := by
    have digits (width number : Nat) : ∀ char ∈ Hex.paddedDigits width number, char ≠ ':' :=
      Hex.forall_mem_paddedDigits (by decide) width number
    unfold Hex.signed
    split
    next => simpa [Hex.padded] using digits 3 address.natAbs
    next => simpa [Hex.padded] using digits 4 address.natAbs
  rw [text, listingAddress, String.toList_append, String.toList_append, List.append_assoc,
    List.dropWhile_append_of_pos (by simpa using unmarked)]
  rfl

theorem bytes?_word {word : Nat} (small : word < 65536) (address : Int) (jumpByNamed : Bool) :
    bytes? (listingAddress address ++ disassemble word jumpByNamed) =
      some [UInt8.ofNat (word / 256), UInt8.ofNat word] := by
  unfold bytes?
  rw [text_append, toList_disassemble]
  split
  next rest pointed => exact absurd pointed (Line.chars_ne_point _ rest)
  next =>
    rw [Line.read?_chars]
    simp [Line.word?_lineOf small]

theorem bytes?_byte (address : Int) (value : UInt8) :
    bytes? (listingAddress address ++ ".byte " ++ Disassembly.byteText value) = some [value] := by
  have back : UInt8.ofNat (Hex.value (Hex.paddedDigits 2 value.toNat)) = value := by
    rw [Hex.value_paddedDigits, UInt8.ofNat_toNat]
  unfold bytes?
  rw [String.append_assoc, text_append]
  simp [Operand.chars, back]

end Listing

/-- A program is recovered from its lines alone. -/
theorem program?_listing (jumpByNamed : Bool) (address : Int) (program : List UInt8) :
    Listing.program? (listing jumpByNamed address program) = some program := by
  unfold Listing.program?
  fun_induction listing jumpByNamed address program with
  | case1 => rfl
  | case2 address last =>
      rw [List.mapM_cons, Listing.bytes?_byte]
      rfl
  | case3 address high low rest ih =>
      obtain ⟨later, read, joined⟩ := Option.map_eq_some_iff.mp ih
      have highSmall := high.toNat_lt
      have lowSmall := low.toNat_lt
      have small : 256 * high.toNat + low.toNat < 65536 := by omega
      have first : UInt8.ofNat ((256 * high.toNat + low.toNat) / 256) = high := by
        rw [show (256 * high.toNat + low.toNat) / 256 = high.toNat by omega, UInt8.ofNat_toNat]
      have second : UInt8.ofNat (256 * high.toNat + low.toNat) = low := by
        apply UInt8.toNat_inj.mp
        rw [UInt8.toNat_ofNat']
        omega
      rw [List.mapM_cons, Listing.bytes?_word small, read, first, second, ← joined]
      rfl

example : Listing.program? ["0200:  LD V0, $05", "0202:  .byte $AB"] = some [0x60, 0x05, 0xAB] := by
  decide +kernel

/-- Programs that are listed alike are one program. -/
theorem listing_injective (jumpByNamed : Bool) (address : Int) :
    Function.Injective (listing jumpByNamed address) := by
  intro first second same
  have found := program?_listing jumpByNamed address first
  rw [same, program?_listing jumpByNamed address second] at found
  exact (Option.some.inj found).symm

end Chip8
