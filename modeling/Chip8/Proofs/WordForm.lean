import Chip8.Instruction

/-!
Word forms.  A form is written as four marks, as in `8XY4`: a hexadecimal digit
stands for itself and any other letter for whatever digit is there.  The table
`instructionForms` says which words are instructions without a word on how they
are decoded; `hasForm_iff` says that decoding follows it.
-/

namespace Chip8

/-- The digit that a mark of a form asks for. -/
def markDigit? (mark : Char) : Option Nat :=
  if mark.isDigit then some (mark.toNat - 48)
  else if 'A' ≤ mark ∧ mark ≤ 'F' then some (mark.toNat - 55)
  else none

/-- The four hexadecimal digits of a word. -/
def wordDigits (word : Nat) : List Nat :=
  [word / 4096 % 16, word / 256 % 16, word / 16 % 16, word % 16]

def hasForm (form : String) (word : Nat) : Bool :=
  (form.toList.zip (wordDigits word)).all fun (mark, digit) => (markDigit? mark).all (· == digit)

/-- The forms of the words that are instructions. -/
def instructionForms : List String :=
  ["00E0", "00EE", "1NNN", "2NNN", "3XKK", "4XKK", "5XY0", "6XKK", "7XKK",
   "8XY0", "8XY1", "8XY2", "8XY3", "8XY4", "8XY5", "8XY6", "8XY7", "8XYE",
   "9XY0", "ANNN", "BNNN", "CXKK", "DXYN", "EX9E", "EXA1",
   "FX07", "FX0A", "FX15", "FX18", "FX1E", "FX29", "FX33", "FX55", "FX65"]

/-- The form of the words that operate on two registers. -/
def Arithmetic.form : Arithmetic → String
  | .load => "8XY0"
  | .or => "8XY1"
  | .and => "8XY2"
  | .xor => "8XY3"
  | .add => "8XY4"
  | .subtract => "8XY5"
  | .shiftRight => "8XY6"
  | .subtractFrom => "8XY7"
  | .shiftLeft => "8XYE"

namespace Instruction

/-- The form of the words that stand for an instruction. -/
def form : Instruction → String
  | .clearScreen => "00E0"
  | .returnFromCall => "00EE"
  | .jump _ => "1NNN"
  | .call _ => "2NNN"
  | .skipIfByte _ _ => "3XKK"
  | .skipUnlessByte _ _ => "4XKK"
  | .skipIfSame _ _ => "5XY0"
  | .setByte _ _ => "6XKK"
  | .addByte _ _ => "7XKK"
  | .arithmetic operation _ _ => operation.form
  | .skipUnlessSame _ _ => "9XY0"
  | .setIndex _ => "ANNN"
  | .jumpOffset _ _ => "BNNN"
  | .random _ _ => "CXKK"
  | .draw _ _ _ => "DXYN"
  | .skipIfHeld _ => "EX9E"
  | .skipUnlessHeld _ => "EXA1"
  | .readDelay _ => "FX07"
  | .awaitKey _ => "FX0A"
  | .setDelay _ => "FX15"
  | .setSound _ => "FX18"
  | .addIndex _ => "FX1E"
  | .glyph _ => "FX29"
  | .decimal _ => "FX33"
  | .store _ => "FX55"
  | .fetch _ => "FX65"

theorem form_mem (instruction : Instruction) : instruction.form ∈ instructionForms := by
  cases instruction with
  | arithmetic operation x y => cases operation <;> simp [form, Arithmetic.form, instructionForms]
  | _ => simp [form, instructionForms]

theorem lastDigits_of_lowByte {word low : Nat} (h : word % 256 = low) :
    word / 16 % 16 = low / 16 ∧ word % 16 = low % 16 := by
  omega

theorem hasForm_of_ofNibble? {word : Nat} {operation : Arithmetic}
    (first : word / 4096 % 16 = 8) (h : Arithmetic.ofNibble? (word % 16) = some operation) :
    hasForm operation.form word = true := by
  unfold Arithmetic.ofNibble? at h
  split at h <;> cases h <;> simp [Arithmetic.form, hasForm, wordDigits, markDigit?, *]

/-- A word that is decoded has the form of what it stands for. -/
theorem hasForm_of_decode? {word : Nat} {instruction : Instruction}
    (h : decode? word = some instruction) : hasForm instruction.form word = true := by
  unfold decode? at h
  dsimp only at h
  split at h
  case h_1 =>
    split at h
    next same => cases h; subst same; decide
    next =>
      split at h
      next same => cases h; subst same; decide
      next => cases h
  case h_9 first =>
    obtain ⟨operation, named, rfl⟩ := Option.map_eq_some_iff.mp h
    exact hasForm_of_ofNibble? first named
  case h_6 | h_10 =>
    split at h
    next last => cases h; simp [form, hasForm, wordDigits, markDigit?, *]
    next => cases h
  case h_15 =>
    split at h
    case h_3 => cases h
    all_goals
      next low =>
        have last := lastDigits_of_lowByte low
        cases h
        simp [form, hasForm, wordDigits, markDigit?, *]
  case h_16 =>
    simp only [imp_false] at *
    have first : word / 4096 % 16 = 15 := by omega
    split at h
    case h_10 => cases h
    all_goals
      next low =>
        have last := lastDigits_of_lowByte low
        cases h
        simp [form, hasForm, wordDigits, markDigit?, first, last]
  all_goals
    cases h
    simp [form, hasForm, wordDigits, markDigit?, *]

theorem form_of_hasForm {word : Nat} (small : word < 65536) :
    ∀ form ∈ instructionForms, hasForm form word = true →
      (decode? word).map Instruction.form = some form := by
  have low : word % 256 = 16 * (word / 16 % 16) + word % 16 := by omega
  simp only [instructionForms, List.forall_mem_cons, List.not_mem_nil, false_imp_iff,
    implies_true, and_true]
  -- The first two forms have no free digit and leave one word each.
  refine ⟨?_, ?_, ?_⟩
  · intro h
    obtain rfl : word = 0x00E0 := by
      simp [hasForm, wordDigits, markDigit?] at h
      omega
    decide
  · intro h
    obtain rfl : word = 0x00EE := by
      simp [hasForm, wordDigits, markDigit?] at h
      omega
    decide
  · and_intros
    all_goals
      intro h
      simp [hasForm, wordDigits, markDigit?] at h
      simp [decode?, low, ← h, Arithmetic.ofNibble?, Instruction.form, Arithmetic.form]

/-- Decoding follows the table: a word of sixteen bits has a form of the table
just if it stands for an instruction of that form. -/
theorem hasForm_iff {word : Nat} (small : word < 65536) {form : String}
    (member : form ∈ instructionForms) :
    hasForm form word = true ↔ (decode? word).map Instruction.form = some form := by
  constructor
  · exact form_of_hasForm small form member
  · intro h
    obtain ⟨instruction, decoded, rfl⟩ := Option.map_eq_some_iff.mp h
    exact hasForm_of_decode? decoded

/-- The words that are no instruction are those that no form of the table
fits. -/
theorem decode?_eq_none_iff {word : Nat} (small : word < 65536) :
    decode? word = none ↔ ∀ form ∈ instructionForms, hasForm form word = false := by
  constructor
  · intro undecoded form member
    rw [← Bool.not_eq_true, hasForm_iff small member, undecoded]
    simp
  · intro unfit
    cases decoded : decode? word with
    | none => rfl
    | some instruction =>
        have fits := hasForm_of_decode? decoded
        rw [unfit _ instruction.form_mem] at fits
        exact absurd fits (by simp)

/-- A word holds the operands of an instruction: registers as its second and
third digit, a height as its last one, a byte and an address as its end. -/
def OperandsIn (word : Nat) : Instruction → Prop
  | .clearScreen | .returnFromCall => True
  | .jump target | .call target | .setIndex target => target = Address.ofNat word
  | .skipIfByte x value | .skipUnlessByte x value | .setByte x value | .addByte x value
  | .random x value => x = nibble (word / 256) ∧ value = UInt8.ofNat word
  | .skipIfSame x y | .skipUnlessSame x y | .arithmetic _ x y =>
      x = nibble (word / 256) ∧ y = nibble (word / 16)
  | .jumpOffset x target => x = nibble (word / 256) ∧ target = Address.ofNat word
  | .draw x y height =>
      x = nibble (word / 256) ∧ y = nibble (word / 16) ∧ height = nibble word
  | .skipIfHeld x | .skipUnlessHeld x | .readDelay x | .awaitKey x | .setDelay x | .setSound x
  | .addIndex x | .glyph x | .decimal x | .store x | .fetch x => x = nibble (word / 256)

theorem operandsIn_of_decode? {word : Nat} {instruction : Instruction}
    (h : decode? word = some instruction) : instruction.OperandsIn word := by
  unfold decode? at h
  dsimp only at h
  split at h
  case h_9 =>
    obtain ⟨operation, _, rfl⟩ := Option.map_eq_some_iff.mp h
    exact ⟨rfl, rfl⟩
  all_goals
    (try split at h) <;> (try split at h) <;> cases h <;> simp [OperandsIn]

/-- The register that an instruction names first. -/
def register? : Instruction → Option Register
  | .clearScreen | .returnFromCall | .jump _ | .call _ | .setIndex _ => none
  | .skipIfByte x _ | .skipUnlessByte x _ | .skipIfSame x _ | .skipUnlessSame x _ => some x
  | .setByte x _ | .addByte x _ | .arithmetic _ x _ | .random x _ | .jumpOffset x _ => some x
  | .draw x _ _ | .skipIfHeld x | .skipUnlessHeld x | .readDelay x | .awaitKey x => some x
  | .setDelay x | .setSound x | .addIndex x | .glyph x | .decimal x | .store x | .fetch x => some x

/-- The first register is the second digit of the word. -/
theorem register?_of_decode? {word : Nat} {instruction : Instruction} {x : Register}
    (h : decode? word = some instruction) (named : instruction.register? = some x) :
    x = nibble (word / 256) := by
  have operands := operandsIn_of_decode? h
  cases instruction with
  | clearScreen | returnFromCall | jump | call | setIndex => cases named
  | skipIfByte | skipUnlessByte | setByte | addByte | random | skipIfSame | skipUnlessSame
  | arithmetic | jumpOffset | draw =>
      cases named
      exact operands.1
  | _ =>
      cases named
      exact operands

theorem height_of_decode? {word : Nat} {x y : Register} {height : Fin 16}
    (h : decode? word = some (.draw x y height)) : height = nibble word :=
  (operandsIn_of_decode? h).2.2

/-- The words of the waiting instruction, those of more than sixteen bits
among them. -/
theorem decode?_of_awaitKey {word : Nat} (h : hasForm "FX0A" word = true) :
    decode? word = some (.awaitKey (nibble (word / 256))) := by
  have low : word % 256 = 16 * (word / 16 % 16) + word % 16 := by omega
  simp [hasForm, wordDigits, markDigit?] at h
  simp [decode?, low, ← h]

/-- The words of an operation on two registers, those of more than sixteen bits
among them. -/
theorem decode?_of_arithmetic {word : Nat} {operation : Arithmetic}
    (h : hasForm operation.form word = true) :
    decode? word = some (.arithmetic operation (nibble (word / 256)) (nibble (word / 16))) := by
  cases operation <;>
  · simp [Arithmetic.form, hasForm, wordDigits, markDigit?] at h
    simp [decode?, ← h, Arithmetic.ofNibble?]

end Instruction
end Chip8
