import Mathlib.Data.List.Basic
import Chip8.Instruction
import Chip8.Proofs.HexText

/-!
The lines of a listing.  A line is a mnemonic with its operands, parted by a
blank and by commas.  Each part can be read back from what is written, and so
lines that are written alike are one line.
-/

namespace Chip8

/-- A text without the blanks and commas that part the texts of a line. -/
def Plain (chars : List Char) : Prop := ∀ char ∈ chars, char ≠ ' ' ∧ char ≠ ','

instance (chars : List Char) : Decidable (Plain chars) :=
  List.decidableBAll (fun char => char ≠ ' ' ∧ char ≠ ',') chars

theorem Plain.filter_eq {chars : List Char} (plain : Plain chars) :
    chars.filter (· != ',') = chars := by
  rw [List.filter_eq_self]
  intro char member
  exact bne_iff_ne.mpr (plain char member).2

theorem plain_paddedDigits (width number : Nat) : Plain (Hex.paddedDigits width number) :=
  Hex.forall_mem_paddedDigits (by decide) width number

inductive Mnemonic where
  | cls | ret | jp | call | se | sne | ld | add | or | and | xor | sub | shr | subn | shl
  | rnd | drw | skp | sknp
  /-- The mark of a word that is no instruction. -/
  | unknown
deriving DecidableEq, Repr

namespace Mnemonic

def name : Mnemonic → String
  | cls => "CLS"
  | ret => "RET"
  | jp => "JP"
  | call => "CALL"
  | se => "SE"
  | sne => "SNE"
  | ld => "LD"
  | add => "ADD"
  | or => "OR"
  | and => "AND"
  | xor => "XOR"
  | sub => "SUB"
  | shr => "SHR"
  | subn => "SUBN"
  | shl => "SHL"
  | rnd => "RND"
  | drw => "DRW"
  | skp => "SKP"
  | sknp => "SKNP"
  | unknown => "???"

def all : List Mnemonic :=
  [cls, ret, jp, call, se, sne, ld, add, or, and, xor, sub, shr, subn, shl, rnd, drw, skp, sknp,
   unknown]

def read? (chars : List Char) : Option Mnemonic :=
  all.find? fun mnemonic => mnemonic.name.toList == chars

theorem read?_name (mnemonic : Mnemonic) : read? mnemonic.name.toList = some mnemonic := by
  cases mnemonic <;> decide

theorem plain_name (mnemonic : Mnemonic) : Plain mnemonic.name.toList := by
  cases mnemonic <;> decide

end Mnemonic

inductive Operand where
  | register (x : Register)
  | byte (value : UInt8)
  | address (target : Address)
  /-- A whole word. -/
  | word (value : Nat)
  /-- The number of rows of a sprite. -/
  | rows (height : Fin 16)
  | delay | sound | key | index | glyph | decimal
  /-- The block of memory at the index register. -/
  | block
deriving DecidableEq, Repr

namespace Operand

def chars : Operand → List Char
  | register x => 'V' :: Hex.paddedDigits 1 x
  | byte value => '$' :: Hex.paddedDigits 2 value.toNat
  | address target => '$' :: Hex.paddedDigits 3 target
  | word value => '$' :: Hex.paddedDigits 4 value
  | rows height => (toString height.val).toList
  | delay => ['D', 'T']
  | sound => ['S', 'T']
  | key => ['K']
  | index => ['I']
  | glyph => ['F']
  | decimal => ['B']
  | block => ['[', 'I', ']']

/-- The operands that are no hexadecimal number. -/
def named : List Operand :=
  [delay, sound, key, index, glyph, decimal, block] ++ (List.finRange 16).map rows

/-- Read an operand back.  The kinds of number are told apart by their width. -/
def read? : List Char → Option Operand
  | 'V' :: digits => some (register (nibble (Hex.value digits)))
  | '$' :: digits =>
      match digits.length with
      | 2 => some (byte (UInt8.ofNat (Hex.value digits)))
      | 3 => some (address (Address.ofNat (Hex.value digits)))
      | _ => some (word (Hex.value digits))
  | text => named.find? fun operand => operand.chars == text

theorem read?_chars (operand : Operand) : read? operand.chars = some operand := by
  cases operand with
  | register x =>
      simp only [chars, read?, Hex.value_paddedDigits, nibble, Nat.mod_eq_of_lt x.isLt]
  | byte value =>
      have width : (Hex.paddedDigits 2 value.toNat).length = 2 :=
        Hex.length_paddedDigits (by decide) value.toNat_lt
      simp only [chars, read?, width, Hex.value_paddedDigits, UInt8.ofNat_toNat]
  | address target =>
      have width : (Hex.paddedDigits 3 target).length = 3 :=
        Hex.length_paddedDigits (by decide) target.isLt
      simp only [chars, read?, width, Hex.value_paddedDigits, Address.ofNat,
        Nat.mod_eq_of_lt target.isLt]
  | word value =>
      -- A word has four digits at least, so it is not taken for a byte or an address.
      have width := Hex.le_length_paddedDigits 4 value
      simp only [chars, read?]
      split
      next two => omega
      next three => omega
      next => rw [Hex.value_paddedDigits]
  | rows height =>
      revert height
      decide
  | _ => decide

theorem chars_injective : Function.Injective chars := by
  intro first second same
  have found := read?_chars first
  rw [same, read?_chars second] at found
  exact (Option.some.inj found).symm

theorem plain_chars (operand : Operand) : Plain operand.chars := by
  cases operand with
  | register x | byte value | address target | word value =>
      exact List.forall_mem_cons.mpr ⟨by decide, plain_paddedDigits _ _⟩
  | rows height =>
      revert height
      decide
  | _ => decide

end Operand

structure Line where
  mnemonic : Mnemonic
  operands : List Operand
deriving DecidableEq, Repr

namespace Line

/-- A line as it is written. -/
def chars : Line → List Char
  | ⟨mnemonic, []⟩ => mnemonic.name.toList
  | ⟨mnemonic, operands⟩ =>
      mnemonic.name.toList ++ ' ' :: [',', ' '].intercalate (operands.map Operand.chars)

theorem filter_intercalate {texts : List (List Char)} (plain : ∀ text ∈ texts, Plain text) :
    ([',', ' '].intercalate texts).filter (· != ',') = [' '].intercalate texts := by
  induction texts with
  | nil => rfl
  | cons text rest ih =>
      obtain ⟨textPlain, restPlain⟩ := List.forall_mem_cons.mp plain
      cases rest with
      | nil => rw [List.intercalate_singleton, List.intercalate_singleton, textPlain.filter_eq]
      | cons next rest =>
          rw [List.intercalate_cons_cons, List.intercalate_cons_cons, List.filter_append,
            List.filter_append, textPlain.filter_eq, ih restPlain]
          rfl

/-- The texts of a line: its mnemonic and its operands. -/
def texts (line : Line) : List (List Char) :=
  line.mnemonic.name.toList :: line.operands.map Operand.chars

theorem plain_of_mem_texts {line : Line} : ∀ text ∈ line.texts, Plain text := by
  rw [texts, List.forall_mem_cons, List.forall_mem_map]
  exact ⟨line.mnemonic.plain_name, fun operand _ => operand.plain_chars⟩

/-- Without its commas a line is its texts, parted by blanks. -/
theorem filter_chars (line : Line) :
    line.chars.filter (· != ',') = [' '].intercalate line.texts := by
  rw [← filter_intercalate plain_of_mem_texts]
  obtain ⟨mnemonic, operands⟩ := line
  cases operands with
  | nil =>
      rw [texts, List.map_nil, List.intercalate_singleton]
      rfl
  | cons operand rest =>
      rw [texts, List.map_cons, List.intercalate_cons_cons]
      simp [chars, List.filter_append]

/-- The commas stand beside blanks only, so the blanks alone part the texts. -/
theorem splitOn_chars (line : Line) :
    (line.chars.filter (· != ',')).splitOn ' ' = line.texts := by
  rw [filter_chars]
  refine List.splitOn_intercalate ' ' ?_ (List.cons_ne_nil _ _)
  intro text member blank
  exact (plain_of_mem_texts text member ' ' blank).1 rfl

def read? (chars : List Char) : Option Line :=
  match (chars.filter (· != ',')).splitOn ' ' with
  | [] => none
  | name :: operands => do
      return ⟨← Mnemonic.read? name, ← operands.mapM Operand.read?⟩

theorem mapM_read?_chars (operands : List Operand) :
    (operands.map Operand.chars).mapM Operand.read? = some operands := by
  induction operands with
  | nil => rfl
  | cons operand rest ih =>
      rw [List.map_cons, List.mapM_cons, operand.read?_chars, ih]
      rfl

theorem read?_chars (line : Line) : read? line.chars = some line := by
  rw [read?, splitOn_chars, texts]
  simp only [Mnemonic.read?_name, mapM_read?_chars]
  rfl

/-- Lines that are written alike are one line. -/
theorem chars_injective : Function.Injective chars := by
  intro first second same
  have found := read?_chars first
  rw [same, read?_chars second] at found
  exact (Option.some.inj found).symm

/-- A line begins with its mnemonic. -/
theorem exists_chars_eq (line : Line) : ∃ rest, line.chars = line.mnemonic.name.toList ++ rest := by
  obtain ⟨mnemonic, operands⟩ := line
  cases operands with
  | nil => exact ⟨[], (List.append_nil _).symm⟩
  | cons operand rest => exact ⟨_, rfl⟩

/-- Only an unknown word begins with question marks. -/
theorem unknown_prefix_iff (line : Line) :
    "???".toList <+: line.chars ↔ line.mnemonic = .unknown := by
  obtain ⟨rest, written⟩ := line.exists_chars_eq
  rw [written]
  constructor
  · intro marked
    cases mnemonic : line.mnemonic with
    | unknown => rfl
    | _ =>
        rw [mnemonic] at marked
        exact absurd (List.cons_prefix_cons.mp marked).1 (by decide)
  · intro unknown
    rw [unknown]
    exact List.prefix_append _ _

/-- No line begins with a point. -/
theorem chars_ne_point (line : Line) (text : List Char) : line.chars ≠ '.' :: text := by
  obtain ⟨rest, written⟩ := line.exists_chars_eq
  rw [written]
  cases line.mnemonic <;> simp [Mnemonic.name]

end Line

end Chip8
