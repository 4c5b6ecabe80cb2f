import Chip8.Text.Points

/-!
Names of files as a file system keeps them: as bytes.  A byte that belongs to no
character is shown as a half of a surrogate pair of its own, so every name has a
text; but not every text is that of a name, and two texts may be of one name.
-/

namespace Chip8

/-- A name by its bytes. -/
abbrev FileName := List UInt8

namespace FileName

/-- The code point that shows the byte zero if it belongs to no character; the
others follow it. -/
def strayByte : Nat := 0xDC00

/-- The bytes of a code point in a name. -/
def encodePoint? (point : Nat) : Option (List UInt8) :=
  if strayByte + 0x80 ≤ point ∧ point < strayByte + 0x100 then
    some [UInt8.ofNat (point - strayByte)]
  else if point.isValidChar then some (String.utf8EncodeChar (Char.ofNat point))
  else none

/-- The bytes of a list of code points, unless one of them has none. -/
def encodeList? : List Nat → Option FileName
  | [] => some []
  | point :: rest => do
      return (← encodePoint? point) ++ (← encodeList? rest)

/-- The name that a text spells. -/
def encode? (text : Points) : Option FileName := encodeList? text.points

/-- The most bytes of a character. -/
def characterLimit : Nat := 4

/-- The code points of bytes. -/
def decodeList : List UInt8 → List Nat
  | [] => []
  | byte :: rest =>
      match ((byte :: rest).take characterLimit).toByteArray.utf8DecodeChar? 0 with
      | some c => c.toNat :: decodeList (rest.drop (c.utf8Size - 1))
      | none => (strayByte + byte.toNat) :: decodeList rest
termination_by bytes => bytes.length
decreasing_by
  · simp only [List.length_drop, List.length_cons]
    omega
  · simp only [List.length_cons]
    omega

def decode (name : FileName) : Points := ⟨decodeList name⟩

/-- The name that every folder has for the folder around it. -/
def parent : FileName := [0x2E, 0x2E]

end FileName
end Chip8
