/-!
Hexadecimal text.  Numbers are written with upper-case digits and zeros in
front up to a least width; a negative number has its sign first, and the sign
counts towards the width.
-/

namespace Chip8.Hex

/-- The upper-case digit of a value below sixteen. -/
def digit (value : Nat) : Char :=
  if value < 10 then Char.ofNat (48 + value) else Char.ofNat (55 + value)

/-- The digits of a number, most significant first and without leading zeros;
zero is the one digit `0`. -/
def digits (value : Nat) : List Char :=
  if value < 16 then [digit value]
  else digits (value / 16) ++ [digit (value % 16)]
termination_by value
decreasing_by omega

/-- The digits of a number behind as many zeros as it takes to reach `width`. -/
def paddedDigits (width value : Nat) : List Char :=
  List.replicate (width - (digits value).length) '0' ++ digits value

/-- A number with at least `width` digits. -/
def padded (width value : Nat) : String :=
  String.ofList (paddedDigits width value)

/-- A signed number of at least `width` characters, the sign among them. -/
def signed (width : Nat) (value : Int) : String :=
  if value < 0 then "-" ++ padded (width - 1) value.natAbs
  else padded width value.natAbs

/-- A signed number in lower-case digits behind the mark `0x`; the width
counts the sign and the mark as well. -/
def marked (width : Nat) (value : Int) : String :=
  if value < 0 then
    "-0x" ++ String.ofList ((paddedDigits (width - 3) value.natAbs).map Char.toLower)
  else
    "0x" ++ String.ofList ((paddedDigits (width - 2) value.natAbs).map Char.toLower)

end Chip8.Hex
