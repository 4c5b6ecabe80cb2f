import Chip8.Decimal.Power

/-!
The shortest decimal of a binary floating point number: of the decimals that
read back as the number, one with the fewest digits, and of those the nearest.
-/

namespace Chip8.Shortest

/-- What a number of 64 bits is. -/
inductive Parts where
  | notANumber
  | infinite (negative : Bool)
  /-- A whole multiple of a power of two. -/
  | finite (negative : Bool) (multiple : Nat) (exponent : Int)

def parts (number : Float) : Parts :=
  let bits : Nat := number.toBits.toNat
  let negative : Bool := twoTo 63 ≤ bits
  let field : Nat := bits / twoTo 52 % twoTo 11
  let fraction : Nat := bits % twoTo 52
  if field = twoTo 11 - 1 then
    if fraction = 0 then .infinite negative else .notANumber
  else if field = 0 then .finite negative fraction (-1074)
  else .finite negative (twoTo 52 + fraction) (field - 1075)

/-- The reals that round to a number, in quarters of its unit: they reach from
`low` to `high`, with the ends if `closed`. -/
structure Span where
  value : Nat
  low : Nat
  high : Nat
  closed : Bool

/-- The span of a multiple.  Below a power of two the neighbour is half as far. -/
def span (multiple : Nat) (exponent : Int) : Span where
  value := 4 * multiple
  low := if multiple = twoTo 52 ∧ exponent > -1074 then 4 * multiple - 1 else 4 * multiple - 2
  high := 4 * multiple + 2
  closed := multiple % 2 = 0

/-- The factors that bring quarters of a unit and a power of ten to a common
measure. -/
def factors (exponent place : Int) : Nat × Nat :=
  let (up, down) := if 2 ≤ exponent then (twoTo (exponent - 2).toNat, 1)
    else (1, twoTo (2 - exponent).toNat)
  if 0 ≤ place then (up, down * tenTo place.toNat) else (up * tenTo place.natAbs, down)

/-- The multiple of a power of ten that lies in a span nearest to its value. -/
def onGrid? (span : Span) (exponent place : Int) : Option Nat :=
  let (up, down) := factors exponent place
  let inside (count : Nat) : Bool :=
    if span.closed then span.low * up ≤ count * down && count * down ≤ span.high * up
    else span.low * up < count * down && count * down < span.high * up
  let value := span.value * up
  let below := value / down
  let above := below + 1
  match inside below, inside above with
  | true, true =>
      let toBelow := value - below * down
      let toAbove := above * down - value
      if toBelow < toAbove ∨ (toBelow = toAbove ∧ below % 2 = 0) then some below else some above
  | true, false => some below
  | false, true => some above
  | false, false => none

/-- The place of the first digit of a multiple of a power of two. -/
def leadingPlace (multiple : Nat) (exponent : Int) : Int :=
  let numerator := multiple * twoTo exponent.toNat
  let denominator := twoTo (-exponent).toNat
  if denominator ≤ numerator then
    ((Nat.toDigits 10 (numerator / denominator)).length : Int) - 1
  else
    match (List.range 400).find? fun zeros => denominator ≤ numerator * tenTo zeros with
    | some zeros => -(zeros : Int)
    | none => -400

/-- The digits of a decimal without zeros at the end, and the place of the
first. -/
def digitsOf (count : Nat) (place : Int) : List Char × Int :=
  let digits := Nat.toDigits 10 count
  let kept := (digits.reverse.dropWhile (· == '0')).reverse
  (kept, place + digits.length - 1)

/-- The digits of the shortest decimal of a positive number, and the place of
the first. -/
def digits (multiple : Nat) (exponent : Int) : List Char × Int :=
  let first := leadingPlace multiple exponent
  let grids := (List.range 17).map fun extra : Nat => first - extra
  match grids.findSome? fun place =>
      (onGrid? (span multiple exponent) exponent place).map (digitsOf · place) with
  | some found => found
  | none => (['0'], 0)

/-- Digits with a point after the given place, or with an exponent where the
first digit stands more than sixteen places before the point or more than four
behind it. -/
def layOut (digits : List Char) (place : Int) : String :=
  if place < -4 ∨ 16 ≤ place then
    let fraction := digits.drop 1
    let shown := digits.take 1 ++ (if fraction.isEmpty then [] else '.' :: fraction)
    let size := Nat.toDigits 10 place.natAbs
    let size := if size.length < 2 then '0' :: size else size
    String.ofList (shown ++ ['e', if place < 0 then '-' else '+'] ++ size)
  else if place < 0 then
    String.ofList ("0.".toList ++ List.replicate (place.natAbs - 1) '0' ++ digits)
  else
    let whole := digits.take (place.toNat + 1)
    let fraction := digits.drop (place.toNat + 1)
    String.ofList (whole ++ List.replicate (place.toNat + 1 - whole.length) '0' ++
      '.' :: (if fraction.isEmpty then ['0'] else fraction))

/-- The shortest decimal of a number. -/
def render (number : Float) : String :=
  match parts number with
  | .notANumber => "nan"
  | .infinite negative => if negative then "-inf" else "inf"
  | .finite negative multiple exponent =>
      let shown :=
        if multiple = 0 then "0.0"
        else
          let (shown, place) := digits multiple exponent
          layOut shown place
      if negative then "-" ++ shown else shown

end Chip8.Shortest
