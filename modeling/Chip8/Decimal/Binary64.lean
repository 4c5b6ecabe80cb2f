import Chip8.Decimal.Power

/-!
Binary floating point numbers of 64 bits as whole multiples of powers of two,
and the number nearest to a fraction.
-/

namespace Chip8.Binary64

def minExponent : Int := -1074

def maxExponent : Int := 971

/-- The nearest whole number to a fraction; a half goes to the even neighbour. -/
def roundToEven (numerator denominator : Nat) : Nat :=
  let floor := numerator / denominator
  let rest := 2 * (numerator % denominator)
  if rest > denominator ∨ (rest = denominator ∧ floor % 2 = 1) then floor + 1 else floor

/-- A fraction divided by a power of two. -/
def scaleDown (numerator denominator : Nat) (exponent : Int) : Nat × Nat :=
  if 0 ≤ exponent then (numerator, denominator * twoTo exponent.toNat)
  else (numerator * twoTo exponent.natAbs, denominator)

/-- The bits of a multiple of a power of two, where the multiple has 53 bits
unless the exponent is the least. -/
def pack (multiple : Nat) (exponent : Int) : UInt64 :=
  if exponent > maxExponent then 0x7FF0000000000000
  else if multiple < twoTo 52 then UInt64.ofNat multiple
  else UInt64.ofNat ((exponent - minExponent + 1).toNat * twoTo 52 + (multiple - twoTo 52))

/-- The bits of the number nearest to a fraction. -/
def nearest (numerator denominator : Nat) : UInt64 :=
  if numerator = 0 ∨ denominator = 0 then 0
  else
    let guess : Int := Nat.log2 numerator - Nat.log2 denominator - 53
    let (n, d) := scaleDown numerator denominator guess
    let fitting := if n / d ≥ twoTo 53 then guess + 1 else guess
    let exponent := max fitting minExponent
    let (n, d) := scaleDown numerator denominator exponent
    let multiple := roundToEven n d
    if multiple = twoTo 53 then pack (twoTo 52) (exponent + 1) else pack multiple exponent

/-- The bits of the number nearest to `mantissa * 10 ^ exponent`.  Magnitudes far
outside the range are settled without writing the power out. -/
def ofDecimal (mantissa : Nat) (exponent : Int) : UInt64 :=
  let length : Int := (Nat.toDigits 10 mantissa).length
  if mantissa = 0 then 0
  else if length + exponent > 310 then 0x7FF0000000000000
  else if length + exponent < -330 then 0
  else if 0 ≤ exponent then nearest (mantissa * tenTo exponent.toNat) 1
  else nearest mantissa (tenTo exponent.natAbs)

/-- The number nearest to a decimal with a sign. -/
def read (negative : Bool) (mantissa : Nat) (exponent : Int) : Float :=
  let bits := ofDecimal mantissa exponent
  Float.ofBits (if negative then bits ||| 0x8000000000000000 else bits)

def infinity : UInt64 := 0x7FF0000000000000

/-- Whether a whole number lies past the numbers of 64 bits. -/
def isTooLarge (value : Int) : Bool := nearest value.natAbs 1 == infinity

/-- The number nearest to a fraction with a sign. -/
def ofFraction (numerator : Int) (denominator : Nat) : Float :=
  let bits := nearest numerator.natAbs denominator
  Float.ofBits (if numerator < 0 then bits ||| 0x8000000000000000 else bits)

/-- The number nearest to a whole number. -/
def ofInt (value : Int) : Float := ofFraction value 1

end Chip8.Binary64
