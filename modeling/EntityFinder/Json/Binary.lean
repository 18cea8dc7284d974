set_option autoImplicit false

/-!
# Binary numbers

Numbers whose significant digits are binary and limited in number. The text of a number is first
read into such a number, which may move it a little, and only then compared or shown. Exponents
are not limited: a number is exact up to the number of its digits.

## Main definitions

* `EntityFinder.Json.Binary`: a mantissa and an exponent.
* `EntityFinder.Json.Binary.round`: the nearest number with a given number of digits.
* `EntityFinder.Json.Binary.scale`: multiplies by a power of ten, in steps that are rounded.
* `EntityFinder.Json.Binary.toDouble?`: the nearest number of double precision.
-/

namespace EntityFinder.Json

/-- The number `mantissa * 2 ^ exponent`. -/
structure Binary where
  /-- The digits of the number. -/
  mantissa : Nat
  /-- The place of the last digit. -/
  exponent : Int
  deriving DecidableEq, Repr

namespace Binary

/-! ## Rounding -/

/-- How many binary digits a number has. -/
def bitLength (n : Nat) : Nat :=
  if n = 0 then 0 else n.log2 + 1

/-- `n / 2 ^ places`, rounded to the nearest integer; a half is rounded to the even one. -/
def shiftRounded (n places : Nat) : Nat :=
  let unit := Nat.pow 2 places
  let quotient := n / unit
  let rest := 2 * (n % unit)
  if unit < rest ∨ (rest = unit ∧ quotient % 2 = 1) then quotient + 1 else quotient

/-- The nearest number without the last `places` digits. -/
def drop (places : Nat) (b : Binary) : Binary :=
  ⟨shiftRounded b.mantissa places, b.exponent + places⟩

/-- The nearest number with at most `bits` significant digits. -/
def round (bits : Nat) (b : Binary) : Binary :=
  b.drop (bitLength b.mantissa - bits)

/-- An integer. -/
def ofNat (n : Nat) : Binary := ⟨n, 0⟩

/-- The number with `bits` significant digits that is nearest to `10 ^ power`. -/
def tenPower (bits : Nat) (power : Int) : Binary :=
  let ten := Nat.pow 10 power.natAbs
  if 0 ≤ power then (ofNat ten).round bits
  else
    let places := bits + bitLength ten + 1
    let unit := Nat.pow 2 places
    let more := if unit % ten = 0 then 0 else 1
    round bits ⟨2 * (unit / ten) + more, -(places + 1 : Int)⟩

/-! ## Comparison -/

/-- The mantissa for an exponent that is not greater. -/
def alignedTo (exponent : Int) (b : Binary) : Nat :=
  b.mantissa * Nat.pow 2 (b.exponent - exponent).toNat

/-- Whether a number is less than another one. -/
def isLess (a b : Binary) : Bool :=
  let exponent := min a.exponent b.exponent
  a.alignedTo exponent < b.alignedTo exponent

/-- The digits before the point. -/
def floor (b : Binary) : Nat :=
  if 0 ≤ b.exponent then b.alignedTo 0 else b.mantissa / Nat.pow 2 b.exponent.natAbs

/-! ## Extended precision -/

/-- The number of digits in extended precision. -/
def extendedBits : Nat := 64

/-- The product in extended precision. -/
def times (a b : Binary) : Binary :=
  round extendedBits ⟨a.mantissa * b.mantissa, a.exponent + b.exponent⟩

/-- `10 ^ power` in extended precision. -/
def extendedTen (power : Int) : Binary :=
  tenPower extendedBits power

/-- Multiplied by a factor so many times. -/
def timesRepeated (b factor : Binary) (count : Nat) : Binary :=
  (List.replicate count factor).foldl times b

/-- `b * 10 ^ power`: by hundreds of the power, then by tens, then by ones. -/
def scale (b : Binary) (power : Int) : Binary :=
  let n := power.natAbs
  let sign : Int := if power < 0 then -1 else 1
  ((b.timesRepeated (extendedTen (sign * 100)) (n / 100)).timesRepeated
    (extendedTen (sign * 10)) (n % 100 / 10)).timesRepeated (extendedTen sign) (n % 10)

/-! ## Double precision -/

/-- The number of digits in double precision. -/
def doubleBits : Nat := 53

/-- The greatest number of double precision. -/
def greatestDouble : Binary := ⟨Nat.pow 2 53 - 1, 971⟩

/-- The exponent of the least number of double precision. -/
def leastExponent : Int := -1074

/-- The nearest number of double precision; there is none for what exceeds the greatest one. -/
def toDouble? (b : Binary) : Option Binary :=
  if greatestDouble.isLess b then none
  else some (b.drop (max (bitLength b.mantissa - doubleBits) (leastExponent - b.exponent).toNat))

/-- The least number that is rounded to more than the greatest number of double precision. -/
def doubleLimit : Binary := ⟨Nat.pow 2 54 - 1, 970⟩

end Binary

end EntityFinder.Json
