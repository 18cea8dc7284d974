import EntityFinder.Json.Literal
import EntityFinder.Json.Value

set_option autoImplicit false

/-!
# The text of a number

A number that is indexed is shown in one form, however it was written: integers of up to 64 bits
in plain digits, all other numbers with at most fifteen significant digits and a point.

## Main definitions

* `EntityFinder.Json.Decimal`: digits and the position of the point.
* `EntityFinder.Json.Decimal.round`: the same number with fewer digits; a half is rounded up.
* `EntityFinder.Json.Numeral.shown`: the text of a number.
-/

namespace EntityFinder.Json

/-- The number `0.d₁d₂… · 10 ^ point`. -/
structure Decimal where
  /-- The significant digits; the first and the last are not zero. -/
  digits : List Char
  /-- How many digits stand before the point. -/
  point : Int
  deriving DecidableEq, Repr

namespace Decimal

/-- Digits without the zeros at the end. -/
def dropFinalZeros (ds : List Char) : List Char :=
  (ds.reverse.dropWhile (· == '0')).reverse

/-- The decimal of digits that are counted in a power of ten. -/
def ofScaled (ds : List Char) (power : Int) : Decimal :=
  let significant := ds.dropWhile (· == '0')
  ⟨dropFinalZeros significant, significant.length + power⟩

/-- Multiplies a number by powers of ten while `p` holds, at most `n` times. The second part of a
pair is the power of ten by which the first part has to be multiplied. -/
def scaleWhile (p : Binary → Bool) (power : Int) : Nat → Binary × Int → Binary × Int
  | 0, s => s
  | n + 1, (b, rest) =>
    if p b then scaleWhile p power n (b.times (.extendedTen power), rest - power) else (b, rest)

/-- The powers by which a number of `10 ^ 19` or more is multiplied, each with the power from
which on that is done. -/
def reductions : List (Int × Int) := [(-100, 119), (-10, 29), (-1, 19)]

/-- The powers by which a number below `10 ^ 17` is multiplied, each with the power below which
that is done. -/
def enlargements : List (Int × Int) := [(100, -97), (10, 7), (1, 17)]

/-- The decimal of a number: its digits from `10 ^ 17` on, once the number has been brought there
in extended precision. -/
def ofBinary (b : Binary) : Decimal :=
  let s := reductions.foldl
    (fun s (power, least) => scaleWhile (!·.isLess (.extendedTen least)) power 40 s) (b, 0)
  let (b, rest) := enlargements.foldl
    (fun s (power, limit) => scaleWhile (·.isLess (.extendedTen limit)) power 40 s) s
  ofScaled (Nat.toDigits 10 b.floor) rest

/-- Zero. -/
def zero : Decimal := ⟨[], 0⟩

/-- The decimal with at most `n` digits that is nearest; a half is rounded up. -/
def round (n : Nat) (d : Decimal) : Decimal :=
  match d.digits.drop n with
  | [] => d
  | next :: _ =>
    if next < '5' then { d with digits := dropFinalZeros (d.digits.take n) }
    else
      let up := Nat.toDigits 10 (Numeral.digitsValue (d.digits.take n) + 1)
      ⟨dropFinalZeros up, d.point + (up.length - n : Int)⟩

/-- An exponent: a sign and two digits or more. -/
def exponentText (e : Int) : List Char :=
  let ds := Nat.toDigits 10 e.natAbs
  (if e < 0 then '-' else '+') :: (if ds.length < 2 then '0' :: ds else ds)

/-- A fraction, which has at least one digit. -/
def fractionText (ds : List Char) : List Char :=
  '.' :: (if ds.isEmpty then ['0'] else ds)

/-- A decimal of at most `n` digits as it is shown: with an exponent if the number is below
`10 ^ -4` or from `10 ^ n` on. -/
def shown (n : Nat) (d : Decimal) : List Char :=
  match d.digits with
  | [] => ['0', '.', '0']
  | first :: rest =>
    let e := d.point - 1
    if e < -4 || (n : Int) ≤ e then first :: fractionText rest ++ 'e' :: exponentText e
    else if d.point ≤ 0 then
      '0' :: '.' :: List.replicate (-d.point).toNat '0' ++ first :: rest
    else
      let whole := d.point.toNat
      (d.digits.take whole) ++ List.replicate (whole - d.digits.length) '0' ++
        fractionText (d.digits.drop whole)

end Decimal

namespace Numeral

/-- The exponent of ten as far as it counts: from the sixth digit on it is taken for `10000`. -/
def boundedPower (n : Numeral) : Int :=
  match n.exponent with
  | none => 0
  | some (_, sign, ds) =>
    let step (e : Nat) (d : Char) := if e < 10000 then e * 10 + (d.toNat - 48) else 10000
    let value := ds.foldl step 0
    if sign = some '-' then -(value : Int) else value

/-- Leading digits are read while another one fits into a word whatever it is. -/
def readLimit : Nat := 18446744073709551600

/-- Moves factors of ten from a power into a value while the value has room for them. -/
def raise : Nat → Nat → Nat × Nat
  | 0, value => (value, 0)
  | power + 1, value =>
    if value < wordLimit / 10 then raise power (value * 10) else (value, power + 1)

/-- Moves factors of ten from a value into a negative power while the value has any. -/
def lower : Nat → Nat → Nat × Nat
  | 0, value => (value, 0)
  | power + 1, value =>
    if value % 10 = 0 then lower power (value / 10) else (value, power + 1)

/-- `value * 10 ^ power`, computed in extended precision. -/
def extended (value : Nat) (power : Int) : Binary :=
  if 0 ≤ power then
    let (value, power) := raise power.toNat value
    (Binary.ofNat value).scale power
  else
    let (value, power) := lower power.natAbs value
    (Binary.ofNat value).scale (-power)

/-- The magnitude of a number in double precision, unless it is too large. -/
def double? (n : Numeral) : Option Binary :=
  let (value, shift) := n.leading readLimit
  if value = 0 then some (.ofNat 0) else (extended value (n.boundedPower + shift)).toDouble?

/-- How many digits of a number that is no integer are shown. -/
def shownDigits : Nat := 15

/-- A number as it is shown when it is no integer. Zero has no sign. -/
def shownReal (n : Numeral) : List Char :=
  let sign := if n.negative then ['-'] else []
  match n.double? with
  | none => sign ++ ['I', 'n', 'f']
  | some b =>
    if b.mantissa = 0 then Decimal.zero.shown shownDigits
    else sign ++ ((Decimal.ofBinary b).round shownDigits).shown shownDigits

/-- The text of a number. -/
def shown (n : Numeral) : List Char :=
  if n.fraction.isSome || n.exponent.isSome then n.shownReal
  else
    let value : Int := if n.negative then -(digitsValue n.whole : Int) else digitsValue n.whole
    if -0x8000000000000000 ≤ value ∧ value < 0x8000000000000000 then integer value else n.shownReal

end Numeral

end EntityFinder.Json
