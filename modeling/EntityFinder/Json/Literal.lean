import EntityFinder.Json.Binary
import EntityFinder.Json.Fault

set_option autoImplicit false

/-!
# String and number literals

Literals are read as they are written, without giving them a meaning: escapes stay escapes, and
the digits of a number stay digits. What a literal means, and whether it may be used at all, is
decided by the reader who needs the value; one who skips it is content with less.

## Main definitions

* `EntityFinder.Json.StringLiteral`: the units between two quotes, and why they ended early.
* `EntityFinder.Json.StringLiteral.text`: the meaning, where control characters and halves of
  surrogate pairs are refused.
* `EntityFinder.Json.StringLiteral.check`: what a reader who skips the string insists on.
* `EntityFinder.Json.Numeral`: a number as written.
* `EntityFinder.Json.Numeral.integer?`: its value, when it is written as an integer.
-/

namespace EntityFinder.Json

/-! ## Strings -/

/-- A character of a string literal, as it is written. -/
inductive StringUnit where
  /-- A character that stands for itself. -/
  | plain (c : Char)
  /-- A backslash and one letter or sign. -/
  | escape (letter : Char)
  /-- A backslash, `u` and four hexadecimal digits. -/
  | code (a b c d : Char)
  deriving DecidableEq, Repr

/-- What stands between the quotes of a string. -/
structure StringLiteral where
  /-- The units up to the closing quote, or up to a fault. -/
  units : List StringUnit
  /-- The fault that ended the literal before a closing quote. -/
  stop : Option Fault
  deriving DecidableEq, Repr

/-- The value of a hexadecimal digit. -/
def hexValue (c : Char) : Nat :=
  if c.isDigit then c.toNat - 48
  else if 'a' ≤ c ∧ c ≤ 'f' then c.toNat - 87
  else c.toNat - 55

/-- Whether a character is a hexadecimal digit. -/
def isHex (c : Char) : Bool :=
  c.isDigit || ('a' ≤ c && c ≤ 'f') || ('A' ≤ c && c ≤ 'F')

/-- The number that four hexadecimal digits stand for. -/
def codeValue (a b c d : Char) : Nat :=
  ((hexValue a * 16 + hexValue b) * 16 + hexValue c) * 16 + hexValue d

/-- The characters that may follow a backslash, `u` apart, with their meaning. -/
def escapeMeaning? : Char → Option Char
  | '"' => some '"'
  | '\\' => some '\\'
  | '/' => some '/'
  | 'b' => some '\x08'
  | 'f' => some '\x0C'
  | 'n' => some '\n'
  | 'r' => some '\r'
  | 't' => some '\t'
  | _ => none

/-- Puts a unit in front of a literal that has been read together with what follows it. -/
def consUnit (u : StringUnit) (read : StringLiteral × List Char) :
    StringLiteral × List Char :=
  (⟨u :: read.1.units, read.1.stop⟩, read.2)

/-- A literal that ends with a fault; nothing after it is read. -/
def brokenLiteral (f : Fault) : StringLiteral × List Char :=
  (⟨[], some f⟩, [])

/-- Reads a string literal from behind its opening quote. A code needs four more bytes, whatever
they are, before the digits are looked at. -/
def StringLiteral.read : List Char → StringLiteral × List Char
  | [] => brokenLiteral .truncated
  | '"' :: rest => (⟨[], none⟩, rest)
  | ['\\'] => brokenLiteral .truncated
  | '\\' :: 'u' :: a :: b :: c :: d :: rest =>
    if isHex a && isHex b && isHex c && isHex d then consUnit (.code a b c d) (read rest)
    else brokenLiteral .malformed
  | '\\' :: 'u' :: short =>
    if (String.ofList short).utf8ByteSize < 4 then brokenLiteral .truncated
    else brokenLiteral .malformed
  | '\\' :: letter :: rest =>
    if (escapeMeaning? letter).isSome then consUnit (.escape letter) (read rest)
    else brokenLiteral .malformed
  | c :: rest => consUnit (.plain c) (read rest)

/-- Whether a number is the first half of a surrogate pair. -/
def isHighSurrogate (n : Nat) : Bool := 0xD800 ≤ n && n < 0xDC00

/-- Whether a number is the second half of a surrogate pair. -/
def isLowSurrogate (n : Nat) : Bool := 0xDC00 ≤ n && n < 0xE000

/-- The character that two halves of a surrogate pair stand for. -/
def joinSurrogates (high low : Nat) : Char :=
  Char.ofNat (0x10000 + (high - 0xD800) * 0x400 + (low - 0xDC00))

/-- Whether a character may not stand for itself in a string. -/
def isControl (c : Char) : Bool := c.toNat < 0x20

/-- The characters that units mean, if every one has a meaning and the literal was closed. -/
def decodeUnits (stop : Option Fault) : List StringUnit → Except Fault (List Char)
  | [] =>
    match stop with
    | none => .ok []
    | some f => .error f
  | .plain c :: us =>
    if isControl c then .error .malformed else (decodeUnits stop us).map (c :: ·)
  | .escape letter :: us =>
    (decodeUnits stop us).map ((escapeMeaning? letter).getD letter :: ·)
  | .code a b c d :: us =>
    let n := codeValue a b c d
    if isLowSurrogate n then .error .malformed
    else if isHighSurrogate n then
      match us with
      | .code a' b' c' d' :: us' =>
        let m := codeValue a' b' c' d'
        if isLowSurrogate m then (decodeUnits stop us').map (joinSurrogates n m :: ·)
        else .error .malformed
      | [] => .error (if stop = some .truncated then .truncated else .malformed)
      | _ => .error .malformed
    else (decodeUnits stop us).map (Char.ofNat n :: ·)

/-- The text that a literal means. -/
def StringLiteral.text (s : StringLiteral) : Except Fault String :=
  (decodeUnits s.stop s.units).map String.ofList

/-- Checks a literal that is skipped: its characters and escapes are looked at, halves of
surrogate pairs are not. -/
def StringLiteral.check (s : StringLiteral) : Except Fault Unit :=
  if s.units.any (fun | .plain c => isControl c | _ => false) then .error .malformed
  else match s.stop with
    | none => .ok ()
    | some f => .error f

/-! ## Numbers -/

/-- A number as it is written. -/
structure Numeral where
  /-- Whether a minus sign stands in front. -/
  negative : Bool
  /-- The digits before the point. -/
  whole : List Char
  /-- The digits after the point, if there is one. -/
  fraction : Option (List Char)
  /-- The letter, sign and digits of the exponent, if there is one. -/
  exponent : Option (Char × Option Char × List Char)
  deriving DecidableEq, Repr

namespace Numeral

/-- The value of a list of decimal digits. -/
def digitsValue (ds : List Char) : Nat :=
  ds.foldl (fun n d => n * 10 + (d.toNat - 48)) 0

/-- The literal itself, with a zero where there are no digits on one side of the point. -/
def written (n : Numeral) : List Char :=
  let digits (ds : List Char) := if ds.isEmpty then ['0'] else ds
  (if n.negative then ['-'] else []) ++ digits n.whole ++
    (match n.fraction with
    | none => []
    | some ds => '.' :: digits ds) ++
    (match n.exponent with
    | none => []
    | some (e, sign, ds) => e :: sign.toList ++ ds)

/-- The value of a number that is written as an integer; minus zero is none. -/
def integer? (n : Numeral) : Option Int :=
  if n.fraction.isSome || n.exponent.isSome then none
  else
    let value := digitsValue n.whole
    if n.negative then (if value = 0 then none else some (-(value : Int))) else some value

/-- The exponent of ten that a number is written with. -/
def power (n : Numeral) : Int :=
  match n.exponent with
  | none => 0
  | some (_, sign, ds) => if sign = some '-' then -(digitsValue ds : Int) else digitsValue ds

/-- Appends digits to a value while it stays below a limit. The digits that are left over are
returned, too. -/
def appendDigits (limit value : Nat) : List Char → Nat × List Char
  | [] => (value, [])
  | d :: ds =>
    let next := value * 10 + (d.toNat - 48)
    if next < limit then appendDigits limit next ds else (value, d :: ds)

/-- The leading digits of a number, as many as stay below a limit, and the power of ten that they
count when the exponent is left aside. Digits of the fraction may follow even where digits before
the point are left out. -/
def leading (limit : Nat) (n : Numeral) : Nat × Int :=
  let (whole, left) := appendDigits limit 0 n.whole
  let fraction := n.fraction.getD []
  let (value, unread) := appendDigits limit whole fraction
  (value, (left.length : Int) - (fraction.length - unread.length : Nat))

/-- Integers below this limit fit into a word: numbers are read into 64 bits first. -/
def wordLimit : Nat := 0x10000000000000000

/-- Whether `value * 10 ^ power` is too large for double precision when both factors are rounded
before they are multiplied. -/
def exceedsDouble (value power : Nat) : Bool :=
  if 308 < power then true
  else
    let digits := (Binary.ofNat value).round Binary.doubleBits
    let ten := Binary.tenPower Binary.doubleBits power
    !Binary.isLess ⟨digits.mantissa * ten.mantissa, digits.exponent + ten.exponent⟩
      Binary.doubleLimit

/-- Whether a number is too large for double precision. Integers that fit into a word never are,
nor are numbers whose digits count a negative power of ten. -/
def isHuge (n : Numeral) : Bool :=
  if n.fraction.isNone && n.exponent.isNone && digitsValue n.whole < wordLimit then false
  else
    let (value, shift) := n.leading wordLimit
    let power := n.power + shift
    value != 0 && 0 ≤ power && exceedsDouble value power.toNat

end Numeral

end EntityFinder.Json
