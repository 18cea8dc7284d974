import EntityFinder.Json.Relaxed
import EntityFinder.Json.Significant

set_option autoImplicit false

/-!
# The text under a key

A full-text index does not decode documents; it looks at one key at a time and takes whatever text
it finds there. Any text in relaxed spelling will do, whatever its shape, and a key that is repeated
counts where it comes first.

## Main definitions

* `EntityFinder.Json.Extract`: what is found under a key.
* `EntityFinder.Json.Extract.text?`: it, as text.
* `EntityFinder.Json.Relaxed.written`: a value in plain JSON.
* `EntityFinder.Json.Relaxed.under?`: what a value has under a key.
-/

namespace EntityFinder.Json

/-! ## Strings -/

/-- What is read where a half of a surrogate pair stands without the other half. -/
def replacement : Char := '\uFFFD'

/-- The character of a code of its own; a half of a surrogate pair has none. -/
def charOfCode? (n : Nat) : Option Char :=
  if isHighSurrogate n || isLowSurrogate n then none else some (Char.ofNat n)

namespace Relaxed

/-- The meaning of a letter or sign behind a backslash. -/
def escapedChar : Char → Char
  | '0' => '\x00'
  | 'v' => '\x0B'
  | c => (escapeMeaning? c).getD c

/-- The characters that units mean. No code is refused, but not every one has a character. Lines
that are joined leave no trace, except that a null character stands for nothing at the end. -/
def meanings : List Unit → List (Option Char)
  | [] => []
  | .plain c :: us => some c :: meanings us
  | .escape letter :: us => some (escapedChar letter) :: meanings us
  | .code a b c d :: .code a' b' c' d' :: us =>
    let n := codeValue a b c d
    let m := codeValue a' b' c' d'
    if isHighSurrogate n && isLowSurrogate m then some (joinSurrogates n m) :: meanings us
    else charOfCode? n :: meanings (.code a' b' c' d' :: us)
  | .code a b c d :: us => charOfCode? (codeValue a b c d) :: meanings us
  | .byte a b :: us => charOfCode? (hexValue a * 16 + hexValue b) :: meanings us
  | [.join] => [some '\x00']
  | .join :: us => meanings us

/-- The characters that are read, with something in place of what has no character. -/
def readChars (us : List Unit) : List Char :=
  (meanings us).map fun c => c.getD replacement

/-- Whether units are a key. A null character ends what is compared. -/
def isKey (key : List Char) (us : List Unit) : Bool :=
  (meanings us).takeWhile (· != some '\x00') == key.map some

/-! ## Plain spelling -/

/-- A character of a string in plain JSON. -/
def Unit.written : Unit → List Char
  | .plain c => quoteChar c
  | .escape '\'' => ['\'']
  | .escape 'v' => ['\\', 'u', '0', '0', '0', '9']
  | .escape '0' => ['\\', 'u', '0', '0', '0', '0']
  | .escape letter => ['\\', letter]
  | .code a b c d => ['\\', 'u', a, b, c, d]
  | .byte a b => ['\\', 'u', '0', '0', a, b]
  | .join => []

/-- A string in plain JSON. -/
def writtenString (us : List Unit) : List Char :=
  '"' :: us.flatMap Unit.written ++ ['"']

/-- A number without leading zeros in base sixteen. -/
def significant (digits : List Char) : List Char :=
  digits.dropWhile (· == '0')

/-- The value of digits in base sixteen. -/
def hexadecimalValue (digits : List Char) : Nat :=
  digits.foldl (fun n d => n * 16 + hexValue d) 0

/-- A hexadecimal number in plain JSON. One of more than 64 bits is taken for infinite. -/
def writtenHexadecimal (negative : Bool) (digits : List Char) : List Char :=
  (if negative then ['-'] else []) ++
    (if 16 < (significant digits).length then ['9', '.', '0', 'e', '9', '9', '9']
    else Nat.toDigits 10 (hexadecimalValue digits))

mutual

/-- A value in plain JSON, without blanks. -/
def written : Relaxed → List Char
  | .null => ['n', 'u', 'l', 'l']
  | .bool true => ['t', 'r', 'u', 'e']
  | .bool false => ['f', 'a', 'l', 's', 'e']
  | .number n => n.written
  | .hexadecimal negative digits => writtenHexadecimal negative digits
  | .string us => writtenString us
  | .array items => '[' :: writtenItems true items
  | .object fields => '{' :: writtenFields true fields

/-- Items and the closing bracket, with a comma before each item that is not the first. -/
def writtenItems (first : Bool) : RelaxedItems → List Char
  | .done => [']']
  | .cons item rest =>
    (if first then [] else [',']) ++ item.written ++ writtenItems false rest

/-- Fields and the closing brace, with a comma before each field that is not the first. -/
def writtenFields (first : Bool) : RelaxedFields → List Char
  | .done => ['}']
  | .cons key value rest =>
    (if first then [] else [',']) ++ writtenString key ++ ':' :: value.written ++
      writtenFields false rest

end

end Relaxed

/-! ## Values under a key -/

/-- What is found under a key. -/
inductive Extract where
  /-- Nothing, or the literal `null`. -/
  | nothing
  /-- A text: a string, or an array or object in plain JSON. -/
  | text (content : String)
  /-- A string in which some codes have no character. It is read with others in their places, but
  it equals no text. -/
  | damaged (content : String)
  /-- A number or truth value, as the text that stands for it. It equals no text. -/
  | scalar (content : String)
  deriving DecidableEq, Repr

/-- The text that was found. -/
def Extract.text? : Extract → Option String
  | nothing => none
  | text content | damaged content | scalar content => some content

namespace Relaxed

/-- A string that is found under a key. -/
def extractString (us : List Unit) : Extract :=
  let content := String.ofList (readChars us)
  if (meanings us).all Option.isSome then .text content else .damaged content

/-- A hexadecimal number as an integer of 64 bits, the greater half of which are negative; one of
more bits has no value. -/
def hexadecimal? (negative : Bool) (digits : List Char) : Option Int :=
  if 16 < (significant digits).length then none
  else
    let value := hexadecimalValue digits
    some (Int.bmod (if negative then -(value : Int) else value) 0x10000000000000000)

/-- What there is to find in a value. There is none for a number without a value. -/
def extract? : Relaxed → Option Extract
  | .null => some .nothing
  | .bool b => some (.scalar (if b then "1" else "0"))
  | .number n => some (.scalar (String.ofList n.shown))
  | .hexadecimal negative digits =>
    (hexadecimal? negative digits).map fun value => .scalar (String.ofList (integer value))
  | .string us => some (extractString us)
  | value => some (.text (String.ofList value.written))

/-- The first value under a key. -/
def first? (key : List Char) : RelaxedFields → Option Relaxed
  | .done => none
  | .cons k value rest => if isKey key k then some value else first? key rest

/-- What a value has under a key: only objects have anything. -/
def under? (key : String) : Relaxed → Option Extract
  | .object fields =>
    match first? key.toList fields with
    | none => some .nothing
    | some value => value.extract?
  | _ => some .nothing

end Relaxed

/-- What a text has under a key. There is none if it has a fault. -/
def extract? (key text : String) : Option Extract :=
  (Relaxed.ofText? text).bind (Relaxed.under? key)

end EntityFinder.Json
