import EntityFinder.Json.Literal

set_option autoImplicit false

/-!
# JSON texts in relaxed spelling

A full-text index accepts more than JSON: comments, keys without quotes, quotes of either kind,
commas before a closing bracket, hexadecimal numbers, and numbers that lack the digits before or
after their point. Every text that is JSON is such a text. A text with any fault is refused as a
whole.

## Main definitions

* `EntityFinder.Json.Relaxed.Unit`: a character of a string, as it is written.
* `EntityFinder.Json.Relaxed`, `EntityFinder.Json.RelaxedItems`, `EntityFinder.Json.RelaxedFields`:
  what can be written.
* `EntityFinder.Json.Relaxed.ofText?`: reads a whole text.
-/

namespace EntityFinder.Json

/-- A character of a relaxed string, as it is written. -/
inductive Relaxed.Unit where
  /-- A character that stands for itself. -/
  | plain (c : Char)
  /-- A backslash and one letter or sign. -/
  | escape (letter : Char)
  /-- A backslash, `u` and four hexadecimal digits. -/
  | code (a b c d : Char)
  /-- A backslash, `x` and two hexadecimal digits. -/
  | byte (a b : Char)
  /-- A backslash at the end of a line, which joins it to the next line. -/
  | join
  deriving DecidableEq, Repr

mutual

/-- What a relaxed text may hold. -/
inductive Relaxed where
  /-- The literal `null`, or a word for something that is no number. -/
  | null
  /-- The literal `true` or `false`. -/
  | bool (b : Bool)
  /-- A decimal number; digits may be missing on one side of the point. -/
  | number (n : Numeral)
  /-- A hexadecimal number. -/
  | hexadecimal (negative : Bool) (digits : List Char)
  /-- A string. -/
  | string (units : List Relaxed.Unit)
  /-- An array. -/
  | array (items : RelaxedItems)
  /-- An object. -/
  | object (fields : RelaxedFields)

/-- The items of an array. -/
inductive RelaxedItems where
  /-- No further item. -/
  | done
  /-- An item and those after it. -/
  | cons (item : Relaxed) (rest : RelaxedItems)

/-- The fields of an object. -/
inductive RelaxedFields where
  /-- No further field. -/
  | done
  /-- A key, its value, and the fields after it. -/
  | cons (key : List Relaxed.Unit) (value : Relaxed) (rest : RelaxedFields)

end

namespace Relaxed

/-! ## Blanks and comments -/

/-- The characters that count as blank. -/
def isBlank (c : Char) : Bool :=
  let n := c.toNat
  (0x9 ≤ n && n ≤ 0xD) || n == 0x20 || n == 0xA0 || n == 0x1680 || (0x2000 ≤ n && n ≤ 0x200A) ||
    n == 0x2028 || n == 0x2029 || n == 0x202F || n == 0x205F || n == 0x3000 || n == 0xFEFF

/-- The characters that end a line. -/
def isLineEnd (c : Char) : Bool :=
  c == '\n' || c == '\r' || c.toNat == 0x2028 || c.toNat == 0x2029

/-- What follows a comment that ends with a star and a slash, if it does. -/
def afterBlock? : List Char → Option (List Char)
  | '*' :: '/' :: rest => some rest
  | _ :: rest => afterBlock? rest
  | [] => none

/-- What follows a comment that ends with its line. -/
def afterLine (cs : List Char) : List Char :=
  (cs.dropWhile (!isLineEnd ·)).drop 1

/-- What follows the blanks and comments at the front, of which there are at most `n`. A comment
that is not closed is left where it is. -/
def skipBlanks : Nat → List Char → List Char
  | 0, cs => cs
  | n + 1, cs =>
    match cs with
    | '/' :: '*' :: rest =>
      match afterBlock? rest with
      | some rest => skipBlanks n rest
      | none => cs
    | '/' :: '/' :: rest => skipBlanks n (afterLine rest)
    | c :: rest => if isBlank c then skipBlanks n rest else cs
    | [] => []

/-- What follows all blanks and comments at the front. -/
def skip (cs : List Char) : List Char :=
  skipBlanks cs.length cs

/-! ## Strings and keys -/

/-- The letters and signs that may follow a backslash without further digits. -/
def isEscape (c : Char) : Bool :=
  (escapeMeaning? c).isSome || c == '\'' || c == '0' || c == 'v'

/-- Puts a unit in front of units that have been read together with what follows them. -/
def consUnit (u : Relaxed.Unit) (read : Option (List Relaxed.Unit × List Char)) :
    Option (List Relaxed.Unit × List Char) :=
  read.map fun (us, rest) => (u :: us, rest)

/-- Reads a string from behind its opening quote, which is `quote`. -/
def readString (quote : Char) : List Char → Option (List Relaxed.Unit × List Char)
  | [] => none
  | '\\' :: 'u' :: a :: b :: c :: d :: rest =>
    if isHex a && isHex b && isHex c && isHex d then
      consUnit (.code a b c d) (readString quote rest)
    else none
  | '\\' :: 'x' :: a :: b :: rest =>
    if isHex a && isHex b then consUnit (.byte a b) (readString quote rest) else none
  | '\\' :: '\r' :: '\n' :: rest => consUnit .join (readString quote rest)
  | '\\' :: c :: rest =>
    if isLineEnd c then consUnit .join (readString quote rest)
    else if isEscape c then consUnit (.escape c) (readString quote rest)
    else none
  | c :: rest =>
    if c = quote then some ([], rest)
    else if c = '\\' then none
    else consUnit (.plain c) (readString quote rest)

/-- The characters that may begin a key without quotes. -/
def isKeyStart (c : Char) : Bool :=
  c.isAlpha || c == '_' || c == '$' || 0x80 ≤ c.toNat && !isBlank c

/-- The characters that may continue a key without quotes. -/
def isKeyPart (c : Char) : Bool :=
  isKeyStart c || c.isDigit

/-- Reads a key without quotes as far as it goes. -/
def readKeyParts : List Char → List Relaxed.Unit × List Char
  | '\\' :: 'u' :: a :: b :: c :: d :: rest =>
    if isHex a && isHex b && isHex c && isHex d then
      let (us, rest) := readKeyParts rest
      (.code a b c d :: us, rest)
    else ([], '\\' :: 'u' :: a :: b :: c :: d :: rest)
  | c :: rest =>
    if isKeyPart c then
      let (us, rest) := readKeyParts rest
      (.plain c :: us, rest)
    else ([], c :: rest)
  | [] => ([], [])

/-! ## Words and numbers -/

/-- The number that stands for infinity. -/
def infinity (negative : Bool) : Relaxed :=
  .number ⟨negative, ['9'], none, some ('e', none, ['9', '9', '9'])⟩

/-- The words, those that count in one spelling first, with what they mean. -/
def words : List (Bool × List Char × Relaxed) :=
  [(true, ['t', 'r', 'u', 'e'], .bool true), (true, ['f', 'a', 'l', 's', 'e'], .bool false),
   (true, ['n', 'u', 'l', 'l'], .null), (false, ['i', 'n', 'f'], infinity false),
   (false, ['i', 'n', 'f', 'i', 'n', 'i', 't', 'y'], infinity false),
   (false, ['n', 'a', 'n'], .null), (false, ['q', 'n', 'a', 'n'], .null),
   (false, ['s', 'n', 'a', 'n'], .null)]

/-- What follows a word at the front of a text, if it is there. Unless it is `exact`, case does
not matter. -/
def afterWord? (exact : Bool) : List Char → List Char → Option (List Char)
  | [], rest => some rest
  | _ :: _, [] => none
  | w :: word, c :: rest =>
    if w = (if exact then c else c.toLower) then afterWord? exact word rest else none

/-- Whether no letter or digit follows. -/
def endsHere : List Char → Bool
  | c :: _ => !c.isAlphanum
  | [] => true

/-- Reads a word. -/
def readWord? (cs : List Char) : Option (Relaxed × List Char) :=
  words.findSome? fun (exact, word, value) =>
    match afterWord? exact word cs with
    | some rest => if endsHere rest then some (value, rest) else none
    | none => none

/-- Reads the exponent of a number, if there is one. -/
def readExponent (negative : Bool) (whole : List Char) (fraction : Option (List Char)) :
    List Char → Option (Relaxed × List Char)
  | [] => some (.number ⟨negative, whole, fraction, none⟩, [])
  | e :: rest =>
    if e = 'e' ∨ e = 'E' then
      let (sign, rest) : Option Char × List Char :=
        match rest with
        | '+' :: r => (some '+', r)
        | '-' :: r => (some '-', r)
        | r => (none, r)
      let digits := rest.takeWhile Char.isDigit
      if digits.isEmpty then none
      else some (.number ⟨negative, whole, fraction, some (e, sign, digits)⟩,
        rest.dropWhile Char.isDigit)
    else some (.number ⟨negative, whole, fraction, none⟩, e :: rest)

/-- Reads a decimal number from behind its sign. There has to be a digit on one side of the
point, and a leading zero stands alone. -/
def readDecimal (negative : Bool) (cs : List Char) : Option (Relaxed × List Char) :=
  let whole := cs.takeWhile Char.isDigit
  if whole.head? = some '0' ∧ 1 < whole.length then none
  else
    match cs.dropWhile Char.isDigit with
    | '.' :: rest =>
      let digits := rest.takeWhile Char.isDigit
      if whole.isEmpty ∧ digits.isEmpty then none
      else readExponent negative whole (some digits) (rest.dropWhile Char.isDigit)
    | rest => if whole.isEmpty then none else readExponent negative whole none rest

/-- Reads a number from behind its sign. -/
def readNumber (negative : Bool) : List Char → Option (Relaxed × List Char)
  | '0' :: x :: d :: rest =>
    if (x = 'x' ∨ x = 'X') ∧ isHex d then
      some (.hexadecimal negative ((d :: rest).takeWhile isHex), (d :: rest).dropWhile isHex)
    else readDecimal negative ('0' :: x :: d :: rest)
  | cs => readDecimal negative cs

/-- Reads a number or the word for infinity from behind a sign, which is there. -/
def readSigned (negative : Bool) (cs : List Char) : Option (Relaxed × List Char) :=
  match afterWord? false ['i', 'n', 'f'] cs with
  | some rest =>
    some (infinity negative, (afterWord? false ['i', 'n', 'i', 't', 'y'] rest).getD rest)
  | none => readNumber negative cs

/-! ## Values

Every call of these functions either consumes a character or hands its text to `readValue`, so
twice as many steps as there are characters suffice. -/

/-- Reads a key: a string, or a key without quotes that does not begin with a word. -/
def readKey : List Char → Option (List Relaxed.Unit × List Char)
  | '"' :: rest => readString '"' rest
  | '\'' :: rest => readString '\'' rest
  | cs =>
    if (readWord? cs).isSome then none
    else
      match readKeyParts cs with
      | ([], _) => none
      | (us, rest) => if (cs.head?.map Char.isDigit).getD true then none else some (us, rest)

mutual

/-- Reads one value, in at most `n` steps and with at most `depth` brackets inside one another. -/
def readValue (depth : Nat) : Nat → List Char → Option (Relaxed × List Char)
  | 0, _ => none
  | n + 1, cs =>
    match skip cs with
    | [] => none
    | '"' :: rest => (readString '"' rest).map fun (us, rest) => (.string us, rest)
    | '\'' :: rest => (readString '\'' rest).map fun (us, rest) => (.string us, rest)
    | '-' :: rest => readSigned true rest
    | '+' :: rest => readSigned false rest
    | '[' :: rest =>
      match depth with
      | 0 => none
      | depth + 1 => (readItems depth n rest).map fun (items, rest) => (.array items, rest)
    | '{' :: rest =>
      match depth with
      | 0 => none
      | depth + 1 => (readFields depth n rest).map fun (fields, rest) => (.object fields, rest)
    | c :: rest =>
      if c.isDigit || c == '.' then readNumber false (c :: rest) else readWord? (c :: rest)

/-- Reads items up to the closing bracket. A comma may stand before it. -/
def readItems (depth : Nat) : Nat → List Char → Option (RelaxedItems × List Char)
  | 0, _ => none
  | n + 1, cs =>
    match skip cs with
    | ']' :: rest => some (.done, rest)
    | cs =>
      match readValue depth n cs with
      | none => none
      | some (item, rest) =>
        match skip rest with
        | ',' :: rest =>
          (readItems depth n rest).map fun (items, rest) => (.cons item items, rest)
        | ']' :: rest => some (.cons item .done, rest)
        | _ => none

/-- Reads fields up to the closing brace. A comma may stand before it. -/
def readFields (depth : Nat) : Nat → List Char → Option (RelaxedFields × List Char)
  | 0, _ => none
  | n + 1, cs =>
    match skip cs with
    | '}' :: rest => some (.done, rest)
    | cs =>
      match readKey cs with
      | none => none
      | some (key, rest) =>
        match skip rest with
        | ':' :: rest =>
          match readValue depth n rest with
          | none => none
          | some (value, rest) =>
            match skip rest with
            | ',' :: rest =>
              (readFields depth n rest).map fun (fields, rest) =>
                (.cons key value fields, rest)
            | '}' :: rest => some (.cons key value .done, rest)
            | _ => none
        | _ => none

end

/-- How deep brackets may be nested. -/
def depthLimit : Nat := 1000

/-- Reads a whole text. Nothing from a null character on is read. -/
def ofText? (text : String) : Option Relaxed :=
  let cs := text.toList.takeWhile (· != '\x00')
  match readValue depthLimit (2 * cs.length + 2) cs with
  | some (value, rest) => if (skip rest).isEmpty then some value else none
  | none => none

end Relaxed

end EntityFinder.Json
