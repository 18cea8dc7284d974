import EntityFinder.Json.Literal

set_option autoImplicit false

/-!
# JSON texts as far as they can be read

Reading never fails: it turns a text into a tree, and where the text breaks off or breaks the
grammar the tree ends in a leaf that says so. A decoder walks the tree in the order of the text
and stops at the first thing that it cannot use, be it such a leaf or a value of the wrong shape.
That is how, of two faults, the first one is reported, and why what comes after a value of the
wrong shape does not matter.

## Main definitions

* `EntityFinder.Json.Reading`, `EntityFinder.Json.Items`, `EntityFinder.Json.Fields`: the trees.
* `EntityFinder.Json.readValue`: reads one value and returns what follows it.
* `EntityFinder.Json.Reading.ofText`: reads a whole text; what follows the value is kept.
-/

namespace EntityFinder.Json

mutual

/-- What can be read of a value. -/
inductive Reading where
  /-- The literal `null`. -/
  | null
  /-- The literal `true` or `false`. -/
  | bool (b : Bool)
  /-- A number. -/
  | number (n : Numeral)
  /-- A string, possibly unfinished. -/
  | string (s : StringLiteral)
  /-- An array, possibly unfinished. -/
  | array (items : Items)
  /-- An object, possibly unfinished. -/
  | object (fields : Fields)
  /-- A number that ends with the text where a digit is needed. -/
  | unfinishedNumber
  /-- No value can be read here. -/
  | broken (f : Fault)

/-- What can be read of the items of an array. -/
inductive Items where
  /-- The closing bracket. -/
  | closed
  /-- No closing bracket and no further item. -/
  | broken (f : Fault)
  /-- An item and what follows it. -/
  | cons (item : Reading) (rest : Items)

/-- What can be read of the fields of an object. -/
inductive Fields where
  /-- The closing brace. -/
  | closed
  /-- No closing brace and no further key. -/
  | broken (f : Fault)
  /-- A key, its value, and what follows. -/
  | cons (key : StringLiteral) (value : Reading) (rest : Fields)

end

/-! ## Blanks, words and numbers -/

/-- The blanks of the grammar. -/
def isSpace (c : Char) : Bool :=
  c == ' ' || c == '\n' || c == '\t' || c == '\r'

/-- What follows the blanks at the front. -/
def skipSpace (cs : List Char) : List Char :=
  cs.dropWhile isSpace

/-- Reads the rest of a word whose first letter has been seen. -/
def readWord (value : Reading) : List Char → List Char → Reading × List Char
  | [], rest => (value, rest)
  | _ :: _, [] => (.broken .truncated, [])
  | w :: word, c :: rest => if w = c then readWord value word rest else (.broken .malformed, [])

/-- What can be read of a number where a digit is missing. -/
def missingDigit : List Char → Reading
  | [] => .unfinishedNumber
  | _ :: _ => .broken .malformed

/-- Reads the exponent of a number, if there is one. -/
def readExponent (negative : Bool) (whole : List Char) (fraction : Option (List Char)) :
    List Char → Reading × List Char
  | [] => (.number ⟨negative, whole, fraction, none⟩, [])
  | e :: rest =>
    if e = 'e' ∨ e = 'E' then
      let (sign, rest) : Option Char × List Char :=
        match rest with
        | '+' :: r => (some '+', r)
        | '-' :: r => (some '-', r)
        | r => (none, r)
      let digits := rest.takeWhile Char.isDigit
      if digits.isEmpty then (missingDigit rest, [])
      else (.number ⟨negative, whole, fraction, some (e, sign, digits)⟩,
        rest.dropWhile Char.isDigit)
    else (.number ⟨negative, whole, fraction, none⟩, e :: rest)

/-- Reads the fraction of a number, if there is one, and its exponent. -/
def readFraction (negative : Bool) (whole : List Char) : List Char → Reading × List Char
  | '.' :: rest =>
    let digits := rest.takeWhile Char.isDigit
    if digits.isEmpty then (missingDigit rest, [])
    else readExponent negative whole (some digits) (rest.dropWhile Char.isDigit)
  | rest => readExponent negative whole none rest

/-- Reads a number from behind its sign. A leading zero stands alone. -/
def readNumber (negative : Bool) (cs : List Char) : Reading × List Char :=
  let digits := cs.takeWhile Char.isDigit
  let rest := cs.dropWhile Char.isDigit
  match digits with
  | [] => (missingDigit cs, [])
  | ['0'] => readFraction negative digits rest
  | '0' :: _ => (.broken .malformed, [])
  | _ => readFraction negative digits rest

/-! ## Values

Every call of these functions either consumes a character or hands its text to `readValue`, so
twice as many steps as there are characters suffice. -/

mutual

/-- Reads one value, in at most `n` steps. -/
def readValue : Nat → List Char → Reading × List Char
  | 0, _ => (.broken .truncated, [])
  | n + 1, cs =>
    match skipSpace cs with
    | [] => (.broken .truncated, [])
    | 'n' :: rest => readWord .null ['u', 'l', 'l'] rest
    | 't' :: rest => readWord (.bool true) ['r', 'u', 'e'] rest
    | 'f' :: rest => readWord (.bool false) ['a', 'l', 's', 'e'] rest
    | '-' :: rest => readNumber true rest
    | '"' :: rest =>
      let (s, rest) := StringLiteral.read rest
      (.string s, rest)
    | '[' :: rest =>
      match skipSpace rest with
      | ']' :: rest => (.array .closed, rest)
      | rest =>
        let (items, rest) := readItems n rest
        (.array items, rest)
    | '{' :: rest =>
      match skipSpace rest with
      | '}' :: rest => (.object .closed, rest)
      | rest =>
        let (fields, rest) := readFields n rest
        (.object fields, rest)
    | c :: rest => if c.isDigit then readNumber false (c :: rest) else (.broken .malformed, [])

/-- Reads an item and those after it. -/
def readItems : Nat → List Char → Items × List Char
  | 0, _ => (.broken .truncated, [])
  | n + 1, cs =>
    let (item, rest) := readValue n cs
    match skipSpace rest with
    | [] => (.cons item (.broken .truncated), [])
    | ',' :: rest =>
      let (items, rest) := readItems n rest
      (.cons item items, rest)
    | ']' :: rest => (.cons item .closed, rest)
    | _ => (.cons item (.broken .malformed), [])

/-- Reads a field and those after it. -/
def readFields : Nat → List Char → Fields × List Char
  | 0, _ => (.broken .truncated, [])
  | n + 1, cs =>
    match skipSpace cs with
    | [] => (.broken .truncated, [])
    | '"' :: rest =>
      let (key, rest) := StringLiteral.read rest
      match skipSpace rest with
      | [] => (.cons key (.broken .truncated) (.broken .truncated), [])
      | ':' :: rest =>
        let (value, rest) := readValue n rest
        match skipSpace rest with
        | [] => (.cons key value (.broken .truncated), [])
        | ',' :: rest =>
          let (fields, rest) := readFields n rest
          (.cons key value fields, rest)
        | '}' :: rest => (.cons key value .closed, rest)
        | _ => (.cons key value (.broken .malformed), [])
      | _ => (.cons key (.broken .malformed) (.broken .malformed), [])
    | _ => (.broken .malformed, [])

end

/-- Reads a text: its value, and what follows the value and the blanks behind it. -/
def Reading.ofText (text : String) : Reading × List Char :=
  let cs := text.toList
  let (value, rest) := readValue (2 * cs.length + 2) cs
  (value, skipSpace rest)

end EntityFinder.Json
