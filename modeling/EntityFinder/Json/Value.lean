set_option autoImplicit false

/-!
# JSON values and how they are written

The values that this library writes: there are no fractions among them, and the fields of an
object come in the order in which they are given. Two layouts exist, without any space and with
two spaces per level.

## Main definitions

* `EntityFinder.Json.Value`, with `EntityFinder.Json.Values` and `EntityFinder.Json.Members`.
* `EntityFinder.Json.quote`: a string as it is written; only quotes, backslashes and controls are
  escaped.
* `EntityFinder.Json.Value.compact`: the text without spaces.
* `EntityFinder.Json.Value.pretty`: the indented text.
-/

namespace EntityFinder.Json

mutual

/-- A value to be written. -/
inductive Value where
  /-- The literal `null`. -/
  | null
  /-- A truth value. -/
  | bool (b : Bool)
  /-- An integer. -/
  | int (n : Int)
  /-- A string. -/
  | string (s : String)
  /-- An array. -/
  | array (items : Values)
  /-- An object. -/
  | object (members : Members)

/-- The items of an array. -/
inductive Values where
  /-- No item. -/
  | nil
  /-- An item and those after it. -/
  | cons (item : Value) (rest : Values)

/-- The members of an object. -/
inductive Members where
  /-- No member. -/
  | nil
  /-- A key, its value, and the members after it. -/
  | cons (key : String) (value : Value) (rest : Members)

end

/-- The items of an array from a list. -/
def Values.ofList : List Value → Values
  | [] => .nil
  | v :: vs => .cons v (ofList vs)

/-- The members of an object from a list. -/
def Members.ofList : List (String × Value) → Members
  | [] => .nil
  | (k, v) :: ms => .cons k v (ofList ms)

/-- An array of the values of a list. -/
def Value.ofItems (items : List Value) : Value :=
  .array (.ofList items)

/-- An object with the members of a list. -/
def Value.ofMembers (members : List (String × Value)) : Value :=
  .object (.ofList members)

/-! ## Strings and integers -/

/-- The hexadecimal digit of a number below sixteen, in lower case. -/
def hexDigit (n : Nat) : Char :=
  Nat.digitChar n

/-- A character inside a string. -/
def quoteChar (c : Char) : List Char :=
  match c with
  | '"' => ['\\', '"']
  | '\\' => ['\\', '\\']
  | '\x08' => ['\\', 'b']
  | '\t' => ['\\', 't']
  | '\n' => ['\\', 'n']
  | '\x0C' => ['\\', 'f']
  | '\r' => ['\\', 'r']
  | c =>
    if c.toNat < 0x20 then
      ['\\', 'u', '0', '0', hexDigit (c.toNat / 16), hexDigit (c.toNat % 16)]
    else [c]

/-- The characters of a string as they are written. -/
def quoteChars (cs : List Char) : List Char :=
  '"' :: cs.flatMap quoteChar ++ ['"']

/-- A string as it is written. -/
def quote (s : String) : List Char :=
  quoteChars s.toList

/-- An integer in decimal digits. -/
def integer (n : Int) : List Char :=
  if n < 0 then '-' :: Nat.toDigits 10 n.natAbs else Nat.toDigits 10 n.natAbs

/-! ## Compact layout -/

mutual

/-- A value without spaces. -/
def Value.compactChars : Value → List Char
  | .null => ['n', 'u', 'l', 'l']
  | .bool true => ['t', 'r', 'u', 'e']
  | .bool false => ['f', 'a', 'l', 's', 'e']
  | .int n => integer n
  | .string s => quote s
  | .array .nil => ['[', ']']
  | .array (.cons v vs) => '[' :: v.compactChars ++ vs.compactChars
  | .object .nil => ['{', '}']
  | .object (.cons k v ms) => '{' :: quote k ++ ':' :: v.compactChars ++ ms.compactChars

/-- Further items, each after a comma, and the closing bracket. -/
def Values.compactChars : Values → List Char
  | .nil => [']']
  | .cons v vs => ',' :: v.compactChars ++ vs.compactChars

/-- Further members, each after a comma, and the closing brace. -/
def Members.compactChars : Members → List Char
  | .nil => ['}']
  | .cons k v ms => ',' :: quote k ++ ':' :: v.compactChars ++ ms.compactChars

end

/-- The text of a value, without spaces. -/
def Value.compact (v : Value) : String :=
  String.ofList v.compactChars

/-! ## Indented layout -/

/-- The start of a line at a level. -/
def newLine (level : Nat) : List Char :=
  '\n' :: List.replicate (2 * level) ' '

mutual

/-- A value in the indented layout, at a level. -/
def Value.prettyChars (level : Nat) : Value → List Char
  | .null => ['n', 'u', 'l', 'l']
  | .bool true => ['t', 'r', 'u', 'e']
  | .bool false => ['f', 'a', 'l', 's', 'e']
  | .int n => integer n
  | .string s => quote s
  | .array .nil => ['[', ']']
  | .array (.cons v vs) =>
    '[' :: newLine (level + 1) ++ v.prettyChars (level + 1) ++ vs.prettyChars level
  | .object .nil => ['{', '}']
  | .object (.cons k v ms) =>
    '{' :: newLine (level + 1) ++ quote k ++ ':' :: ' ' :: v.prettyChars (level + 1) ++
      ms.prettyChars level

/-- Further items on lines of their own, and the closing bracket on one. -/
def Values.prettyChars (level : Nat) : Values → List Char
  | .nil => newLine level ++ [']']
  | .cons v vs =>
    ',' :: newLine (level + 1) ++ v.prettyChars (level + 1) ++ vs.prettyChars level

/-- Further members on lines of their own, and the closing brace on one. -/
def Members.prettyChars (level : Nat) : Members → List Char
  | .nil => newLine level ++ ['}']
  | .cons k v ms =>
    ',' :: newLine (level + 1) ++ quote k ++ ':' :: ' ' :: v.prettyChars (level + 1) ++
      ms.prettyChars level

end

/-- The text of a value, indented by two spaces per level. -/
def Value.pretty (v : Value) : String :=
  String.ofList (v.prettyChars 0)

end EntityFinder.Json
