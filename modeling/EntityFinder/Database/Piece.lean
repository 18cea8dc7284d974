import EntityFinder.Text.Identifier

set_option autoImplicit false

/-!
# The pieces of a statement

A statement is read piece by piece. A piece is a word, a name in quotes or a sign, and whatever is
none of these is stray. Blanks and comments separate pieces and mean nothing else.

## Main definitions

* `EntityFinder.Database.Piece`: a piece and how it is written.
* `EntityFinder.Database.behindGap`: a text without the blanks and comments in front.
* `EntityFinder.Database.Piece.pieces`: the pieces of a text.
-/

namespace EntityFinder.Database

/-! ## Classes of characters -/

/-- The characters that continue unquoted names. -/
def isNamePart (c : Char) : Bool :=
  Text.isIdentifierPart c || c == '$' || 0x80 ≤ c.toNat

/-- The characters that begin unquoted names. -/
def isNameStart (c : Char) : Bool :=
  Text.isIdentifierStart c || 0x80 ≤ c.toNat

/-- The characters that begin a gap between two pieces. -/
def isBlank (c : Char) : Bool :=
  c == ' ' || c == '\t' || c == '\n' || c == '\r' || c == '\x0c'

/-- The digits of numbers, and the sign that groups them. -/
def isDigitOrGroup (c : Char) : Bool :=
  c.isDigit || c == '_'

/-- The digits of numbers in base sixteen. -/
def isHexDigit (c : Char) : Bool :=
  c.isDigit || ('a' ≤ c && c ≤ 'f') || ('A' ≤ c && c ≤ 'F')

/-! ## Gaps -/

/-- Where a reader stands that looks for the next piece. -/
inductive Gap where
  /-- Between two pieces; behind a blank also a vertical tab is a blank. -/
  | between (behindBlank : Bool)
  /-- In a comment that ends with its line. -/
  | inLine
  /-- In a comment that ends with a sign of its own. -/
  | inBlock
  deriving DecidableEq, Repr

/-- What follows a gap. A comment that does not end reaches to the end of the text. -/
def behindGap : Gap → List Char → List Char
  | _, [] => []
  | .between _, '-' :: '-' :: cs => behindGap .inLine cs
  | .between _, '/' :: '*' :: c :: cs => behindGap .inBlock (c :: cs)
  | .between behindBlank, c :: cs =>
    if isBlank c || (behindBlank && c == '\x0b') then behindGap (.between true) cs
    else if c = '\ufeff' then behindGap (.between false) cs
    else c :: cs
  | .inLine, c :: cs => behindGap (if c = '\n' then .between true else .inLine) cs
  | .inBlock, '*' :: '/' :: cs => behindGap (.between false) cs
  | .inBlock, _ :: cs => behindGap .inBlock cs

/-! ## Pieces -/

/-- A piece of a statement. -/
inductive Piece where
  /-- An unquoted word. -/
  | word (text : List Char)
  /-- A name in quotes, and the name with its quotes. -/
  | quoted (name text : List Char)
  /-- A number or another sign. -/
  | sign (text : List Char)
  /-- Something that is no piece. -/
  | stray (text : List Char)
  deriving DecidableEq, Repr

namespace Piece

/-- How a piece is written. -/
def written : Piece → List Char
  | word text | quoted _ text | sign text | stray text => text

/-- The signs that are not numbers or variables, the longer ones before those that they begin
with. -/
def signs : List String :=
  ["->>", "->", "||", "==", "<=", "<>", "<<", ">=", ">>", "!=", "-", "(", ")", ";", "+", "*", "/",
   "%", "=", "<", ">", "|", ",", "&", "~", "."]

/-- What stands before a quote, which is written twice inside, and what follows that quote. -/
def untilQuote (quote : Char) : List Char → Option (List Char × List Char)
  | [] => none
  | c :: cs =>
    if c = quote then
      match cs with
      | [] => some ([], [])
      | d :: ds =>
        if d = quote then (untilQuote quote ds).map fun (name, rest) => (quote :: name, rest)
        else some ([], d :: ds)
    else (untilQuote quote cs).map fun (name, rest) => (c :: name, rest)

/-- The name in quotes at the front of a text. Without a closing quote all of the text is stray. -/
def ofQuote (quote : Char) (text : List Char) : Piece :=
  match untilQuote quote (text.drop 1) with
  | some (name, rest) => quoted name (text.take (text.length - rest.length))
  | none => stray text

/-- The name in brackets at the front of a text. -/
def ofBracket (text : List Char) : Piece :=
  let name := (text.drop 1).takeWhile (· != ']')
  if name.length + 1 < text.length then quoted name (text.take (name.length + 2)) else stray text

/-- The digits of bytes in quotes at the front of a text; there have to be two for each byte. -/
def ofBytes (text : List Char) : Piece :=
  let inside := text.drop 2
  let digits := inside.takeWhile isHexDigit
  if digits.length % 2 = 0 && inside[digits.length]? == some '\'' then
    sign (text.take (digits.length + 3))
  else stray (text.take ((inside.takeWhile (· != '\'')).length + 3))

/-- The length of the fraction at the front of a text. -/
def fractionLength : List Char → Nat
  | '.' :: cs => 1 + (cs.takeWhile isDigitOrGroup).length
  | _ => 0

/-- The length of the exponent at the front of a text. -/
def exponentLength : List Char → Nat
  | e :: c :: cs =>
    if e = 'e' ∨ e = 'E' then
      if c.isDigit then 2 + (cs.takeWhile isDigitOrGroup).length
      else if (c = '+' ∨ c = '-') ∧ cs.head?.any Char.isDigit then
        2 + (cs.takeWhile isDigitOrGroup).length
      else 0
    else 0
  | _ => 0

/-- The length of the number at the front of a text. -/
def numberLength (text : List Char) : Nat :=
  match text with
  | '0' :: 'x' :: c :: cs | '0' :: 'X' :: c :: cs =>
    if isHexDigit c then 3 + (cs.takeWhile fun d => isHexDigit d || d == '_').length else 1
  | _ =>
    let whole := (text.takeWhile isDigitOrGroup).length
    let fraction := fractionLength (text.drop whole)
    whole + fraction + exponentLength (text.drop (whole + fraction))

/-- The number at the front of a text. A number that runs into a name is stray with it. -/
def ofNumber (text : List Char) : Piece :=
  let length := numberLength text
  let tail := (text.drop length).takeWhile isNamePart
  if tail.isEmpty then sign (text.take length) else stray (text.take (length + tail.length))

/-- The end of a variable behind its sign: how long it is, and whether it names anything. Colons in
pairs may stand in the name, and a text in parentheses at its end. -/
def variableEnd : Bool → List Char → Nat × Bool
  | isNamed, [] => (0, isNamed)
  | isNamed, ':' :: ':' :: cs =>
    let (length, isWhole) := variableEnd isNamed cs
    (length + 2, isWhole)
  | isNamed, c :: cs =>
    if isNamePart c then
      let (length, isWhole) := variableEnd true cs
      (length + 1, isWhole)
    else if c = '(' ∧ isNamed then
      let inside := cs.takeWhile fun d => !isBlank d && d != '\x0b' && d != ')'
      if cs[inside.length]? == some ')' then (inside.length + 2, true)
      else (inside.length + 1, false)
    else (0, isNamed)

/-- The variable at the front of a text: a sign and a name. -/
def ofVariable (text : List Char) : Piece :=
  let (length, isWhole) := variableEnd false (text.drop 1)
  if isWhole then sign (text.take (length + 1)) else stray (text.take (length + 1))

/-- The sign at the front of a text, if there is one. -/
def ofSign (text : List Char) : Piece :=
  match signs.find? fun s => s.toList.isPrefixOf text with
  | some s => sign s.toList
  | none => stray (text.take 1)

/-- The piece at the front of a text that does not begin with a gap. -/
def first (text : List Char) : Piece :=
  match text with
  | 'x' :: '\'' :: _ | 'X' :: '\'' :: _ => ofBytes text
  | '.' :: c :: _ => if c.isDigit then ofNumber text else sign ['.']
  | '?' :: cs => sign ('?' :: cs.takeWhile Char.isDigit)
  | '[' :: _ => ofBracket text
  | c :: _ =>
    if isNameStart c then word (text.takeWhile isNamePart)
    else if c.isDigit then ofNumber text
    else if c = '\'' ∨ c = '"' ∨ c = '`' then ofQuote c text
    else if c = '$' ∨ c = '@' ∨ c = '#' ∨ c = ':' then ofVariable text
    else ofSign text
  | [] => stray []

/-- The pieces of a text that is not longer than a limit. -/
def piecesWithin : Nat → Bool → List Char → List Piece
  | 0, _, _ => []
  | limit + 1, behindBlank, text =>
    match behindGap (.between behindBlank) text with
    | [] => []
    | c :: cs =>
      let piece := first (c :: cs)
      piece :: piecesWithin limit false ((c :: cs).drop piece.written.length)

/-- The pieces of a text that stands behind a blank. It ends at a null character. -/
def pieces (text : String) : List Piece :=
  let visible := text.toList.takeWhile (· != '\x00')
  piecesWithin visible.length true visible

end Piece

end EntityFinder.Database
