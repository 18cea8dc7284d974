import EntityFinder.FullText.Fault

set_option autoImplicit false

/-!
# The words and signs of a query

A query text consists of signs, of words in quotes, where anything may stand between the quotes,
and of bare words. Three bare words are operators. A fault ends the list of lexemes: what comes
before it is still read, and may be refused for a reason of its own.

## Main definitions

* `EntityFinder.FullText.Word`: a word, bare or in quotes, and how it is written.
* `EntityFinder.FullText.Lexeme`: words, signs and operators, and the fault that ends them.
* `EntityFinder.FullText.lex`: the lexemes of a text, one character at a time.
-/

namespace EntityFinder.FullText

/-! ## Words -/

/-- A word of a query. -/
structure Word where
  /-- The text that is meant. -/
  text : List Char
  /-- Whether it stands in quotes. -/
  quoted : Bool
  deriving DecidableEq, Repr

/-- A character inside quotes: a quote is written twice. -/
def doubled (c : Char) : List Char :=
  if c = '"' then ['"', '"'] else [c]

/-- A word as it is written. -/
def Word.written (w : Word) : List Char :=
  if w.quoted then '"' :: w.text.flatMap doubled ++ ['"'] else w.text

/-- The characters that make up bare words. -/
def isBare (c : Char) : Bool :=
  c.isAlphanum || c == '_' || c == '\x1a' || 0x80 ≤ c.toNat

/-- The characters that separate lexemes and mean nothing else. -/
def isGap (c : Char) : Bool :=
  c == ' ' || c == '\t' || c == '\n' || c == '\r'

/-! ## Signs and operators -/

/-- A sign or operator. -/
inductive Sign where
  /-- An opening parenthesis. -/
  | opening
  /-- A closing parenthesis. -/
  | closing
  /-- An opening brace. -/
  | openingBrace
  /-- A closing brace. -/
  | closingBrace
  /-- A colon. -/
  | colon
  /-- A comma. -/
  | comma
  /-- A plus sign. -/
  | plus
  /-- An asterisk. -/
  | star
  /-- A minus sign. -/
  | minus
  /-- A caret. -/
  | caret
  /-- The operator `AND`. -/
  | and
  /-- The operator `OR`. -/
  | or
  /-- The operator `NOT`. -/
  | not
  deriving DecidableEq, Repr

namespace Sign

/-- How a sign or operator is written. -/
def written : Sign → List Char
  | opening => ['(']
  | closing => [')']
  | openingBrace => ['\x7b']
  | closingBrace => ['\x7d']
  | colon => [':']
  | comma => [',']
  | plus => ['+']
  | star => ['*']
  | minus => ['-']
  | caret => ['^']
  | and => ['A', 'N', 'D']
  | or => ['O', 'R']
  | not => ['N', 'O', 'T']

/-- The signs that are a single character of their own. -/
def ofChar? (c : Char) : Option Sign :=
  [opening, closing, openingBrace, closingBrace, colon, comma, plus, star, minus, caret].find?
    fun s => s.written == [c]

/-- The bare words that are operators, in capitals only. -/
def ofBareWord? (w : List Char) : Option Sign :=
  [and, or, not].find? fun s => s.written == w

end Sign

/-! ## Lexemes -/

/-- A unit of a query text. -/
inductive Lexeme where
  /-- A word that is no operator. -/
  | word (w : Word)
  /-- A sign or operator. -/
  | sign (s : Sign)
  /-- A place that cannot be read; nothing follows it. -/
  | bad (f : QueryFault)
  deriving DecidableEq, Repr

/-- How a lexeme is written. -/
def Lexeme.written : Lexeme → List Char
  | word w => w.written
  | sign s => s.written
  | bad _ => []

/-- The lexeme that a run of bare characters is. -/
def Lexeme.ofBareWord (w : List Char) : Lexeme :=
  match Sign.ofBareWord? w with
  | some s => sign s
  | none => word ⟨w, false⟩

/-- Where in a text a reader stands. -/
inductive Place where
  /-- Between two lexemes. -/
  | between
  /-- In a bare word, behind the given characters. -/
  | inWord (read : List Char)
  /-- Between quotes, behind the given characters. -/
  | inQuotes (read : List Char)
  /-- Behind a quote that closes the word unless another quote follows. -/
  | behindQuote (read : List Char)
  deriving DecidableEq, Repr

namespace Place

/-- What is read, when a reader between two lexemes meets a character: the lexeme that it is, if
it is one, and the place behind it. A fault leaves no place to go on. -/
def meet (c : Char) : Except QueryFault (Option Lexeme × Place) :=
  if isGap c then .ok (none, between)
  else if c = '"' then .ok (none, inQuotes [])
  else if isBare c then .ok (none, inWord [c])
  else match Sign.ofChar? c with
    | some s => .ok (some (.sign s), between)
    | none => .error (.unexpected (String.singleton c))

/-- The lexeme that ends before the character `c`, if one does, and whether `c` is still to be
met by a reader between two lexemes. -/
def leave : Place → Char → Option Lexeme × Option Place
  | between, _ => (none, none)
  | inWord read, c => if isBare c then (none, some (inWord (read ++ [c])))
      else (some (.ofBareWord read), none)
  | inQuotes read, c => if c = '"' then (none, some (behindQuote read))
      else (none, some (inQuotes (read ++ [c])))
  | behindQuote read, c => if c = '"' then (none, some (inQuotes (read ++ ['"'])))
      else (some (.word ⟨read, true⟩), none)

/-- The lexemes that the end of the text completes. -/
def finish : Place → List Lexeme
  | between => []
  | inWord read => [.ofBareWord read]
  | inQuotes _ => [.bad .unterminated]
  | behindQuote read => [.word ⟨read, true⟩]

end Place

/-- The lexemes of a text, read from a place on. -/
def lexFrom : Place → List Char → List Lexeme
  | place, [] => place.finish
  | place, c :: cs =>
    match place.leave c with
    | (_, some inside) => lexFrom inside cs
    | (complete, none) => complete.toList ++
      match Place.meet c with
      | .ok (single, next) => single.toList ++ lexFrom next cs
      | .error f => [.bad f]

/-- The lexemes of a text. -/
def lex (text : List Char) : List Lexeme :=
  lexFrom .between text

end EntityFinder.FullText
