import EntityFinder.FullText.Stem
import EntityFinder.Text.CaseFold
import EntityFinder.Text.Identifier
import EntityFinder.Text.WordChar

set_option autoImplicit false

/-!
# Tokens

A full-text table does not compare texts but their tokens: maximal runs of certain characters, or
any three characters that follow each other, each brought to a common form. Stored texts and the
words of a query go through the same tokenizer.

## Main definitions

* `EntityFinder.FullText.RunRule`: which characters make up a run, and what becomes of them.
* `EntityFinder.FullText.Tokenizer`: the rules that cut texts into tokens.
* `EntityFinder.FullText.Tokenizer.tokens`: the tokens of a text, in order.
* `EntityFinder.FullText.Tokenizer.unicode`, `EntityFinder.FullText.Tokenizer.ascii`: tokens that
  are words.
-/

namespace EntityFinder.FullText

/-- The bytes of a token. -/
abbrev Token := List UInt8

/-- The bytes of characters in a common form. -/
def Token.ofForms (forms : List (Option Char)) : Token :=
  forms.flatMap fun
    | none => []
    | some c => String.utf8EncodeChar c

/-- The bytes of a token that count. -/
def Token.longest : Nat := 32768

/-! ## Runs -/

/-- A rule that makes tokens of runs of characters. -/
structure RunRule where
  /-- The characters with which a token may begin. -/
  starts : Char → Bool
  /-- The characters that may continue a token. -/
  continues : Char → Bool
  /-- What a character contributes to its token, if it contributes anything. -/
  form : Char → Option Char

namespace RunRule

variable (r : RunRule)

/-- The runs of a text when `open?` is the part of a run that has been read, if one is open. -/
def runsFrom : Option (List (Option Char)) → List Char → List (List (Option Char))
  | none, [] => []
  | some run, [] => [run]
  | none, c :: cs =>
    if r.starts c then runsFrom (some [r.form c]) cs else runsFrom none cs
  | some run, c :: cs =>
    if r.continues c then runsFrom (some (run ++ [r.form c])) cs
    else run :: runsFrom none cs

/-- The tokens of a text. -/
def tokens (text : List Char) : List Token :=
  (r.runsFrom none text).map Token.ofForms

end RunRule

/-! ## Tokenizers -/

/-- A rule that cuts texts into tokens. -/
inductive Tokenizer where
  /-- Tokens are runs of characters. -/
  | runs (rule : RunRule)
  /-- Tokens are any three characters that follow each other, in the form that they have. -/
  | triples (form : Char → Option Char)
  /-- Tokens are the stems of other tokens. -/
  | stems (base : Tokenizer)

/-- The tokens of three characters each. -/
def tripleTokens : List Char → List Token
  | a :: b :: c :: rest =>
    Token.ofForms [some a, some b, some c] :: tripleTokens (b :: c :: rest)
  | _ => []

namespace Tokenizer

/-- The tokens of a text, whatever their length. -/
def allTokens : Tokenizer → List Char → List Token
  | runs rule, text => rule.tokens text
  | triples form, text => tripleTokens (text.filterMap form)
  | stems base, text => (base.allTokens text).map Stem.stem

/-- The tokens of a text. Only the beginning of a very long token counts. -/
def tokens (t : Tokenizer) (text : List Char) : List Token :=
  (t.allTokens text).map (·.take Token.longest)

/-! ## Forms -/

/-- What becomes of the diacritics of a letter. -/
inductive Diacritics where
  /-- They stay. -/
  | kept
  /-- A single one is taken off. -/
  | dropped
  /-- All of them are taken off. -/
  | droppedAll
  deriving DecidableEq, Repr

/-- A character as it is read: two noncharacters are replaced. -/
def readForm (c : Char) : Char :=
  if c = '\uFFFE' ∨ c = '\uFFFF' then '\uFFFD' else c

/-- The common form of a character: its case is folded, and its diacritics are treated as they
should be. A diacritic that is a character of its own has no form unless diacritics stay. -/
def foldedForm (diacritics : Diacritics) (c : Char) : Option Char :=
  let folded := Text.fold (readForm c)
  match diacritics with
  | .kept => some folded
  | .dropped => if Text.isDiacritic c then none else some (Text.baseLetter folded)
  | .droppedAll => if Text.isDiacritic c then none else some (Text.bareLetter folded)

/-! ## Kinds of tokenizers -/

/-- Tokens are runs of some characters in a common form; a diacritic belongs to the letter before
it. -/
def words (isWordChar : Char → Bool) (diacritics : Diacritics) : Tokenizer :=
  runs {
    starts := isWordChar
    continues := fun c => isWordChar c || Text.isDiacritic c
    form := foldedForm diacritics }

/-- Tokens are runs of the characters of words, in any script. -/
def unicode (diacritics : Diacritics) : Tokenizer :=
  words Text.isWordChar diacritics

/-- Whether a character beyond ASCII, or a letter or digit. -/
def isAsciiWordChar (c : Char) : Bool :=
  c.isAlphanum || 0x80 ≤ c.toNat

/-- Tokens are runs of some characters; only ASCII letters are folded. -/
def asciiWords (isWordChar : Char → Bool) : Tokenizer :=
  runs { starts := isWordChar, continues := isWordChar, form := fun c => some c.toLower }

/-- Tokens are runs of ASCII letters and digits and of all characters beyond ASCII. -/
def ascii : Tokenizer :=
  asciiWords isAsciiWordChar

/-- The usual tokenizer. -/
def standard : Tokenizer :=
  unicode .dropped

end Tokenizer

end EntityFinder.FullText
