set_option autoImplicit false

/-!
# Identifiers

Names that may stand unquoted in a statement: an ASCII letter or underscore, then ASCII letters,
digits and underscores.

## Main definitions

* `EntityFinder.Text.isIdentifier`: the names of that form.
* `EntityFinder.Text.lowerAscii`: a text with its ASCII capitals in lower case; two names are the
  same column or table exactly when these agree.
-/

namespace EntityFinder.Text

/-- The characters that may begin an identifier. -/
def isIdentifierStart (c : Char) : Bool :=
  c.isAlpha || c == '_'

/-- The characters that may continue an identifier. -/
def isIdentifierPart (c : Char) : Bool :=
  c.isAlphanum || c == '_'

/-- Identifiers as lists of characters. -/
def isIdentifierChars : List Char → Bool
  | [] => false
  | c :: cs => isIdentifierStart c && cs.all isIdentifierPart

/-- A name that may stand unquoted in a statement. -/
def isIdentifier (s : String) : Bool :=
  isIdentifierChars s.toList

/-- A text with its ASCII capitals in lower case. -/
def lowerAscii (s : String) : String :=
  String.ofList (s.toList.map Char.toLower)

/-- Equality of names without regard to ASCII case. -/
def sameName (a b : String) : Bool :=
  lowerAscii a == lowerAscii b

end EntityFinder.Text
