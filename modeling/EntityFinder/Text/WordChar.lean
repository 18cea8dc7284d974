import EntityFinder.Text.Category

set_option autoImplicit false

/-!
# The characters of words

Words are made up of letters, numbers and private characters. What lies between them are marks,
punctuation, symbols, blanks and controls. A character without a category belongs to words.

## Main definitions

* `EntityFinder.Text.wordCategories`: the categories of the characters of words.
* `EntityFinder.Text.isWordChar`: the characters that words are made up of.
-/

namespace EntityFinder.Text

/-- The categories of the characters that words are made up of. -/
def wordCategories : List String :=
  ["Ll", "Lm", "Lo", "Lt", "Lu", "Nd", "Nl", "No", "Co"]

/-- The characters that words are made up of. -/
def isWordChar (c : Char) : Bool :=
  if c.toNat < 0x80 then c.isAlphanum else inCategories wordCategories c

end EntityFinder.Text
