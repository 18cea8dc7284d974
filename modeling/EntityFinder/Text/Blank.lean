set_option autoImplicit false

/-!
# Blank characters

White space in the sense of Unicode's `White_Space` property: the six controls U+0009 to U+000D
and U+0085, the plain and the no-break space, and the spaces and separators of the general
punctuation blocks. The information separators U+001C to U+001F, the zero width space and the
byte order mark are *not* blank.

## Main definitions

* `EntityFinder.Text.isBlank`: the property itself.
* `EntityFinder.Text.trim`, `EntityFinder.Text.trimEnd`: a text without the blanks around it, or
  without those at its end.
-/

namespace EntityFinder.Text

/-- The characters with the property `White_Space`. -/
def isBlank (c : Char) : Bool :=
  let n := c.toNat
  (0x9 ≤ n && n ≤ 0xD) || n == 0x20 || n == 0x85 || n == 0xA0 || n == 0x1680 ||
    (0x2000 ≤ n && n ≤ 0x200A) || n == 0x2028 || n == 0x2029 || n == 0x202F || n == 0x205F ||
    n == 0x3000

/-- Every character that core calls white space is blank. -/
theorem isBlank_of_isWhitespace {c : Char} (h : c.isWhitespace = true) : isBlank c = true := by
  simp only [Char.isWhitespace, Bool.or_eq_true, decide_eq_true_eq] at h
  rcases h with ((h | h) | h) | h <;> subst h <;> decide

/-- Drops the blanks at the end of a list of characters. -/
def trimRight (cs : List Char) : List Char :=
  (cs.reverse.dropWhile isBlank).reverse

/-- Drops the blanks at both ends of a list of characters. -/
def trimChars (cs : List Char) : List Char :=
  trimRight (cs.dropWhile isBlank)

/-- A text without the blanks around it. -/
def trim (s : String) : String :=
  String.ofList (trimChars s.toList)

/-- A text without the blanks that end it. -/
def trimEnd (s : String) : String :=
  String.ofList (trimRight s.toList)

/-- Whether a text consists of blanks alone, the empty text included. -/
def isAllBlank (s : String) : Bool :=
  s.toList.all isBlank

end EntityFinder.Text
