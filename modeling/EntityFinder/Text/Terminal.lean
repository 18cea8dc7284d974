set_option autoImplicit false

/-!
# Texts without terminal sequences

A text that is meant for a terminal may hold sequences that a terminal obeys instead of showing
them. They begin with the escape character. Some end with a letter, others with a control
character, and all of them end where the next one begins. What is left without them, and without
control characters other than blanks, is the plain text.

Blanks inside the shorter sequences are shown, and what follows such a blank is shown too, up to
the next control character. Then the sequence goes on.

## Main definitions

* `EntityFinder.Text.Terminal.Place`: where in a sequence a character stands.
* `EntityFinder.Text.Terminal.advance`: the place behind a character.
* `EntityFinder.Text.Terminal.isShown`: whether a character is shown at a place.
* `EntityFinder.Text.Terminal.plain`: the plain text.
-/

namespace EntityFinder.Text.Terminal

/-- Where in a sequence a character stands. -/
inductive Place where
  /-- Outside of all sequences. -/
  | outside
  /-- Behind the escape character. -/
  | escape
  /-- In a sequence that ends with a letter or digit. -/
  | designation
  /-- In a sequence of numbers that ends with a letter. -/
  | control
  /-- At the beginning of a string for a device. -/
  | deviceStart
  /-- In the numbers of a string for a device. -/
  | deviceNumbers
  /-- Between the numbers of a string for a device and the string. -/
  | deviceMarks
  /-- In a string that ends with a string terminator. -/
  | string
  /-- In a command that ends with a bell. -/
  | command
  deriving DecidableEq, Repr

/-- Whether a character lies between two others, both included. -/
def isBetween (low high : Nat) (c : Char) : Bool :=
  low ≤ c.toNat && c.toNat ≤ high

/-- The byte that ends strings. -/
def stringTerminator : UInt8 := 0x9C

/-- Whether the byte that ends strings is one of those of a character. -/
def endsString (c : Char) : Bool :=
  (String.utf8EncodeChar c).contains stringTerminator

/-- The place behind a character that follows the escape character. -/
def escaped (c : Char) : Place :=
  if isBetween 0x20 0x2F c then .designation
  else match c with
    | '[' => .control
    | ']' => .command
    | 'P' => .deviceStart
    | 'X' | '^' | '_' => .string
    | _ => if isBetween 0x30 0x7E c then .outside else .escape

/-- The place behind a character that is none of those that end every sequence. -/
def proceed (place : Place) (c : Char) : Place :=
  match place with
  | .outside => .outside
  | .escape => escaped c
  | .designation => if isBetween 0x30 0x7E c then .outside else .designation
  | .control => if isBetween 0x40 0x7E c then .outside else .control
  | .deviceStart =>
    if isBetween 0x20 0x2F c then .deviceMarks
    else if isBetween 0x30 0x3F c then .deviceNumbers
    else if isBetween 0x40 0x7E c then .string
    else .deviceStart
  | .deviceNumbers =>
    if isBetween 0x20 0x2F c then .deviceMarks
    else if isBetween 0x3C 0x7E c then .string
    else .deviceNumbers
  | .deviceMarks => if isBetween 0x30 0x7E c then .string else .deviceMarks
  | .string => if endsString c then .outside else .string
  | .command => if c = '\x07' then .outside else .command

/-- The place behind a character. Cancelling and substituting end every sequence, and the escape
character begins one. -/
def advance (place : Place) (c : Char) : Place :=
  if c = '\x18' ∨ c = '\x1a' then .outside
  else if c = '\x1b' then .escape
  else proceed place c

/-- The blanks among the control characters. -/
def isBlankControl (c : Char) : Bool :=
  c == '\t' || c == '\n' || c == '\x0c' || c == '\r'

/-- Whether blanks are shown at a place. -/
def showsBlanks : Place → Bool
  | .outside | .escape | .designation | .control => true
  | _ => false

/-- Whether a character is shown at a place. -/
def isShown (place : Place) (c : Char) : Bool :=
  if isBlankControl c then showsBlanks place
  else place == .outside && 0x20 ≤ c.toNat && c != '\x7f'

/-- The place behind a character that is shown. Only characters beyond ASCII end a sequence. -/
def showing (place : Place) (c : Char) : Place :=
  if c.toNat < 0x80 then place else .outside

/-- The plain text of characters that begin at a place. If the last character was shown, so is the
next one that would be outside of sequences. -/
def plainFrom : Place → Bool → List Char → List Char
  | _, _, [] => []
  | place, hasShown, c :: cs =>
    if isShown (if hasShown then .outside else place) c then
      c :: plainFrom (showing place c) true cs
    else plainFrom (advance place c) false cs

/-- A text without terminal sequences and control characters. -/
def plain (text : String) : String :=
  String.ofList (plainFrom .outside false text.toList)

/-! ## Emphasis -/

/-- A part of a text that a terminal shows with emphasis. -/
def emphasized (text : String) : String :=
  "\x1b[1m" ++ text ++ "\x1b[0m"

end EntityFinder.Text.Terminal
