import EntityFinder.Json.Decoder

set_option autoImplicit false

/-!
# Numbers on the command line

Nodes are named by their numbers: an optional sign and decimal digits, in the range of 64 bits.

## Main definitions

* `EntityFinder.CommandLine.NumberFault`: why a word is no number of a node.
* `EntityFinder.CommandLine.readNumber`: the number that a word stands for.
-/

namespace EntityFinder.CommandLine

/-- Why a word is no number. -/
inductive NumberFault where
  /-- There is nothing to read. -/
  | empty
  /-- A character that is no digit. -/
  | invalidDigit
  /-- The number is above the range. -/
  | tooLarge
  /-- The number is below the range. -/
  | tooSmall
  deriving DecidableEq, Repr

/-- The wording of a fault. -/
def NumberFault.message : NumberFault → String
  | empty => "cannot parse integer from empty string"
  | invalidDigit => "invalid digit found in string"
  | tooLarge => "number too large to fit in target type"
  | tooSmall => "number too small to fit in target type"

/-- The magnitude that digits stand for after `value`, which may not exceed `limit`. The first
character that is no digit, or that exceeds the limit, is the fault. -/
def readDigits (limit : Nat) (excess : NumberFault) (value : Nat) :
    List Char → Except NumberFault Nat
  | [] => .ok value
  | c :: cs =>
    if c.isDigit then
      let next := value * 10 + (c.toNat - 48)
      if next ≤ limit then readDigits limit excess next cs else .error excess
    else .error .invalidDigit

/-- The number that a word stands for. -/
def readNumber (word : String) : Except NumberFault Int :=
  match word.toList with
  | [] => .error .empty
  | ['+'] | ['-'] => .error .invalidDigit
  | '-' :: digits => (readDigits Json.minId.natAbs .tooSmall 0 digits).map fun n => -(n : Int)
  | '+' :: digits => (readDigits Json.maxId.natAbs .tooLarge 0 digits).map fun n => (n : Int)
  | digits => (readDigits Json.maxId.natAbs .tooLarge 0 digits).map fun n => (n : Int)

end EntityFinder.CommandLine
