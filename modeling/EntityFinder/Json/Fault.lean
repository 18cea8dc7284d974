set_option autoImplicit false

/-!
# Why a JSON text is refused

A text may end too early, break the grammar, or hold another value than the one asked for. Of
several faults the one that comes first in the text counts.

## Main definitions

* `EntityFinder.Json.Fault`: the three classes.
* `EntityFinder.Json.Fault.category`: their names in messages.
-/

namespace EntityFinder.Json

/-- The class of the first fault of a text. -/
inductive Fault where
  /-- The text ends where more is needed. -/
  | truncated
  /-- The text is not JSON, or does not end where its value does. -/
  | malformed
  /-- The text is JSON so far and holds a value of the wrong shape. -/
  | mismatch
  deriving DecidableEq, Repr

/-- The name of a class in messages. -/
def Fault.category : Fault → String
  | truncated => "eof"
  | malformed => "syntax"
  | mismatch => "data"

end EntityFinder.Json
