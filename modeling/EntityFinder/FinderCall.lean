import EntityFinder.Error

set_option autoImplicit false

/-!
# Finder calls by name

A finder may be called by a name such as `findOneByTitle`: one of two openings, then the property
as the caller spells it.

## Main definitions

* `EntityFinder.FinderKind`: whether one entity is wanted or all of them.
* `EntityFinder.FinderCall.parse`: the call that a method name stands for.
-/

namespace EntityFinder

/-- How many entities a finder call asks for. -/
inductive FinderKind where
  /-- At most one. -/
  | one
  /-- All that match. -/
  | many
  deriving DecidableEq, Repr

/-- How the method names of a kind begin. -/
def FinderKind.opening : FinderKind → String
  | one => "findOneBy"
  | many => "findBy"

/-- A finder call. -/
structure FinderCall where
  /-- How many entities it asks for. -/
  kind : FinderKind
  /-- The property as written in the method name. -/
  token : String
  deriving DecidableEq, Repr

namespace FinderCall

/-- What follows `start` in a list of characters that begins with it. -/
def dropStart? : List Char → List Char → Option (List Char)
  | [], cs => some cs
  | _ :: _, [] => none
  | s :: start, c :: cs => if s = c then dropStart? start cs else none

/-- The reading of a method name as a call of one kind; the property may not be empty. -/
def parseAs? (kind : FinderKind) (method : String) : Option FinderCall :=
  match dropStart? kind.opening.toList method.toList with
  | some (c :: cs) => some ⟨kind, String.ofList (c :: cs)⟩
  | _ => none

/-- The method name of a call. -/
def methodName (call : FinderCall) : String :=
  call.kind.opening ++ call.token

/-- The call that a method name stands for. -/
def parse (method : String) : Except FinderError FinderCall :=
  match parseAs? .one method <|> parseAs? .many method with
  | some call => .ok call
  | none => .error (.invalidDispatch method)

end FinderCall

end EntityFinder
