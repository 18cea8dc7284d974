set_option autoImplicit false

/-!
# Paths

A path is a text of names with slashes between them. A path leads somewhere from the directory
that a program works in; what it leads to is a list of names without dots.

## Main definitions

* `EntityFinder.FilePath`: the names that lead to a file.
* `EntityFinder.FilePath.step`: goes one name further.
* `EntityFinder.parentText?`: the path of the directory that a path leads into.
* `EntityFinder.ancestors`: a path and those above it.
* `EntityFinder.extension?`: the extension of a file name.
-/

namespace EntityFinder

/-- The names between the slashes of a path. -/
def namesOf (path : String) : List String :=
  path.splitOn "/"

/-! ## Places -/

/-- The names that lead to a file. -/
abbrev FilePath := List String

namespace FilePath

/-- Whether a name stays where it is met. -/
def isStay (name : String) : Bool :=
  name == "" || name == "."

/-- The name that goes back. -/
def back : String := ".."

/-- Goes one name further: a dot stays, two dots go back. -/
def step (p : FilePath) (name : String) : FilePath :=
  if isStay name then p
  else if name = back then p.dropLast
  else p ++ [name]

/-- The place that a path stands for, whatever the names on the way are. -/
def ofText (path : String) : FilePath :=
  (namesOf path).foldl step []

/-- The names of a place with slashes between them. -/
def text (p : FilePath) : String :=
  "/".intercalate p

end FilePath

/-! ## Parts of a path -/

/-- A reversed path without the slashes and single dots at its end. -/
def dropTrailing : List Char → List Char
  | '/' :: rest => dropTrailing rest
  | '.' :: '/' :: rest => dropTrailing rest
  | rest => rest

/-- The path of the directory that a path leads into, if the path names one. -/
def parentText? (path : String) : Option String :=
  match (dropTrailing path.toList.reverse).dropWhile (· != '/') with
  | [] => none
  | rest => some (String.ofList (dropTrailing rest).reverse)

/-- A path and the paths above it, at most some number of them. -/
def ancestorsWithin : Nat → String → List String
  | 0, _ => []
  | limit + 1, path =>
    if path = "" then []
    else path ::
      match parentText? path with
      | none => []
      | some parent => ancestorsWithin limit parent

/-- A path and the paths above it, the innermost first. The empty path is not one of them. -/
def ancestors (path : String) : List String :=
  ancestorsWithin (path.length + 1) path

/-- What follows the last dot of a file name. A dot at the front begins no extension. -/
def extension? (name : String) : Option String :=
  match name.toList.reverse.span (· != '.') with
  | (_, []) | (_, ['.']) => none
  | (reversed, _) => some (String.ofList reversed.reverse)

end EntityFinder
