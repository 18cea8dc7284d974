import EntityFinder.Error
import EntityFinder.Metadata.Basic
import EntityFinder.Text.Blank
import EntityFinder.Text.LetterCase

set_option autoImplicit false

/-!
# From a finder's token to a property

The property in a method name such as `findByTitles` is capitalised and may be a plural. Token and
property names are brought to a common form before they are compared.

## Main definitions

* `EntityFinder.Singularizer`: a map of names to the form that is compared.
* `EntityFinder.Singularizer.suffix`: first character in lower case, one final `s` taken off.
* `EntityFinder.Singularizer.resolve`: the indexed property that a token means.
-/

namespace EntityFinder

/-- Brings names and tokens to the form in which they are compared. -/
structure Singularizer where
  /-- The form that is compared. -/
  singular : String → String

namespace Singularizer

/-- Takes one `s` off the end. -/
def dropFinalS (cs : List Char) : List Char :=
  if cs.getLast? = some 's' then cs.dropLast else cs

/-- The usual form: the first character in lower case, and one `s` taken off the end. Irregular
plurals stay as they are. -/
def suffix : Singularizer where
  singular name := String.ofList (dropFinalS (Text.lowerFirstChars name.toList))

/-- The first of `properties` that has the form `wanted`. -/
def firstOfForm? (s : Singularizer) (wanted : String) (properties : List PropertyDeclaration) :
    Option PropertyDeclaration :=
  properties.find? fun p => s.singular p.name == wanted

/-- The name of the first indexed property whose form is that of the token. A token whose form is
empty means no property. -/
def resolve (s : Singularizer) (m : EntityMetadata) (token : String) :
    Except FinderError String :=
  let wanted := s.singular (Text.trim token)
  if wanted = "" then .error (.unindexedProperty m.entityName token false)
  else match s.firstOfForm? wanted m.indexedProperties with
    | some p => .ok p.name
    | none =>
      .error (.unindexedProperty m.entityName wanted (s.firstOfForm? wanted m.properties).isSome)

end Singularizer

end EntityFinder
