import EntityFinder.Error
import EntityFinder.Metadata.Basic
import EntityFinder.Text.Blank

set_option autoImplicit false

/-!
# Schemas

A schema declares one entity, whose nodes are loaded as general objects.

## Main definitions

* `EntityFinder.EntitySchema`: an entity name and its declared properties.
* `EntityFinder.EntitySchema.validate`: names may not be blank, and no property is declared twice.
-/

namespace EntityFinder

/-- The declaration of one entity. -/
structure EntitySchema where
  /-- The entity name. -/
  name : String
  /-- The declared properties, in order. -/
  properties : List PropertyDeclaration
  deriving DecidableEq, Repr

namespace EntitySchema

/-- The type that the schema declares. -/
def entityType (s : EntitySchema) : EntityType :=
  ⟨.node, s.name⟩

/-- Refuses a property with a blank name, or one that is among the names `seen` before it. -/
def validateProperties (schema : String) (seen : List String) :
    List PropertyDeclaration → Except FinderError Unit
  | [] => .ok ()
  | p :: rest =>
    if Text.isAllBlank p.name then
      .error (.config ("Schema '" ++ schema ++ "' declares a property with empty name"))
    else if seen.contains p.name then
      .error (.config ("Schema '" ++ schema ++ "' declares property '" ++ p.name ++ "' twice"))
    else validateProperties schema (p.name :: seen) rest

/-- Refuses a schema that was read from `path` when it contradicts itself. -/
def validate (s : EntitySchema) (path : String) : Except FinderError Unit :=
  if Text.isAllBlank s.name then .error (.config ("Schema in " ++ path ++ " has empty name"))
  else validateProperties s.name [] s.properties

end EntitySchema

end EntityFinder
