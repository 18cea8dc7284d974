import EntityFinder.Metadata.Cache

set_option autoImplicit false

/-!
# Declarations registered by the program

The simplest source of metadata: a table of declarations by entity type. Registering a type again
replaces its declarations.

## Main definitions

* `EntityFinder.Registry`: the table.
* `EntityFinder.Registry.register`: adds or replaces the declarations of a type.
* `EntityFinder.Registry.source`: the table as a source of metadata.
-/

namespace EntityFinder

/-- Declarations by entity type. -/
structure Registry where
  /-- The registered types, each once. -/
  entries : List (EntityType × List PropertyDeclaration)
  deriving DecidableEq, Repr

namespace Registry

/-- No type is registered. -/
def empty : Registry := ⟨[]⟩

/-- Registers the declarations of a type in place of earlier ones. -/
def register (r : Registry) (type : EntityType) (declarations : List PropertyDeclaration) :
    Registry :=
  ⟨r.entries.filter (·.1 != type) ++ [(type, declarations)]⟩

/-- The declarations of a type. -/
def declarations (r : Registry) (type : EntityType) :
    Except FinderError (List PropertyDeclaration) :=
  match r.entries.lookup type with
  | some declarations => .ok declarations
  | none => .error (.metadata type.name "entity type is not registered")

/-- A registry as a source of metadata. -/
def source : MetadataSource Registry where
  introspect type := Action.query fun r => r.declarations type

end Registry

end EntityFinder
