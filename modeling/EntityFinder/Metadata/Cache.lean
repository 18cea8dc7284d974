import EntityFinder.Action
import EntityFinder.Metadata.Basic

set_option autoImplicit false

/-!
# Remembered metadata

Declarations are asked for once per entity type. The first answer that can be used is kept, so
later changes of the source do not reach a type that has been resolved; failures are not kept.

## Main definitions

* `EntityFinder.MetadataSource`: where declarations come from.
* `EntityFinder.MetadataSource.counted`: the same source, counting how often it is asked.
* `EntityFinder.MetadataCache`: the metadata resolved so far.
* `EntityFinder.MetadataCache.resolve`: the metadata of a type, from memory or from the source.
-/

namespace EntityFinder

/-- A source of declarations whose answers may depend on a state of type `σ`. -/
structure MetadataSource (σ : Type) where
  /-- The declarations of an entity type, or why there are none. -/
  introspect : EntityType → Action σ (List PropertyDeclaration)

/-- A source that also counts the questions it gets. -/
def MetadataSource.counted {σ : Type} (source : MetadataSource σ) : MetadataSource (σ × Nat) where
  introspect type := do
    modify fun (s, n) => (s, n + 1)
    (source.introspect type).onFirst

/-- Metadata by entity type, in the order in which it was resolved. -/
structure MetadataCache where
  /-- The metadata kept; no two are of the same type. -/
  entries : List EntityMetadata
  deriving DecidableEq, Repr

namespace MetadataCache

variable {σ : Type}

/-- Nothing resolved yet. -/
def empty : MetadataCache := ⟨[]⟩

/-- The metadata kept for a type. -/
def find? (cache : MetadataCache) (type : EntityType) : Option EntityMetadata :=
  cache.entries.find? fun m => m.entityType == type

/-- Whether metadata is kept for a type. -/
def isCached (cache : MetadataCache) (type : EntityType) : Bool :=
  (cache.find? type).isSome

/-- How many types have been resolved. -/
def size (cache : MetadataCache) : Nat :=
  cache.entries.length

/-- Keeps the metadata of a type that has none. -/
def keep (cache : MetadataCache) (m : EntityMetadata) : MetadataCache :=
  ⟨cache.entries ++ [m]⟩

/-- The metadata that a list of declarations gives; an empty list gives none. -/
def build (type : EntityType) (declarations : List PropertyDeclaration) :
    Except FinderError EntityMetadata :=
  if declarations.isEmpty then
    .error (.metadata type.name "introspection yielded no properties")
  else .ok (.ofDeclarations type declarations)

/-- The metadata of a type. What has been resolved before is not asked for again. -/
def resolve (source : MetadataSource σ) (type : EntityType) :
    Action (MetadataCache × σ) EntityMetadata := do
  let (cache, _) ← get
  match cache.find? type with
  | some m => return m
  | none =>
    let declarations ← (source.introspect type).onSecond
    let m ← Action.ofExcept (build type declarations)
    modify fun (cache, s) => (cache.keep m, s)
    return m

end MetadataCache

end EntityFinder
