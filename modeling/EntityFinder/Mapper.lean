import EntityFinder.Metadata.Cache
import EntityFinder.NodeStore.NodeIndex
import EntityFinder.Repository.Basic

set_option autoImplicit false

/-!
# From entity types to repositories

A mapper makes the repository of an entity type out of its metadata, its index and a loader.

## Main definitions

* `EntityFinder.Mapper`: what repositories are made of.
* `EntityFinder.Mapper.repository`: the repository of an entity type for objects of a kind.
-/

namespace EntityFinder

/-- What repositories are made of. -/
structure Mapper (σ : Type) where
  /-- Where metadata comes from. -/
  source : MetadataSource σ
  /-- What turns records into objects. -/
  loader : EntityLoader NodeStore
  /-- How property names are compared. -/
  singularizer : Singularizer

namespace Mapper

variable {σ : Type}

/-- The metadata of an entity type. -/
def resolve (mapper : Mapper σ) (type : EntityType) :
    Action ((MetadataCache × σ) × NodeStore) EntityMetadata :=
  (MetadataCache.resolve mapper.source type).onFirst

/-- The repository of an entity type for objects of the kind `wanted`. -/
def repository (mapper : Mapper σ) (type : EntityType) (wanted : ObjectKind) :
    Action ((MetadataCache × σ) × NodeStore) (Repository NodeStore) := do
  let m ← mapper.resolve type
  let index ← (NodeStore.index m).onSecond
  Action.ofExcept
    (Repository.bind m index.searchIndex mapper.loader mapper.singularizer wanted)

end Mapper

end EntityFinder
