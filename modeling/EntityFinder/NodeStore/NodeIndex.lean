import EntityFinder.Criteria.Query
import EntityFinder.NodeStore.Basic
import EntityFinder.Repository.SearchIndex

set_option autoImplicit false

/-!
# The index of an entity

An index answers queries over the nodes of one entity. The query that lists every node is answered
from the nodes themselves; all others go to the full-text table.

## Main definitions

* `EntityFinder.NodeIndex`: the index of an entity.
* `EntityFinder.NodeStore.index`: the index that metadata asks for, its table being set up.
* `EntityFinder.NodeIndex.query`: the records that satisfy a query.
* `EntityFinder.NodeIndex.findOne`: the first record with exactly a text in a property.
* `EntityFinder.NodeIndex.searchIndex`: the index as repositories use it.
* `EntityFinder.nodeLoader`: the loader whose objects are general nodes.
-/

namespace EntityFinder

/-- The index of an entity. -/
structure NodeIndex where
  /-- The entity. -/
  entity : String
  /-- Its full-text table; an entity without searchable properties has none. -/
  table? : Option String
  deriving DecidableEq, Repr

/-- The index of an entity. Its table is set up first. -/
def NodeStore.index (m : EntityMetadata) : Action NodeStore NodeIndex := do
  prepare m
  let p ← plan m
  return ⟨m.entityName, if p.hasColumns then some p.table else none⟩

namespace NodeIndex

variable (index : NodeIndex)

/-- Whether a query lists every node: blanks around it do not matter. -/
def isMatchAll (query : String) : Bool :=
  Text.trim query == Criteria.matchAllQuery

/-- The records that satisfy a query: all of the entity in the order of their numbers, or those
that the full-text table finds, best first. -/
def query (text : String) : Action NodeStore (List Record) :=
  NodeStore.ask fun d =>
    if isMatchAll text then .ok (d.recordsOf index.entity)
    else match index.table? with
      | none => .ok []
      | some table => d.matching table text

/-- A query answers from the database, or is refused by it, and leaves the store alone. -/
theorem perform_query (text : String) (s : NodeStore) :
    (index.query text).perform s =
      (((if isMatchAll text then .ok (s.database.recordsOf index.entity)
        else match index.table? with
          | none => .ok []
          | some table => s.database.matching table text :
          Except DatabaseFault (List Record)).mapError DatabaseFault.toError), s) :=
  rfl

/-- The query that lists every node is answered from the nodes, and never refused. -/
theorem perform_query_all {text : String} (hall : isMatchAll text = true) (s : NodeStore) :
    (index.query text).perform s = (.ok (s.database.recordsOf index.entity), s) := by
  rw [perform_query, if_pos hall]
  rfl

/-- The first record of the entity with exactly a text in a property. -/
def findOne (property value : String) : Action NodeStore (Option Record) := do
  Action.ofExcept (validateIdentifier "property" property)
  NodeStore.ask fun d => d.firstWith index.entity property value

/-- The index as repositories use it. -/
def searchIndex : SearchIndex NodeStore where
  query := index.query

end NodeIndex

/-- The loader that makes every record a general node. -/
def nodeLoader : EntityLoader NodeStore where
  load record := pure ⟨.node, .ofRecord record⟩
  findById id := do
    let record ← NodeStore.get id
    return record.map fun r => ⟨.node, .ofRecord r⟩

end EntityFinder
