import EntityFinder.Database.Select
import EntityFinder.Entity.Codec
import EntityFinder.NodeStore.IndexSetup

set_option autoImplicit false

/-!
# The node store

Stores nodes and keeps a full-text table for every entity with searchable properties. The table of
an entity is set up when the entity is first used after the store was opened.

## Main definitions

* `EntityFinder.NodeStore`: an open store.
* `EntityFinder.NodeStore.prepare`: sets up the table of an entity, once.
* `EntityFinder.NodeStore.insert`, `EntityFinder.NodeStore.update`, `EntityFinder.NodeStore.get`,
  `EntityFinder.NodeStore.delete`: the nodes.
* `EntityFinder.NodeStore.rebuild`, `EntityFinder.NodeStore.stats`: the tables.
-/

namespace EntityFinder

/-- An open store. -/
structure NodeStore where
  /-- How tables are named and filled. -/
  config : IndexConfig
  /-- The database. -/
  database : Database
  /-- The entities whose tables have been set up since the store was opened. -/
  prepared : List String
  deriving DecidableEq, Repr

/-- The state of a full-text table. -/
structure IndexStats where
  /-- The name of the table. -/
  table : String
  /-- The number of its rows. -/
  rows : Nat
  /-- The searchable properties of its entity. -/
  columns : List String
  deriving DecidableEq, Repr

/-- Properties as they are stored. -/
def Properties.document (p : Properties) : String :=
  p.toJson.compact

namespace NodeStore

/-- A store that has just been opened. -/
def opened (config : IndexConfig) (database : Database) : NodeStore :=
  ⟨config, database, []⟩

/-- A call on the database of a store. -/
def onDatabase {α : Type} (a : Action Database α) : Action NodeStore α :=
  a.onPart database fun s d => { s with database := d }

/-- An answer from the database of a store. -/
def ask {α : Type} (f : Database → Except DatabaseFault α) : Action NodeStore α :=
  Action.query fun s => (f s.database).mapError DatabaseFault.toError

/-- Notes that the table of an entity has been set up. -/
def markPrepared (entity : String) : Action NodeStore Unit :=
  modify fun s => { s with prepared := s.prepared.insert entity }

/-- The table that the metadata of an entity asks for. -/
def plan (m : EntityMetadata) : Action NodeStore IndexPlan :=
  Action.query fun s => IndexPlan.ofMetadata s.config m

/-- Sets up the table of an entity, unless that has been done since the store was opened. -/
def prepare (m : EntityMetadata) : Action NodeStore Unit := do
  if !(← get).prepared.contains m.entityName then
    let p ← plan m
    onDatabase p.ensure
    markPrepared m.entityName

/-- Refuses the first property that an entity does not declare. -/
def checkDeclared (m : EntityMetadata) : List String → Except FinderError Unit
  | [] => .ok ()
  | name :: rest =>
    if m.declares name then checkDeclared m rest
    else .error (.validation name (m.entityName ++ " does not declare this property"))

/-- Stores a node and returns its number. -/
def insert (m : EntityMetadata) (p : Properties) : Action NodeStore Int := do
  Action.ofExcept (checkDeclared m p.names)
  prepare m
  onDatabase (Database.execute (Database.insertNode m.entityName p.document))

/-- Replaces the properties of a node, and tells whether the entity has a node of that number. -/
def update (m : EntityMetadata) (id : Int) (p : Properties) : Action NodeStore Bool := do
  Action.ofExcept (checkDeclared m p.names)
  prepare m
  onDatabase (Database.execute (Database.updateNode id m.entityName p.document))

/-- The node with a number, of whatever entity. -/
def get (id : Int) : Action NodeStore (Option Record) :=
  ask fun d => d.recordOf id

/-- Deletes the node with a number, and tells whether there was one. -/
def delete (id : Int) : Action NodeStore Bool :=
  onDatabase (Database.execute (Database.deleteNode id))

/-- Sets the table of an entity up anew, from the nodes that are stored. -/
def rebuild (m : EntityMetadata) : Action NodeStore Unit := do
  let p ← plan m
  onDatabase p.rebuild
  markPrepared m.entityName

/-- The state of the table of an entity. -/
def stats (m : EntityMetadata) : Action NodeStore IndexStats := do
  let p ← plan m
  ask fun d => (d.rowCount p.table).map fun rows => ⟨p.table, rows, p.columns⟩

end NodeStore

end EntityFinder
