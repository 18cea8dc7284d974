import EntityFinder.Database.IndexTable

set_option autoImplicit false

/-!
# The contents of a database

Nodes are stored with their properties as one JSON text each. Full-text tables hold the texts of
some properties once more, and triggers carry every change of the nodes over to them.

## Main definitions

* `EntityFinder.StoredNode`: a node as it is stored.
* `EntityFinder.Trigger`: what happens to a full-text table when nodes change.
* `EntityFinder.Database`: all of these, and the counter of the nodes.
* `EntityFinder.Database.relation?`: what stands under the name of a table.
-/

namespace EntityFinder

/-! ## Nodes -/

/-- A node as it is stored. -/
structure StoredNode where
  /-- The number of the node. -/
  id : Int
  /-- The entity that it belongs to. -/
  entity : String
  /-- Its properties as a JSON text, or whatever else was stored in their place. -/
  document : String
  deriving DecidableEq, Repr

/-- The row of a node in a table with some columns. -/
def StoredNode.indexRow (columns : List String) (n : StoredNode) : Except DatabaseFault IndexRow :=
  IndexRow.ofDocument columns n.id n.document

/-! ## Triggers -/

/-- A change of the nodes. -/
inductive NodeEvent where
  /-- A node is stored. -/
  | insert
  /-- A node gets another document. -/
  | update
  /-- A node is deleted. -/
  | delete
  deriving DecidableEq, Repr

/-- Carries changes of the nodes of one entity over to a full-text table. -/
structure Trigger where
  /-- The table. -/
  table : String
  /-- The change that it waits for. -/
  event : NodeEvent
  /-- The entity whose nodes it waits for. -/
  entity : String
  /-- The columns that it fills. -/
  columns : List String
  deriving DecidableEq, Repr

/-- The columns that a trigger names: a row is taken out by its number alone. -/
def Trigger.namedColumns (t : Trigger) : List String :=
  match t.event with
  | .insert | .update => t.columns
  | .delete => []

/-! ## Databases -/

/-- The contents of a database. -/
structure Database where
  /-- The nodes in ascending order of their numbers. -/
  nodes : List StoredNode
  /-- The number that was given to a node last. -/
  lastId : Nat
  /-- The full-text tables. -/
  tables : List IndexTable
  /-- The triggers, the latest one first. -/
  triggers : List Trigger
  /-- Whether it can only be read. -/
  isReadOnly : Bool
  deriving DecidableEq, Repr

namespace Database

/-- A database without any content. -/
def empty : Database := ⟨[], 0, [], [], false⟩

/-- The full-text table with a name. -/
def table? (d : Database) (name : String) : Option IndexTable :=
  d.tables.find? (·.name == name)

/-- Whether there is a full-text table with a name. -/
def hasTable (d : Database) (name : String) : Bool :=
  (d.table? name).isSome

/-- The part of a full-text table that has a name. -/
def partAt? (d : Database) (name : String) : Option (IndexTable × Part) :=
  d.tables.findSome? fun t =>
    (Part.all.find? fun p => p.tableName t.name == name && !t.lacks p).map fun p => (t, p)

/-- What stands under the name of a table. -/
inductive Relation where
  /-- A full-text table. -/
  | index (t : IndexTable)
  /-- A part of a full-text table. -/
  | part (owner : IndexTable) (p : Part)
  deriving DecidableEq, Repr

/-- What stands under the name of a table, if anything does. -/
def relation? (d : Database) (name : String) : Option Relation :=
  match d.table? name with
  | some t => some (.index t)
  | none => (d.partAt? name).map fun (t, p) => .part t p

/-- The trigger of a table for a change. -/
def trigger? (d : Database) (table : String) (event : NodeEvent) : Option Trigger :=
  d.triggers.find? fun t => t.table == table && t.event == event

/-- Whether a table has a trigger for a change. -/
def hasTrigger (d : Database) (table : String) (event : NodeEvent) : Bool :=
  (d.trigger? table event).isSome

/-- The node with a number. -/
def node? (d : Database) (id : Int) : Option StoredNode :=
  d.nodes.find? (·.id == id)

/-- The nodes of an entity. -/
def nodesOf (d : Database) (entity : String) : List StoredNode :=
  d.nodes.filter (·.entity == entity)

end Database

end EntityFinder
