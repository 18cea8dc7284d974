import EntityFinder.Database.Basic
import EntityFinder.Database.Name
import EntityFinder.Entity.Basic
import EntityFinder.Json.Decoder

set_option autoImplicit false

/-!
# Reading nodes

A stored document is decoded when its node is read. Lists leave out nodes whose documents cannot
be decoded; whoever asks for one node is told.

## Main definitions

* `EntityFinder.StoredNode.record`: the record of a node.
* `EntityFinder.Database.recordOf`: the record of the node with a number.
* `EntityFinder.Database.recordsOf`: the records of an entity.
* `EntityFinder.Database.matching`: the records that satisfy a full-text query.
* `EntityFinder.Database.firstWith`: the first record with a text under a key.
-/

namespace EntityFinder

/-- The record of a node whose document holds texts by name. -/
def StoredNode.record? (n : StoredNode) : Option Record :=
  match Json.decode Json.texts n.document with
  | .ok properties => some ⟨n.id, n.entity, properties⟩
  | .error _ => none

/-- The record of a node, or that it has none. -/
def StoredNode.record (n : StoredNode) : Except DatabaseFault Record :=
  match n.record? with
  | some r => .ok r
  | none => .error .undecodable

namespace Database

/-- The record of the node with a number, if there is one. -/
def recordOf (d : Database) (id : Int) : Except DatabaseFault (Option Record) :=
  match d.node? id with
  | none => .ok none
  | some n => n.record.map some

/-- The records of an entity in ascending order of their numbers. -/
def recordsOf (d : Database) (entity : String) : List Record :=
  (d.nodesOf entity).filterMap StoredNode.record?

/-- The records whose rows in a table satisfy a query, best first. -/
def matching (d : Database) (table query : String) : Except DatabaseFault (List Record) := do
  let n ← TableName.alone table
  match d.relation? n.table with
  | none => .error (.noSuchTable table)
  | some (.part ..) => .error (.noSuchColumn table)
  | some (.index t) => do
    let ids ← t.search query
    .ok (ids.filterMap fun id => (d.node? id).bind StoredNode.record?)

/-- The first of some nodes whose document has exactly a text under a key. Every document before
it has to be JSON. -/
def firstNodeWith (key value : String) :
    List StoredNode → Except DatabaseFault (Option StoredNode)
  | [] => .ok none
  | n :: nodes =>
    match Json.extract? key n.document with
    | none => .error .malformedDocument
    | some found =>
      if found = .text value then .ok (some n) else firstNodeWith key value nodes

/-- The record of the first node of an entity whose document has exactly a text under a key. -/
def firstWith (d : Database) (entity key value : String) :
    Except DatabaseFault (Option Record) := do
  match ← firstNodeWith key value (d.nodesOf entity) with
  | none => .ok none
  | some n => n.record.map some

/-- The number of rows of a table; a table that does not exist has none. -/
def rowCount (d : Database) (table : String) : Except DatabaseFault Nat :=
  match d.relation? table with
  | none => .ok 0
  | some (.index t) => t.size
  | some (.part owner p) => .ok (owner.partSize p)

end Database

end EntityFinder
