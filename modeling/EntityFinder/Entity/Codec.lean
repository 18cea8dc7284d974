import EntityFinder.Criteria.Basic
import EntityFinder.Entity.Basic
import EntityFinder.Error
import EntityFinder.Json.Decoder
import EntityFinder.Json.Value
import EntityFinder.Metadata.Schema

set_option autoImplicit false

/-!
# The JSON form of the data types

How declarations, schemas, records, nodes and criteria are written as JSON and read back.
Structures are objects with their fields in a fixed order.

## Main definitions

* `PropertyDeclaration.toJson`, `EntitySchema.toJson`, `Record.toJson`, `Node.toJson`,
  `Criteria.toJson`: the written values.
* `PropertyDeclaration.decoder`, `EntitySchema.decoder`, `Record.decoder`, `Node.decoder`,
  `Criteria.decoder`: the readers.
* `EntityFinder.ofJson`: decodes a text, and puts a fault into words.
-/

namespace EntityFinder

/-- Decodes a text; the message of a failure names the class of the fault. -/
def ofJson {α : Type} (d : Json.Decoder α) (text : String) : Except FinderError α :=
  match Json.decode d text with
  | .ok a => .ok a
  | .error f => .error (.json f.category)

/-! ## Property declarations -/

namespace PropertyDeclaration

/-- A declaration as an object. -/
def toJson (d : PropertyDeclaration) : Json.Value :=
  .ofMembers [("name", .string d.name), ("indexed", .bool d.indexed)]

/-- A declaration of which some fields have been read. -/
structure Draft where
  /-- The name, once read. -/
  name : Option String
  /-- Whether the property is indexed, once read. -/
  indexed : Option Bool

/-- The fields of a declaration. -/
def slots : List (Json.Slot Draft) :=
  [⟨"name", (·.name.isSome), fun d r => (Json.string r).map fun s => ⟨some s, d.indexed⟩⟩,
   ⟨"indexed", (·.indexed.isSome), fun d r => (Json.bool r).map fun b => ⟨d.name, some b⟩⟩]

/-- A draft with a name is complete: a property that does not say so is not indexed. -/
def Draft.finish (d : Draft) : Option PropertyDeclaration :=
  d.name.map fun name => ⟨name, d.indexed.getD false⟩

/-- Reads a declaration. -/
def decoder : Json.Decoder PropertyDeclaration :=
  Json.record slots ⟨none, none⟩ Draft.finish

end PropertyDeclaration

/-! ## Schemas -/

namespace EntitySchema

/-- A schema as an object. -/
def toJson (s : EntitySchema) : Json.Value :=
  .ofMembers [("name", .string s.name),
    ("properties", .ofItems (s.properties.map PropertyDeclaration.toJson))]

/-- A schema of which some fields have been read. -/
structure Draft where
  /-- The name, once read. -/
  name : Option String
  /-- The properties, once read. -/
  properties : Option (List PropertyDeclaration)

/-- The fields of a schema. -/
def slots : List (Json.Slot Draft) :=
  [⟨"name", (·.name.isSome), fun d r => (Json.string r).map fun s => ⟨some s, d.properties⟩⟩,
   ⟨"properties", (·.properties.isSome), fun d r =>
      (Json.list PropertyDeclaration.decoder r).map fun ps => ⟨d.name, some ps⟩⟩]

/-- A draft with a name is complete: a schema may declare nothing. -/
def Draft.finish (d : Draft) : Option EntitySchema :=
  d.name.map fun name => ⟨name, d.properties.getD []⟩

/-- Reads a schema. -/
def decoder : Json.Decoder EntitySchema :=
  Json.record slots ⟨none, none⟩ Draft.finish

end EntitySchema

/-! ## Records and nodes -/

/-- A property bag as an object. -/
def Properties.toJson (p : Properties) : Json.Value :=
  .ofMembers (p.entries.map fun (name, value) => (name, .string value))

namespace Record

/-- A record as an object. -/
def toJson (r : Record) : Json.Value :=
  .ofMembers [("id", .int r.id), ("entity", .string r.entity),
    ("properties", r.properties.toJson)]

/-- A record of which some fields have been read. -/
structure Draft where
  /-- The number, once read. -/
  id : Option Int
  /-- The entity, once read. -/
  entity : Option String
  /-- The properties, once read. -/
  properties : Option Properties

/-- The fields of a record. -/
def slots : List (Json.Slot Draft) :=
  [⟨"id", (·.id.isSome), fun d r =>
      (Json.nodeId r).map fun n => ⟨some n, d.entity, d.properties⟩⟩,
   ⟨"entity", (·.entity.isSome), fun d r =>
      (Json.string r).map fun s => ⟨d.id, some s, d.properties⟩⟩,
   ⟨"properties", (·.properties.isSome), fun d r =>
      (Json.texts r).map fun p => ⟨d.id, d.entity, some p⟩⟩]

/-- A record needs all of its fields. -/
def Draft.finish (d : Draft) : Option Record :=
  match d.id, d.entity, d.properties with
  | some id, some entity, some properties => some ⟨id, entity, properties⟩
  | _, _, _ => none

/-- Reads a record. -/
def decoder : Json.Decoder Record :=
  Json.record slots ⟨none, none, none⟩ Draft.finish

end Record

namespace Node

/-- The record of a node. -/
def toRecord (n : Node) : Record :=
  ⟨n.id, n.entity, n.properties⟩

/-- A node as an object. -/
def toJson (n : Node) : Json.Value :=
  n.toRecord.toJson

/-- A node needs all of its fields. -/
def finish (d : Record.Draft) : Option Node :=
  match d.id, d.entity, d.properties with
  | some id, some entity, some properties => some ⟨id, entity, properties⟩
  | _, _, _ => none

/-- Reads a node; its fields are those of a record. -/
def decoder : Json.Decoder Node :=
  Json.record Record.slots ⟨none, none, none⟩ finish

end Node

/-! ## Criteria -/

namespace Criteria

/-- Criteria as an object with a list of pairs. -/
def toJson (c : Criteria) : Json.Value :=
  .ofMembers [("entries",
    .ofItems (c.entries.map fun (property, value) => .ofItems [.string property, .string value]))]

/-- Reads criteria. The entries are kept as they are written, repeated properties included. -/
def decoder : Json.Decoder Criteria :=
  Json.record
    [⟨"entries", Option.isSome, fun _ r => (Json.list Json.pair r).map some⟩]
    none (Option.map Criteria.mk)

end Criteria

end EntityFinder
