import EntityFinder.Action
import EntityFinder.Metadata.Basic
import EntityFinder.Properties

set_option autoImplicit false

/-!
# Stored records and loaded objects

A search returns records. A loader turns records into objects, each of some kind; the general
kind is the node, which holds the properties as they are stored.

## Main definitions

* `EntityFinder.Record`: a stored node as a search returns it.
* `EntityFinder.Node`: the content of a loaded object.
* `EntityFinder.Entity`: a loaded object: its kind and its content.
* `EntityFinder.EntityLoader`: what turns records, and numbers of nodes, into objects.
-/

namespace EntityFinder

/-- A stored node as a search returns it. -/
structure Record where
  /-- The number of the node. -/
  id : Int
  /-- The entity that it belongs to. -/
  entity : String
  /-- What it stores. -/
  properties : Properties
  deriving DecidableEq, Repr

/-- The content of a loaded object. -/
structure Node where
  /-- The number of the node. -/
  id : Int
  /-- The entity that it belongs to. -/
  entity : String
  /-- What it holds. -/
  properties : Properties
  deriving DecidableEq, Repr

namespace Node

/-- The node that a record describes. -/
def ofRecord (r : Record) : Node :=
  ⟨r.id, r.entity, r.properties⟩

/-- The text of a property. -/
def get? (n : Node) (property : String) : Option String :=
  n.properties.get? property

end Node

/-- A loaded object. -/
structure Entity where
  /-- The kind of the object. -/
  kind : ObjectKind
  /-- What it holds. -/
  content : Node
  deriving DecidableEq, Repr

/-- The entity that an object belongs to. -/
def Entity.entityName (e : Entity) : String :=
  e.content.entity

/-- Turns records into objects, given a state of type `σ`. -/
structure EntityLoader (σ : Type) where
  /-- The object of a record. -/
  load : Record → Action σ Entity
  /-- The object of the node with a number, of whatever entity. -/
  findById : Int → Action σ (Option Entity)

end EntityFinder
