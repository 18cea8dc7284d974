set_option autoImplicit false

/-!
# Entity types and their properties

An entity type is a name together with the kind of object that its nodes become. Its metadata
lists the properties in the order of their declarations and says which of them are searchable.

## Main definitions

* `EntityFinder.ObjectKind`: what nodes are turned into; `ObjectKind.node` is the general one.
* `EntityFinder.EntityType`: a kind and an entity name; both count for equality.
* `EntityFinder.PropertyDeclaration`: a property name and whether it is indexed.
* `EntityFinder.EntityMetadata.ofDeclarations`: the metadata that declarations amount to; of two
  declarations of one name the first counts.
-/

namespace EntityFinder

/-- A kind of objects, known by its full name. -/
structure ObjectKind where
  /-- The name that messages use. -/
  typeName : String
  deriving DecidableEq, Repr

/-- The kind of general objects, which hold the properties of any entity. -/
def ObjectKind.node : ObjectKind := ⟨"nodemap::entity::Node"⟩

/-- A mapped entity type. -/
structure EntityType where
  /-- What its nodes are turned into. -/
  kind : ObjectKind
  /-- The entity name, by which nodes are stored. -/
  name : String
  deriving DecidableEq, Repr

/-- A declared property. -/
structure PropertyDeclaration where
  /-- The name of the property. -/
  name : String
  /-- Whether the property can be searched for. -/
  indexed : Bool
  deriving DecidableEq, Repr

/-- What is known about an entity type. -/
structure EntityMetadata where
  /-- The type described. -/
  entityType : EntityType
  /-- Its properties, in the order of declaration. -/
  properties : List PropertyDeclaration
  deriving DecidableEq, Repr

namespace EntityMetadata

/-- Appends a declaration unless its name is taken. -/
def declare (known : List PropertyDeclaration) (d : PropertyDeclaration) :
    List PropertyDeclaration :=
  if known.any (·.name == d.name) then known else known ++ [d]

/-- The metadata of a list of declarations: the first of each name, in order. -/
def ofDeclarations (type : EntityType) (declarations : List PropertyDeclaration) :
    EntityMetadata :=
  ⟨type, declarations.foldl declare []⟩

/-- The name of the entity. -/
def entityName (m : EntityMetadata) : String :=
  m.entityType.name

/-- The searchable properties, in order. -/
def indexedProperties (m : EntityMetadata) : List PropertyDeclaration :=
  m.properties.filter (·.indexed)

/-- The names of the searchable properties, in order: the columns of the index. -/
def indexedNames (m : EntityMetadata) : List String :=
  m.indexedProperties.map (·.name)

/-- The property of a given name. -/
def property? (m : EntityMetadata) (name : String) : Option PropertyDeclaration :=
  m.properties.find? (·.name == name)

/-- Whether a property of the name is declared. -/
def declares (m : EntityMetadata) (name : String) : Bool :=
  (m.property? name).isSome

/-- Whether a property of the name can be searched for. -/
def indexes (m : EntityMetadata) (name : String) : Bool :=
  m.indexedProperties.any (·.name == name)

end EntityMetadata

end EntityFinder
