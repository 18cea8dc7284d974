import EntityFinder.Criteria.Query
import EntityFinder.FinderCall
import EntityFinder.PropertyResolution
import EntityFinder.Repository.SearchIndex

set_option autoImplicit false

/-!
# Repositories

A repository finds the objects of one entity. It checks what is asked before the index hears of
it, turns the records of the answer into objects, and checks every object: it has to belong to
the entity and to be of the kind that the entity's nodes become.

## Main definitions

* `EntityFinder.Repository`: metadata with the index, loader and naming rule bound to it.
* `EntityFinder.Repository.bind`: a repository for objects of a wanted kind.
* `EntityFinder.Repository.find`, `EntityFinder.Repository.findAll`,
  `EntityFinder.Repository.findBy`, `EntityFinder.Repository.findOneBy`: the finders.
* `EntityFinder.Repository.findByProperty`, `EntityFinder.Repository.findOneByProperty`: finders
  by the name of one property.
* `EntityFinder.Repository.call`: a finder by its method name.
-/

namespace EntityFinder

/-- The answer of a finder that was called by name. -/
inductive FinderOutput where
  /-- At most one object. -/
  | one (entity : Option Entity)
  /-- All objects that match. -/
  | many (entities : List Entity)
  deriving DecidableEq, Repr

namespace FinderOutput

/-- The only object, or the first of all. -/
def intoOne : FinderOutput → Option Entity
  | one entity => entity
  | many entities => entities.head?

/-- All objects. -/
def intoMany : FinderOutput → List Entity
  | one entity => entity.toList
  | many entities => entities

end FinderOutput

/-- Finds the objects of one entity. -/
structure Repository (σ : Type) where
  /-- What is known about the entity. -/
  metadata : EntityMetadata
  /-- Where its nodes are searched. -/
  index : SearchIndex σ
  /-- What turns records into objects. -/
  loader : EntityLoader σ
  /-- How property names are compared. -/
  singularizer : Singularizer

namespace Repository

variable {σ : Type}

/-- A repository for objects of the kind `wanted`, which must be the one that the nodes of the
entity become. -/
def bind (metadata : EntityMetadata) (index : SearchIndex σ) (loader : EntityLoader σ)
    (singularizer : Singularizer) (wanted : ObjectKind) : Except FinderError (Repository σ) :=
  if metadata.entityType.kind = wanted then .ok ⟨metadata, index, loader, singularizer⟩
  else .error (.metadata metadata.entityName
    ("entity does not hydrate into " ++ wanted.typeName))

/-- The entity whose objects are found. -/
def entityName (r : Repository σ) : String :=
  r.metadata.entityName

/-- The kind of the objects that are found. -/
def kind (r : Repository σ) : ObjectKind :=
  r.metadata.entityType.kind

/-- Whether an object is one that this repository may return. -/
def accepts (r : Repository σ) (e : Entity) : Bool :=
  e.entityName == r.entityName && e.kind == r.kind

/-! ## Objects by number -/

/-- The object with a number, unless it is none of this entity and kind. -/
def find (r : Repository σ) (id : Int) : Action σ (Option Entity) := do
  let found ← r.loader.findById id
  return found.filter r.accepts

/-! ## Objects by query -/

/-- Refuses an object of another entity or kind. -/
def checkObject (r : Repository σ) (record : Record) (e : Entity) : Except FinderError Entity :=
  if e.entityName ≠ r.entityName then
    .error (.entityTypeMismatch r.entityName e.entityName)
  else if e.kind ≠ r.kind then .error (.entityTypeMismatch r.kind.typeName record.entity)
  else .ok e

/-- The object of a record. -/
def hydrate (r : Repository σ) (record : Record) : Action σ Entity := do
  let e ← r.loader.load record
  Action.ofExcept (r.checkObject record e)

/-- The objects of records; the first that fails makes the whole answer fail. -/
def hydrateAll (r : Repository σ) : List Record → Action σ (List Entity)
  | [] => pure []
  | record :: records => do
    let e ← r.hydrate record
    let es ← r.hydrateAll records
    return e :: es

/-- Refuses the first property that is not indexed. -/
def checkProperties (m : EntityMetadata) : List String → Except FinderError Unit
  | [] => .ok ()
  | property :: rest =>
    if m.indexes property then checkProperties m rest
    else .error (.unindexedProperty m.entityName property (m.declares property))

/-- The query of criteria that name indexed properties only. -/
def checkedQuery (r : Repository σ) (c : Criteria) : Except FinderError String := do
  checkProperties r.metadata c.properties
  c.compile

/-- The query that finders send for criteria which they accept. -/
def createQuery (_ : Repository σ) (c : Criteria) : Except FinderError String :=
  c.compile

/-- Every object of the entity, in index order. -/
def findAll (r : Repository σ) : Action σ (List Entity) := do
  let records ← r.index.query Criteria.matchAllQuery
  r.hydrateAll records

/-- Every object that satisfies the criteria, in index order. -/
def findBy (r : Repository σ) (c : Criteria) : Action σ (List Entity) := do
  let query ← Action.ofExcept (r.checkedQuery c)
  let records ← r.index.query query
  r.hydrateAll records

/-- The first object that satisfies the criteria; the others are not loaded. -/
def findOneBy (r : Repository σ) (c : Criteria) : Action σ (Option Entity) := do
  let query ← Action.ofExcept (r.checkedQuery c)
  match ← r.index.queryOne query with
  | none => return none
  | some record =>
    let e ← r.hydrate record
    return some e

/-! ## Finders by name -/

/-- The criteria that ask for one value of the property that a token means. -/
def tokenCriteria (r : Repository σ) (token value : String) : Except FinderError Criteria := do
  let property ← r.singularizer.resolve r.metadata token
  .ok (Criteria.single property value)

/-- Every object with the value in the property that the token means. -/
def findByProperty (r : Repository σ) (token value : String) : Action σ (List Entity) := do
  let c ← Action.ofExcept (r.tokenCriteria token value)
  r.findBy c

/-- The first object with the value in the property that the token means. -/
def findOneByProperty (r : Repository σ) (token value : String) : Action σ (Option Entity) := do
  let c ← Action.ofExcept (r.tokenCriteria token value)
  r.findOneBy c

/-- The only argument of a finder call. -/
def onlyArgument (method : String) (args : List String) : Except FinderError String :=
  match args with
  | [value] => .ok value
  | _ => .error (.invalidDispatch (method ++ "(" ++ toString args.length ++ " arguments)"))

/-- Calls a finder by its method name, with exactly one argument. -/
def call (r : Repository σ) (method : String) (args : List String) : Action σ FinderOutput := do
  let finder ← Action.ofExcept (FinderCall.parse method)
  let value ← Action.ofExcept (onlyArgument method args)
  match finder.kind with
  | .one =>
    let e ← r.findOneByProperty finder.token value
    return .one e
  | .many =>
    let es ← r.findByProperty finder.token value
    return .many es

end Repository

end EntityFinder
