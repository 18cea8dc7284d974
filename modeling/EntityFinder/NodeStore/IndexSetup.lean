import EntityFinder.Database.Statement
import EntityFinder.IndexConfig
import EntityFinder.Metadata.Basic

set_option autoImplicit false

/-!
# Setting up a full-text table

The table of an entity has a column for every searchable property and three triggers that keep it
in step with the nodes. Setting it up takes several statements, each of which takes effect on its
own; one that fails leaves what the earlier ones did.

## Main definitions

* `EntityFinder.IndexPlan`: the table that the metadata of an entity asks for.
* `EntityFinder.IndexPlan.ofMetadata`: that table, once all names have been checked.
* `EntityFinder.IndexPlan.ensure`: sets the table up as far as it is not.
* `EntityFinder.IndexPlan.rebuild`: drops the table and sets it up again.
-/

namespace EntityFinder

/-- A full-text table as it should be. -/
structure IndexPlan where
  /-- The name of the table. -/
  table : String
  /-- The entity whose nodes it indexes. -/
  entity : String
  /-- The searchable properties, which are its columns. -/
  columns : List String
  /-- How it cuts texts into tokens. -/
  tokenizer : String
  deriving DecidableEq, Repr

namespace IndexPlan

/-- Refuses the first of some properties whose name cannot be that of a column. -/
def validateColumns : List String → Except FinderError Unit
  | [] => .ok ()
  | name :: rest => do
    validateIdentifier "property" name
    validateColumns rest

/-- The table that metadata asks for. All names that go into statements are checked. -/
def ofMetadata (config : IndexConfig) (m : EntityMetadata) : Except FinderError IndexPlan := do
  validateIdentifier "entity" m.entityName
  validateColumns m.indexedNames
  .ok ⟨config.tableName m.entityName, m.entityName, m.indexedNames, config.tokenizer⟩

variable (p : IndexPlan)

/-- Whether there is anything to index. Otherwise there is no table. -/
def hasColumns : Bool :=
  !p.columns.isEmpty

/-- The trigger for a change. -/
def trigger (event : NodeEvent) : Trigger :=
  ⟨p.table, event, p.entity, p.columns⟩

/-- Creates the table. -/
def createTable : Action Database Unit :=
  Database.run (Database.createTable p.table p.columns p.tokenizer)

/-- Creates the triggers that are missing. -/
def createTriggers : Action Database Unit := do
  Database.run (Database.createTrigger (p.trigger .insert))
  Database.run (Database.createTrigger (p.trigger .update))
  Database.run (Database.createTrigger (p.trigger .delete))

/-- Fills the table from the nodes. -/
def populate : Action Database Unit := do
  Database.run (Database.clearTable p.table)
  Database.run (Database.fillTable p.table p.entity p.columns)

/-- Drops the table with its triggers. -/
def drop : Action Database Unit := do
  Database.run (Database.dropTable p.table)
  Database.run (Database.dropTrigger p.table .insert)
  Database.run (Database.dropTrigger p.table .update)
  Database.run (Database.dropTrigger p.table .delete)

/-- Drops the table and sets it up again, if there is anything to index. -/
def rebuild : Action Database Unit := do
  p.drop
  if p.hasColumns then do
    p.createTable
    p.createTriggers
    p.populate

/-- Sets the table up. A table with other columns is rebuilt, and one without triggers is filled
again, since it may have missed changes. -/
def ensure : Action Database Unit := do
  if p.hasColumns then
    match (← get).relation? p.table with
    | none => do
      p.createTable
      p.populate
      p.createTriggers
    | some (.part ..) => p.rebuild
    | some (.index t) => do
      Database.openTable p.table
      if t.columns ≠ p.columns then p.rebuild
      else do
        if !(← get).hasTrigger p.table .insert then p.populate
        p.createTriggers

end IndexPlan

end EntityFinder
