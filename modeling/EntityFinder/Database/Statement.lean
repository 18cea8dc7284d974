import EntityFinder.Action
import EntityFinder.Database.Basic
import EntityFinder.Database.Name

set_option autoImplicit false

/-!
# Statements

Every statement either takes effect as a whole or has none. A change of the nodes includes what
the triggers make of it, so a document that a trigger cannot read makes the change itself fail.

## Main definitions

* `EntityFinder.Database.createTable`, `EntityFinder.Database.dropTable`: full-text tables.
* `EntityFinder.Database.clearTable`, `EntityFinder.Database.fillTable`: the rows of a table.
* `EntityFinder.Database.createTrigger`, `EntityFinder.Database.dropTrigger`: triggers.
* `EntityFinder.Database.insertNode`, `EntityFinder.Database.updateNode`,
  `EntityFinder.Database.deleteNode`: the nodes.
* `EntityFinder.Database.execute`: a statement as a call on the database.
-/

namespace EntityFinder.Database

/-- The fault that is reported of a statement. Of a database that can only be read nothing else is
told once a statement has been understood. -/
def reported (d : Database) (f : DatabaseFault) : DatabaseFault :=
  if d.isReadOnly && !f.isEarly then .readOnly else f

/-- What becomes of a statement that changes a database, even if there is nothing to change. -/
def changing {α : Type} (statement : Database → Except DatabaseFault (α × Database))
    (d : Database) : Except DatabaseFault (α × Database) :=
  match statement d with
  | .error f => .error (reported d f)
  | .ok r => if d.isReadOnly then .error .readOnly else .ok r

/-- What becomes of a statement that may find its work done. -/
def settling (statement : Database → Except DatabaseFault Database) (d : Database) :
    Except DatabaseFault Database :=
  match statement d with
  | .error f => .error (reported d f)
  | .ok d' => if d.isReadOnly ∧ d' ≠ d then .error .readOnly else .ok d'

/-- Carries a statement out that changes the database. If it fails, the database stays as it is. -/
def execute {α : Type} (statement : Database → Except DatabaseFault (α × Database)) :
    Action Database α :=
  Action.atomic fun d => (changing statement d).mapError DatabaseFault.toError

/-- Carries a statement out that has no answer. -/
def run (statement : Database → Except DatabaseFault Database) : Action Database Unit :=
  Action.atomic fun d =>
    ((settling statement d).map fun d' => ((), d')).mapError DatabaseFault.toError

/-! ## Full-text tables -/

/-- Changes a table. -/
def changeTable (name : String) (f : IndexTable → Except DatabaseFault IndexTable) (d : Database) :
    Except DatabaseFault Database := do
  let tables ← d.tables.mapM fun t => if t.name = name then f t else .ok t
  .ok { d with tables }

/-- The database after it has been opened anew: no table is in use. -/
def atRest (d : Database) : Database :=
  { d with tables := d.tables.map fun t => { t with inUse := false } }

/-- Takes a table into use, if it exists. -/
def useTable (name : String) (d : Database) : Except DatabaseFault Database :=
  d.changeTable name IndexTable.use

/-- Takes a table into use on behalf of whoever asks for its columns. -/
def openTable (name : String) : Action Database Unit :=
  Action.atomic fun d => ((useTable name d).map fun d' => ((), d')).mapError DatabaseFault.toError

/-- The fault of a statement that declares a tokenizer which a table cannot have. -/
def tokenizerFault (declaration : String) : FullText.Tokenizer.Fault → DatabaseFault
  | .unknown name => .noSuchTokenizer name
  | .arguments => .tokenizerRefused
  | .unreadable => .unreadableTokenizer
  | .endsEarly => .brokenTokenizer declaration

/-- Refuses a tokenizer that a table cannot have. -/
def checkTokenizer (declaration : String) : Except DatabaseFault Unit :=
  match FullText.Tokenizer.ofDeclaration declaration with
  | .ok _ => .ok ()
  | .error f => .error (tokenizerFault declaration f)

/-- Refuses a table one of whose parts has the name of another table. -/
def checkParts (name : String) (d : Database) : Except DatabaseFault Unit :=
  match Part.all.find? fun p => (d.relation? (p.tableName name)).isSome with
  | none => .ok ()
  | some p => .error (.partExists name p)

/-- Whether names of a list differ from each other and from another name, case apart. -/
def areDistinct (reserved : String) (names : List String) : Bool :=
  ((reserved :: names).map Text.lowerAscii).Nodup

/-- Creates a full-text table without rows. Whatever stands under its name stays as it is. -/
def createTable (name : String) (columns : List String) (tokenizer : String) (d : Database) :
    Except DatabaseFault Database := do
  let n ← TableName.declared name columns tokenizer
  if (d.relation? n.table).isSome then .ok d
  else if Text.sameName n.table TableName.entityIndex then .error (.indexExists n.table)
  else do
    checkTokenizer tokenizer
    checkParts n.table d
    if areDistinct n.table columns then
      .ok { d with tables := d.tables ++ [.created n.table columns tokenizer] }
    else .error (.tableRefused n.table)

/-- Takes away a full-text table and its parts, and with them the tables that stand under the names
of parts. -/
def removeTable (name : String) (d : Database) : Database :=
  { d with tables := d.tables.filter fun t =>
      t.name != name && !Part.all.any fun p => t.name == p.tableName name }

/-- Drops a table, if it exists. A full-text table has lost a part that is dropped. -/
def dropTable (name : String) (d : Database) : Except DatabaseFault Database := do
  let n ← TableName.alone name
  n.checkDroppable
  match d.relation? n.table with
  | none => .ok d
  | some (.index t) => do
    let _ ← t.use
    .ok (d.removeTable n.table)
  | some (.part owner p) => d.changeTable owner.name fun t => .ok (t.lose p)

/-- Takes all rows out of a table. -/
def clearTable (name : String) (d : Database) : Except DatabaseFault Database := do
  let n ← TableName.alone name
  if d.hasTable n.table then d.changeTable n.table IndexTable.clear
  else .error (.noSuchTable name)

/-- The rows of nodes in a table with some columns; all documents have to be JSON. -/
def indexRows (columns : List String) : List StoredNode → Except DatabaseFault (List IndexRow)
  | [] => .ok []
  | n :: nodes => do
    let row ← n.indexRow columns
    let rows ← indexRows columns nodes
    .ok (row :: rows)

/-- Puts a row for every node of an entity into a table. -/
def fillTable (name entity : String) (columns : List String) (d : Database) :
    Except DatabaseFault Database := do
  let n ← TableName.alone name
  checkColumnNames columns
  if d.hasTable n.table then do
    let rows ← indexRows columns (d.nodesOf entity)
    d.changeTable n.table (·.putAll rows)
  else .error (.noSuchTable name)

/-! ## Triggers -/

/-- Creates a trigger, unless its table has one for the same change. -/
def createTrigger (t : Trigger) (d : Database) : Except DatabaseFault Database := do
  let n ← TableName.alone t.table
  if n.schema?.isSome then .error .qualifiedInTrigger
  else do
    checkColumnNames t.namedColumns
    if d.hasTrigger n.table t.event then .ok d
    else .ok { d with triggers := { t with table := n.table } :: d.triggers }

/-- Drops the trigger of a table for a change, if it exists. -/
def dropTrigger (table : String) (event : NodeEvent) (d : Database) :
    Except DatabaseFault Database := do
  let n ← TableName.alone table
  .ok { d with triggers := d.triggers.filter fun t => !(t.table == n.table && t.event == event) }

/-- Refuses a trigger whose table has become a part of another one that lacks its columns. -/
def checkPart (owner : IndexTable) (p : Part) (t : Trigger) : Except DatabaseFault Unit :=
  match t.event with
  | .delete => if p.isNumbered then .ok () else .error (.noSuchColumn "rowid")
  | .insert | .update =>
    if p.isNumbered then
      match t.columns.find? fun c => !p.hasColumn owner.columns.length c with
      | none => .ok ()
      | some column => .error (.noColumnNamed t.table column)
    else if t.event = .insert then .error (.noColumnNamed t.table "rowid")
    else .error (.noSuchColumn "rowid")

/-- Refuses a trigger that fills a column which its table does not have. -/
def checkFilled (table : IndexTable) (t : Trigger) : Except DatabaseFault Unit :=
  match t.namedColumns.find? fun c => !table.columns.any (Text.sameName c) with
  | none => .ok ()
  | some column => .error (.noColumnNamed t.table column)

/-- Makes a trigger ready: its table is taken into use, and has to have the columns. -/
def readyTrigger (d : Database) (t : Trigger) : Except DatabaseFault Database :=
  match d.relation? t.table with
  | some (.index table) => do
    let d' ← d.useTable t.table
    checkFilled table t
    .ok d'
  | some (.part owner p) => do
    checkPart owner p t
    .ok d
  | none => .error (.noSuchTable ("main." ++ t.table))

/-- Makes all triggers ready that wait for a change, whatever the entities of their nodes. -/
def ready (event : NodeEvent) (d : Database) : Except DatabaseFault Database :=
  (d.triggers.filter (·.event == event)).foldlM readyTrigger d

/-- What a trigger makes of a change of a node. -/
def fire (n : StoredNode) (d : Database) (t : Trigger) : Except DatabaseFault Database :=
  match t.event with
  | .insert => do
    let row ← n.indexRow t.columns
    d.changeTable t.table fun table => table.put (table.arrange t.columns row)
  | .update => do
    let row ← n.indexRow t.columns
    d.changeTable t.table fun table => table.replace (table.arrange t.columns row)
  | .delete => d.changeTable t.table (·.erase n.id)

/-- What all triggers make of a change of a node. -/
def fireAll (event : NodeEvent) (n : StoredNode) (d : Database) : Except DatabaseFault Database :=
  (d.triggers.filter fun t => t.event == event && t.entity == n.entity).foldlM (fire n) d

/-! ## Nodes -/

/-- Stores a node under the next number. -/
def insertNode (entity document : String) (d : Database) :
    Except DatabaseFault (Int × Database) := do
  let d ← d.ready .insert
  let n : StoredNode := ⟨(d.lastId + 1 : Nat), entity, document⟩
  let stored : Database := { d with nodes := d.nodes ++ [n], lastId := d.lastId + 1 }
  let d' ← stored.fireAll .insert n
  .ok (n.id, d')

/-- Stores a node on behalf of another program, which takes tables into use for itself. -/
def insertForeignNode (entity document : String) (d : Database) :
    Except DatabaseFault (Int × Database) := do
  let (id, d') ← d.atRest.insertNode entity document
  .ok (id, { d' with tables := d'.tables.map fun t =>
    { t with inUse := (d.table? t.name).any (·.inUse) } })

/-- Gives the node of an entity with a number another document, and tells whether there is one. -/
def updateNode (id : Int) (entity document : String) (d : Database) :
    Except DatabaseFault (Bool × Database) := do
  let d ← d.ready .update
  match d.node? id with
  | none => .ok (false, d)
  | some n =>
    if n.entity = entity then do
      let n' : StoredNode := { n with document }
      let stored : Database := { d with nodes := d.nodes.map fun m => if m.id = id then n' else m }
      let d' ← stored.fireAll .update n'
      .ok (true, d')
    else .ok (false, d)

/-- Deletes the node with a number, and tells whether there is one. -/
def deleteNode (id : Int) (d : Database) : Except DatabaseFault (Bool × Database) := do
  let d ← d.ready .delete
  match d.node? id with
  | none => .ok (false, d)
  | some n => do
    let rest : Database := { d with nodes := d.nodes.filter (·.id != id) }
    let d' ← rest.fireAll .delete n
    .ok (true, d')

end EntityFinder.Database
