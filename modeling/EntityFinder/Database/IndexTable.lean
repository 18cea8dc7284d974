import EntityFinder.Database.Fault
import EntityFinder.Database.Part
import EntityFinder.FullText.Declaration
import EntityFinder.FullText.Grammar
import EntityFinder.FullText.Rank
import EntityFinder.Json.Extract

set_option autoImplicit false

/-!
# Full-text tables

A full-text table holds texts under the numbers of nodes and finds the rows that satisfy a query.
It depends on its parts: one that has lost a part refuses whatever needs that part.

## Main definitions

* `EntityFinder.IndexRow`, `EntityFinder.IndexTable`: rows and tables.
* `EntityFinder.IndexTable.put`, `EntityFinder.IndexTable.replace`, `EntityFinder.IndexTable.erase`,
  `EntityFinder.IndexTable.clear`: changes of the rows.
* `EntityFinder.IndexTable.search`: the rows that satisfy a query.
* `EntityFinder.IndexTable.lose`, `EntityFinder.IndexTable.use`: tables without some of their parts.
-/

namespace EntityFinder

open Database (Part)

/-! ## Rows -/

/-- A row of a full-text table. -/
structure IndexRow where
  /-- The number of the node. -/
  id : Int
  /-- The text of each column; a column may have none. -/
  texts : List (Option String)
  deriving DecidableEq, Repr

/-- The row of a document in a table with some columns. -/
def IndexRow.ofDocument (columns : List String) (id : Int) (document : String) :
    Except DatabaseFault IndexRow :=
  match (Json.Relaxed.ofText? document).bind fun value => columns.mapM value.under? with
  | none => .error .malformedDocument
  | some found => .ok ⟨id, found.map Json.Extract.text?⟩

/-! ## Tables -/

/-- A full-text table. -/
structure IndexTable where
  /-- The name of the table. -/
  name : String
  /-- The names of the columns. -/
  columns : List String
  /-- The tokenizer that it declares. -/
  tokenizer : String
  /-- The rows in ascending order of their numbers. -/
  rows : List IndexRow
  /-- The number of segments that its words are kept in. -/
  segments : Nat
  /-- The parts that it has lost. -/
  lost : List Part
  /-- Whether it has been taken into use since the database was opened. -/
  inUse : Bool
  deriving DecidableEq, Repr

namespace IndexTable

/-- A table that has just been created. -/
def created (name : String) (columns : List String) (tokenizer : String) : IndexTable :=
  ⟨name, columns, tokenizer, [], 0, [], true⟩

variable (t : IndexTable)

/-- The tokenizer of the table. -/
def tokens : FullText.Tokenizer :=
  match FullText.Tokenizer.ofDeclaration t.tokenizer with
  | .ok tokenizer => tokenizer
  | .error _ => .standard

/-- What a query of the table depends on. -/
def layout : FullText.Layout :=
  ⟨t.columns, t.tokens⟩

/-- The tokens of a row; a column without a text has none. -/
def documentOf (row : IndexRow) : FullText.Document :=
  row.texts.map fun
    | none => []
    | some text => t.tokens.tokens text.toList

/-- Whether a row has any tokens. -/
def hasTokens (row : IndexRow) : Bool :=
  (t.documentOf row).any (!·.isEmpty)

/-! ## Parts -/

/-- The number of rows of a part. -/
def partSize : Part → Nat
  | .data => t.segments + 2
  | .idx => t.segments
  | .content | .docsize => t.rows.length
  | .config => 1

/-- The table without a part. -/
def lose (p : Part) : IndexTable :=
  { t with lost := t.lost.insert p }

/-- Whether the table lacks a part. -/
def lacks (p : Part) : Bool :=
  t.lost.contains p

/-- Takes the table into use, once after the database was opened. -/
def use : Except DatabaseFault IndexTable :=
  if t.inUse then .ok t
  else if t.lost.any Part.isEssential then .error (.tableRefused t.name)
  else .ok { t with inUse := true }

/-- Whether a part is missed where words are looked up: there are words, and the part is lost. -/
def misses (p : Part) : Bool :=
  t.lacks p && t.segments != 0

/-- What keeps the rows of the table from being gone through. -/
def scanFault? : Option DatabaseFault :=
  if t.misses .data then some .malformedStorage
  else if t.lacks .content then some (.noSuchColumn "T.c0")
  else none

/-- What keeps a row from being put into the table or taken out of it. -/
def writeFault? (row : IndexRow) : Option DatabaseFault :=
  if t.lacks .content then some .logic
  else if t.lacks .data then some .malformedStorage
  else if t.lacks .docsize || (t.lacks .idx && t.hasTokens row) then some .logic
  else none

/-- What keeps a query from being answered that has these hits. -/
def findFault? (q : FullText.Query) (hits : List Int) : Option DatabaseFault :=
  if t.misses .data then some .malformedStorage
  else if t.misses .idx && q.phrases.any (fun (phrase, _) => !phrase.isEmpty) then some .logic
  else if t.lacks .docsize && !hits.isEmpty then some .logic
  else none

/-- Refuses what a fault keeps from being done. -/
def refuse : Option DatabaseFault → Except DatabaseFault Unit
  | none => .ok ()
  | some f => .error f

/-! ## Changes -/

/-- A row of some columns as the table holds it: what is not among them has no text. -/
def arrange (columns : List String) (row : IndexRow) : IndexRow :=
  { row with texts := t.columns.map fun column =>
      ((columns.zip row.texts).find? fun (name, _) => Text.sameName name column).bind Prod.snd }

/-- Puts a row where its number belongs, in place of the row of the same number. -/
def insertRow (row : IndexRow) : List IndexRow → List IndexRow
  | [] => [row]
  | r :: rest =>
    if row.id < r.id then row :: r :: rest
    else if row.id = r.id then row :: rest
    else r :: insertRow row rest

/-- The number of segments at which they are merged. -/
def segmentLimit : Nat := 16

/-- The table after a change of some rows. If these have words the change adds a segment; when
there are too many, one takes their place, or none if no words are left. -/
def grown (changed : List IndexRow) : IndexTable :=
  if changed.any t.hasTokens then
    let n := t.segments + 1
    { t with segments := if n < segmentLimit then n else if t.rows.any t.hasTokens then 1 else 0 }
  else t

/-- Takes rows out of the table and puts others in. -/
def change (gone added : List IndexRow) : Except DatabaseFault IndexTable := do
  refuse ((gone ++ added).findSome? t.writeFault?)
  let kept := t.rows.filter fun r => !gone.any (·.id == r.id)
  let rows := added.foldl (fun rows row => insertRow row rows) kept
  .ok ({ t with rows }.grown (gone ++ added))

/-- The rows with a number. -/
def rowsAt (id : Int) : List IndexRow :=
  t.rows.filter (·.id == id)

/-- Puts rows into the table. -/
def putAll (rows : List IndexRow) : Except DatabaseFault IndexTable :=
  t.change [] rows

/-- Puts a row into the table. -/
def put (row : IndexRow) : Except DatabaseFault IndexTable :=
  t.putAll [row]

/-- Puts a row into the table in place of the one with its number. -/
def replace (row : IndexRow) : Except DatabaseFault IndexTable := do
  refuse t.scanFault?
  t.change (t.rowsAt row.id) [row]

/-- Takes the row of a number out of the table. -/
def erase (id : Int) : Except DatabaseFault IndexTable := do
  refuse t.scanFault?
  t.change (t.rowsAt id) []

/-- Takes all rows out of the table. -/
def clear : Except DatabaseFault IndexTable := do
  refuse t.scanFault?
  t.change t.rows []

/-! ## Queries -/

/-- The rows as they are searched. -/
def searchRows : List FullText.Row :=
  t.rows.map fun row => ⟨row.id, t.documentOf row⟩

/-- The numbers of the rows that satisfy a query, best first. -/
def search (query : String) : Except DatabaseFault (List Int) :=
  match FullText.Query.ofText t.layout query with
  | .ok q => do
    let hits := FullText.search t.searchRows q
    refuse (t.findFault? q hits)
    .ok hits
  | .error f => .error (.query f)

/-- The number of rows. -/
def size : Except DatabaseFault Nat := do
  let t ← t.use
  refuse t.scanFault?
  .ok t.rows.length

end IndexTable

end EntityFinder
