import EntityFinder.Text.Identifier

set_option autoImplicit false

/-!
# The parts of a full-text table

A full-text table keeps its contents in five tables of its own, its parts. Their names are made
from its name, so another table can have the name of a part.

## Main definitions

* `EntityFinder.Database.Part`: the parts.
* `EntityFinder.Database.Part.tableName`: the table that a part is.
* `EntityFinder.Database.Part.hasColumn`: the columns of that table.
-/

namespace EntityFinder.Database

/-- A part of a full-text table. -/
inductive Part where
  /-- The words and where they occur. -/
  | data
  /-- What is where among the words. -/
  | idx
  /-- The texts. -/
  | content
  /-- The lengths of the texts. -/
  | docsize
  /-- The settings. -/
  | config
  deriving DecidableEq, Repr

namespace Part

/-- The parts in the order in which they are created. -/
def all : List Part := [data, idx, content, docsize, config]

/-- The word that names a part. -/
def word : Part → String
  | data => "data"
  | idx => "idx"
  | content => "content"
  | docsize => "docsize"
  | config => "config"

/-- The table that a part of a full-text table is. -/
def tableName (table : String) (p : Part) : String :=
  table ++ "_" ++ p.word

/-- Whether the rows of a part have numbers. -/
def isNumbered : Part → Bool
  | data | content | docsize => true
  | idx | config => false

/-- The columns of a part of a table with a number of columns. -/
def columnNames (count : Nat) : Part → List String
  | data => ["id", "block"]
  | idx => ["segid", "term", "pgno"]
  | content => "id" :: (List.range count).map fun n => "c" ++ toString n
  | docsize => ["id", "sz"]
  | config => ["k", "v"]

/-- Whether a part of a table with a number of columns has a column. -/
def hasColumn (count : Nat) (p : Part) (column : String) : Bool :=
  (p.columnNames count).any (Text.sameName column)

/-- Whether a full-text table without the part cannot be taken into use. -/
def isEssential : Part → Bool
  | data | config => true
  | idx | content | docsize => false

end Part

end EntityFinder.Database
