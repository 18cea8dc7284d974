import EntityFinder.Error
import EntityFinder.Text.Identifier
import EntityFinder.Text.LetterCase

set_option autoImplicit false

/-!
# Names inside the database

Every entity with searchable properties has a full-text table of its own. Table names are compared
without regard to case, so the capitals of an entity name are spelled out.

## Main definitions

* `EntityFinder.IndexConfig`: how tables are named and texts are cut into tokens.
* `EntityFinder.IndexConfig.tableName`: the table of an entity.
* `EntityFinder.validateIdentifier`: the names that may become part of a statement.
-/

namespace EntityFinder

/-- How full-text tables are named and filled. -/
structure IndexConfig where
  /-- What every table name begins with. -/
  tablePrefix : String
  /-- How the tables cut texts into tokens. -/
  tokenizer : String
  deriving DecidableEq, Repr

namespace IndexConfig

/-- The usual configuration. -/
def standard : IndexConfig :=
  ⟨"node_index", "unicode61 remove_diacritics 1"⟩

/-- A character of an entity name inside a table name: an underscore is doubled, and a capital is
written as an underscore and its lower-case form. -/
def escapeChar (c : Char) : List Char :=
  if c = '_' then ['_', '_']
  else if Text.isUpper c then '_' :: Text.lower c
  else [c]

/-- The part of a table name that stands for an entity. -/
def escapeEntity (entity : List Char) : List Char :=
  entity.flatMap escapeChar

/-- The full-text table of an entity. -/
def tableName (config : IndexConfig) (entity : String) : String :=
  config.tablePrefix ++ "_" ++ String.ofList (escapeEntity entity.toList)

end IndexConfig

/-- The names that a full-text table keeps for itself. -/
def reservedColumns : List String := ["rank", "rowid"]

/-- Refuses a name that is no identifier or that a full-text table keeps for itself. -/
def validateIdentifier (field name : String) : Except FinderError Unit :=
  if !Text.isIdentifier name then
    .error (.validation field ("'" ++ name ++ "' is not a valid identifier"))
  else if reservedColumns.any (Text.sameName · name) then
    .error (.validation field ("'" ++ name ++ "' is reserved by the full-text index"))
  else .ok ()

end EntityFinder
