import EntityFinder.Database.Part
import EntityFinder.Error
import EntityFinder.FullText.Fault

set_option autoImplicit false

/-!
# Why the database refuses a statement

## Main definitions

* `EntityFinder.DatabaseFault`: the causes.
* `EntityFinder.DatabaseFault.message`: the wording of each.
* `EntityFinder.DatabaseFault.isEarly`: the faults of statements that are not carried out at all.
* `EntityFinder.DatabaseFault.toError`: the failure of the call that the statement belongs to.
-/

namespace EntityFinder

/-- Why a statement failed. -/
inductive DatabaseFault where
  /-- A table that does not exist. -/
  | noSuchTable (name : String)
  /-- A word that cannot stand where it stands in a statement. -/
  | syntaxNear (word : String)
  /-- A statement that ends before its time. -/
  | incomplete
  /-- More than one statement where one is expected. -/
  | severalStatements
  /-- A table in a database that does not exist. -/
  | unknownDatabase (name : String)
  /-- A table with a name that the database keeps for itself. -/
  | reservedName (name : String)
  /-- A table with the name of an index. -/
  | indexExists (name : String)
  /-- A table that cannot be dropped. -/
  | notDroppable (name : String)
  /-- A trigger that names its table together with a database. -/
  | qualifiedInTrigger
  /-- A table without a column that a statement fills. -/
  | noColumnNamed (table column : String)
  /-- A column that does not exist. -/
  | noSuchColumn (name : String)
  /-- A full-text table that cannot be made of its columns, or cannot be taken into use. -/
  | tableRefused (name : String)
  /-- A full-text table one of whose parts cannot be created because there is such a table. -/
  | partExists (table : String) (part : Database.Part)
  /-- A full-text table without its words. -/
  | malformedStorage
  /-- A full-text table without something else that it needs. -/
  | logic
  /-- A tokenizer that does not exist. -/
  | noSuchTokenizer (name : String)
  /-- A tokenizer that does not take its arguments. -/
  | tokenizerRefused
  /-- A tokenizer whose declaration does not consist of words. -/
  | unreadableTokenizer
  /-- A tokenizer whose declaration ends before its time. -/
  | brokenTokenizer (declaration : String)
  /-- A piece of a statement that is no word or sign. -/
  | unrecognized (piece : String)
  /-- A stored document that is not JSON. -/
  | malformedDocument
  /-- A full-text query without a meaning. -/
  | query (fault : FullText.QueryFault)
  /-- A stored document that does not hold texts by name. -/
  | undecodable
  /-- A database file that cannot be opened. -/
  | cannotOpen (path : String)
  /-- A file with other content. -/
  | notADatabase
  /-- A database file whose companions cannot be opened. -/
  | noCompanion
  /-- A database file that cannot be read, or whose companions cannot be removed. -/
  | unreadable
  /-- A change of a database that can only be read. -/
  | readOnly
  /-- A file name with a character that no name has, at some byte. -/
  | nulCharacter (position : Nat)
  /-- An identifier of a file on another machine. -/
  | foreignAuthority (authority : String)
  /-- An identifier that asks for a mode that does not exist. -/
  | noSuchMode (kind word : String)
  /-- An identifier that asks for more access than it has allowed before. -/
  | accessNotAllowed (word : String)
  /-- An identifier that asks for a file system that does not exist. -/
  | noSuchSystem (name : String)
  deriving DecidableEq, Repr

namespace DatabaseFault

/-- The wording of a fault. -/
def message : DatabaseFault → String
  | noSuchTable name => "no such table: " ++ name
  | syntaxNear word => "near \"" ++ word ++ "\": syntax error"
  | incomplete => "incomplete input"
  | severalStatements => "Multiple statements provided"
  | unknownDatabase name => "unknown database " ++ name
  | reservedName name => "object name reserved for internal use: " ++ name
  | indexExists name => "there is already an index named " ++ name
  | notDroppable name => "table " ++ name ++ " may not be dropped"
  | qualifiedInTrigger =>
    "qualified table names are not allowed on INSERT, UPDATE, and DELETE statements within triggers"
  | noColumnNamed table column => "table " ++ table ++ " has no column named " ++ column
  | noSuchColumn name => "no such column: " ++ name
  | tableRefused name => "vtable constructor failed: " ++ name
  | partExists table part =>
    "fts5: error creating shadow table " ++ part.tableName table ++ ": table '" ++
      part.tableName table ++ "' already exists"
  | malformedStorage => "database disk image is malformed"
  | logic => "SQL logic error"
  | noSuchTokenizer name => "no such tokenizer: " ++ name
  | tokenizerRefused => "error in tokenizer constructor"
  | unreadableTokenizer => "parse error in tokenize directive"
  | brokenTokenizer declaration => "parse error in \"tokenize='" ++ declaration ++ "'\""
  | unrecognized piece => "unrecognized token: \"" ++ piece ++ "\""
  | malformedDocument => "malformed JSON"
  | query fault => fault.message
  | undecodable => "undecodable"
  | cannotOpen path => "unable to open database file: " ++ path
  | notADatabase => "file is not a database"
  | noCompanion => "unable to open database file"
  | unreadable => "disk I/O error"
  | readOnly => "attempt to write a readonly database"
  | nulCharacter position =>
    "nul byte found in provided data at position: " ++ toString position
  | foreignAuthority authority => "invalid uri authority: " ++ authority
  | noSuchMode kind word => "no such " ++ kind ++ " mode: " ++ word
  | accessNotAllowed word => "access mode not allowed: " ++ word
  | noSuchSystem name => "no such vfs: " ++ name

/-- What lies beneath the message of a fault. -/
def source : DatabaseFault → DatabaseSource
  | undecodable | nulCharacter _ => .conversion
  | accessNotAllowed _ => .code 3
  | readOnly => .code 8
  | unreadable => .code 10
  | malformedStorage => .code 11
  | cannotOpen _ | noCompanion => .code 14
  | notADatabase => .code 26
  | _ => .code 1

/-- Whether a fault comes up when a statement is read, before it is carried out. -/
def isEarly : DatabaseFault → Bool
  | noSuchTable _ | syntaxNear _ | unrecognized _ | incomplete | severalStatements
  | unknownDatabase _ | reservedName _ | indexExists _ | notDroppable _ | qualifiedInTrigger
  | noColumnNamed .. | noSuchColumn _ => true
  | _ => false

/-- The failure of a call whose statement has a fault. -/
def toError (f : DatabaseFault) : FinderError :=
  .database f.message (some f.source)

end DatabaseFault

end EntityFinder
