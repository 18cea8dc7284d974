import EntityFinder.Database.Fault
import EntityFinder.Database.Piece

set_option autoImplicit false

/-!
# Names inside statements

Names of tables and columns stand in statements as they are. A text that is more or less than a
name makes the statement stumble over the first piece that does not belong to it; a name that is a
word of the statement language is such a piece itself.

## Main definitions

* `EntityFinder.Database.reservedWords`: the words that cannot be names.
* `EntityFinder.Database.TableName`: the name of a table and of the database that it belongs to.
* `EntityFinder.Database.TableName.alone`, `EntityFinder.Database.TableName.declared`: the name in
  a text, at the end of a statement or in the declaration of a table.
* `EntityFinder.Database.checkColumnNames`: refuses columns that cannot be named in a statement.
-/

namespace EntityFinder.Database

/-! ## Reserved words -/

/-- The words that cannot be names. -/
def reservedWords : List String :=
  ["add", "all", "alter", "and", "as", "autoincrement", "between", "case", "check", "collate",
   "commit", "constraint", "create", "default", "deferrable", "delete", "distinct", "drop", "else",
   "escape", "except", "exists", "foreign", "from", "group", "having", "in", "index", "insert",
   "intersect", "into", "is", "isnull", "join", "limit", "not", "nothing", "notnull", "null", "on",
   "or", "order", "primary", "references", "returning", "select", "set", "table", "then", "to",
   "transaction", "union", "unique", "update", "using", "values", "when", "where"]

/-- Whether a name is a reserved word, in whatever case it is written. -/
def isReserved (name : String) : Bool :=
  reservedWords.contains (Text.lowerAscii name)

/-- Refuses the first column whose name is a reserved word. -/
def checkColumnNames (columns : List String) : Except DatabaseFault Unit :=
  match columns.find? isReserved with
  | none => .ok ()
  | some word => .error (.syntaxNear word)

/-! ## Reading names -/

namespace Piece

/-- The name that a piece is. -/
def name? : Piece → Option String
  | word text => if isReserved (String.ofList text) then none else some (String.ofList text)
  | quoted name _ => some (String.ofList name)
  | sign _ | stray _ => none

/-- The fault of a statement with a piece that cannot stand where it stands. -/
def fault : Piece → DatabaseFault
  | stray text => .unrecognized (String.ofList text)
  | piece => .syntaxNear (String.ofList piece.written)

/-- The name at the front of a statement, and what follows it. -/
def takeName : List Piece → Except DatabaseFault (String × List Piece)
  | [] => .error .incomplete
  | piece :: rest =>
    match piece.name? with
    | some name => .ok (name, rest)
    | none => .error piece.fault

/-- Whether a piece is a word, in whatever case it is written. -/
def isWord (word : String) : Piece → Bool
  | .word text => Text.sameName (String.ofList text) word
  | _ => false

/-- Refuses a statement that does not end. A semicolon begins another statement. -/
def checkEnd : List Piece → Except DatabaseFault Unit
  | [] => .ok ()
  | piece :: _ => .error (if piece = sign [';'] then .severalStatements else piece.fault)

/-- Refuses a statement that does not end behind parentheses some of which are open. -/
def checkClosed : Nat → List Piece → Except DatabaseFault Unit
  | _, [] => .error .incomplete
  | depth, piece :: rest =>
    match piece with
    | stray _ => .error piece.fault
    | sign ['('] => checkClosed (depth + 1) rest
    | sign [')'] =>
      match depth with
      | 0 => checkEnd rest
      | depth + 1 => checkClosed depth rest
    | _ => checkClosed depth rest

end Piece

/-- The name of a table. -/
structure TableName where
  /-- The database that it names, if it names one, as it is written. -/
  schema? : Option Piece
  /-- The name inside the database. -/
  table : String
  deriving DecidableEq, Repr

namespace TableName

/-- The name of a table at the front of a statement, and what follows it. -/
def take (pieces : List Piece) : Except DatabaseFault (TableName × List Piece) := do
  let (name, rest) ← Piece.takeName pieces
  match rest with
  | .sign ['.'] :: behindDot => do
    let (table, rest) ← Piece.takeName behindDot
    .ok (⟨pieces.head?, table⟩, rest)
  | _ => .ok (⟨none, name⟩, rest)

/-- The name that a text is as it stands: one word that is not reserved. -/
def plain? (text : String) : Option TableName :=
  if Text.isIdentifier text && !isReserved text then some ⟨none, text⟩ else none

/-- The name that ends a statement. -/
def alone (text : String) : Except DatabaseFault TableName :=
  match plain? text with
  | some name => .ok name
  | none => do
    let (name, rest) ← take (Piece.pieces text)
    Piece.checkEnd rest
    if text.toList.contains '\x00' then .error .severalStatements else .ok name

/-- The databases that a statement may name. -/
def schemas : List String := ["main", "temp"]

/-- Tables of its own that every database has, and the names that they go by. -/
def fixedTables : List (String × String) :=
  [("sqlite_master", "sqlite_master"), ("sqlite_schema", "sqlite_master"),
   ("sqlite_sequence", "sqlite_sequence")]

/-- Refuses to drop a table that every database has. -/
def checkDroppable (name : TableName) : Except DatabaseFault Unit :=
  match fixedTables.lookup (Text.lowerAscii name.table) with
  | none => .ok ()
  | some table => .error (.notDroppable table)

/-- Whether a name begins like those that the database keeps for itself. -/
def isKept (name : TableName) : Bool :=
  "sqlite_".toList.isPrefixOf (Text.lowerAscii name.table).toList

/-- The index of the nodes by their entities. -/
def entityIndex : String := "idx_nodes_entity"

/-- Whether a piece names a database. -/
def isSchema (piece : Piece) : Bool :=
  piece.name?.any fun name => schemas.any (Text.sameName name)

/-- Refuses the name of a table that is to be declared. -/
def checkUsable (name : TableName) : Except DatabaseFault Unit :=
  match name.schema?.filter fun piece => !isSchema piece with
  | some piece => .error (.unknownDatabase (String.ofList piece.written))
  | none => if name.isKept then .error (.reservedName name.table) else .ok ()

/-- The end of the declaration of a table: a text in quotes and a parenthesis. -/
def declarationEnd (tokenizer : String) : String :=
  "'" ++ tokenizer ++ "')"

/-- The declaration of a table, from its name on. -/
def declaration (text : String) (columns : List String) (tokenizer : String) : String :=
  text ++ " USING fts5(" ++ ", ".intercalate columns ++ ", tokenize=" ++ declarationEnd tokenizer

/-- The name at the front of a declaration. Behind it come the word `USING`, the name of a kind of
tables, and parentheses. -/
def takeDeclared (pieces : List Piece) : Except DatabaseFault TableName := do
  let (name, rest) ← take pieces
  match rest with
  | [] => .error .incomplete
  | piece :: rest =>
    if piece.isWord "using" then do
      let (_, rest) ← Piece.takeName rest
      name.checkUsable
      match rest with
      | .sign ['('] :: rest => do
        Piece.checkClosed 0 rest
        .ok name
      | rest => do
        Piece.checkEnd rest
        .ok name
    else .error piece.fault

/-- The name of a table that is declared with some columns and a tokenizer. Behind a plain name only
the tokenizer can make the statement stumble. -/
def declared (text : String) (columns : List String) (tokenizer : String) :
    Except DatabaseFault TableName :=
  match plain? text with
  | some name => do
    name.checkUsable
    Piece.checkClosed 0 (Piece.pieces (declarationEnd tokenizer))
    .ok name
  | none => takeDeclared (Piece.pieces (declaration text columns tokenizer))

end TableName

end EntityFinder.Database
