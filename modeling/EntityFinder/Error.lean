import EntityFinder.Text.Quoted

set_option autoImplicit false

/-!
# Failures

Everything that can go wrong between a finder call and its answer. The first five causes are
mistakes of the caller or of the declarations; the others come from the layers below.

## Main definitions

* `EntityFinder.FinderError`: the causes.
* `EntityFinder.FinderError.message`: the wording of each.
* `EntityFinder.FinderError.isRetryable`: whether the same call may succeed later.
-/

namespace EntityFinder

/-- What the database layer reported beneath its own message. -/
inductive DatabaseSource where
  /-- A result code of the engine; its low byte is the primary code. -/
  | code (value : Int)
  /-- A query that had to return a row returned none. -/
  | noRows
  /-- A stored value that does not convert to what was asked for. -/
  | conversion
  deriving DecidableEq, Repr

/-- Why a call failed. -/
inductive FinderError where
  /-- Criteria without a single entry. -/
  | emptyCriteria
  /-- A property that the entity does not index; `declared` when it does declare it. -/
  | unindexedProperty (entity property : String) (declared : Bool)
  /-- A method name or an argument list that is no finder call. -/
  | invalidDispatch (call : String)
  /-- No usable metadata for an entity. -/
  | metadata (entity text : String)
  /-- An object that belongs to another entity or is of another kind. -/
  | entityTypeMismatch (expected found : String)
  /-- The database refused a statement. -/
  | database (text : String) (source : Option DatabaseSource)
  /-- The file system refused an operation. -/
  | io (text : String) (path : Option String)
  /-- A text that does not read as the value it should hold. -/
  | json (text : String)
  /-- A declaration that contradicts itself. -/
  | config (text : String)
  /-- A name or value that is refused before anything is done. -/
  | validation (field text : String)
  /-- Any other failure. -/
  | other (text : String)
  deriving DecidableEq, Repr

namespace FinderError

/-- A path as messages show it. -/
def shownPath : Option String → String
  | none => "None"
  | some path => "Some(" ++ Text.quoted path ++ ")"

/-- The wording of a failure. -/
def message : FinderError → String
  | emptyCriteria => "The criteria passed to a find method can not be empty"
  | unindexedProperty entity property _ =>
    "Property " ++ property ++ " is not indexed on " ++ entity
  | invalidDispatch call =>
    "Invalid finder call " ++ call ++ ": method name must begin with \"findBy\" or " ++
      "\"findOneBy\" and take exactly one argument"
  | metadata entity text => "Metadata error for " ++ entity ++ ": " ++ text
  | entityTypeMismatch expected found =>
    "Entity type mismatch: expected " ++ expected ++ ", got " ++ found
  | database text _ => "Database error: " ++ text
  | io text path => "IO error at " ++ shownPath path ++ ": " ++ text
  | json text => "JSON error: " ++ text
  | config text => "Configuration error: " ++ text
  | validation field text => "Validation error for " ++ field ++ ": " ++ text
  | other text => text

/-- The primary result code behind a possibly extended one: its low byte. -/
def primaryCode (code : Int) : Nat :=
  (code % 256).toNat

/-- The primary code of a database that another connection is writing to. -/
def busyCode : Nat := 5

/-- The primary code of a table that another statement holds. -/
def lockedCode : Nat := 6

/-- Whether the same call may succeed when it is tried again. -/
def isRetryable : FinderError → Bool
  | database _ none => true
  | database _ (some (.code value)) =>
    primaryCode value == busyCode || primaryCode value == lockedCode
  | _ => false

end FinderError

end EntityFinder
