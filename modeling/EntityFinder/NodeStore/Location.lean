import EntityFinder.Database.Fault
import EntityFinder.Text.Identifier
import EntityFinder.Text.Uri

set_option autoImplicit false

/-!
# Where a database is kept

A database is named by a path, or by an identifier whose query says more. It either lives in a
file, or nowhere: then it is gone when it is closed.

## Main definitions

* `EntityFinder.Access`: what may be done to a database.
* `EntityFinder.Location`: where a database is kept, and what may be done to it.
* `EntityFinder.Location.ofName`: the location that a name stands for.
-/

namespace EntityFinder

/-- What may be done to a database. -/
inductive Access where
  /-- It is read. -/
  | reading
  /-- It is changed if it exists. -/
  | changing
  /-- It is created unless it exists, and changed. -/
  | creating
  /-- It is made up in memory, and changed. -/
  | inMemory
  deriving DecidableEq, Repr

namespace Access

/-- The word for an access. -/
def word : Access → String
  | reading => "ro"
  | changing => "rw"
  | creating => "rwc"
  | inMemory => "memory"

/-- How much an access allows. -/
def rank : Access → Nat
  | reading => 0
  | changing => 1
  | creating => 2
  | inMemory => 3

/-- The access that a word stands for. -/
def ofWord? (word : String) : Option Access :=
  [reading, changing, creating, inMemory].find? (·.word == word)

/-- Replaces an access by the one that a word stands for, which may not allow more. A database in
memory is always allowed. -/
def restrict (a : Access) (word : String) : Except DatabaseFault Access :=
  match ofWord? word with
  | none => .error (.noSuchMode "access" word)
  | some inMemory => .ok inMemory
  | some b => if b.rank ≤ a.rank then .ok b else .error (.accessNotAllowed word)

end Access

/-- Where a database is kept, and what may be done to it. -/
structure Location where
  /-- The path of its file; the empty path is that of a database that lives nowhere. -/
  path : String
  /-- What may be done to it. -/
  access : Access
  /-- Whether its file does not change, whatever the access. -/
  immutable : Bool
  deriving DecidableEq, Repr

namespace Location

/-- The name of a database in memory. -/
def memoryName : String := ":memory:"

/-- Whether a database is gone when it is closed. -/
def isNowhere (l : Location) : Bool :=
  l.path == "" || l.path == memoryName || l.access == .inMemory

/-- Whether a database can only be read. -/
def isReadOnly (l : Location) : Bool :=
  l.access == .reading || l.immutable

/-! ## Queries -/

/-- The words for a shared and an own cache. -/
def cacheWords : List String := ["shared", "private"]

/-- The systems that keep files. -/
def fileSystems : List String := ["unix", "unix-none", "unix-dotfile", "unix-excl"]

/-- The system that keeps databases in memory. -/
def memorySystem : String := "memdb"

/-- What a number at the front of a text amounts to in one byte. -/
def leadingByte (value : String) : Nat :=
  ((value.toList.takeWhile Char.isDigit).foldl
    (fun n c => 10 * n + (c.toNat - '0'.toNat)) 0) % 256

/-- Whether a value says yes. -/
def saysYes (value : String) : Bool :=
  match value.toList with
  | [] => false
  | c :: _ =>
    if c.isDigit then leadingByte value != 0
    else ["on", "yes", "true"].any (Text.sameName value)

/-- The access that a query leaves of an access. Its parts are looked at in order. -/
def accessOf (access : Access) : List (String × String) → Except DatabaseFault Access
  | [] => .ok access
  | (name, value) :: rest =>
    if name = "mode" then do
      let access ← access.restrict value
      accessOf access rest
    else if name = "cache" ∧ value ∉ cacheWords then .error (.noSuchMode "cache" value)
    else accessOf access rest

/-- The system that a query asks for; of several the last counts. -/
def systemOf (query : List (String × String)) : String :=
  (query.reverse.lookup "vfs").getD "unix"

/-- The machines that are this one. -/
def ownAuthorities : List String := ["", "localhost"]

/-- The location that an identifier stands for. -/
def ofUri (uri : Text.Uri) : Except DatabaseFault Location :=
  if uri.authority ∉ ownAuthorities then .error (.foreignAuthority uri.authority)
  else do
    let access ← accessOf .creating uri.query
    let system := systemOf uri.query
    if system = memorySystem then .ok ⟨uri.path, .inMemory, false⟩
    else if system ∉ fileSystems then .error (.noSuchSystem system)
    else .ok ⟨uri.path, access, saysYes ((uri.value? "immutable").getD "")⟩

/-- The location that a name stands for. -/
def ofName (name : String) : Except DatabaseFault Location :=
  match name.toList.span (· != '\x00') with
  | (before, _ :: _) => .error (.nulCharacter (String.ofList before).utf8ByteSize)
  | (_, []) =>
    match Text.Uri.ofText? name with
    | some uri => ofUri uri
    | none => .ok ⟨name, .creating, false⟩

end Location

end EntityFinder
