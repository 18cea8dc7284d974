import EntityFinder.Files.Tree
import EntityFinder.NodeStore.Basic
import EntityFinder.NodeStore.Location

set_option autoImplicit false

/-!
# Opening and closing a store

A store either lives in a file or is gone when it is closed. Opening a file that does not exist
creates it, together with the directories above it. While a database is open it has companions,
files whose names are longer than its own; what stands in their way keeps it from being used.

## Main definitions

* `EntityFinder.NodeStore.openFile`: opens the store that a name stands for.
* `EntityFinder.NodeStore.inMemory`: a store without a file.
* `EntityFinder.NodeStore.save`: leaves the contents of a store in its file.
-/

namespace EntityFinder.NodeStore

/-! ## The place of a file -/

/-- The bytes that the name of a file with companions may have. -/
def longestOwnName : Nat := 247

/-- The bytes that the names down to a file may have, with the slashes between them. -/
def longestPlace : Nat := 488

/-- Goes one name further to the file of a database. Here two dots undo the name before them,
whatever it leads to, but no name may lead through a file. -/
def approach (tree : FileTree) (p : FilePath) (name : String) : Option FilePath :=
  let q := p.step name
  if longestPlace < q.text.utf8ByteSize then none
  else match tree.walk q with
    | .ok _ | .error .notFound => some q
    | .error _ => none

/-- The place of the file of a database. -/
def placeOf? (tree : FileTree) (path : String) : Option FilePath :=
  (namesOf path).foldlM (approach tree) []

/-! ## What a file holds -/

/-- The bytes that a file has without being read as a database. -/
def negligibleSize : Nat := 1

/-- The database that a file holds, if it has been set up. -/
def databaseIn? : FileContent → Except DatabaseFault (Option Database)
  | .database d => .ok (some d)
  | .text content =>
    if content.utf8ByteSize ≤ negligibleSize then .ok none else .error .notADatabase
  | .bytes size => if size ≤ negligibleSize then .ok none else .error .notADatabase

/-- What a file that is to be opened contains. A file that does not exist is created empty. -/
def contentAt (l : Location) (name : String) (tree : FileTree) (p : FilePath) :
    Except DatabaseFault FileContent :=
  match tree.entry? p with
  | some (.file content) => .ok content
  | some .directory => .error (if l.access = .reading then .unreadable else .cannotOpen name)
  | none =>
    match tree.walk p with
    | .ok _ => if l.access = .creating then .ok (.text "") else .error (.cannotOpen name)
    | .error _ => .error (.cannotOpen name)

/-! ## Companions -/

/-- The place of a companion of a file. -/
def companion (p : FilePath) (ending : String) : FilePath :=
  p.dropLast ++ p.getLast?.toList.map (· ++ ending)

/-- Whether a directory is where a companion has to be. -/
def isTaken (tree : FileTree) (p : FilePath) (ending : String) : Bool :=
  tree.entry? (companion p ending) == some .directory

/-- Whether a name is too long to be followed by the ending of a companion. -/
def isOverlong (p : FilePath) : Bool :=
  p.getLast?.any fun name => longestOwnName < name.utf8ByteSize

/-- Refuses a file whose journal or log cannot be opened, or cannot be removed. Which of these is
tried depends on whether the database has been set up. -/
def checkCompanions (tree : FileTree) (p : FilePath) (isSetUp : Bool) :
    Except DatabaseFault Unit :=
  if isOverlong p then .error .noCompanion
  else if isTaken tree p "-journal" then
    .error (if isSetUp then .unreadable else .noCompanion)
  else if isTaken tree p "-wal" then
    .error (if isSetUp then .noCompanion else .unreadable)
  else .ok ()

/-- Whether the contents of a file can only be read: that is asked for, or the place where its
readers meet is taken. -/
def isFixed (l : Location) (tree : FileTree) (p : FilePath) : Bool :=
  l.isReadOnly || isTaken tree p "-shm"

/-! ## Opening -/

/-- Sets a database up unless that has been done. One that can only be read cannot be set up. -/
def setUp (isFixed : Bool) : Option Database → Except DatabaseFault Database
  | some d => .ok { d.atRest with isReadOnly := isFixed }
  | none => if isFixed then .error .readOnly else .ok .empty

/-- The database in the file of a location. -/
def readDatabase (l : Location) (name : String) (tree : FileTree) :
    Except DatabaseFault (FilePath × Database) :=
  match placeOf? tree l.path with
  | none => .error (.cannotOpen name)
  | some p => do
    let content ← contentAt l name tree p
    let found ← databaseIn? content
    checkCompanions tree p found.isSome
    let d ← setUp (isFixed l tree p) found
    .ok (p, d)

/-- A database that is kept in a file; the file is open to changes when it is opened again. -/
def keep (d : Database) (p : FilePath) (tree : FileTree) : FileTree :=
  tree.put p (.file (.database { d with isReadOnly := false }))

/-- A store without a file. -/
def inMemory (config : IndexConfig) : NodeStore :=
  opened config .empty

/-- The failure of a store that cannot create the directory of its file. -/
def parentError (parent : String) : FinderError :=
  .io ("Failed to create directory " ++ parent) (some parent)

/-- Creates the directory that a path leads into, unless it exists. -/
def ensureParent (path : String) : Action FileTree Unit :=
  let parent := (parentText? path).getD ""
  if parent = "" then pure ()
  else Action.attempt (FileTree.ensureDirectory parent) fun _ => parentError parent

/-- The database that a name stands for. -/
def openDatabase (name : String) (tree : FileTree) :
    Except DatabaseFault (Database × FileTree) := do
  let l ← Location.ofName name
  if l.isNowhere then do
    let d ← setUp (l.access = .reading) none
    .ok (d, tree)
  else do
    let (p, d) ← readDatabase l name tree
    .ok (d, keep d p tree)

/-- Opens the store that a name stands for. Its file is created unless it exists. -/
def openFile (config : IndexConfig) (name : String) : Action FileTree NodeStore := do
  ensureParent name
  let d ← Action.atomic fun tree => (openDatabase name tree).mapError DatabaseFault.toError
  return opened config d

/-- Leaves the contents of a store in the file that a name stands for, unless that is gone. -/
def save (store : NodeStore) (name : String) (tree : FileTree) : FileTree :=
  match Location.ofName name with
  | .error _ => tree
  | .ok l =>
    if l.isNowhere then tree
    else match placeOf? tree l.path with
      | none => tree
      | some p =>
        match tree.entry? p with
        | some (.file (.database _)) => keep store.database p tree
        | _ => tree

end EntityFinder.NodeStore
