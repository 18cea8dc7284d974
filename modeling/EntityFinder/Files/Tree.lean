import EntityFinder.Database.Basic
import EntityFinder.Files.Path

set_option autoImplicit false

/-!
# Files

The files that a program reads and writes, below one directory. Schemas are texts; databases are
kept as what they contain. A path is followed name by name, and every name but the last has to be
that of a directory, even where the next one goes back.

## Main definitions

* `EntityFinder.FileTree`: files and directories by their places.
* `EntityFinder.FileTree.locate`: the place that a path leads to.
* `EntityFinder.FileTree.find`: what there is at that place.
* `EntityFinder.FileTree.list`: what a directory holds.
* `EntityFinder.FileTree.createDirectories`: creates a directory and those above it.
* `EntityFinder.OsError`: why the file system refuses.
-/

namespace EntityFinder

/-! ## Errors -/

/-- Why the file system refuses an operation. -/
inductive OsError where
  /-- A name on the path belongs to a file. -/
  | notADirectory
  /-- A name on the path does not exist. -/
  | notFound
  /-- There is something of that name. -/
  | fileExists
  /-- A name or the whole path has too many bytes. -/
  | nameTooLong
  /-- A path with a character that no path has. -/
  | nulCharacter
  deriving DecidableEq, Repr

/-- The wording of an error. -/
def OsError.message : OsError → String
  | notADirectory => "Not a directory (os error 20)"
  | notFound => "No such file or directory (os error 2)"
  | fileExists => "File exists (os error 17)"
  | nameTooLong => "File name too long (os error 36)"
  | nulCharacter => "file name contained an unexpected NUL byte"

/-! ## Trees -/

/-- What a file contains. -/
inductive FileContent where
  /-- A text. -/
  | text (content : String)
  /-- Some number of bytes that are no text. -/
  | bytes (size : Nat)
  /-- A database. -/
  | database (content : Database)
  deriving DecidableEq, Repr

/-- What a path leads to. -/
inductive FileEntry where
  /-- A file. -/
  | file (content : FileContent)
  /-- A directory. -/
  | directory
  deriving DecidableEq, Repr

/-- Files and directories by their places; every directory has an entry of its own. -/
structure FileTree where
  /-- The entries, each place once. -/
  entries : List (FilePath × FileEntry)
  deriving DecidableEq, Repr

namespace FileTree

/-- An empty directory. -/
def empty : FileTree := ⟨[]⟩

/-- What there is at a place. -/
def entry? (tree : FileTree) (p : FilePath) : Option FileEntry :=
  if p.isEmpty then some .directory else tree.entries.lookup p

/-- Puts an entry in place of the one at the same place. -/
def putEntry (p : FilePath) (e : FileEntry) : List (FilePath × FileEntry) →
    List (FilePath × FileEntry)
  | [] => [(p, e)]
  | (q, old) :: rest => if q = p then (q, e) :: rest else (q, old) :: putEntry p e rest

/-- Puts an entry at a place. -/
def put (tree : FileTree) (p : FilePath) (e : FileEntry) : FileTree :=
  ⟨putEntry p e tree.entries⟩

/-! ## Following a path -/

/-- The bytes that a name may have. -/
def longestName : Nat := 255

/-- The bytes that a path may have. -/
def longestPath : Nat := 4095

/-- The names of a path that can be followed. The empty path leads nowhere. -/
def followed (path : String) : Except OsError (List String) :=
  if '\x00' ∈ path.toList then .error .nulCharacter
  else if path = "" then .error .notFound
  else if longestPath < path.utf8ByteSize then .error .nameTooLong
  else .ok (namesOf path)

/-- Goes one name further from a place, which has to be a directory. -/
def enter (tree : FileTree) (p : FilePath) (name : String) : Except OsError FilePath :=
  match tree.entry? p with
  | none => .error .notFound
  | some (.file _) => .error .notADirectory
  | some .directory =>
    if longestName < name.utf8ByteSize then .error .nameTooLong else .ok (p.step name)

/-- Follows names. There may be nothing at the last of them. -/
def walk (tree : FileTree) (names : List String) : Except OsError FilePath :=
  names.foldlM tree.enter []

/-- The place that a path leads to. There may be nothing there. -/
def locate (tree : FileTree) (path : String) : Except OsError FilePath := do
  let names ← followed path
  tree.walk names

/-- What there is at the place that a path leads to. -/
def find (tree : FileTree) (path : String) : Except OsError FileEntry := do
  let p ← tree.locate path
  match tree.entry? p with
  | some e => .ok e
  | none => .error .notFound

/-- Whether a path leads to anything. -/
def contains (tree : FileTree) (path : String) : Bool :=
  match tree.find path with
  | .ok _ => true
  | .error _ => false

/-- Whether a path leads to a directory. -/
def isDirectory (tree : FileTree) (path : String) : Bool :=
  match tree.find path with
  | .ok .directory => true
  | _ => false

/-- What a directory holds, by name. -/
def list (tree : FileTree) (path : String) : Except OsError (List (String × FileEntry)) := do
  let p ← tree.locate path
  match tree.entry? p with
  | some .directory => .ok (tree.entries.filterMap fun (q, e) =>
      match q.getLast? with
      | some name => if q.dropLast = p then some (name, e) else none
      | none => none)
  | some (.file _) => .error .notADirectory
  | none => .error .notFound

/-! ## Creating directories -/

/-- Creates a directory in a directory that exists. Slashes behind the last name do not count,
and nothing is created where a path ends in dots. -/
def createDirectory (tree : FileTree) (path : String) : Except OsError FileTree := do
  let names ← followed path
  match names.reverse.dropWhile (· == "") with
  | [] => .error .fileExists
  | last :: above =>
    let p ← tree.walk above.reverse
    let q ← tree.enter p last
    if (tree.entry? q).isSome then .error .fileExists else .ok (tree.put q .directory)

/-- Creates a directory, which may exist by now, in a directory that exists. -/
def createMissing (path : String) (tree : FileTree) : Except OsError Unit × FileTree :=
  match tree.createDirectory path with
  | .ok created => (.ok (), created)
  | .error e => (if tree.isDirectory path then .ok () else .error e, tree)

/-- Creates the first of some directories, and before it those that follow as far as they are
needed. What has been created stays, even if the rest fails. -/
def createInside : List String → FileTree → Except OsError Unit × FileTree
  | [], tree => (.ok (), tree)
  | path :: above, tree =>
    match tree.createDirectory path with
    | .error .notFound =>
      match createInside above tree with
      | (.ok (), tree) => createMissing path tree
      | (.error e, tree) => (.error e, tree)
    | _ => createMissing path tree

/-- Creates a directory and those above it. -/
def createDirectories (path : String) (tree : FileTree) : Except OsError Unit × FileTree :=
  createInside (ancestors path) tree

/-- Creates a directory and those above it, unless the path leads to something. -/
def ensureDirectory (path : String) (tree : FileTree) : Except OsError Unit × FileTree :=
  if tree.contains path then (.ok (), tree) else createDirectories path tree

/-! ## Writing and removing -/

/-- Writes a file; the directories above it are created. -/
def write (tree : FileTree) (path : String) (content : FileContent) : FileTree :=
  let tree := (createDirectories ((parentText? path).getD "") tree).2
  match tree.locate path with
  | .ok p => tree.put p (.file content)
  | .error _ => tree

/-- Removes a file, or a directory with everything in it. -/
def remove (tree : FileTree) (path : String) : FileTree :=
  match tree.locate path with
  | .ok p => ⟨tree.entries.filter fun (q, _) => !p.isPrefixOf q⟩
  | .error _ => tree

end FileTree

end EntityFinder
