import EntityFinder.Entity.Codec
import EntityFinder.Files.Tree
import EntityFinder.Metadata.Cache

set_option autoImplicit false

/-!
# Schemas from a directory

Every file with the extension `json` in a schema directory may declare one entity. Files that
cannot be read, that do not hold a schema, or whose schema contradicts itself, are passed over.

## Main definitions

* `EntityFinder.SchemaLibrary`: the schemas that have been loaded.
* `EntityFinder.schemaOfFile?`: the schema that a file of a directory declares.
* `EntityFinder.SchemaLibrary.load`: the schemas of the files of a directory.
* `EntityFinder.SchemaLibrary.reload`: reads the directory again.
* `EntityFinder.SchemaLibrary.fromDirectory`: reads a directory for the first time, creating
  it if needed.
* `EntityFinder.SchemaLibrary.source`: the schemas as a source of metadata.
-/

namespace EntityFinder

/-- The schemas of a directory. -/
structure SchemaLibrary where
  /-- The directory. -/
  directory : String
  /-- The schemas, each entity once. -/
  schemas : List EntitySchema
  deriving DecidableEq, Repr

/-- The extension of files that declare entities. -/
def schemaExtension : String := "json"

/-- The schema in a text that was read from a path. -/
def EntitySchema.ofText (path text : String) : Except FinderError EntitySchema := do
  let s ← ofJson EntitySchema.decoder text
  s.validate path
  .ok s

/-- The schema that an entry of a directory declares, if it declares one. -/
def schemaOfFile? (directory : String) : String × FileEntry → Option EntitySchema
  | (name, .file (.text text)) =>
    if extension? name = some schemaExtension then
      match EntitySchema.ofText (directory ++ "/" ++ name) text with
      | .ok s => some s
      | .error _ => none
    else none
  | _ => none

namespace SchemaLibrary

/-- Adds a schema in place of the one of the same entity. -/
def addSchema (s : EntitySchema) : List EntitySchema → List EntitySchema
  | [] => [s]
  | old :: rest => if old.name = s.name then s :: rest else old :: addSchema s rest

/-- The schemas that the entries of a directory declare, in the order of the entries. -/
def declared (directory : String) (files : List (String × FileEntry)) : List EntitySchema :=
  files.filterMap (schemaOfFile? directory)

/-- The schemas of a directory; of several for one entity the last counts. -/
def load (directory : String) (files : List (String × FileEntry)) : List EntitySchema :=
  (declared directory files).foldl (fun known s => addSchema s known) []

/-- A library in which nothing has been loaded. -/
def unloaded (directory : String) : SchemaLibrary := ⟨directory, []⟩

/-- Reads the directory again and returns the number of files that declare an entity. When the
directory cannot be read, nothing is loaded any more. -/
def reload (tree : FileTree) : Action SchemaLibrary Nat :=
  Action.ofFunction fun library =>
    match tree.list library.directory with
    | .error e =>
      (.error (.io ("Failed to read schema directory: " ++ e.message) (some library.directory)),
        unloaded library.directory)
    | .ok files =>
      (.ok (declared library.directory files).length,
        ⟨library.directory, load library.directory files⟩)

/-- The failure of a library that cannot create its directory. -/
def creationError (directory : String) (e : OsError) : FinderError :=
  .io ("Failed to create schema directory: " ++ e.message) (some directory)

/-- Reads a directory for the first time. -/
def fromDirectory (directory : String) : Action FileTree SchemaLibrary := do
  Action.attempt (FileTree.ensureDirectory directory) (creationError directory)
  let (outcome, library) := (reload (← get)).perform (unloaded directory)
  let _ ← Action.ofExcept outcome
  return library

/-- The schema of an entity. -/
def schema? (library : SchemaLibrary) (entity : String) : Option EntitySchema :=
  library.schemas.find? (·.name == entity)

/-- The entities that are declared, in the order of their names. -/
def entityNames (library : SchemaLibrary) : List String :=
  (library.schemas.map (·.name)).mergeSort fun a b => a ≤ b

/-- The properties that are declared for an entity type. Only general objects can be declared. -/
def declarations (library : SchemaLibrary) (type : EntityType) :
    Except FinderError (List PropertyDeclaration) :=
  if type.kind ≠ .node then .error (.metadata type.name "schema entities hydrate into Node only")
  else match library.schema? type.name with
    | some s => .ok s.properties
    | none => .error (.metadata type.name ("no schema file in " ++ library.directory))

/-- The schemas as a source of metadata. -/
def source : MetadataSource SchemaLibrary where
  introspect type := Action.query fun library => library.declarations type

end SchemaLibrary

end EntityFinder
