import EntityFinder.CommandLine.Invocation
import EntityFinder.Mapper
import EntityFinder.Metadata.SchemaLibrary
import EntityFinder.NodeStore.Opening
import EntityFinder.Text.Terminal

set_option autoImplicit false

/-!
# Running a command

A run reads the schemas, opens the store, and shows what the command asks for. Only the query of
criteria needs neither.

## Main definitions

* `EntityFinder.CommandLine.Outcome`: what a run shows and how it ends.
* `EntityFinder.CommandLine.Failure`: why a run fails.
* `EntityFinder.CommandLine.perform`: what a command does to an open store.
* `EntityFinder.CommandLine.run`: a run from its arguments.
-/

namespace EntityFinder.CommandLine

/-! ## Outcomes -/

/-- Why a run fails. -/
inductive Failure where
  /-- The schemas of a directory cannot be loaded. -/
  | loading (directory : String) (cause : FinderError)
  /-- The store in a file cannot be opened. -/
  | opening (path : String) (cause : FinderError)
  /-- The command itself fails. -/
  | finding (error : FinderError)
  deriving DecidableEq, Repr

namespace Failure

/-- The wording of a failure. -/
def message : Failure → String
  | loading directory _ => "loading schemas from " ++ directory
  | opening path _ => "opening node store " ++ path
  | finding error => error.message

/-- What lies beneath a failure. -/
def cause? : Failure → Option String
  | loading _ cause => some cause.message
  | opening _ cause => some cause.message
  | finding (.database text (some _)) => some text
  | finding _ => none

end Failure

/-- What a run shows and how it ends. -/
structure Outcome where
  /-- The exit code. -/
  code : Nat
  /-- What is shown. -/
  output : String
  /-- The line that says why the run failed, if one does. A text of several lines is cut. -/
  error : Option String
  /-- What lies beneath the failure. -/
  cause : Option String
  deriving DecidableEq, Repr

namespace Outcome

/-- A run that shows something. -/
def success (output : String) : Outcome := ⟨0, output, none, none⟩

/-- A line without the carriage return at its end. -/
def withoutReturn (line : List Char) : List Char :=
  match line.reverse with
  | '\r' :: rest => rest.reverse
  | _ => line

/-- The first line of a text. -/
def firstLine (text : String) : String :=
  String.ofList (withoutReturn (text.toList.takeWhile (· != '\n')))

/-- A run that fails. -/
def failure (f : Failure) : Outcome :=
  ⟨1, "", some (firstLine ("Error: " ++ f.message)), f.cause?.map firstLine⟩

/-- The explanation of a value that is refused, with the emphasis that it has on a terminal. -/
def rejection (value taker reason : String) : String :=
  Text.Terminal.emphasized "error:" ++ " invalid value '" ++ Text.Terminal.emphasized value ++
    "' for '" ++ Text.Terminal.emphasized taker ++ "': " ++ reason ++
    "\n\nFor more information, try '" ++ Text.Terminal.emphasized "--help" ++ "'.\n"

/-- A run whose arguments are refused. -/
def ofUsage : UsageFault → Outcome
  | .misused => ⟨2, "", none, none⟩
  | .rejected value taker reason =>
    ⟨2, "", some (firstLine (Text.Terminal.plain (rejection value taker reason))), none⟩
  | .helpWanted => success ""

end Outcome

/-! ## Commands -/

/-- What commands work on: metadata resolved so far, schemas, and an open store. -/
abbrev World := (MetadataCache × SchemaLibrary) × NodeStore

/-- The mapper of the command line. -/
def mapper : Mapper SchemaLibrary := ⟨SchemaLibrary.source, nodeLoader, .suffix⟩

/-- The type of a declared entity. -/
def declaredType (entity : String) : EntityType := ⟨.node, entity⟩

/-- A text as it is shown. -/
def shownLine (text : String) : String := text ++ "\n"

/-- A value as it is shown. -/
def shownValue (v : Json.Value) : String := shownLine v.pretty

/-- Objects as they are shown. -/
def shownMany (es : List Entity) : String :=
  shownValue (.ofItems (es.map fun e => e.content.toJson))

/-- An object as it is shown, or that there is none. -/
def shownOne (e : Option Entity) : String :=
  shownValue ((e.map fun e => e.content.toJson).getD .null)

/-- The repository of a declared entity. -/
def repository (entity : String) : Action World (Repository NodeStore) :=
  mapper.repository (declaredType entity) .node

/-- The query of criteria as it is shown. -/
def showQuery (criteria : List (String × String)) : Except FinderError String :=
  (Criteria.ofList criteria).compile.map shownLine

/-- What a command does to an open store, and what it shows. -/
def perform : Command → Action World String
  | .compile criteria => Action.ofExcept (showQuery criteria)
  | .put entity properties => do
    let m ← (mapper.resolve (declaredType entity))
    let id ← (NodeStore.insert m (Properties.ofList properties)).onSecond
    return shownLine (String.ofList (Json.integer id))
  | .get entity id => do
    let r ← repository entity
    let e ← (r.find id).onSecond
    return shownOne e
  | .all entity => do
    let r ← repository entity
    let es ← r.findAll.onSecond
    return shownMany es
  | .call entity method value => do
    let r ← repository entity
    let output ← (r.call method [value]).onSecond
    return shownMany output.intoMany
  | .select entity criteria one => do
    let r ← repository entity
    let c := Criteria.ofList criteria
    if one then do
      let e ← (r.findOneBy c).onSecond
      return shownOne e
    else do
      let es ← (r.findBy c).onSecond
      return shownMany es

/-! ## Runs -/

/-- Runs a command that needs schemas and a store. -/
def Invocation.runInside (i : Invocation) (tree : FileTree) : Outcome × FileTree :=
  match (SchemaLibrary.fromDirectory i.schemaDir).perform tree with
  | (.error e, tree) => (.failure (.loading i.schemaDir e), tree)
  | (.ok library, tree) =>
    match (NodeStore.openFile .standard i.db).perform tree with
    | (.error e, tree) => (.failure (.opening i.db e), tree)
    | (.ok store, tree) =>
      let (outcome, world) := (perform i.command).perform ((.empty, library), store)
      let tree := world.2.save i.db tree
      match outcome with
      | .error e => (.failure (.finding e), tree)
      | .ok output => (.success output, tree)

/-- Runs a command. -/
def Invocation.run (i : Invocation) (tree : FileTree) : Outcome × FileTree :=
  match i.command with
  | .compile criteria =>
    match showQuery criteria with
    | .error e => (.failure (.finding e), tree)
    | .ok output => (.success output, tree)
  | _ => i.runInside tree

/-- A run from its arguments. -/
def run (arguments : List String) (tree : FileTree) : Outcome × FileTree :=
  match Invocation.ofArguments arguments with
  | .error f => (.ofUsage f, tree)
  | .ok i => i.run tree

end EntityFinder.CommandLine
