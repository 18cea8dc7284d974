import EntityFinder.CommandLine.Arguments

set_option autoImplicit false

/-!
# Commands

What a command line asks for, once its words have been read.

## Main definitions

* `EntityFinder.CommandLine.Command`: the commands.
* `EntityFinder.CommandLine.Invocation`: a command, and the files that it works on.
* `EntityFinder.CommandLine.Invocation.ofArguments`: the invocation that words stand for.
-/

namespace EntityFinder.CommandLine

/-- A command. -/
inductive Command where
  /-- Shows the query of criteria. -/
  | compile (criteria : List (String × String))
  /-- Stores a node. -/
  | put (entity : String) (properties : List (String × String))
  /-- Shows the node with a number. -/
  | get (entity : String) (id : Int)
  /-- Shows every node of an entity. -/
  | all (entity : String)
  /-- Calls a finder by its method name. -/
  | call (entity method value : String)
  /-- Shows the nodes that satisfy criteria, or the first of them. -/
  | select (entity : String) (criteria : List (String × String)) (one : Bool)
  deriving DecidableEq, Repr

/-- A command, and the files that it works on. -/
structure Invocation where
  /-- The directory of the schemas. -/
  schemaDir : String
  /-- The file of the nodes. -/
  db : String
  /-- The command. -/
  command : Command
  deriving DecidableEq, Repr

/-- The directory of the schemas unless another is named. -/
def usualSchemaDir : String := "schema"

/-- The file of the nodes unless another is named. -/
def usualDb : String := "nodemap.db"

/-! ## Levels -/

/-- The options that are known on both levels. -/
def globalOptions : List Opt := [.debug, .help, .schemaDir, .db]

/-- The names of the commands. -/
def commandNames : List String := ["compile", "put", "get", "all", "call", "where"]

/-- The word that asks for an explanation in place of a command. -/
def helpCommand : String := "help"

/-- The level before the name of a command. -/
def outerLevel : Level :=
  ⟨globalOptions, [], helpCommand :: commandNames⟩

/-- The level behind the name of a command. -/
def innerLevel : String → Level
  | "compile" => ⟨.criterion :: globalOptions, [], []⟩
  | "put" => ⟨.set :: globalOptions, [.word], []⟩
  | "get" => ⟨globalOptions, [.word, .id], []⟩
  | "all" => ⟨globalOptions, [.word], []⟩
  | "call" => ⟨globalOptions, [.word, .word, .word], []⟩
  | _ => ⟨.criterion :: .one :: globalOptions, [.word], []⟩

/-! ## Reading -/

/-- The command that a name and what was read behind it stand for; something required may be
missing. -/
def commandOf (name : String) (g : Gathered) : Except UsageFault Command :=
  match name, g.words, g.pairs, g.id with
  | "compile", _, p :: ps, _ => .ok (.compile (p :: ps))
  | "put", [entity], properties, _ => .ok (.put entity properties)
  | "get", [entity], _, some id => .ok (.get entity id)
  | "all", [entity], _, _ => .ok (.all entity)
  | "call", [entity, method, value], _, _ => .ok (.call entity method value)
  | "where", [entity], p :: ps, _ => .ok (.select entity (p :: ps) g.one)
  | _, _, _, _ => .error .misused

/-- What is found when an explanation is asked for, of everything or of one command. -/
def helpOn : List String → UsageFault
  | [] => .helpWanted
  | [name] => if (helpCommand :: commandNames).contains name then .helpWanted else .misused
  | _ => .misused

/-- The invocation that words stand for. Of a path that is named on both levels the one behind the
name of the command counts. -/
def Invocation.ofArguments (arguments : List String) : Except UsageFault Invocation := do
  match ← scan outerLevel (.start outerLevel) arguments with
  | (outer, none) =>
    let _ ← outer.settle
    .error .misused
  | (outer, some (name, rest)) =>
    if name = helpCommand then .error (helpOn rest)
    else do
      let level := innerLevel name
      let (inner, _) ← scan level (.start level) rest
      let inner ← inner.settle
      let command ← commandOf name inner
      let outer ← outer.settle
      .ok ⟨((inner.schemaDir <|> outer.schemaDir).getD usualSchemaDir),
        ((inner.db <|> outer.db).getD usualDb), command⟩

end EntityFinder.CommandLine
