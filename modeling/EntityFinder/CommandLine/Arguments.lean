import EntityFinder.CommandLine.Number
import EntityFinder.Text.Blank

set_option autoImplicit false

/-!
# Arguments

The words of a command line are read from left to right, on two levels: before the name of the
command and after it. An option that takes a value has it attached or as its next word. A value is
looked at when the next option, flag or positional word that is known here has been read, or when
the words end; a word that is not known here comes first.

## Main definitions

* `EntityFinder.CommandLine.Level`: the options and positional words that are known on a level.
* `EntityFinder.CommandLine.UsageFault`: why words are refused.
* `EntityFinder.CommandLine.Gathered`: what has been read.
* `EntityFinder.CommandLine.scan`: reads the words of a level.
-/

namespace EntityFinder.CommandLine

/-! ## Options and levels -/

/-- An option. -/
inductive Opt where
  /-- More messages on the way. -/
  | debug
  /-- An explanation instead of a run. -/
  | help
  /-- The directory of the schemas. -/
  | schemaDir
  /-- The file of the nodes. -/
  | db
  /-- A criterion: a property and a value. -/
  | criterion
  /-- A property of a new node and its value. -/
  | set
  /-- The first hit only. -/
  | one
  deriving DecidableEq, Repr

namespace Opt

/-- The long name of an option. -/
def long : Opt → String
  | debug => "debug"
  | help => "help"
  | schemaDir => "schema-dir"
  | db => "db"
  | criterion => "criterion"
  | set => "set"
  | one => "one"

/-- The short name of an option, if it has one. -/
def short? : Opt → Option Char
  | debug => some 'd'
  | help => some 'h'
  | criterion => some 'c'
  | set => some 's'
  | schemaDir | db | one => none

/-- Whether an option takes a value. -/
def takesValue : Opt → Bool
  | debug | help | one => false
  | schemaDir | db | criterion | set => true

/-- An option with its value, as messages show it. -/
def shown : Opt → String
  | criterion => "--criterion <CRITERIA>"
  | set => "--set <PROPERTIES>"
  | o => "--" ++ o.long

end Opt

/-- A positional word. -/
inductive Positional where
  /-- A word that is taken as it is. -/
  | word
  /-- The number of a node. -/
  | id
  deriving DecidableEq, Repr

/-- What is known on a level. -/
structure Level where
  /-- The options. -/
  options : List Opt
  /-- The positional words, in order. -/
  positionals : List Positional
  /-- The names of the commands that begin the next level. -/
  commands : List String
  deriving DecidableEq, Repr

/-! ## What is read -/

/-- Why the words of a command line are refused. -/
inductive UsageFault where
  /-- The words do not fit together. -/
  | misused
  /-- A value that an option or positional word does not take. -/
  | rejected (value taker reason : String)
  /-- An explanation is asked for. -/
  | helpWanted
  deriving DecidableEq, Repr

/-- What has been read on a level. -/
structure Gathered where
  /-- Whether more messages are wanted. -/
  debug : Bool
  /-- Whether only the first hit is wanted. -/
  one : Bool
  /-- The directory of the schemas. -/
  schemaDir : Option String
  /-- The file of the nodes. -/
  db : Option String
  /-- The pairs of criteria, or of properties. -/
  pairs : List (String × String)
  /-- The positional words that are taken as they are. -/
  words : List String
  /-- The number of a node. -/
  id : Option Int
  deriving DecidableEq, Repr

/-- Nothing has been read. -/
def Gathered.nothing : Gathered := ⟨false, false, none, none, [], [], none⟩

/-- The name and the value of a pair, which are separated by the first equals sign. The name may
not be blank. -/
def readPair? (raw : String) : Option (String × String) :=
  match raw.toList.span (· != '=') with
  | (_, []) => none
  | (name, _ :: value) =>
    let name := Text.trim (String.ofList name)
    if name = "" then none else some (name, String.ofList value)

namespace Gathered

/-- Adds a pair that is the value of an option. -/
def addPair (g : Gathered) (o : Opt) (raw : String) : Except UsageFault Gathered :=
  match readPair? raw with
  | some pair => .ok { g with pairs := g.pairs ++ [pair] }
  | none => .error (.rejected raw o.shown ("expected name=value, got '" ++ raw ++ "'"))

/-- Adds the value of an option. Paths may be given once and not be empty. -/
def addValue (g : Gathered) (o : Opt) (value : String) : Except UsageFault Gathered :=
  match o with
  | .schemaDir =>
    if g.schemaDir.isSome ∨ value = "" then .error .misused
    else .ok { g with schemaDir := some value }
  | .db =>
    if g.db.isSome ∨ value = "" then .error .misused else .ok { g with db := some value }
  | o => g.addPair o value

/-- Adds a flag, which may be given once. -/
def addFlag (g : Gathered) : Opt → Except UsageFault Gathered
  | .debug => if g.debug then .error .misused else .ok { g with debug := true }
  | .one => if g.one then .error .misused else .ok { g with one := true }
  | _ => .error .helpWanted

/-- Adds a positional word. -/
def addWord (g : Gathered) (kind : Positional) (value : String) : Except UsageFault Gathered :=
  match kind with
  | .word => .ok { g with words := g.words ++ [value] }
  | .id =>
    match readNumber value with
    | .ok n => .ok { g with id := some n }
    | .error f => .error (.rejected value "<ID>" f.message)

end Gathered

/-- What has been read but not yet looked at. -/
inductive Pending where
  /-- An option whose value is still to come. -/
  | opened (o : Opt)
  /-- An option with its value. -/
  | valued (o : Opt) (value : String)
  /-- A positional word. -/
  | word (kind : Positional) (value : String)
  deriving DecidableEq, Repr

/-- The state of a reader. -/
structure Scan where
  /-- What has been read and looked at. -/
  gathered : Gathered
  /-- What has been read last. -/
  pending : Option Pending
  /-- The positional words that may still come. -/
  positionals : List Positional
  /-- Whether all words are positional from here on. -/
  trailing : Bool
  deriving DecidableEq, Repr

namespace Scan

/-- The state at the beginning of a level. -/
def start (level : Level) : Scan := ⟨.nothing, none, level.positionals, false⟩

/-- Looks at what has been read last. -/
def settle (s : Scan) : Except UsageFault Gathered :=
  match s.pending with
  | none => .ok s.gathered
  | some (.opened _) => .error .misused
  | some (.valued o value) => s.gathered.addValue o value
  | some (.word kind value) => s.gathered.addWord kind value

/-- Looks at what has been read last, and notes what is to be looked at next. -/
def next (s : Scan) (p : Pending) : Except UsageFault Scan := do
  let g ← s.settle
  .ok { s with gathered := g, pending := some p }

/-- Reads a flag. -/
def flag (s : Scan) (o : Opt) : Except UsageFault Scan := do
  let g ← s.settle
  let g ← g.addFlag o
  .ok { s with gathered := g, pending := none }

/-- Reads an option with a value that is attached to it. -/
def attached (s : Scan) (o : Opt) (value : String) : Except UsageFault Scan := do
  let g ← s.settle
  let g ← g.addValue o value
  .ok { s with gathered := g, pending := none }

/-- Reads a positional word. -/
def positional (s : Scan) (value : String) : Except UsageFault Scan :=
  match s.positionals with
  | [] => .error .misused
  | kind :: rest => do
    let s ← s.next (.word kind value)
    .ok { s with positionals := rest }

/-- Reads an option by its long name, with the value behind an equals sign if there is one. -/
def long (s : Scan) (level : Level) (name : String) (value? : Option String) :
    Except UsageFault Scan :=
  match level.options.find? (·.long == name), value? with
  | none, _ => .error .misused
  | some o, none => if o.takesValue then s.next (.opened o) else s.flag o
  | some o, some value => if o.takesValue then s.attached o value else .error .misused

/-- Reads options by their short names. What follows the name of an option that takes a value is
the value, an equals sign between them apart. -/
def shorts (level : Level) (s : Scan) : List Char → Except UsageFault Scan
  | [] => .ok s
  | c :: rest =>
    match level.options.find? (·.short? == some c) with
    | none => .error .misused
    | some o =>
      if o.takesValue then
        match rest with
        | [] => s.next (.opened o)
        | '=' :: value => s.attached o (String.ofList value)
        | value => s.attached o (String.ofList value)
      else do
        let s ← s.flag o
        shorts level s rest

/-- Whether the next word is the value of an option, unless it is an option itself. -/
def awaited? (s : Scan) : Option Opt :=
  match s.pending with
  | some (.opened o) => some o
  | _ => none

/-- Reads a word that is no option: a value that is awaited, or a positional word. -/
def plain (s : Scan) (word : String) : Except UsageFault Scan :=
  match s.awaited? with
  | some o => .ok { s with pending := some (.valued o word) }
  | none => s.positional word

/-- Reads a word, before a double hyphen or behind it. -/
def word (s : Scan) (level : Level) (w : String) : Except UsageFault Scan :=
  if s.trailing then s.positional w
  else match w.toList with
    | ['-', '-'] => .ok { s with trailing := true }
    | '-' :: '-' :: rest =>
      match rest.span (· != '=') with
      | (name, []) => s.long level (String.ofList name) none
      | (name, _ :: value) => s.long level (String.ofList name) (some (String.ofList value))
    | '-' :: c :: rest => s.shorts level (c :: rest)
    | _ => s.plain w

/-- Whether a word is the name of a command here. -/
def isCommand (s : Scan) (level : Level) (w : String) : Bool :=
  !s.trailing && s.awaited?.isNone && level.commands.contains w

end Scan

/-- Reads the words of a level, up to the name of a command. -/
def scan (level : Level) (s : Scan) :
    List String → Except UsageFault (Scan × Option (String × List String))
  | [] => .ok (s, none)
  | w :: rest =>
    if s.isCommand level w then .ok (s, some (w, rest))
    else do
      let s ← s.word level w
      scan level s rest

end EntityFinder.CommandLine
