import EntityFinder.CommandLine.Number
import EntityFinder.Files.Tree
import EntityFinder.Json.Decoder

set_option autoImplicit false

/-!
# Archives

All files of a tree in one text, so that the contents of databases outlive a run. An archive is a
list of lines; a line is a list of texts, some of which may be missing. The lines of a database
follow the line of its file, and the rows of a table follow the line of the table.

## Main definitions

* `EntityFinder.Archive.Line`: what a line holds.
* `EntityFinder.Archive.linesOf`: the lines of a tree.
* `EntityFinder.Archive.treeOf?`: the tree that lines describe.
* `EntityFinder.Archive.write`, `EntityFinder.Archive.read`: from trees to texts and back.
-/

namespace EntityFinder.Archive

/-- A line: a word that says what it is about, and what there is to say. -/
abbrev Line := List (Option String)

/-! ## Writing -/

/-- A line whose texts are all present. -/
def fullLine (texts : List String) : Line :=
  texts.map some

/-- A number as a text. -/
def numberText (n : Int) : String :=
  String.ofList (Json.integer n)

/-- The word for a change of the nodes. -/
def eventWord : NodeEvent → String
  | .insert => "insert"
  | .update => "update"
  | .delete => "delete"

/-- The lines of a table. -/
def tableLines (t : IndexTable) : List Line :=
  fullLine ("table" :: t.name :: t.tokenizer :: t.columns) ::
    fullLine ("parts" :: numberText t.segments :: t.lost.map Database.Part.word) ::
    t.rows.map fun r => some "row" :: some (numberText r.id) :: r.texts

/-- The lines of a database, that of its file apart. -/
def databaseLines (d : Database) : List Line :=
  (d.nodes.map fun n => fullLine ["node", numberText n.id, n.entity, n.document]) ++
    d.tables.flatMap tableLines ++
    d.triggers.map fun t =>
      fullLine ("trigger" :: t.table :: eventWord t.event :: t.entity :: t.columns)

/-- The lines of an entry. -/
def entryLines : FilePath × FileEntry → List Line
  | (p, .directory) => [fullLine ["directory", p.text]]
  | (p, .file (.text content)) => [fullLine ["text", p.text, content]]
  | (p, .file (.bytes size)) => [fullLine ["bytes", p.text, numberText size]]
  | (p, .file (.database d)) =>
    fullLine ["database", p.text, numberText d.lastId] :: databaseLines d

/-- The lines of a tree. -/
def linesOf (tree : FileTree) : List Line :=
  tree.entries.flatMap entryLines

/-- An archive as a text. -/
def write (tree : FileTree) : String :=
  (Json.Value.ofItems ((linesOf tree).map fun line =>
    .ofItems (line.map fun text => (text.map Json.Value.string).getD .null))).pretty

/-! ## Reading -/

/-- Changes the last entry, which has to be a database. -/
def changeDatabase (f : Database → Option Database) (tree : FileTree) : Option FileTree :=
  match tree.entries.getLast? with
  | some (p, .file (.database d)) =>
    (f d).map fun d => ⟨tree.entries.dropLast ++ [(p, .file (.database d))]⟩
  | _ => none

/-- Changes the last table of a database. -/
def changeTable (f : IndexTable → IndexTable) (d : Database) : Option Database :=
  d.tables.getLast?.map fun t => { d with tables := d.tables.dropLast ++ [f t] }

/-- The number that a text stands for. -/
def number? (text : String) : Option Int :=
  match CommandLine.readNumber text with
  | .ok n => some n
  | .error _ => none

/-- The change of the nodes that a word stands for. -/
def event? (word : String) : Option NodeEvent :=
  [NodeEvent.insert, .update, .delete].find? fun e => eventWord e == word

/-- The part of a table that a word names. -/
def part? (word : String) : Option Database.Part :=
  Database.Part.all.find? fun p => p.word == word

/-- Adds an entry to a tree. -/
def addEntry (tree : FileTree) (path : String) (e : FileEntry) : FileTree :=
  ⟨tree.entries ++ [(FilePath.ofText path, e)]⟩

/-- The texts of a line, all of which have to be present. -/
def present? (line : Line) : Option (List String) :=
  line.mapM id

/-- Adds what a line says to a tree. -/
def addLine (tree : FileTree) : Line → Option FileTree
  | [some "directory", some path] => some (addEntry tree path .directory)
  | [some "text", some path, some content] => some (addEntry tree path (.file (.text content)))
  | [some "bytes", some path, some size] =>
    (number? size).map fun n => addEntry tree path (.file (.bytes n.toNat))
  | [some "database", some path, some lastId] =>
    (number? lastId).map fun n =>
      addEntry tree path (.file (.database { Database.empty with lastId := n.toNat }))
  | [some "node", some id, some entity, some document] =>
    (number? id).bind fun n =>
      changeDatabase (fun d => some { d with nodes := d.nodes ++ [⟨n, entity, document⟩] }) tree
  | some "table" :: some name :: some tokenizer :: columns =>
    (present? columns).bind fun columns =>
      changeDatabase
        (fun d => some { d with tables := d.tables ++ [.created name columns tokenizer] }) tree
  | some "parts" :: some segments :: lost =>
    ((present? lost).bind fun words => words.mapM part?).bind fun lost =>
      (number? segments).bind fun n =>
        changeDatabase (changeTable fun t => { t with segments := n.toNat, lost }) tree
  | some "row" :: some id :: texts =>
    (number? id).bind fun n =>
      changeDatabase (changeTable fun t => { t with rows := t.rows ++ [⟨n, texts⟩] }) tree
  | some "trigger" :: some table :: some event :: some entity :: columns =>
    (present? columns).bind fun columns =>
      (event? event).bind fun event =>
        changeDatabase
          (fun d => some { d with triggers := d.triggers ++ [⟨table, event, entity, columns⟩] })
          tree
  | _ => none

/-- The tree that lines describe. -/
def treeOf? (lines : List Line) : Option FileTree :=
  lines.foldlM addLine .empty

/-- A text that may be missing. -/
def optionalText : Json.Decoder (Option String)
  | .null => .ok none
  | r => (Json.string r).map some

/-- The tree in a text, if the text is an archive. -/
def read (text : String) : Option FileTree :=
  match Json.decode (Json.list (Json.list optionalText)) text with
  | .ok lines => treeOf? lines
  | .error _ => none

end EntityFinder.Archive
