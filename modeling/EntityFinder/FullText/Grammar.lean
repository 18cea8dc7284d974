import EntityFinder.FullText.Query

set_option autoImplicit false

/-!
# The grammar of queries

How lexemes become a query. Faults are found from left to right; where a word has to be a column
or a number, the lexeme behind it is read before the word is looked at, so a text that breaks off
there is refused for that reason.

A reader is told how many symbols are open before it: lexemes and finished parts that wait for
what follows them. Only so many may be open at once, and every part of a query adds some.

## Main definitions

* `EntityFinder.FullText.readColumns`: a column or several in braces, or all but these.
* `EntityFinder.FullText.readCluster`: a phrase, or several with a distance.
* `EntityFinder.FullText.readQuery`: clusters joined by operators, with parentheses.
* `EntityFinder.FullText.Query.ofText`: the query that a text stands for.
-/

namespace EntityFinder.FullText

/-- Readers of lexemes return what they have found, and what follows it. -/
abbrev Reader (α : Type) := List Lexeme → Except QueryFault (α × List Lexeme)

variable (layout : Layout)

/-- Refuses what comes next. -/
def refuse {α : Type} : List Lexeme → Except QueryFault α
  | [] => .error (.unexpected "")
  | .bad f :: _ => .error f
  | l :: _ => .error (.unexpected (String.ofList l.written))

/-- Refuses a text that cannot be read any further. -/
def checkNext : List Lexeme → Except QueryFault Unit
  | .bad f :: _ => .error f
  | _ => .ok ()

/-- What follows a sign that has to come next. -/
def expect (s : Sign) : List Lexeme → Except QueryFault (List Lexeme)
  | .sign s' :: rest => if s' = s then .ok rest else refuse (.sign s' :: rest)
  | rest => refuse rest

/-- How many symbols may be open at once. -/
def symbolLimit : Nat := 99

/-- Refuses to have too many symbols open. -/
def allow (symbols : Nat) : Except QueryFault Unit :=
  if symbols ≤ symbolLimit then .ok () else .error .tooNested

/-! ## Columns -/

/-- The column that a word names. -/
def columnOf (w : Word) : Except QueryFault Nat :=
  let name := String.ofList w.text
  match layout.column? name with
  | some c => .ok c
  | none => .error (.noSuchColumn name)

/-- Reads columns up to a closing brace. -/
def readColumnList (before : Nat) (found : List Nat) : Reader (List Nat)
  | .word w :: rest => do
    allow (before + if found.isEmpty then 1 else 2)
    checkNext rest
    let c ← columnOf layout w
    readColumnList before (found ++ [c]) rest
  | .sign .closingBrace :: rest =>
    if found.isEmpty then refuse (.sign .closingBrace :: rest)
    else do
      allow (before + 2)
      .ok (found, rest)
  | rest => refuse rest

/-- Reads columns with the colon behind them. Nothing is read if none are named here. -/
def readColumns (before : Nat) : Reader (Option (List Nat))
  | .word w :: .sign .colon :: rest => do
    allow (before + 1)
    let c ← columnOf layout w
    allow (before + 2)
    .ok (some [c], rest)
  | .sign .openingBrace :: rest => do
    allow (before + 1)
    let (columns, rest) ← readColumnList layout (before + 1) [] rest
    let rest ← expect .colon rest
    .ok (some columns, rest)
  | .sign .minus :: .word w :: rest => do
    allow (before + 2)
    checkNext rest
    let c ← columnOf layout w
    let rest ← expect .colon rest
    .ok (some (layout.otherColumns [c]), rest)
  | .sign .minus :: .sign .openingBrace :: rest => do
    allow (before + 2)
    let (columns, rest) ← readColumnList layout (before + 2) [] rest
    let rest ← expect .colon rest
    .ok (some (layout.otherColumns columns), rest)
  | .sign .minus :: rest => do
    allow (before + 1)
    refuse rest
  | rest => .ok (none, rest)

/-! ## Phrases and clusters -/

/-- Reads the words of a phrase that are joined to those before them. -/
def readMoreWords (before : Nat) (p : Phrase) : Reader Phrase
  | .sign .plus :: .word w :: .sign .star :: rest => do
    allow (before + 4)
    readMoreWords before (p.addWord layout.tokenizer w true) rest
  | .sign .plus :: .word w :: rest => do
    allow (before + 3)
    checkNext rest
    allow (before + 4)
    readMoreWords before (p.addWord layout.tokenizer w false) rest
  | .sign .plus :: rest => do
    allow (before + 2)
    refuse rest
  | rest => .ok (p, rest)

/-- Reads a phrase from behind its first word. -/
def readPhrase (before : Nat) (w : Word) : Reader Phrase
  | .sign .star :: rest => do
    allow (before + 2)
    readMoreWords layout before (Phrase.empty.addWord layout.tokenizer w true) rest
  | rest => do
    allow (before + 1)
    checkNext rest
    allow (before + 2)
    readMoreWords layout before (Phrase.empty.addWord layout.tokenizer w false) rest

/-- Reads at least `least` phrases, in at most as many steps as given. All phrases but the first
follow a part that is open. -/
def readPhrases (before least : Nat) : Nat → Reader (List Phrase)
  | steps + 1, .word w :: rest => do
    let (p, rest) ← readPhrase layout before w rest
    let (ps, rest) ← readPhrases (before + least) (least - 1) steps rest
    .ok (p :: ps, rest)
  | _, rest => if least = 0 then .ok ([], rest) else refuse rest

/-- Reads the distance between phrases, if one is given. -/
def readDistance (before : Nat) : Reader (Option Word)
  | .sign .comma :: .word w :: rest => do
    allow (before + 2)
    .ok (some w, rest)
  | .sign .comma :: rest => do
    allow (before + 1)
    refuse rest
  | rest => do
    checkNext rest
    allow (before + 1)
    .ok (none, rest)

/-- The number that a word stands for: it may consist of digits only. It is kept in 32 bits, the
greater half of which are negative. -/
def distanceOf : Option Word → Except QueryFault Int
  | none => .ok Cluster.usualDistance
  | some w =>
    if w.written.all Char.isDigit then
      .ok (Int.bmod (w.text.foldl (fun n d => n * 10 + (d.toNat - 48)) 0 : Nat) 0x100000000)
    else .error (.noDistance (String.ofList w.written))

/-- The word that has to stand before phrases in parentheses. -/
def nearWord : Word := ⟨['N', 'E', 'A', 'R'], false⟩

/-- Reads phrases in parentheses from behind the opening one. Only then is the word `w` before
them looked at, and the distance after it. -/
def readGroup (before : Nat) (w : Word) : Reader Cluster := fun rest => do
  allow (before + 2)
  let (phrases, rest) ← readPhrases layout (before + 2) 1 rest.length rest
  let (distance, rest) ← readDistance (before + 3) rest
  let rest ← expect .closing rest
  allow (before + 5)
  checkNext rest
  if w ≠ nearWord then .error (.unexpected (String.ofList w.written))
  else do
    let distance ← distanceOf distance
    .ok (.ofPhrases phrases distance layout.allColumns, rest)

/-- Reads a cluster. -/
def readCluster (before : Nat) : Reader Cluster
  | .sign .caret :: .word w :: rest => do
    let (p, rest) ← readPhrase layout (before + 1) w rest
    .ok (.single p.fromStart layout.allColumns, rest)
  | .sign .caret :: rest => do
    allow (before + 1)
    refuse rest
  | .word w :: .sign .opening :: rest => readGroup layout before w rest
  | .word w :: rest => do
    let (p, rest) ← readPhrase layout before w rest
    .ok (.single p layout.allColumns, rest)
  | rest => refuse rest

/-- Whether a cluster begins here. -/
def beginsCluster : List Lexeme → Bool
  | .word _ :: _ | .sign .caret :: _ | .sign .minus :: _ | .sign .openingBrace :: _ => true
  | _ => false

/-- Reads a cluster that is confined to columns with the colon behind them, if any are named. -/
def readClusterIn (before : Nat) : Option (List Nat) → Reader Cluster
  | none, rest => readCluster layout before rest
  | some columns, rest => do
    let (c, rest) ← readCluster layout (before + 2) rest
    .ok (c.restrictTo columns, rest)

/-- Reads the clusters that follow another one, in at most as many steps as given. -/
def readMoreClusters (before : Nat) : Nat → Reader (List Cluster)
  | 0, rest => .ok ([], rest)
  | steps + 1, rest =>
    if beginsCluster rest then do
      let (columns?, rest) ← readColumns layout before rest
      let (c, rest) ← readClusterIn layout before columns? rest
      let (cs, rest) ← readMoreClusters before steps rest
      .ok (c :: cs, rest)
    else .ok ([], rest)

/-! ## Queries -/

/-- The connective that an operator stands for. -/
def connective? : Sign → Option Connective
  | .and => some .and
  | .or => some .or
  | .not => some .not
  | _ => none

/-- Reads what is joined to a query by one connective, from left to right, given a reader for the
parts and in at most as many steps as given. -/
def readChain (connective : Connective) (part : Nat → Reader Query) (before : Nat) :
    Nat → Query → Reader Query
  | steps + 1, q, .sign s :: rest =>
    if connective? s = some connective then do
      allow (before + 2)
      let (right, rest) ← part (before + 2) rest
      checkNext rest
      let q ← q.joinWithin connective right
      readChain connective part before steps q rest
    else .ok (q, .sign s :: rest)
  | _, q, rest => .ok (q, rest)

/-- Reads parts that may be joined by a connective, given a reader for the parts. -/
def readJoined (connective : Connective) (part : Nat → Reader Query) (before : Nat) :
    Reader Query := fun rest => do
  let (q, rest) ← part before rest
  readChain connective part before rest.length q rest

/-- Reads a query in parentheses from behind the opening one, given a reader for queries. -/
def readEnclosed (inner : Nat → Reader Query) (before : Nat) : Reader Query := fun rest => do
  allow before
  let (q, rest) ← inner before rest
  let rest ← expect .closing rest
  .ok (q, rest)

/-- Reads a part of a query: a query in parentheses, possibly confined to columns, or clusters.
The query in parentheses is read by `inner`. -/
def readPart (inner : Nat → Reader Query) (before : Nat) : Reader Query
  | .sign .opening :: rest => readEnclosed inner (before + 1) rest
  | rest => do
    let (columns?, rest) ← readColumns layout before rest
    match columns?, rest with
    | some columns, .sign .opening :: rest =>
      let (q, rest) ← readEnclosed inner (before + 3) rest
      .ok (q.restrictTo columns, rest)
    | columns?, rest =>
      let (c, rest) ← readClusterIn layout before columns? rest
      let (cs, rest) ← readMoreClusters layout (before + 1) rest.length rest
      .ok (.all (c :: cs), rest)

/-- Reads a query in which parentheses are nested less than `depth` deep. `NOT` binds tightest,
`OR` least. -/
def readQuery : Nat → Nat → Reader Query
  | 0, _, rest => refuse rest
  | depth + 1, before, rest =>
    readJoined .or (readJoined .and (readJoined .not (readPart layout (readQuery depth))))
      before rest

/-- The query that a list of lexemes stands for, which nothing may follow. -/
def Query.ofLexemes (lexemes : List Lexeme) : Except QueryFault Query := do
  let (q, rest) ← readQuery layout (lexemes.length + 1) 0 lexemes
  if rest.isEmpty then .ok q else refuse rest

/-- The word behind an asterisk that begins a query. -/
def serviceName (rest : List Char) : String :=
  String.ofList ((rest.dropWhile (· == ' ')).takeWhile (· != ' '))

/-- The services of a table, which answer with a number instead of rows. -/
def services : List String := ["reads", "id"]

/-- The query that a text stands for. Nothing from a null character on is read. -/
def Query.ofText (text : String) : Except QueryFault Query :=
  match text.toList.takeWhile (· != '\x00') with
  | '*' :: rest =>
    if services.any (Text.sameName (serviceName rest)) then .ok .nothing
    else .error (.noSuchService (serviceName rest))
  | chars => Query.ofLexemes layout (lex chars)

end EntityFinder.FullText
