import EntityFinder.FullText.Lexeme
import EntityFinder.FullText.Tokenizer

set_option autoImplicit false

/-!
# Full-text queries

What a query asks for. Its smallest parts are phrases, runs of tokens; phrases are gathered into
clusters, whose phrases have to stand close together in one column; clusters are joined by
operators.

## Main definitions

* `EntityFinder.FullText.Layout`: what a table must be known by before a query can be read.
* `EntityFinder.FullText.Phrase`, `EntityFinder.FullText.Cluster`, `EntityFinder.FullText.Query`.
* `EntityFinder.FullText.Query.restrictTo`: the same query, confined to some columns.
* `EntityFinder.FullText.Query.height`: how many levels a query has.
-/

namespace EntityFinder.FullText

/-! ## Tables -/

/-- What the meaning of a query depends on, texts apart. -/
structure Layout where
  /-- The names of the columns, in order. -/
  columns : List String
  /-- How the table cuts texts into tokens. -/
  tokenizer : Tokenizer

namespace Layout

/-- The positions of all columns. -/
def allColumns (layout : Layout) : List Nat :=
  List.range layout.columns.length

/-- The positions of the columns that are not among the given ones. -/
def otherColumns (layout : Layout) (columns : List Nat) : List Nat :=
  layout.allColumns.filter fun c => !columns.contains c

/-- The position of the column with a name. -/
def column? (layout : Layout) (name : String) : Option Nat :=
  layout.columns.findIdx? (Text.sameName name)

end Layout

/-! ## Phrases -/

/-- A token that a phrase asks for. -/
structure Term where
  /-- The token. -/
  token : Token
  /-- Whether every token will do that begins with it. -/
  isStem : Bool
  deriving DecidableEq, Repr

/-- Tokens that follow each other. -/
structure Phrase where
  /-- The tokens asked for. -/
  terms : List Term
  /-- Whether the column has to begin with them. -/
  atStart : Bool
  deriving DecidableEq, Repr

namespace Phrase

/-- A phrase without tokens. -/
def empty : Phrase := ⟨[], false⟩

/-- Makes the last token of a phrase a stem, or a whole token. -/
def setStem (isStem : Bool) (terms : List Term) : List Term :=
  match terms.getLast? with
  | none => []
  | some last => terms.dropLast ++ [{ last with isStem }]

/-- A phrase followed by the tokens of a word; an asterisk behind the word makes the last token of
all a stem. -/
def addWord (p : Phrase) (tokenizer : Tokenizer) (w : Word) (star : Bool) : Phrase :=
  { p with terms :=
      setStem star (p.terms ++ (tokenizer.tokens w.text).map fun token => ⟨token, false⟩) }

/-- The phrase that a column has to begin with. -/
def fromStart (p : Phrase) : Phrase :=
  { p with atStart := true }

/-- Whether a phrase asks for anything. -/
def isEmpty (p : Phrase) : Bool :=
  p.terms.isEmpty

end Phrase

/-! ## Clusters -/

/-- Phrases that have to stand close together in one column. -/
structure Cluster where
  /-- The phrases. -/
  phrases : List Phrase
  /-- How many tokens may stand between two of them. -/
  distance : Int
  /-- The columns that are searched. -/
  columns : List Nat
  deriving DecidableEq, Repr

namespace Cluster

/-- How far apart phrases may stand when the query does not say so. -/
def usualDistance : Int := 10

/-- A cluster of a single phrase. -/
def single (p : Phrase) (columns : List Nat) : Cluster :=
  ⟨[p], usualDistance, columns⟩

/-- A cluster of several phrases. Phrases without tokens are left out, unless there is no other;
then nothing can be found. To a phrase that is left alone the distance does not apply. -/
def ofPhrases (phrases : List Phrase) (distance : Int) (columns : List Nat) : Cluster :=
  match phrases.filter (!·.isEmpty) with
  | [] => single .empty columns
  | [p] => single p columns
  | kept => ⟨kept, distance, columns⟩

/-- A cluster, confined to some columns. -/
def restrictTo (columns : List Nat) (c : Cluster) : Cluster :=
  { c with columns := c.columns.filter columns.contains }

/-- Whether a cluster asks for nothing. -/
def isEmpty (c : Cluster) : Bool :=
  c.phrases.all (·.isEmpty)

end Cluster

/-! ## Queries -/

/-- How two queries are joined. -/
inductive Connective where
  /-- Both have to hold. -/
  | and
  /-- One of them has to hold. -/
  | or
  /-- The first has to hold and the second may not. -/
  | not
  deriving DecidableEq, Repr

/-- A query. -/
inductive Query where
  /-- Phrases close together. -/
  | cluster (c : Cluster)
  /-- Two queries joined. -/
  | join (connective : Connective) (left right : Query)
  deriving DecidableEq, Repr

namespace Query

/-- A query, confined to some columns. -/
def restrictTo (columns : List Nat) : Query → Query
  | cluster c => cluster (c.restrictTo columns)
  | join connective left right =>
    join connective (left.restrictTo columns) (right.restrictTo columns)

/-- The query that several clusters in a row stand for: all have to be found. Clusters that ask
for nothing are left out, unless there is no other. -/
def all : List Cluster → Query
  | [] => cluster (.single .empty [])
  | first :: rest =>
    match (first :: rest).filter (!·.isEmpty) with
    | [] => cluster first
    | c :: cs => cs.foldl (fun q c => join .and q (cluster c)) (cluster c)

/-- A query that finds nothing. -/
def nothing : Query :=
  all []

/-- How many levels are added on top of a part when it is joined: a row of parts that are joined
alike lies on one level, except with `NOT`. -/
def levelsAdded (connective : Connective) : Query → Nat
  | cluster _ => 1
  | join c _ _ => if c = connective ∧ c ≠ .not then 0 else 1

/-- The number of levels of a query. -/
def height : Query → Nat
  | cluster _ => 0
  | join c left right =>
    max (left.height + left.levelsAdded c) (right.height + right.levelsAdded c)

/-- How many levels a query may have. -/
def heightLimit : Nat := 256

/-- Joins two queries, unless the result is too high. -/
def joinWithin (connective : Connective) (left right : Query) : Except QueryFault Query :=
  if (join connective left right).height ≤ heightLimit then .ok (join connective left right)
  else .error .tooHigh

end Query

end EntityFinder.FullText
