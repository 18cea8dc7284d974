import EntityFinder.FullText.Query

set_option autoImplicit false

/-!
# What a query finds

A document holds the tokens of one row, column by column. A phrase occurs where its terms accept
the tokens that follow each other. In a cluster only those occurrences count that stand close
enough to occurrences of all its other phrases.

## Main definitions

* `EntityFinder.FullText.Phrase.starts`: where a phrase occurs in a column.
* `EntityFinder.FullText.keptStarts`: the occurrences that count in a cluster.
* `EntityFinder.FullText.Query.holds`: whether a document satisfies a query.
* `EntityFinder.FullText.Query.counts`: how often each phrase of a query occurs in a document.
-/

namespace EntityFinder.FullText

/-- The tokens of a row, column by column. -/
abbrev Document := List (List Token)

/-- The tokens of a column; a column that is not there has none. -/
def Document.column (d : Document) (c : Nat) : List Token :=
  (d[c]?).getD []

/-! ## Phrases -/

/-- Whether a token is the one asked for. -/
def Term.accepts (t : Term) (token : Token) : Bool :=
  if t.isStem then t.token.isPrefixOf token else t.token == token

/-- Whether the tokens of a list begin with those asked for. -/
def acceptedHere : List Term → List Token → Bool
  | [], _ => true
  | _ :: _, [] => false
  | t :: ts, token :: tokens => t.accepts token && acceptedHere ts tokens

namespace Phrase

/-- Whether a phrase occurs at a position of a column. -/
def occursAt (p : Phrase) (column : List Token) (n : Nat) : Bool :=
  (!p.atStart || n == 0) && acceptedHere p.terms (column.drop n)

/-- The positions of a column at which a phrase occurs; a phrase without tokens occurs nowhere. -/
def starts (p : Phrase) (column : List Token) : List Nat :=
  if p.isEmpty then [] else (List.range column.length).filter (p.occursAt column)

/-- Whether a phrase occurs in one of some columns. -/
def occursIn (p : Phrase) (columns : List Nat) (d : Document) : Bool :=
  columns.any fun c => !(p.starts (d.column c)).isEmpty

end Phrase

/-! ## Clusters -/

/-- The length of a phrase together with the positions at which it occurs. -/
abbrev Located := Nat × List Nat

/-- Whether position `m` is at `n`, where a phrase of some length begins, or behind it, with at
most `distance` tokens after the phrase before it. -/
def reaches (distance : Int) (length n m : Nat) : Bool :=
  n ≤ m && (m : Int) ≤ n + length + distance

/-- Whether every phrase occurs close before position `m`. -/
def allReach (distance : Int) (phrases : List Located) (m : Nat) : Bool :=
  phrases.all fun (length, starts) => starts.any fun n => reaches distance length n m

/-- The positions at which a phrase of a cluster begins with every phrase close before it. -/
def meetings (distance : Int) (phrases : List Located) : List Nat :=
  (phrases.flatMap Prod.snd).filter (allReach distance phrases)

/-- For each phrase of a cluster the positions that are close before such a meeting. -/
def keptStarts (distance : Int) (phrases : List Located) : List (List Nat) :=
  phrases.map fun (length, starts) =>
    starts.filter fun n => (meetings distance phrases).any (reaches distance length n)

namespace Cluster

/-- The phrases of a cluster with their positions in a column. -/
def locate (c : Cluster) (column : List Token) : List Located :=
  c.phrases.map fun p => (p.terms.length, p.starts column)

/-- The positions in a column that count, for each phrase. -/
def startsIn (c : Cluster) (column : List Token) : List (List Nat) :=
  keptStarts c.distance (c.locate column)

/-- Whether the phrases stand close together in one of the columns. -/
def holds (c : Cluster) (d : Document) : Bool :=
  c.columns.any fun i => (c.startsIn (d.column i)).any (!·.isEmpty)

/-- How often each phrase occurs in the columns. -/
def counts (c : Cluster) (d : Document) : List Nat :=
  c.columns.foldl
    (fun counts i => counts.zipWith (· + ·) ((c.startsIn (d.column i)).map List.length))
    (c.phrases.map fun _ => 0)

end Cluster

/-! ## Queries -/

namespace Query

/-- Whether a document satisfies a query. -/
def holds (d : Document) : Query → Bool
  | cluster c => c.holds d
  | join .and left right => left.holds d && right.holds d
  | join .or left right => left.holds d || right.holds d
  | join .not left right => left.holds d && !right.holds d

/-- The phrases of a query with the columns that are searched for them. -/
def phrases : Query → List (Phrase × List Nat)
  | cluster c => c.phrases.map fun p => (p, c.columns)
  | join _ left right => left.phrases ++ right.phrases

/-- How often each phrase of a query occurs in a document. In a part that the document does not
satisfy, and in a part that it may not satisfy, nothing is counted. -/
def counts (d : Document) : Query → List Nat
  | cluster c => if c.holds d then c.counts d else c.phrases.map fun _ => 0
  | join connective left right =>
    if (join connective left right).holds d then
      left.counts d ++
        if connective = .not then right.phrases.map fun _ => 0 else right.counts d
    else (join connective left right).phrases.map fun _ => 0

end Query

end EntityFinder.FullText
