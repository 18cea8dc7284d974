import EntityFinder.FullText.Match

set_option autoImplicit false

/-!
# The order of what is found

Rows that satisfy a query come in the order of their scores. A phrase counts the more, the rarer
it is in the table, and the more, the larger a part of the row it makes up. Scores are negative,
so that the best row has the least one; rows of the same score come in the order of their numbers.

## Main definitions

* `EntityFinder.FullText.Row`: a numbered document.
* `EntityFinder.FullText.rarity`, `EntityFinder.FullText.weight`: the two factors of a score.
* `EntityFinder.FullText.score`: the score of a document.
* `EntityFinder.FullText.search`: the numbers of the rows that satisfy a query, best first.
-/

namespace EntityFinder.FullText

/-- A document with its number. -/
structure Row where
  /-- The number. -/
  id : Int
  /-- The tokens. -/
  document : Document
  deriving DecidableEq, Repr

/-- The number of tokens of a document. -/
def Document.size (d : Document) : Nat :=
  d.foldl (fun n column => n + column.length) 0

/-! ## Scores -/

/-- How much a phrase counts that occurs in `hits` of `rows` rows. A phrase that occurs in half of
them or more counts next to nothing. -/
def rarity (rows hits : Nat) : Float :=
  let r := Float.log ((Float.ofNat (rows - hits) + 0.5) / (Float.ofNat hits + 0.5))
  if r > 0.0 then r else 1e-6

/-- How much `count` occurrences in a row of `size` tokens count, where rows have `mean` tokens on
average. Further occurrences count less and less. -/
def weight (mean : Float) (size count : Nat) : Float :=
  let f := Float.ofNat count
  (f * (1.2 + 1.0)) / (f + 1.2 * (1.0 - 0.75 + 0.75 * Float.ofNat size / mean))

/-- The mean number of tokens of a list of rows. -/
def meanSize (rows : List Row) : Float :=
  Float.ofNat (rows.foldl (fun n r => n + r.document.size) 0) / Float.ofNat rows.length

/-- How much each phrase of a query counts in a table. -/
def rarities (rows : List Row) (q : Query) : List Float :=
  q.phrases.map fun (p, columns) =>
    rarity rows.length (rows.countP fun r => p.occursIn columns r.document)

/-- The score of a document. -/
def score (rarities : List Float) (mean : Float) (q : Query) (d : Document) : Float :=
  -1.0 * (rarities.zip (q.counts d)).foldl
    (fun sum (r, count) => sum + r * weight mean d.size count) 0.0

/-! ## Search -/

/-- The rows that satisfy a query. -/
def found (rows : List Row) (q : Query) : List Row :=
  rows.filter fun r => q.holds r.document

/-- Rows in the order of their scores; the order of rows with the same score stays. -/
def ranked (rows : List Row) (q : Query) (hits : List Row) : List Row :=
  let rarities := rarities rows q
  let mean := meanSize rows
  let scored := hits.map fun r => (score rarities mean q r.document, r)
  (scored.mergeSort fun a b => a.1 ≤ b.1).map Prod.snd

/-- The numbers of the rows that satisfy a query, best first. -/
def search (rows : List Row) (q : Query) : List Int :=
  (ranked rows q (found rows q)).map (·.id)

end EntityFinder.FullText
