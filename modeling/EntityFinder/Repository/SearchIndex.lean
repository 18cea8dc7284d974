import EntityFinder.Entity.Basic

set_option autoImplicit false

/-!
# Search indexes

What a repository needs of an index: it answers query texts with records, in an order of its own.

## Main definitions

* `EntityFinder.SearchIndex`: an index over a state of type `σ`.
* `EntityFinder.SearchIndex.queryOne`: the first record of an answer.
* `EntityFinder.SearchIndex.logged`: the same index, writing down the queries that it gets.
-/

namespace EntityFinder

/-- An index whose answers may depend on a state of type `σ`. -/
structure SearchIndex (σ : Type) where
  /-- The records that match a query, in index order. -/
  query : String → Action σ (List Record)

namespace SearchIndex

variable {σ : Type}

/-- The first record that matches a query. -/
def queryOne (index : SearchIndex σ) (text : String) : Action σ (Option Record) := do
  let records ← index.query text
  return records.head?

/-- An index that also writes down every query, the latest at the end. -/
def logged (index : SearchIndex σ) : SearchIndex (σ × List String) where
  query text := do
    modify fun (s, log) => (s, log ++ [text])
    (index.query text).onFirst

end SearchIndex

end EntityFinder
