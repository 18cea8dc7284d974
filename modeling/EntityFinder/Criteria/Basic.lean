set_option autoImplicit false

/-!
# Criteria

What an entity must satisfy to be found: search values by property, in the order in which the
properties were first named. That order is the order of the terms of the query.

## Main definitions

* `EntityFinder.Criteria`: the entries.
* `EntityFinder.Criteria.insert`: a new property goes to the end, a known one gets a new value in
  its place.
* `EntityFinder.Criteria.ofList`: the entries of a list, inserted one after the other.
* `EntityFinder.Criteria.get?`, `EntityFinder.Criteria.properties`, `EntityFinder.Criteria.size`.
-/

namespace EntityFinder

/-- Search values by property name, in the order of insertion. -/
structure Criteria where
  /-- The properties with their values. -/
  entries : List (String × String)
  deriving DecidableEq, Repr

namespace Criteria

/-- Criteria without entries. -/
def empty : Criteria := ⟨[]⟩

/-- Gives `property` the value `value` in a list of entries: in place where the property is
present, at the end otherwise. -/
def insertEntry (property value : String) : List (String × String) → List (String × String)
  | [] => [(property, value)]
  | (p, v) :: rest =>
    if p = property then (p, value) :: rest else (p, v) :: insertEntry property value rest

/-- Gives `property` the value `value`. -/
def insert (c : Criteria) (property value : String) : Criteria :=
  ⟨insertEntry property value c.entries⟩

/-- Criteria with a single entry. -/
def single (property value : String) : Criteria :=
  empty.insert property value

/-- The entries of a list, inserted from left to right. -/
def ofList (entries : List (String × String)) : Criteria :=
  entries.foldl (fun c (property, value) => c.insert property value) empty

/-- The value of a property: that of its first entry. -/
def get? (c : Criteria) (property : String) : Option String :=
  c.entries.lookup property

/-- The properties in order. -/
def properties (c : Criteria) : List String :=
  c.entries.map Prod.fst

/-- The number of entries. -/
def size (c : Criteria) : Nat :=
  c.entries.length

/-- Whether there is no entry. -/
def isEmpty (c : Criteria) : Bool :=
  c.entries.isEmpty

end Criteria

end EntityFinder
