import EntityFinder.Proofs.Histories
import Mathlib.Data.Finmap

set_option autoImplicit false

/-!
# Finite maps of nodes

What a store of nodes is to be, without tables and texts: a finite map from numbers to entities with
properties, and the number that was given out last.

## Main definitions

* `EntityFinder.NodeMap`: such a map.
* `EntityFinder.NodeMap.Answers`, `EntityFinder.NodeMap.next`: the right answers to a call, and the
  map after it.
* `EntityFinder.NodeMap.MayFail`: the calls that may also fail. Then the map stays as it is.
* `EntityFinder.NodeMap.Run`: any number of calls, each with its answer or its failure.

## Main results

* `EntityFinder.NodeMap.Run.given_pairwise`: the numbers that are given out grow.
-/

namespace EntityFinder

/-- A finite map from numbers to entities with properties. -/
structure NodeMap where
  /-- The entity and the properties under each number. -/
  nodes : Finmap fun _ : Int => String × Properties
  /-- The number that was given out last. -/
  last : Int

namespace NodeMap

/-- The map without nodes. -/
def empty : NodeMap := ⟨∅, 0⟩

variable (M : NodeMap)

/-- The record of the node under a number. -/
def record? (id : Int) : Option Record :=
  (M.nodes.lookup id).map fun node => ⟨id, node.1, node.2⟩

/-- Records are those of all nodes of an entity in ascending order of their numbers. -/
structure Lists (entity : String) (records : List Record) : Prop where
  /-- The numbers ascend. -/
  sorted : records.Pairwise fun a b => a.id < b.id
  /-- The records are those of the nodes of the entity. -/
  mem_iff : ∀ r, r ∈ records ↔ r.entity = entity ∧ M.record? r.id = some r

/-- The right answers to a call. Of a search only this is said: the query that lists every node finds
all nodes of the entity. -/
def Answers : (c : StoreCall) → c.Answer → Prop
  | .insert _ _, id => M.last < id ∧ id ∉ M.nodes
  | .update m id _, found => found = true ↔ ∃ p, M.nodes.lookup id = some (m.entityName, p)
  | .get id, found => found = M.record? id
  | .delete id, found => found = true ↔ id ∈ M.nodes
  | .query index text, records =>
    NodeIndex.isMatchAll text = true → M.Lists index.entity records
  | .index m, index => index.entity = m.entityName
  | .rebuild _, _ | .stats _, _ | .findOne .., _ => True

/-- The map after a call with its answer. -/
def next : (c : StoreCall) → c.Answer → NodeMap
  | .insert m p, id => ⟨M.nodes.insert id (m.entityName, p), id⟩
  | .update m id p, found =>
    bif found then { M with nodes := M.nodes.insert id (m.entityName, p) } else M
  | .delete id, _ => { M with nodes := M.nodes.erase id }
  | .get _, _ | .query .., _ | .rebuild _, _ | .index _, _ | .stats _, _ | .findOne .., _ => M

/-- The calls that may fail: looking a node up never does, nor does listing all nodes. -/
def MayFail : StoreCall → Prop
  | .get _ => False
  | .query _ text => NodeIndex.isMatchAll text = false
  | _ => True

/-- The map after some calls, each with its answer or its failure, the latest one in front. -/
inductive Run : List LoggedCall → NodeMap → Prop
  /-- The map is empty at first. -/
  | start : Run [] .empty
  /-- A call is answered. -/
  | answered {log : List LoggedCall} {M : NodeMap} {c : StoreCall} {x : c.Answer} :
    Run log M → M.Answers c x → Run (⟨c, .ok x⟩ :: log) (M.next c x)
  /-- A call fails. -/
  | failed {log : List LoggedCall} {M : NodeMap} {c : StoreCall} {e : FinderError} :
    Run log M → MayFail c → Run (⟨c, .error e⟩ :: log) M

variable {M}

/-- A number that is given out becomes the last one. -/
lemma last_next (M : NodeMap) (c : StoreCall) (x : c.Answer) :
    (M.next c x).last = ((⟨c, .ok x⟩ : LoggedCall).given?).getD M.last := by
  cases c with
  | update m id p =>
    change Bool at x
    cases x <;> rfl
  | _ => rfl

/-- A number that is given out is greater than the last one. -/
lemma last_lt_of_given {c : StoreCall} {x : c.Answer} {id : Int} (h : M.Answers c x)
    (hid : (⟨c, .ok x⟩ : LoggedCall).given? = some id) : M.last < id := by
  cases c with
  | insert m p =>
    cases hid
    exact h.1
  | _ => cases hid

/-- No number is greater than the one that was given out last, and the numbers grow from call to
call: each is greater than all that were given out before. -/
theorem Run.given_pairwise {log : List LoggedCall} (h : Run log M) :
    (log.filterMap LoggedCall.given?).Pairwise (· > ·) ∧
      ∀ id ∈ log.filterMap LoggedCall.given?, id ≤ M.last := by
  induction h with
  | start => simp
  | @answered log M c x _ hanswers ih =>
    rw [last_next]
    cases hgiven : (⟨c, .ok x⟩ : LoggedCall).given? with
    | none =>
      rw [List.filterMap_cons_none hgiven]
      exact ih
    | some new =>
      have hlt := last_lt_of_given hanswers hgiven
      rw [List.filterMap_cons_some hgiven, List.pairwise_cons]
      refine ⟨⟨fun id hid => lt_of_le_of_lt (ih.2 id hid) hlt, ih.1⟩, fun id hid => ?_⟩
      rcases List.mem_cons.mp hid with rfl | hid
      · exact le_refl _
      · exact le_of_lt (lt_of_le_of_lt (ih.2 id hid) hlt)
  | @failed log M c e _ _ ih =>
    have hnone : (⟨c, .error e⟩ : LoggedCall).given? = none := by
      cases c <;> rfl
    rw [List.filterMap_cons_none hnone]
    exact ih

end NodeMap

end EntityFinder
