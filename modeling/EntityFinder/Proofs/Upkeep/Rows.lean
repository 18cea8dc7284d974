import EntityFinder.Proofs.Upkeep.Basic

set_option autoImplicit false

/-!
# Changes of rows alone

Whatever is done to the nodes, the tables get other rows at most. They keep their names, their
columns and their tokenizers, the parts that they have lost stay lost, and all triggers stay.

## Main definitions

* `EntityFinder.IndexTable.Restocked`: a table that is the same but for its rows.
* `EntityFinder.Database.Restocked`: a database all tables of which are.

## Main results

* `EntityFinder.Database.Restocked.insertNode`, `EntityFinder.Database.Restocked.updateNode`,
  `EntityFinder.Database.Restocked.deleteNode`: statements on nodes change rows alone.
* `EntityFinder.IndexPlan.ends_populate_restocked`: so does filling a table.
-/

namespace EntityFinder

open EntityFinder.Action (Ends)

/-- A table that is the same but for its rows and its use. -/
def IndexTable.Restocked (t t' : IndexTable) : Prop :=
  ∃ rows segments inUse, t' = { t with rows, segments, inUse }

namespace Database

/-- The tables are the same but for their rows and their use, and the triggers are the same. -/
structure Restocked (d d' : Database) : Prop where
  /-- Each table has become one with other rows. -/
  tables : List.Forall₂ IndexTable.Restocked d.tables d'.tables
  /-- The triggers are the same. -/
  triggers : d'.triggers = d.triggers

variable {d d' d'' : Database}

namespace Restocked

/-- A database has the rows that it has. -/
lemma refl (d : Database) : Restocked d d :=
  ⟨List.forall₂_same.mpr fun t _ => ⟨t.rows, t.segments, t.inUse, rfl⟩, rfl⟩

/-- Having other rows passes on. -/
lemma trans (h : Restocked d d') (h' : Restocked d' d'') : Restocked d d'' := by
  refine ⟨forall₂_trans (fun a b c hab hbc => ?_) h.tables h'.tables, h'.triggers.trans h.triggers⟩
  obtain ⟨_, _, _, rfl⟩ := hab
  obtain ⟨rows, k, b, rfl⟩ := hbc
  exact ⟨rows, k, b, rfl⟩

/-- A table comes from one that is the same but for its rows. -/
lemma origin (h : Restocked d d') {t' : IndexTable} (ht : t' ∈ d'.tables) :
    ∃ t ∈ d.tables, t.Restocked t' :=
  exists_left_of_forall₂ h.tables ht

/-- Taking tables into use changes no more than the rows. -/
lemma of_idle (h : Retabled Idle d d') : Restocked d d' :=
  ⟨h.tables.imp fun t _ ⟨b, ht⟩ => ⟨t.rows, t.segments, b, ht⟩, h.triggers⟩

/-- Other rows of one table are other rows. -/
lemma of_at {name : String} {R : IndexTable → IndexTable → Prop} (h : Retabled (At name R) d d')
    (hR : ∀ t t', R t t' → ∃ rows k, t' = { t with rows, segments := k }) : Restocked d d' := by
  refine ⟨h.tables.imp fun t t' ht => ?_, h.triggers⟩
  refine ht.elim (fun t => ⟨t.rows, t.segments, t.inUse, rfl⟩) fun t t' ht => ?_
  obtain ⟨rows, k, rfl⟩ := hR t t' ht
  exact ⟨rows, k, t.inUse, rfl⟩

/-- What triggers make of a change of the nodes changes rows alone. -/
lemma fireAll {event : NodeEvent} {n : StoredNode} (h : d.fireAll event n = .ok d') :
    Restocked d d' :=
  foldlM_ok .refl .trans (fun _ _ _ h => of_at (fire_ok h) fun _ _ hf => hf.exists_eq) h

/-- Storing a node changes rows alone. -/
theorem insertNode {entity document : String} {id : Int}
    (h : insertNode entity document d = .ok (id, d')) : Restocked d d' := by
  obtain ⟨d₁, h₁, h⟩ := bind_eq_ok.mp h
  obtain ⟨d₂, h₂, h⟩ := bind_eq_ok.mp h
  cases h
  have hfired := fireAll h₂
  exact (of_idle (ready_ok h₁)).trans ⟨hfired.tables, hfired.triggers⟩

/-- A node of another program changes rows alone. -/
theorem insertForeignNode {entity document : String} {id : Int}
    (h : insertForeignNode entity document d = .ok (id, d')) : Restocked d d' := by
  obtain ⟨d₁, h₁, hidle⟩ := insertForeignNode_ok h
  exact ((of_idle (retabled_atRest d)).trans (insertNode h₁)).trans (of_idle hidle)

/-- Giving a node another document changes rows alone. -/
theorem updateNode {id : Int} {entity document : String} {found : Bool}
    (h : updateNode id entity document d = .ok (found, d')) : Restocked d d' := by
  obtain ⟨d₁, h₁, h⟩ := bind_eq_ok.mp h
  have hready := of_idle (ready_ok h₁)
  split at h
  · cases h
    exact hready
  · split_ifs at h
    · obtain ⟨d₂, h₂, h⟩ := bind_eq_ok.mp h
      cases h
      have hfired := fireAll h₂
      exact hready.trans ⟨hfired.tables, hfired.triggers⟩
    · cases h
      exact hready

/-- Deleting a node changes rows alone. -/
theorem deleteNode {id : Int} {found : Bool} (h : deleteNode id d = .ok (found, d')) :
    Restocked d d' := by
  obtain ⟨d₁, h₁, h⟩ := bind_eq_ok.mp h
  have hready := of_idle (ready_ok h₁)
  split at h
  · cases h
    exact hready
  · obtain ⟨d₂, h₂, h⟩ := bind_eq_ok.mp h
    cases h
    have hfired := fireAll h₂
    exact hready.trans ⟨hfired.tables, hfired.triggers⟩

end Restocked

end Database

namespace IndexPlan

open Database

variable {config : IndexConfig} {p : IndexPlan} {d : Database}

/-- Filling a table changes rows alone, however this ends. -/
lemma ends_populate_restocked (hp : p.IsPlain config) :
    Ends p.populate d (fun _ => Restocked d) (Restocked d) := by
  refine Action.ends_bind (ends_run (.refl d) fun d₁ h₁ _ => ?_)
  rw [hp.table] at h₁
  have hcleared : Restocked d d₁ := by
    refine .of_at (clearTable_ok hp.isIdentifier hp.entity h₁).2 fun t t' ht => ?_
    obtain ⟨k, rfl⟩ := IndexTable.clear_ok ht
    exact ⟨[], k, rfl⟩
  refine ends_run hcleared fun d₂ h₂ _ => hcleared.trans ?_
  rw [hp.table] at h₂
  obtain ⟨_, _, rows, _, hfilled⟩ := fillTable_ok hp.isIdentifier hp.entity h₂
  refine .of_at hfilled fun t t' ht => ?_
  obtain ⟨k, rfl⟩ := IndexTable.putAll_ok ht
  exact ⟨_, k, rfl⟩

end IndexPlan

end EntityFinder
