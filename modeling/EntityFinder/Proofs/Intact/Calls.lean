import EntityFinder.Proofs.Contents
import EntityFinder.Proofs.Intact.Runs

set_option autoImplicit false

/-!
# Calls on stores with intact databases

Once an entity has been prepared, nothing can keep its nodes from being changed, unless the database
can only be read.

## Main results

* `EntityFinder.NodeStore.exists_insert`, `EntityFinder.NodeStore.exists_update`,
  `EntityFinder.NodeStore.exists_delete`: calls that succeed.
-/

namespace EntityFinder.NodeStore

open EntityFinder.Action (Ends)
open CallInvariant (Holds)
open Database (Intact WellKept)

/-! ## Preparing -/

/-- A store with an intact database. -/
abbrev IsIntact (config : IndexConfig) (entities : String → Prop) (s : NodeStore) : Prop :=
  Holds config (fun _ d => WellKept config d ∧ Intact config entities d) s

variable {config : IndexConfig} {entities : String → Prop} {s s₁ : NodeStore} {m : EntityMetadata}

/-- Preparing an entity keeps the database intact, however it ends. -/
lemma ends_prepare_intact (hpre : Text.isIdentifier config.tablePrefix = true)
    (hapart : config.Apart entities) (hentity : entities m.entityName)
    (hs : IsIntact config entities s) :
    Ends (prepare m) s (fun _ => IsIntact config entities) (IsIntact config entities) := by
  have hinvariant := (storeInvariant_intact hpre hapart).toCallInvariant
  refine hinvariant.ends_prepare (c := .index m) (fun e he => ?_) rfl hs
  cases he
  exact hentity

/-- Preparing an entity that succeeds notes this. -/
lemma ends_prepare_mem (m : EntityMetadata) (s : NodeStore) :
    Ends (prepare m) s (fun _ s₁ => m.entityName ∈ s₁.prepared) fun _ => True := by
  unfold prepare
  refine Action.ends_bind (Action.ends_get ?_)
  split_ifs with hnew
  · refine Action.ends_bind (Action.ends_query (fun p _ => ?_) trivial)
    refine Action.ends_bind (Action.ends_true.mono (fun _ s₂ _ => ?_) fun _ h => h)
    exact Action.ends_modify (List.mem_insert_self ..)
  · exact Action.ends_pure (by simpa using hnew)

/-- An entity that was prepared is among the prepared ones. -/
lemma mem_prepared_of_prepare (h : (prepare m).perform s = (.ok (), s₁)) :
    m.entityName ∈ s₁.prepared :=
  (ends_prepare_mem m s).of_perform h

/-- An entity whose index is answered has been prepared. -/
lemma prepare_of_index {index : NodeIndex}
    (h : (NodeStore.index m).perform s = (.ok index, s₁)) :
    (prepare m).perform s = (.ok (), s₁) := by
  obtain ⟨_, s₂, hprepare, h⟩ := Action.perform_bind_eq_ok.mp h
  obtain ⟨_, s₃, hplan, h⟩ := Action.perform_bind_eq_ok.mp h
  obtain rfl : s₂ = s₃ := congrArg Prod.snd hplan
  obtain rfl : s₂ = s₁ := congrArg Prod.snd h
  exact hprepare

/-! ## Changing nodes -/

/-- A statement on the database of a store takes effect if it succeeds and the database can be
changed. -/
lemma perform_execute_of_ok {α : Type} {statement : Database → Except DatabaseFault (α × Database)}
    {x : α} {d' : Database} (h : statement s.database = .ok (x, d'))
    (hr : s.database.isReadOnly = false) :
    (onDatabase (Database.execute statement)).perform s = (.ok x, { s with database := d' }) := by
  simp only [onDatabase, Action.onPart, Action.perform_ofFunction,
    Database.perform_execute_of_ok h hr]

/-- A statement on the database of a store that succeeds has changed nothing else. -/
lemma exists_of_perform_execute {α : Type}
    {statement : Database → Except DatabaseFault (α × Database)} {x : α}
    (h : (onDatabase (Database.execute statement)).perform s = (.ok x, s₁)) :
    ∃ d', statement s.database = .ok (x, d') ∧ s.database.isReadOnly = false ∧
      s₁ = { s with database := d' } := by
  have hends : Ends (onDatabase (Database.execute statement)) s (fun x s₁ =>
      ∃ d', statement s.database = .ok (x, d') ∧ s.database.isReadOnly = false ∧
        s₁ = { s with database := d' }) fun _ => True :=
    Action.ends_onPart (Database.ends_execute trivial fun x d' hx hr => ⟨d', hx, hr, rfl⟩)
  exact hends.of_perform h

variable (hs : IsIntact config entities s₁) (hr : s₁.database.isReadOnly = false) {p : Properties}

include hs hr

/-- Properties that are declared can be stored once the entity has been prepared. -/
theorem exists_insert (hdeclared : checkDeclared m p.names = .ok ())
    (hprepare : (prepare m).perform s = (.ok (), s₁)) :
    ∃ d', Database.insertNode m.entityName p.document s₁.database =
        .ok (((s₁.database.lastId + 1 : Nat) : Int), d') ∧
      (insert m p).perform s =
        (.ok ((s₁.database.lastId + 1 : Nat) : Int), { s₁ with database := d' }) := by
  obtain ⟨d', hd'⟩ := hs.2.2.exists_insertNode hs.2.1
    (Intact.reads_document s₁.database.triggers m.entityName p)
  refine ⟨d', hd', ?_⟩
  rw [insert, hdeclared]
  refine Action.perform_bind_eq_ok.mpr ⟨(), s, rfl, ?_⟩
  refine Action.perform_bind_eq_ok.mpr ⟨(), s₁, hprepare, ?_⟩
  exact perform_execute_of_ok hd' hr

/-- Properties that are declared can replace others once the entity has been prepared. -/
theorem exists_update (id : Int) (hdeclared : checkDeclared m p.names = .ok ())
    (hprepare : (prepare m).perform s = (.ok (), s₁)) :
    ∃ found d', Database.updateNode id m.entityName p.document s₁.database = .ok (found, d') ∧
      (update m id p).perform s = (.ok found, { s₁ with database := d' }) := by
  obtain ⟨found, d', hd'⟩ := hs.2.2.exists_updateNode hs.2.1 id
    (Intact.reads_document s₁.database.triggers m.entityName p)
  refine ⟨found, d', hd', ?_⟩
  rw [update, hdeclared]
  refine Action.perform_bind_eq_ok.mpr ⟨(), s, rfl, ?_⟩
  refine Action.perform_bind_eq_ok.mpr ⟨(), s₁, hprepare, ?_⟩
  exact perform_execute_of_ok hd' hr

/-- Nodes can be deleted. -/
theorem exists_delete (id : Int) :
    ∃ found d', Database.deleteNode id s₁.database = .ok (found, d') ∧
      (delete id).perform s₁ = (.ok found, { s₁ with database := d' }) := by
  obtain ⟨found, d', hd'⟩ := hs.2.2.exists_deleteNode hs.2.1 id
  exact ⟨found, d', hd', perform_execute_of_ok hd' hr⟩

end EntityFinder.NodeStore
