import EntityFinder.Proofs.IndexSetup
import EntityFinder.Proofs.Runs

set_option autoImplicit false

/-!
# What becomes of the nodes

Tables and triggers come and go without touching the nodes, and a statement on a node does to the
nodes what it says, whatever the triggers make of it.

## Main definitions

* `EntityFinder.Database.SameContents`: two databases with the same nodes.

## Main results

* `EntityFinder.IndexPlan.ends_ensure_contents`, `EntityFinder.IndexPlan.ends_rebuild_contents`: a
  setup leaves the nodes alone, however it ends.
* `EntityFinder.NodeStore.ends_prepare_contents`: so does preparing an entity.
* `EntityFinder.Database.insertNode_contents`, `EntityFinder.Database.updateNode_contents`,
  `EntityFinder.Database.deleteNode_contents`: the nodes after they were changed.
-/

namespace EntityFinder

open EntityFinder.Action (Ends)

namespace Database

/-! ## Statements on tables and triggers -/

/-- Two databases have the same nodes and the same counter, and can be changed alike. -/
structure SameContents (d d' : Database) : Prop where
  /-- The nodes are the same. -/
  nodes : d'.nodes = d.nodes
  /-- The counter is the same. -/
  lastId : d'.lastId = d.lastId
  /-- Both can be changed, or none. -/
  isReadOnly : d'.isReadOnly = d.isReadOnly

variable {d d' d'' : Database}

namespace SameContents

/-- A database has the contents that it has. -/
lemma refl (d : Database) : SameContents d d :=
  ⟨rfl, rfl, rfl⟩

/-- Having the same contents passes on. -/
lemma trans (h : SameContents d d') (h' : SameContents d' d'') : SameContents d d'' :=
  ⟨h'.nodes.trans h.nodes, h'.lastId.trans h.lastId, h'.isReadOnly.trans h.isReadOnly⟩

/-- A change of tables leaves the contents alone. -/
lemma of_retabled {R : IndexTable → IndexTable → Prop} (h : Retabled R d d') :
    SameContents d d' :=
  ⟨h.nodes, h.lastId, h.isReadOnly⟩

/-- Creating a table leaves the contents alone. -/
lemma createTable {name tokenizer : String} {columns : List String}
    (h : createTable name columns tokenizer d = .ok d') : SameContents d d' := by
  obtain ⟨n, _, h⟩ := bind_eq_ok.mp h
  split_ifs at h
  · cases h
    exact .refl _
  · obtain ⟨_, _, h⟩ := bind_eq_ok.mp h
    obtain ⟨_, _, h⟩ := bind_eq_ok.mp h
    cases h
    exact ⟨rfl, rfl, rfl⟩
  · obtain ⟨_, _, h⟩ := bind_eq_ok.mp h
    obtain ⟨_, _, h⟩ := bind_eq_ok.mp h
    cases h

/-- Dropping a table leaves the contents alone. -/
lemma dropTable {name : String} (h : dropTable name d = .ok d') : SameContents d d' := by
  obtain ⟨n, _, h⟩ := bind_eq_ok.mp h
  obtain ⟨_, _, h⟩ := bind_eq_ok.mp h
  split at h
  · cases h
    exact .refl _
  · obtain ⟨_, _, h⟩ := bind_eq_ok.mp h
    cases h
    exact ⟨rfl, rfl, rfl⟩
  · exact .of_retabled (changeTable_ok h)

/-- Clearing a table leaves the contents alone. -/
lemma clearTable {name : String} (h : clearTable name d = .ok d') : SameContents d d' := by
  obtain ⟨n, _, h⟩ := bind_eq_ok.mp h
  split_ifs at h
  exact .of_retabled (changeTable_ok h)

/-- Filling a table leaves the contents alone. -/
lemma fillTable {name entity : String} {columns : List String}
    (h : fillTable name entity columns d = .ok d') : SameContents d d' := by
  obtain ⟨n, _, h⟩ := bind_eq_ok.mp h
  obtain ⟨_, _, h⟩ := bind_eq_ok.mp h
  split_ifs at h
  obtain ⟨rows, _, h⟩ := bind_eq_ok.mp h
  exact .of_retabled (changeTable_ok h)

/-- Creating a trigger leaves the contents alone. -/
lemma createTrigger {t : Trigger} (h : createTrigger t d = .ok d') : SameContents d d' := by
  obtain ⟨n, _, h⟩ := bind_eq_ok.mp h
  split_ifs at h
  · obtain ⟨_, _, h⟩ := bind_eq_ok.mp h
    cases h
    exact .refl _
  · obtain ⟨_, _, h⟩ := bind_eq_ok.mp h
    cases h
    exact ⟨rfl, rfl, rfl⟩

/-- Dropping a trigger leaves the contents alone. -/
lemma dropTrigger {table : String} {event : NodeEvent} (h : dropTrigger table event d = .ok d') :
    SameContents d d' := by
  obtain ⟨n, _, h⟩ := bind_eq_ok.mp h
  cases h
  exact ⟨rfl, rfl, rfl⟩

/-- A statement keeps the contents that it does not touch, however it ends. -/
lemma ends_run {statement : Database → Except DatabaseFault Database} {d₀ : Database}
    (hd : SameContents d₀ d) (h : ∀ {d'}, statement d = .ok d' → SameContents d d') :
    Ends (run statement) d (fun _ => SameContents d₀) (SameContents d₀) :=
  Database.ends_run hd fun _ hok _ => hd.trans (h hok)

end SameContents

end Database

/-! ## Setups -/

namespace IndexPlan

open Database

variable {p : IndexPlan} {d₀ d : Database}

/-- Creating triggers leaves the nodes alone, however it ends. -/
lemma ends_createTriggers_contents (hd : SameContents d₀ d) :
    Ends p.createTriggers d (fun _ => SameContents d₀) (SameContents d₀) := by
  have hstep : ∀ event {d}, SameContents d₀ d →
      Ends (Database.run (createTrigger (p.trigger event))) d (fun _ => SameContents d₀)
        (SameContents d₀) :=
    fun event _ h => h.ends_run .createTrigger
  refine Action.ends_bind ((hstep .insert hd).mono (fun _ d₁ h₁ => ?_) fun _ h => h)
  refine Action.ends_bind ((hstep .update h₁).mono (fun _ d₂ h₂ => ?_) fun _ h => h)
  exact hstep .delete h₂

/-- Filling a table leaves the nodes alone, however it ends. -/
lemma ends_populate_contents (hd : SameContents d₀ d) :
    Ends p.populate d (fun _ => SameContents d₀) (SameContents d₀) := by
  refine Action.ends_bind ((hd.ends_run .clearTable).mono (fun _ d₁ h₁ => ?_) fun _ h => h)
  exact h₁.ends_run .fillTable

/-- Dropping a table leaves the nodes alone, however it ends. -/
lemma ends_drop_contents (hd : SameContents d₀ d) :
    Ends p.drop d (fun _ => SameContents d₀) (SameContents d₀) := by
  have hstep : ∀ event {d}, SameContents d₀ d →
      Ends (Database.run (dropTrigger p.table event)) d (fun _ => SameContents d₀)
        (SameContents d₀) :=
    fun event _ h => h.ends_run .dropTrigger
  refine Action.ends_bind ((hd.ends_run .dropTable).mono (fun _ d₁ h₁ => ?_) fun _ h => h)
  refine Action.ends_bind ((hstep .insert h₁).mono (fun _ d₂ h₂ => ?_) fun _ h => h)
  refine Action.ends_bind ((hstep .update h₂).mono (fun _ d₃ h₃ => ?_) fun _ h => h)
  exact hstep .delete h₃

/-- Setting a table up anew leaves the nodes alone, however it ends. -/
theorem ends_rebuild_contents (hd : SameContents d₀ d) :
    Ends p.rebuild d (fun _ => SameContents d₀) (SameContents d₀) := by
  refine Action.ends_bind ((ends_drop_contents hd).mono (fun _ d₁ h₁ => ?_) fun _ h => h)
  split_ifs
  · refine Action.ends_bind ((h₁.ends_run .createTable).mono (fun _ d₂ h₂ => ?_) fun _ h => h)
    refine Action.ends_bind ((ends_createTriggers_contents h₂).mono (fun _ d₃ h₃ => ?_)
      fun _ h => h)
    exact ends_populate_contents h₃
  · exact h₁

/-- Filling a table and then creating its triggers leaves the nodes alone, however it ends. -/
lemma ends_fill_contents (hd : SameContents d₀ d) :
    Ends (p.populate >>= fun _ => p.createTriggers) d (fun _ => SameContents d₀)
      (SameContents d₀) :=
  Action.ends_bind ((ends_populate_contents hd).mono (fun _ _ h => ends_createTriggers_contents h)
    fun _ h => h)

/-- Setting a table up leaves the nodes alone, however it ends. -/
theorem ends_ensure_contents (hd : SameContents d₀ d) :
    Ends p.ensure d (fun _ => SameContents d₀) (SameContents d₀) := by
  have hopened : ∀ d₁, Retabled Idle d d₁ → SameContents d₀ d₁ :=
    fun _ hr => hd.trans (.of_retabled hr)
  refine ends_ensure (fun _ => hd) hd ?create ?replace ?change ?fill ?guard
  case create =>
    intro _
    exact Action.ends_bind ((hd.ends_run .createTable).mono (fun _ _ h => ends_fill_contents h)
      fun _ h => h)
  case replace => exact fun _ _ _ => ends_rebuild_contents hd
  case change => exact fun _ _ _ d₁ hr => ends_rebuild_contents (hopened d₁ hr)
  case fill => exact fun _ _ _ d₁ hr _ => ends_fill_contents (hopened d₁ hr)
  case guard => exact fun _ _ _ d₁ hr _ => ends_createTriggers_contents (hopened d₁ hr)

end IndexPlan

/-! ## Statements on nodes -/

namespace Database

variable {d d' : Database}

/-- Whatever the triggers do, the nodes are not touched. -/
lemma SameContents.fireAll {event : NodeEvent} {n : StoredNode}
    (h : d.fireAll event n = .ok d') : SameContents d d' :=
  foldlM_ok .refl .trans (fun _ _ _ h => .of_retabled (fire_ok h)) h

/-- Storing a node adds it under the next number. -/
theorem insertNode_contents {entity document : String} {id : Int}
    (h : insertNode entity document d = .ok (id, d')) :
    id = (d.lastId + 1 : Nat) ∧ d'.nodes = d.nodes ++ [⟨id, entity, document⟩] ∧
      d'.lastId = d.lastId + 1 ∧ d'.isReadOnly = d.isReadOnly := by
  obtain ⟨d₁, h₁, h⟩ := bind_eq_ok.mp h
  obtain ⟨d₂, h₂, h⟩ := bind_eq_ok.mp h
  cases h
  have hready := SameContents.of_retabled (ready_ok h₁)
  have hfired := SameContents.fireAll h₂
  refine ⟨by rw [hready.lastId], ?_, ?_, ?_⟩
  · rw [hfired.nodes, hready.nodes]
  · rw [hfired.lastId, hready.lastId]
  · rw [hfired.isReadOnly, hready.isReadOnly]

/-- A node of another program is added under the next number. -/
theorem insertForeignNode_contents {entity document : String} {id : Int}
    (h : insertForeignNode entity document d = .ok (id, d')) :
    id = (d.lastId + 1 : Nat) ∧ d'.nodes = d.nodes ++ [⟨id, entity, document⟩] ∧
      d'.lastId = d.lastId + 1 ∧ d'.isReadOnly = d.isReadOnly := by
  obtain ⟨d₁, h₁, hidle⟩ := insertForeignNode_ok h
  obtain ⟨hid, hnodes, hlast, haccess⟩ := insertNode_contents h₁
  have hsame := SameContents.of_retabled hidle
  exact ⟨hid, hsame.nodes.trans hnodes, hsame.lastId.trans hlast, hsame.isReadOnly.trans haccess⟩

/-- Giving a node of an entity another document changes this node only, if there is one. -/
theorem updateNode_contents {id : Int} {entity document : String} {found : Bool}
    (h : updateNode id entity document d = .ok (found, d')) :
    (found = true ↔ ∃ n, d.node? id = some n ∧ n.entity = entity) ∧
      d'.nodes = (if found then d.nodes.map fun m =>
        if m.id = id then { id := m.id, entity := entity, document := document } else m
        else d.nodes) ∧
      d'.lastId = d.lastId ∧ d'.isReadOnly = d.isReadOnly := by
  obtain ⟨d₁, h₁, h⟩ := bind_eq_ok.mp h
  have hready := SameContents.of_retabled (ready_ok h₁)
  have hnode := node?_congr hready.nodes
  split at h
  · next hnone =>
    cases h
    rw [hnode] at hnone
    exact ⟨by simp [hnone], hready.nodes, hready.lastId, hready.isReadOnly⟩
  · next n hsome =>
    rw [hnode] at hsome
    have hid : n.id = id := by simpa using List.find?_some hsome
    split_ifs at h with hentity
    · obtain ⟨d₂, h₂, h⟩ := bind_eq_ok.mp h
      cases h
      have hfired := SameContents.fireAll h₂
      refine ⟨⟨fun _ => ⟨n, hsome, hentity⟩, fun _ => rfl⟩, ?_, ?_, ?_⟩
      · rw [hfired.nodes, if_pos rfl, hready.nodes]
        refine List.map_congr_left fun m _ => ?_
        split_ifs with hm
        · rw [hm, hid, hentity]
        · rfl
      · rw [hfired.lastId, hready.lastId]
      · rw [hfired.isReadOnly, hready.isReadOnly]
    · cases h
      refine ⟨⟨fun hf => (by cases hf), ?_⟩, hready.nodes, hready.lastId, hready.isReadOnly⟩
      rintro ⟨n', hn', hentity'⟩
      rw [hsome] at hn'
      cases hn'
      exact absurd hentity' hentity

/-- Deleting a node takes this node away and no other, if there is one. -/
theorem deleteNode_contents {id : Int} {found : Bool}
    (h : deleteNode id d = .ok (found, d')) :
    (found = true ↔ ∃ n, d.node? id = some n) ∧
      d'.nodes = d.nodes.filter (·.id != id) ∧
      d'.lastId = d.lastId ∧ d'.isReadOnly = d.isReadOnly := by
  obtain ⟨d₁, h₁, h⟩ := bind_eq_ok.mp h
  have hready := SameContents.of_retabled (ready_ok h₁)
  have hnode := node?_congr hready.nodes
  split at h
  · next hnone =>
    cases h
    rw [hnode] at hnone
    refine ⟨by simp [hnone], ?_, hready.lastId, hready.isReadOnly⟩
    rw [hready.nodes, List.filter_eq_self.mpr]
    intro m hm
    have hother := List.find?_eq_none.mp hnone m hm
    simpa [bne] using hother
  · next n hsome =>
    rw [hnode] at hsome
    obtain ⟨d₂, h₂, h⟩ := bind_eq_ok.mp h
    cases h
    have hfired := SameContents.fireAll h₂
    refine ⟨⟨fun _ => ⟨n, hsome⟩, fun _ => rfl⟩, ?_, ?_, ?_⟩
    · rw [hfired.nodes, hready.nodes]
    · rw [hfired.lastId, hready.lastId]
    · rw [hfired.isReadOnly, hready.isReadOnly]

/-- A statement that succeeds takes effect in a database that can be changed. -/
lemma perform_execute_of_ok {α : Type} {statement : Database → Except DatabaseFault (α × Database)}
    {x : α} (h : statement d = .ok (x, d')) (hr : d.isReadOnly = false) :
    (execute statement).perform d = (.ok x, d') := by
  simp [execute, Action.atomic, changing, h, hr, Except.mapError]

/-- A statement that fails on a database that can be changed fails with its own fault. -/
lemma perform_execute_of_error {α : Type}
    {statement : Database → Except DatabaseFault (α × Database)} {f : DatabaseFault}
    (h : statement d = .error f) (hr : d.isReadOnly = false) :
    (execute statement).perform d = (.error f.toError, d) := by
  simp [execute, Action.atomic, changing, reported, h, hr, Except.mapError]

end Database

/-! ## Calls -/

namespace NodeStore

open Database (SameContents)

/-- Setting up the table of an entity, if that has to be done, leaves the nodes alone, however this
ends. -/
theorem ends_prepare_contents (m : EntityMetadata) (s : NodeStore) :
    Ends (prepare m) s (fun _ s' => s'.config = s.config ∧ SameContents s.database s'.database)
      fun s' => s'.config = s.config ∧ SameContents s.database s'.database := by
  unfold prepare
  refine Action.ends_bind (Action.ends_get ?_)
  split_ifs
  · refine Action.ends_bind (Action.ends_query (fun p _ => ?_) ⟨rfl, .refl _⟩)
    refine Action.ends_bind (Action.ends_onPart ?_)
    exact (IndexPlan.ends_ensure_contents (.refl _)).mono (fun _ _ h => ⟨rfl, h⟩) fun _ h => ⟨rfl, h⟩
  · exact ⟨rfl, .refl _⟩

end NodeStore

end EntityFinder
