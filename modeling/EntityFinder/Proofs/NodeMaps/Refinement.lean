import EntityFinder.Proofs.Decoding
import EntityFinder.Proofs.Intact.Calls
import EntityFinder.Proofs.NodeMaps.Basic

set_option autoImplicit false

/-!
# Stores are finite maps

A store whose nodes all come from itself answers as a finite map does, whatever metadata is used,
whatever calls fail, and however often its file is opened again. The full-text tables and their
triggers do not show in this.

## Main definitions

* `EntityFinder.NodeMap.Describes`: a map that a database holds.
* `EntityFinder.NodeStore.TakesChanges`: a store whose nodes can be changed.

## Main results

* `EntityFinder.NodeMap.Describes.ends_action`: every call does to the store what it does to the map.
* `EntityFinder.StoreHistory.refines_map`: so every history is one of a map.
-/

namespace EntityFinder

open EntityFinder.Action (Ends)
open Database (SameContents)

/-! ## Maps that databases hold -/

namespace NodeMap

/-- A database holds a map: each node under its number, its properties as one text. -/
structure Describes (M : NodeMap) (d : Database) : Prop where
  /-- The nodes that are stored are those of the map. -/
  mem_iff : ∀ n, n ∈ d.nodes ↔
    ∃ p : Properties, n.document = p.document ∧ M.nodes.lookup n.id = some (n.entity, p)
  /-- They are in ascending order of their numbers. -/
  sorted : d.nodes.Pairwise fun a b => a.id < b.id
  /-- No number is greater than the one that was given last. -/
  bounded : ∀ n ∈ d.nodes, n.id ≤ d.lastId
  /-- The number that was given last. -/
  last : M.last = d.lastId

namespace Describes

variable {M : NodeMap} {d d' : Database} {s : NodeStore}

/-- An empty database holds the map without nodes. -/
lemma empty : NodeMap.empty.Describes Database.empty where
  mem_iff := by simp [Database.empty, NodeMap.empty]
  sorted := .nil
  bounded := by simp [Database.empty]
  last := rfl

/-- Tables and triggers do not matter. -/
lemma congr (h : M.Describes d) (hd : SameContents d d') : M.Describes d' where
  mem_iff := hd.nodes ▸ h.mem_iff
  sorted := hd.nodes ▸ h.sorted
  bounded := by
    rw [hd.nodes, hd.lastId]
    exact h.bounded
  last := h.last.trans (by rw [hd.lastId])

/-- The node with a number is that of the map. -/
lemma node?_eq_some (h : M.Describes d) {n : StoredNode} {id : Int} : d.node? id = some n ↔
    ∃ e p, M.nodes.lookup id = some (e, p) ∧ n = ⟨id, e, p.document⟩ := by
  rw [Database.node?_eq_some_of_sorted h.sorted, h.mem_iff]
  constructor
  · rintro ⟨⟨p, hdocument, hlookup⟩, rfl⟩
    exact ⟨n.entity, p, hlookup, by rw [← hdocument]⟩
  · rintro ⟨e, p, hlookup, rfl⟩
    exact ⟨⟨p, rfl, hlookup⟩, rfl⟩

/-! ## Statements on nodes -/

/-- Storing a node puts it into the map under a new number. -/
lemma insertNode {entity : String} {p : Properties} {id : Int} (h : M.Describes d)
    (hd : Database.insertNode entity p.document d = .ok (id, d')) :
    (M.last < id ∧ id ∉ M.nodes) ∧ Describes ⟨M.nodes.insert id (entity, p), id⟩ d' := by
  obtain ⟨hid, hnodes, hlast, _⟩ := Database.insertNode_contents hd
  have hlt : ∀ n ∈ d.nodes, n.id < id := fun n hn => by
    have := h.bounded n hn
    omega
  have hnew : id ∉ M.nodes := by
    intro hmem
    obtain ⟨⟨e, q⟩, hlookup⟩ := Option.isSome_iff_exists.mp (Finmap.lookup_isSome.mpr hmem)
    exact absurd rfl (hlt ⟨id, e, q.document⟩ ((h.mem_iff _).mpr ⟨q, rfl, hlookup⟩)).ne
  refine ⟨⟨by rw [h.last]; omega, hnew⟩,
    ⟨fun n => ?_, ?_, fun n hn => ?_, by rw [hlast]; exact hid⟩⟩
  · rw [hnodes, List.mem_append, List.mem_singleton]
    by_cases hn : n.id = id
    · rw [hn, Finmap.lookup_insert]
      constructor
      · rintro (hold | rfl)
        · exact absurd hn (hlt n hold).ne
        · exact ⟨p, rfl, rfl⟩
      · rintro ⟨q, hdocument, heq⟩
        cases heq
        exact .inr (by rw [← hdocument, ← hn])
    · rw [Finmap.lookup_insert_of_ne _ hn, ← h.mem_iff]
      exact or_iff_left fun heq => hn (heq ▸ rfl)
  · rw [hnodes, List.pairwise_append]
    refine ⟨h.sorted, List.pairwise_singleton _ _, fun a ha b hb => ?_⟩
    rw [List.mem_singleton.mp hb]
    exact hlt a ha
  · rw [hnodes, List.mem_append, List.mem_singleton] at hn
    rw [hlast]
    rcases hn with hn | rfl
    · have := h.bounded n hn
      omega
    · exact le_of_eq hid

/-- Giving a node of an entity other properties does so in the map, if it is there. -/
lemma updateNode {entity : String} {p : Properties} {id : Int} {found : Bool} (h : M.Describes d)
    (hd : Database.updateNode id entity p.document d = .ok (found, d')) :
    (found = true ↔ ∃ q, M.nodes.lookup id = some (entity, q)) ∧
      Describes (bif found then { M with nodes := M.nodes.insert id (entity, p) } else M) d' := by
  obtain ⟨hfound, hnodes, hlast, haccess⟩ := Database.updateNode_contents hd
  have hiff : found = true ↔ ∃ q, M.nodes.lookup id = some (entity, q) := by
    rw [hfound]
    constructor
    · rintro ⟨n, hn, rfl⟩
      obtain ⟨e, q, hlookup, rfl⟩ := h.node?_eq_some.mp hn
      exact ⟨q, hlookup⟩
    · rintro ⟨q, hlookup⟩
      exact ⟨_, h.node?_eq_some.mpr ⟨entity, q, hlookup, rfl⟩, rfl⟩
  refine ⟨hiff, ?_⟩
  cases found with
  | false =>
    rw [if_neg (by simp)] at hnodes
    exact h.congr ⟨hnodes, hlast, haccess⟩
  | true =>
    obtain ⟨q, hq⟩ := hiff.mp rfl
    rw [if_pos rfl] at hnodes
    refine ⟨fun n => ?_, ?_, fun n hn => ?_, h.last.trans (by rw [hlast])⟩
    -- the node with the number comes from the one that was there, and every other one stays
    · rw [hnodes, List.mem_map, cond_true]
      by_cases hn : n.id = id
      · rw [hn, Finmap.lookup_insert]
        constructor
        · rintro ⟨m, hm, hmn⟩
          split_ifs at hmn with hid
          · exact ⟨p, by rw [← hmn], by rw [← hmn]⟩
          · exact absurd (hmn ▸ hn) hid
        · rintro ⟨r, hdocument, heq⟩
          cases heq
          refine ⟨⟨id, n.entity, q.document⟩, (h.mem_iff _).mpr ⟨q, rfl, hq⟩, ?_⟩
          rw [if_pos rfl, ← hdocument, ← hn]
      · rw [Finmap.lookup_insert_of_ne _ hn, ← h.mem_iff]
        constructor
        · rintro ⟨m, hm, rfl⟩
          split_ifs at hn ⊢ with hid
          · exact absurd hid hn
          · exact hm
        · exact fun hmem => ⟨n, hmem, if_neg hn⟩
    · rw [hnodes, List.pairwise_map]
      refine h.sorted.imp fun {a b} hlt => ?_
      split_ifs <;> exact hlt
    · rw [hnodes, List.mem_map] at hn
      obtain ⟨m, hm, rfl⟩ := hn
      rw [hlast]
      split_ifs <;> exact h.bounded m hm

/-- Deleting a node takes it out of the map, if it is there. -/
lemma deleteNode {id : Int} {found : Bool} (h : M.Describes d)
    (hd : Database.deleteNode id d = .ok (found, d')) :
    (found = true ↔ id ∈ M.nodes) ∧ Describes { M with nodes := M.nodes.erase id } d' := by
  obtain ⟨hfound, hnodes, hlast, _⟩ := Database.deleteNode_contents hd
  refine ⟨?_, ⟨fun n => ?_, hnodes ▸ h.sorted.filter _, fun n hn => ?_, h.last.trans (by rw [hlast])⟩⟩
  · rw [hfound, ← Finmap.lookup_isSome, Option.isSome_iff_exists]
    constructor
    · rintro ⟨n, hn⟩
      obtain ⟨e, p, hlookup, _⟩ := h.node?_eq_some.mp hn
      exact ⟨(e, p), hlookup⟩
    · rintro ⟨⟨e, p⟩, hlookup⟩
      exact ⟨_, h.node?_eq_some.mpr ⟨e, p, hlookup, rfl⟩⟩
  · rw [hnodes, List.mem_filter, h.mem_iff]
    by_cases hn : n.id = id
    · subst hn
      simp [Finmap.lookup_erase]
    · simp [hn, Finmap.lookup_erase_ne hn]
  · rw [hnodes] at hn
    rw [hlast]
    exact h.bounded n (List.mem_of_mem_filter hn)

/-! ## Looking nodes up -/

/-- The node with a number is read as the map has it. -/
lemma recordOf_eq (h : M.Describes d) (id : Int) : d.recordOf id = .ok (M.record? id) := by
  rw [Database.recordOf, record?]
  cases hn : d.node? id with
  | none =>
    cases hlookup : M.nodes.lookup id with
    | none => rfl
    | some node =>
      have := h.node?_eq_some.mpr ⟨node.1, node.2, hlookup, rfl⟩
      rw [hn] at this
      cases this
  | some n =>
    obtain ⟨e, p, hlookup, rfl⟩ := h.node?_eq_some.mp hn
    simp only [StoredNode.record, StoredNode.record?_document, hlookup, Except.map, Option.map_some]

/-- All nodes of an entity are read. -/
lemma lists_recordsOf (h : M.Describes d) (entity : String) :
    M.Lists entity (d.recordsOf entity) where
  sorted := by
    refine (h.sorted.filter _).filterMap _ fun a b hlt r hr r' hr' => ?_
    rw [(Database.of_record? hr).1, (Database.of_record? hr').1]
    exact hlt
  mem_iff r := by
    rw [Database.recordsOf, List.mem_filterMap]
    constructor
    · rintro ⟨n, hn, hr⟩
      obtain ⟨hn, hentity⟩ := List.mem_filter.mp hn
      obtain ⟨p, hdocument, hlookup⟩ := (h.mem_iff n).mp hn
      have hn' : n = ⟨n.id, n.entity, p.document⟩ := by rw [← hdocument]
      rw [hn', StoredNode.record?_document] at hr
      cases hr
      exact ⟨by simpa using hentity, by simp [record?, hlookup]⟩
    · rintro ⟨rfl, hr⟩
      obtain ⟨⟨e, p⟩, hlookup, heq⟩ := Option.map_eq_some_iff.mp hr
      obtain ⟨id, entity, properties⟩ := r
      cases heq
      refine ⟨⟨id, e, p.document⟩, List.mem_filter.mpr ⟨?_, by simp⟩, ?_⟩
      · exact (h.mem_iff _).mpr ⟨p, rfl, hlookup⟩
      · exact StoredNode.record?_document id e p

/-! ## Calls -/

/-- A statement on the nodes of a store does what it does to the map. -/
lemma ends_execute {α : Type} {statement : Database → Except DatabaseFault (α × Database)}
    {Q : α → Database → Prop} (h : M.Describes s.database)
    (hQ : ∀ x d', statement s.database = .ok (x, d') → Q x d') :
    Ends (NodeStore.onDatabase (Database.execute statement)) s (fun x s' => Q x s'.database)
      fun s' => M.Describes s'.database :=
  Action.ends_onPart (Database.ends_execute h fun x d' hx _ => hQ x d' hx)

/-- Every call does to the store what it does to the map, or fails and leaves the map alone. -/
theorem ends_action (h : M.Describes s.database) (c : StoreCall) :
    Ends c.action s (fun x s' => M.Answers c x ∧ (M.next c x).Describes s'.database)
      fun s' => M.Describes s'.database := by
  have hprepare : ∀ m : EntityMetadata, Ends (NodeStore.prepare m) s
      (fun _ s' => M.Describes s'.database) fun s' => M.Describes s'.database := fun m =>
    (NodeStore.ends_prepare_contents m s).mono (fun _ _ hs => h.congr hs.2) fun _ hs => h.congr hs.2
  cases c with
  | insert m p =>
    refine Action.ends_bind (Action.ends_ofExcept (fun _ _ => ?_) h)
    refine Action.ends_bind ((hprepare m).mono (fun _ s₁ h₁ => ?_) fun _ h => h)
    exact h₁.ends_execute fun id d' hd => h₁.insertNode hd
  | update m id p =>
    refine Action.ends_bind (Action.ends_ofExcept (fun _ _ => ?_) h)
    refine Action.ends_bind ((hprepare m).mono (fun _ s₁ h₁ => ?_) fun _ h => h)
    exact h₁.ends_execute fun found d' hd => h₁.updateNode hd
  | get id =>
    refine Action.ends_query (fun found hfound => ?_) h
    have hread : s.database.recordOf id = .ok found := mapError_eq_ok.mp hfound
    rw [h.recordOf_eq] at hread
    exact ⟨(Except.ok.inj hread).symm, h⟩
  | delete id => exact h.ends_execute fun found d' hd => h.deleteNode hd
  | rebuild m =>
    refine Action.ends_bind (Action.ends_query (fun p _ => ?_) h)
    refine Action.ends_bind (Action.ends_onPart ?_)
    exact (IndexPlan.ends_rebuild_contents (.refl _)).mono (fun _ _ hd => ⟨trivial, h.congr hd⟩)
      fun _ hd => h.congr hd
  | index m =>
    refine Action.ends_bind ((hprepare m).mono (fun _ s₁ h₁ => ?_) fun _ h => h)
    exact Action.ends_bind (Action.ends_query (fun _ _ => ⟨rfl, h₁⟩) h₁)
  | stats m =>
    exact Action.ends_bind (Action.ends_query
      (fun _ _ => Action.ends_query (fun _ _ => ⟨trivial, h⟩) h) h)
  | query i text =>
    by_cases hall : NodeIndex.isMatchAll text = true
    · change Ends (i.query text) s _ _
      unfold Ends
      rw [i.perform_query_all hall]
      exact ⟨fun _ => h.lists_recordsOf i.entity, h⟩
    · exact Action.ends_query (fun records _ => ⟨fun hyes => absurd hyes hall, h⟩) h
  | findOne i property value =>
    refine Action.ends_bind (Action.ends_ofExcept (fun _ _ => ?_) h)
    exact Action.ends_query (fun _ _ => ⟨trivial, h⟩) h

/-- A call that never fails in the map does not fail in the store. -/
lemma mayFail_of_error (h : M.Describes s.database) {c : StoreCall} {e : FinderError}
    (he : c.outcome s = .error e) : MayFail c := by
  cases c with
  | get id =>
    have hget : (StoreCall.get id).outcome s = .ok (M.record? id) := by
      change (s.database.recordOf id).mapError DatabaseFault.toError = _
      rw [h.recordOf_eq]
      rfl
    rw [hget] at he
    cases he
  | query i text =>
    refine Bool.eq_false_iff.mpr fun hall => ?_
    have hquery : (StoreCall.query i text).outcome s = .ok (s.database.recordsOf i.entity) :=
      congrArg Prod.fst (i.perform_query_all hall s)
    rw [hquery] at he
    cases he
  | _ => trivial

end Describes

end NodeMap

/-! ## Histories -/

/-- Nodes can be deleted, and as soon as the index of an entity is answered its nodes can be stored
and updated with any properties that are declared. -/
structure NodeStore.TakesChanges (entities : String → Prop) (s : NodeStore) : Prop where
  /-- Deleting a node succeeds. -/
  delete : ∀ id, ∃ found, ((NodeStore.delete id).perform s).1 = .ok found
  /-- Storing a node succeeds. -/
  insert : ∀ m p index, entities m.entityName → ((NodeStore.index m).perform s).1 = .ok index →
    checkDeclared m p.names = .ok () → ∃ id, ((NodeStore.insert m p).perform s).1 = .ok id
  /-- Updating a node succeeds, whether it is there or not. -/
  update : ∀ m id p index, entities m.entityName → ((NodeStore.index m).perform s).1 = .ok index →
    checkDeclared m p.names = .ok () → ∃ found, ((NodeStore.update m id p).perform s).1 = .ok found

/-- The nodes of a store with an intact database can be changed, unless it can only be read. -/
lemma NodeStore.IsIntact.takesChanges {config : IndexConfig} {entities : String → Prop}
    {s : NodeStore} (hs : s.IsIntact config entities)
    (hpre : Text.isIdentifier config.tablePrefix = true) (hapart : config.Apart entities)
    (hr : s.database.isReadOnly = false) : s.TakesChanges entities := by
  have hprepared : ∀ m index, entities m.entityName →
      ((NodeStore.index m).perform s).1 = .ok index →
      ∃ s₁, (prepare m).perform s = (.ok (), s₁) ∧ s₁.IsIntact config entities ∧
        s₁.database.isReadOnly = false := by
    intro m index hentity hindex
    have hprepare := prepare_of_index (Prod.ext hindex rfl : (NodeStore.index m).perform s =
      (.ok index, ((NodeStore.index m).perform s).2))
    exact ⟨_, hprepare, (ends_prepare_intact hpre hapart hentity hs).of_perform hprepare,
      ((ends_prepare_contents m s).of_perform hprepare).2.isReadOnly.trans hr⟩
  refine ⟨fun id => ?_, fun m p index hentity hindex hdeclared => ?_,
    fun m id p index hentity hindex hdeclared => ?_⟩
  · obtain ⟨found, d', _, hdelete⟩ := exists_delete hs hr id
    exact ⟨found, by rw [hdelete]⟩
  · obtain ⟨s₁, hprepare, hs₁, hr₁⟩ := hprepared m index hentity hindex
    obtain ⟨d', _, hinsert⟩ := exists_insert hs₁ hr₁ hdeclared hprepare
    exact ⟨_, by rw [hinsert]⟩
  · obtain ⟨s₁, hprepare, hs₁, hr₁⟩ := hprepared m index hentity hindex
    obtain ⟨found, d', _, hupdate⟩ := exists_update hs₁ hr₁ id hdeclared hprepare
    exact ⟨found, by rw [hupdate]⟩

/-- A store whose nodes all come from itself holds a map that answers alike. -/
lemma StoreHistory.exists_map {configs : IndexConfig → Prop} {log : List LoggedCall}
    {s : NodeStore} (h : StoreHistory configs log s) :
    ∃ M : NodeMap, NodeMap.Run log M ∧ M.Describes s.database := by
  induction h with
  | start _ => exact ⟨.empty, .start, .empty⟩
  | @call log s c _ ih =>
    obtain ⟨M, hrun, hdescribes⟩ := ih
    have hends := hdescribes.ends_action c
    rw [StoreCall.leave_eq, StoreCall.logged, StoreCall.outcome]
    unfold Ends at hends
    rcases hp : c.action.perform s with ⟨e | x, s'⟩
    · rw [hp] at hends
      have he : c.outcome s = .error e := congrArg Prod.fst hp
      exact ⟨M, hrun.failed (hdescribes.mayFail_of_error he), hends⟩
    · rw [hp] at hends
      exact ⟨M.next c x, hrun.answered hends.1, hends.2⟩
  | reopen _ hreopens _ ih =>
    obtain ⟨M, hrun, hdescribes⟩ := ih
    obtain ⟨b, rfl⟩ := hreopens.exists_eq
    exact ⟨M, hrun, hdescribes.mem_iff, hdescribes.sorted, hdescribes.bounded, hdescribes.last⟩

/-- A film is stored. -/
def storeFilm (title : String) : StoreCall :=
  .insert (.searchable "Film" ["title"]) (.ofList [("title", title)])

/-- A store with a film. -/
def oneFilm : NodeStore :=
  (storeFilm "M").leave (.opened .standard .empty)

/-- The same store after the film was deleted and the file was opened again. -/
def filmGone : NodeStore :=
  .opened .standard { ((StoreCall.delete 1).leave oneFilm).database.atRest with isReadOnly := false }

end EntityFinder
