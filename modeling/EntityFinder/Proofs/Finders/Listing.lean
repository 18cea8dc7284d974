import EntityFinder.Proofs.Finders.Acceptance
import EntityFinder.Proofs.Isolation

set_option autoImplicit false

/-!
# Looking up and listing

One node is looked up by its number among the nodes of all entities, and what turns out to be of
another entity is left out afterwards. All nodes are listed from those of the entity, and what
cannot be decoded is left out. The two agree: what is looked up is what is listed under its number.
They differ in one point only. A node that cannot be decoded is missing in the list, but whoever
looks it up is told.

## Main results

* `EntityFinder.Repository.perform_findAll_nodes`: all nodes of an entity that can be decoded are
  listed, and this never fails.
* `EntityFinder.Repository.perform_find_decoded`,
  `EntityFinder.Repository.perform_find_undecodable`: what comes of looking up a node.
* `EntityFinder.Repository.find_iff_listed`: what is looked up is what is listed.
-/

namespace EntityFinder

/-- The object that the general loader makes of a record. -/
def Entity.ofRecord (record : Record) : Entity :=
  ⟨.node, .ofRecord record⟩

/-- The general loader looks nodes up in the database, whatever their entity. -/
lemma nodeLoader_findById (id : Int) (s : NodeStore) : (nodeLoader.findById id).perform s =
    (((s.database.recordOf id).mapError DatabaseFault.toError).map (·.map Entity.ofRecord), s) := by
  have hget : (NodeStore.get id).perform s =
      ((s.database.recordOf id).mapError DatabaseFault.toError, s) := rfl
  rw [nodeLoader, Action.perform_bind, hget]
  cases s.database.recordOf id <;> rfl

namespace Repository

variable {r : Repository NodeStore} {s : NodeStore} {id : Int} {n : StoredNode} {record : Record}

/-! ## Looking up -/

section

variable (hloader : r.loader = nodeLoader)

include hloader

/-- Looking up a node ends as the database answers; an object that does not fit is left out. -/
lemma perform_find_nodes : (r.find id).perform s =
    (((s.database.recordOf id).mapError DatabaseFault.toError).map
      fun found => (found.map Entity.ofRecord).filter r.accepts, s) := by
  rw [perform_find, Action.outcome, hloader, nodeLoader_findById]
  cases s.database.recordOf id <;> rfl

/-- Nothing is found under a number that no node has. -/
lemma perform_find_of_none (h : s.database.node? id = none) :
    (r.find id).perform s = (.ok none, s) := by
  rw [perform_find_nodes hloader, Database.recordOf, h]
  rfl

/-- Whoever looks up a node that cannot be decoded is told, whatever its entity. -/
lemma perform_find_undecodable (h : s.database.node? id = some n) (hn : n.record? = none) :
    (r.find id).perform s = (.error DatabaseFault.undecodable.toError, s) := by
  rw [perform_find_nodes hloader, Database.recordOf, h]
  simp only [StoredNode.record, hn]
  rfl

/-- A node that can be decoded is found if it is of the entity. -/
lemma perform_find_decoded (hkind : r.kind = .node) (h : s.database.node? id = some n)
    (hn : n.record? = some record) : (r.find id).perform s =
      (.ok (if n.entity = r.entityName then some (.ofRecord record) else none), s) := by
  have haccepts : r.accepts (.ofRecord record) = true ↔ n.entity = r.entityName := by
    rw [accepts_iff, Owns, hkind, ← (Database.of_record? hn).2]
    exact and_iff_right rfl
  rw [perform_find_nodes hloader, Database.recordOf, h]
  simp only [StoredNode.record, hn, Except.map, Except.mapError, Option.map_some,
    Option.filter_some, haccepts]

/-- What is found under a number is made of the node with this number, which is of the entity. -/
lemma perform_find_eq_some (hkind : r.kind = .node) {e : Entity} :
    (r.find id).perform s = (.ok (some e), s) ↔ ∃ n record, s.database.node? id = some n ∧
      n.entity = r.entityName ∧ n.record? = some record ∧ e = .ofRecord record := by
  cases hn : s.database.node? id with
  | none => simp [perform_find_of_none hloader hn]
  | some n =>
    cases hrecord : n.record? with
    | none => simp [perform_find_undecodable hloader hn hrecord, hrecord]
    | some record => simp [perform_find_decoded hloader hkind hn hrecord, hrecord, eq_comm]

end

/-! ## Listing -/

/-- All nodes of an entity that can be decoded are listed, and this never fails. -/
lemma perform_findAll_nodes {index : NodeIndex} (hindex : r.index = index.searchIndex)
    (hloader : r.loader = nodeLoader) (hkind : r.kind = .node)
    (hentity : index.entity = r.entityName) (s : NodeStore) :
    r.findAll.perform s =
      (.ok ((s.database.recordsOf r.entityName).map Entity.ofRecord), s) := by
  have hquery : (r.index.query Criteria.matchAllQuery).perform s =
      (.ok (s.database.recordsOf r.entityName), s) := by
    rw [hindex, ← hentity]
    rfl
  have hown : ∀ record ∈ s.database.recordsOf r.entityName, record.entity = r.entityName := by
    intro record hrecord
    obtain ⟨n, hn, hdecoded⟩ := List.mem_filterMap.mp hrecord
    rw [(Database.of_record? hdecoded).2]
    simpa using (List.mem_filter.mp hn).2
  rw [findAll, Action.perform_bind, hquery]
  exact hydrateAll_eq hloader hkind hown

/-- What is listed under a number is made of the node with this number. -/
lemma listed_iff {d : Database} (hnodes : d.nodes.Pairwise fun a b => a.id < b.id)
    {entity : String} {e : Entity} :
    e ∈ (d.recordsOf entity).map Entity.ofRecord ∧ e.content.id = id ↔
      ∃ n record, d.node? id = some n ∧ n.entity = entity ∧ n.record? = some record ∧
        e = .ofRecord record := by
  simp only [Database.recordsOf, Database.nodesOf, List.mem_map, List.mem_filterMap,
    List.mem_filter, beq_iff_eq, Database.node?_eq_some_of_sorted hnodes]
  constructor
  · rintro ⟨⟨record, ⟨n, ⟨hn, hentity⟩, hrecord⟩, rfl⟩, hid⟩
    exact ⟨n, record, ⟨hn, (Database.of_record? hrecord).1.symm.trans hid⟩, hentity, hrecord, rfl⟩
  · rintro ⟨n, record, ⟨hn, hid⟩, hentity, hrecord, rfl⟩
    exact ⟨⟨record, ⟨n, ⟨hn, hentity⟩, hrecord⟩, rfl⟩, (Database.of_record? hrecord).1.trans hid⟩

/-- No number is listed twice. -/
lemma nodup_listed {d : Database} (hnodes : d.nodes.Pairwise fun a b => a.id < b.id)
    (entity : String) : (((d.recordsOf entity).map Entity.ofRecord).map (·.content.id)).Nodup := by
  have hids : ((d.nodesOf entity).map (·.id)).Nodup :=
    List.pairwise_map.mpr ((hnodes.filter _).imp fun hlt => hlt.ne)
  have hrecords := Database.nodup_records hids fun n record hrecord =>
    (Database.of_record? (n := n) (r := record) hrecord).1
  rw [List.map_map]
  exact hrecords

/-! ## Agreement -/

/-- A repository has what it has been made of. -/
lemma of_bind {σ : Type} {r : Repository σ} {m : EntityMetadata} {index : SearchIndex σ}
    {loader : EntityLoader σ} {singularizer : Singularizer} {kind : ObjectKind}
    (h : bind m index loader singularizer kind = .ok r) :
    r.entityName = m.entityName ∧ r.index = index ∧ r.loader = loader ∧ r.kind = kind := by
  unfold bind at h
  split_ifs at h with hkind
  cases h
  exact ⟨rfl, rfl, rfl, hkind⟩

/-- **What is looked up is what is listed.** In every store, whatever other programs have put among
its nodes, the list of all nodes of an entity never fails and has each number at most once. A node
is found under a number exactly if it is listed under it. Under any other number nothing is found,
except that whoever looks up a node which cannot be decoded is told so. -/
theorem find_iff_listed {m : EntityMetadata} {index : NodeIndex} {singularizer : Singularizer}
    (h : bind m index.searchIndex nodeLoader singularizer .node = .ok r)
    (hentity : index.entity = m.entityName)
    (hnodes : s.database.nodes.Pairwise fun a b => a.id < b.id) :
    ∃ es, r.findAll.perform s = (.ok es, s) ∧ (es.map (·.content.id)).Nodup ∧
      (∀ id e, (r.find id).perform s = (.ok (some e), s) ↔ e ∈ es ∧ e.content.id = id) ∧
      (∀ n ∈ s.database.nodes, n.record? = none →
        (r.find n.id).perform s = (.error DatabaseFault.undecodable.toError, s)) ∧
      ∀ id, (∀ e ∈ es, e.content.id ≠ id) →
        (∀ n ∈ s.database.nodes, n.id = id → n.record? ≠ none) →
        (r.find id).perform s = (.ok none, s) := by
  obtain ⟨hname, hindex, hloader, hkind⟩ := of_bind h
  refine ⟨_, perform_findAll_nodes hindex hloader hkind (hentity.trans hname.symm) s,
    nodup_listed hnodes _, fun id e => ?_, fun n hn hundecodable => ?_,
    fun id hmissing hdecodable => ?_⟩
  · rw [perform_find_eq_some hloader hkind, listed_iff hnodes]
  · have hfirst := (Database.node?_eq_some_of_sorted hnodes).mpr ⟨hn, rfl⟩
    exact perform_find_undecodable hloader hfirst hundecodable
  · -- the node with the number, if there is one, is of another entity
    cases hn : s.database.node? id with
    | none => exact perform_find_of_none hloader hn
    | some n =>
      obtain ⟨hmem, hid⟩ := (Database.node?_eq_some_of_sorted hnodes).mp hn
      obtain ⟨record, hrecord⟩ := Option.ne_none_iff_exists'.mp (hdecodable n hmem hid)
      have hforeign : n.entity ≠ r.entityName := by
        intro hown
        obtain ⟨hlisted, hid⟩ := (listed_iff hnodes).mpr ⟨n, record, hn, hown, hrecord, rfl⟩
        exact hmissing _ hlisted hid
      rw [perform_find_decoded hloader hkind hn hrecord, if_neg hforeign]

/-- The films among whatever nodes there are. -/
def listedFilms : Repository NodeStore where
  metadata := .searchable "Film" ["title"]
  index := (⟨"Film", some "node_index__film"⟩ : NodeIndex).searchIndex
  loader := nodeLoader
  singularizer := .suffix

/-- A store with two films and a person, and with a film and a person that cannot be decoded. -/
def motleyStore : NodeStore :=
  .opened .standard ⟨[⟨1, "Film", "\x7b\"title\":\"M\"\x7d"⟩, ⟨2, "Person", "\x7b\x7d"⟩,
    ⟨3, "Film", "[1]"⟩, ⟨5, "Person", "not json"⟩, ⟨6, "Film", "\x7b\x7d"⟩], 6, [], [], false⟩

/-- Two films are listed and found. The person is no film, and two nodes cannot be decoded. -/
theorem find_iff_listed_films : ∃ es,
    listedFilms.findAll.perform motleyStore = (.ok es, motleyStore) ∧
    es.map (·.content.id) = [1, 6] ∧
    (∃ e, (listedFilms.find 6).perform motleyStore = (.ok (some e), motleyStore)) ∧
    (listedFilms.find 2).perform motleyStore = (.ok none, motleyStore) ∧
    (listedFilms.find 5).perform motleyStore =
      (.error DatabaseFault.undecodable.toError, motleyStore) := by
  have hbind : bind (.searchable "Film" ["title"])
      (⟨"Film", some "node_index__film"⟩ : NodeIndex).searchIndex nodeLoader .suffix .node =
        .ok listedFilms := rfl
  obtain ⟨es, hall, _, hfound, hundecodable, hmissing⟩ :=
    find_iff_listed (s := motleyStore) hbind rfl (by decide)
  have hlisted := perform_findAll_nodes (of_bind hbind).2.1 rfl rfl rfl motleyStore
  rw [hall] at hlisted
  have hes : es = (motleyStore.database.recordsOf "Film").map Entity.ofRecord :=
    Except.ok.inj (congrArg Prod.fst hlisted)
  have hids : es.map (·.content.id) = [1, 6] := by
    rw [hes]
    decide +kernel
  have hmem : ∀ id, (∃ e ∈ es, e.content.id = id) ↔ id = 1 ∨ id = 6 := by
    intro id
    rw [← List.mem_map, hids]
    simp
  refine ⟨es, hall, hids, ?_, ?_, ?_⟩
  · obtain ⟨e, he⟩ := (hmem 6).mpr (.inr rfl)
    exact ⟨e, (hfound 6 e).mpr he⟩
  · refine hmissing 2 (fun e he hid => ?_) ?_
    · exact absurd ((hmem 2).mp ⟨e, he, hid⟩) (by decide)
    · decide +kernel
  · exact hundecodable ⟨5, "Person", "not json"⟩ (by decide) (by decide +kernel)

end Repository

end EntityFinder
