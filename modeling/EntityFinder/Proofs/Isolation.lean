import EntityFinder.Mapper
import EntityFinder.Proofs.Finders.Methods
import EntityFinder.Proofs.Runs
import EntityFinder.Proofs.Upkeep.Nodes
import EntityFinder.Proofs.Upkeep.Tables

set_option autoImplicit false

/-!
# Entities are kept apart

The index of an entity finds nodes of this entity only. A full-text table is not asked for entities
when it is searched, so this rests on what its rows are: rows of the nodes of one entity, as long as
these are stored.

## Main definitions

* `EntityFinder.NodeIndex.IsOf`: the indexes that metadata asks for.
* `EntityFinder.Repository.NeverMismatches`: no finder comes upon an object of another entity.

## Main results

* `EntityFinder.StoreRun.wellKept`: every run keeps to what databases keep to.
* `EntityFinder.StoreRun.found_are_own`: whatever an index finds is stored, and of its entity.
-/

namespace EntityFinder

open EntityFinder.Action (Ends)
open Database (WellKept)

/-! ## Runs -/

/-- Every event keeps to what databases keep to. -/
lemma storeInvariant_wellKept {config : IndexConfig}
    (hpre : Text.isIdentifier config.tablePrefix = true) :
    StoreInvariant config (fun _ => True) fun _ => WellKept config where
  empty := .empty config
  insert _ hd h := Database.insertNode_wellKept hd h
  update _ hd h := Database.updateNode_wellKept hd h
  delete _ hd h := Database.deleteNode_wellKept hd h
  ensure _ _ _ hp hd :=
    IndexPlan.ends_ensure_wellKept (IndexPlan.isPlain_of_ofMetadata hpre hp).1 hd
  rebuild _ hp hd :=
    IndexPlan.ends_rebuild_wellKept (IndexPlan.isPlain_of_ofMetadata hpre hp).1 hd
  foreign _ hd h := Database.insertForeignNode_wellKept hd h
  reopen b hd := (hd.idle (Database.retabled_atRest _)).of_isReadOnly b

/-- After every run the database keeps to everything. -/
theorem StoreRun.wellKept {config : IndexConfig} {events : List StoreEvent} {s : NodeStore}
    (hpre : Text.isIdentifier config.tablePrefix = true) (h : StoreRun config events s) :
    s.config = config ∧ WellKept config s.database :=
  (storeInvariant_wellKept hpre).run h fun _ _ => trivial

/-! ## Searching -/

/-- The numbers of the rows that satisfy a query, in some order. -/
lemma FullText.search_perm (rows : List FullText.Row) (q : FullText.Query) :
    (FullText.search rows q).Perm ((FullText.found rows q).map (·.id)) := by
  unfold FullText.search FullText.ranked
  have hperm := (List.mergeSort_perm ((FullText.found rows q).map fun r =>
    (FullText.score (FullText.rarities rows q) (FullText.meanSize rows) q r.document, r))
    fun a b => a.1 ≤ b.1).map Prod.snd
  rw [List.map_map] at hperm
  exact (List.map_id _ ▸ hperm).map _

namespace IndexTable

variable {t : IndexTable} {query : String} {ids : List Int}

/-- What is found are rows of the table, each once. -/
lemma search_ok (hs : RowsSorted t.rows) (h : t.search query = .ok ids) :
    ids.Nodup ∧ ∀ id ∈ ids, ∃ r ∈ t.rows, r.id = id := by
  unfold search at h
  split at h
  · next q _ =>
    obtain ⟨_, _, h⟩ := bind_eq_ok.mp h
    cases h
    have hperm := FullText.search_perm t.searchRows q
    have hsub : ((FullText.found t.searchRows q).map (·.id)).Sublist (t.rows.map (·.id)) := by
      have hrows : t.rows.map (·.id) = t.searchRows.map (·.id) := by
        simp [searchRows]
      rw [hrows]
      exact List.filter_sublist.map _
    have hnodup : (t.rows.map (·.id)).Nodup := List.pairwise_map.mpr (hs.imp fun hlt => hlt.ne)
    refine ⟨hperm.nodup_iff.mpr (hnodup.sublist hsub), fun id hid => ?_⟩
    obtain ⟨r, hr, rfl⟩ := List.mem_map.mp (hsub.subset (hperm.mem_iff.mp hid))
    exact ⟨r, hr, rfl⟩
  · cases h

end IndexTable

namespace Database

variable {config : IndexConfig} {d : Database} {records : List Record}

/-- A record has the number and the entity of its node. -/
lemma of_record? {n : StoredNode} {r : Record} (h : n.record? = some r) :
    r.id = n.id ∧ r.entity = n.entity := by
  unfold StoredNode.record? at h
  split at h
  · cases h
    exact ⟨rfl, rfl⟩
  · cases h

/-- The record of a number is that of the node with this number. -/
lemma WellKept.of_node?_record? (hd : WellKept config d) {id : Int} {r : Record}
    (h : (d.node? id).bind StoredNode.record? = some r) :
    ∃ n ∈ d.nodes, n.id = id ∧ n.record? = some r := by
  obtain ⟨n, hn, hr⟩ := Option.bind_eq_some_iff.mp h
  obtain ⟨hn, hid⟩ := hd.node?_eq_some.mp hn
  exact ⟨n, hn, hid, hr⟩

/-- Records of nodes with different numbers have different numbers. -/
lemma nodup_records {α : Type} {l : List α} {number : α → Int} {record? : α → Option Record}
    (hnodup : (l.map number).Nodup) (hnumber : ∀ a r, record? a = some r → r.id = number a) :
    ((l.filterMap record?).map (·.id)).Nodup := by
  induction l with
  | nil => simp
  | cons a l ih =>
    rw [List.map_cons, List.nodup_cons] at hnodup
    cases ha : record? a with
    | none =>
      rw [List.filterMap_cons_none ha]
      exact ih hnodup.2
    | some r =>
      rw [List.filterMap_cons_some ha, List.map_cons, List.nodup_cons]
      refine ⟨fun hmem => hnodup.1 ?_, ih hnodup.2⟩
      obtain ⟨r', hr', hid⟩ := List.mem_map.mp hmem
      obtain ⟨b, hb, hr'⟩ := List.mem_filterMap.mp hr'
      rw [← hnumber a r ha, ← hid, hnumber b r' hr']
      exact List.mem_map.mpr ⟨b, hb, rfl⟩

/-- All records of an entity are of its nodes, each once. -/
lemma recordsOf_own (hd : WellKept config d) (entity : String) :
    ((d.recordsOf entity).map (·.id)).Nodup ∧
      ∀ r ∈ d.recordsOf entity, ∃ n ∈ d.nodes, n.entity = entity ∧ n.record? = some r := by
  have hnodup : ((d.nodesOf entity).map (·.id)).Nodup :=
    List.pairwise_map.mpr ((hd.nodes_sorted.filter _).imp fun hlt => hlt.ne)
  refine ⟨nodup_records hnodup fun n r hr => (of_record? hr).1, fun r hr => ?_⟩
  obtain ⟨n, hn, hr⟩ := List.mem_filterMap.mp hr
  obtain ⟨hn, hentity⟩ := List.mem_filter.mp hn
  exact ⟨n, hn, by simpa using hentity, hr⟩

section

variable (hpre : Text.isIdentifier config.tablePrefix = true) {entity : String}
  (he : IsEntityName entity)

include hpre he

/-- The table of an entity is searched if there is one. -/
lemma matching_of_table {t : IndexTable} (htable : d.table? (config.tableName entity) = some t)
    (query : String) : d.matching (config.tableName entity) query =
      (t.search query).map fun ids =>
        ids.filterMap fun id => (d.node? id).bind StoredNode.record? := by
  unfold matching
  rw [IndexConfig.alone_tableName hpre he]
  simp only [bind, Except.bind, relation?_eq_index.mpr htable]
  cases t.search query <;> rfl

/-- Without a table of the entity there is no answer. -/
lemma table_of_matching {query : String}
    (h : d.matching (config.tableName entity) query = .ok records) :
    ∃ t, d.table? (config.tableName entity) = some t := by
  obtain ⟨name, hname, h⟩ := bind_eq_ok.mp h
  rw [IndexConfig.alone_tableName hpre he] at hname
  cases hname
  split at h
  · cases h
  · cases h
  · next t hrelation => exact ⟨t, relation?_eq_index.mp hrelation⟩

end

/-- The records that the table of an entity finds are of its nodes, each once. -/
lemma matching_own (hpre : Text.isIdentifier config.tablePrefix = true) (hd : WellKept config d)
    {entity query : String} (he : IsEntityName entity)
    (h : d.matching (config.tableName entity) query = .ok records) :
    (records.map (·.id)).Nodup ∧
      ∀ r ∈ records, ∃ n ∈ d.nodes, n.entity = entity ∧ n.record? = some r := by
  obtain ⟨t, htable⟩ := table_of_matching hpre he h
  rw [matching_of_table hpre he htable, map_eq_ok] at h
  obtain ⟨ids, hids, rfl⟩ := h
  obtain ⟨ht, htname⟩ := mem_and_name_of_table? htable
  obtain ⟨hnodup, hrows⟩ := IndexTable.search_ok (hd.rows_sorted t ht) hids
  refine ⟨@nodup_records _ ids id _ (by simpa using hnodup) ?_, fun r hr => ?_⟩
  · intro id r hr
    obtain ⟨n, _, hid, hr⟩ := hd.of_node?_record? hr
    exact (of_record? hr).1.trans hid
  · obtain ⟨id, hid, hr⟩ := List.mem_filterMap.mp hr
    obtain ⟨n, hn, hnid, hr⟩ := hd.of_node?_record? hr
    obtain ⟨row, hrow, hrowid⟩ := hrows id hid
    -- the row is that of a node whose entity has this table, and there is one node of its number
    obtain ⟨n', hn', hnid', hentity⟩ := hd.exists_node ht htname he hrow
    have hsame : n' = n := hd.node_eq hn' hn (by rw [hnid', hrowid, hnid])
    exact ⟨n, hn, hsame ▸ hentity, hr⟩

end Database

/-! ## Indexes -/

/-- An index is one that metadata asks for under a configuration, whatever store was asked. -/
def NodeIndex.IsOf (config : IndexConfig) (m : EntityMetadata) (index : NodeIndex) : Prop :=
  ∃ s s', s.config = config ∧ (NodeStore.index m).perform s = (.ok index, s')

/-- The index that a store answers is one that metadata asks for. -/
lemma NodeIndex.isOf_of_index {m : EntityMetadata} {s : NodeStore} {index : NodeIndex}
    (h : ((NodeStore.index m).perform s).1 = .ok index) : index.IsOf s.config m :=
  ⟨s, ((NodeStore.index m).perform s).2, rfl, Prod.ext h rfl⟩

/-- An index is that of the entity, and its table is the entity's if there are columns. All names
have been checked. -/
lemma NodeIndex.IsOf.eq {config : IndexConfig} {m : EntityMetadata} {index : NodeIndex}
    (h : index.IsOf config m) :
    IsEntityName m.entityName ∧ IndexPlan.validateColumns m.indexedNames = .ok () ∧
      index = ⟨m.entityName,
        if m.indexedNames.isEmpty then none else some (config.tableName m.entityName)⟩ := by
  obtain ⟨s, s', rfl, h⟩ := h
  have htrue : CallInvariant s.config (fun _ => True) fun _ _ => True :=
    ⟨fun _ _ _ => trivial, fun _ _ _ => trivial, fun _ _ _ => trivial,
      fun _ _ _ _ _ => Action.ends_true, fun _ _ _ => Action.ends_true⟩
  have hends : Ends (NodeStore.index m) s (fun index _ =>
      IsEntityName m.entityName ∧ IndexPlan.validateColumns m.indexedNames = .ok () ∧
        index = ⟨m.entityName,
          if m.indexedNames.isEmpty then none else some (s.config.tableName m.entityName)⟩)
      fun _ => True := by
    refine Action.ends_bind ((htrue.ends_prepare (c := .index m) trivial rfl ⟨rfl, trivial⟩).mono
      (fun _ s₁ hs₁ => ?_) fun _ _ => trivial)
    refine Action.ends_bind (Action.ends_query (fun p hp => ?_) trivial)
    rw [hs₁.1] at hp
    obtain ⟨_, hentity, hp⟩ := bind_eq_ok.mp hp
    obtain ⟨_, hnames, hp⟩ := bind_eq_ok.mp hp
    cases hp
    refine ⟨hentity, hnames, ?_⟩
    simp only [IndexPlan.hasColumns, NodeIndex.mk.injEq, true_and]
    by_cases hcolumns : m.indexedNames.isEmpty = true <;> simp [hcolumns]
  exact hends.of_perform h

/-- What an index finds are records of nodes of its entity, each once. -/
lemma NodeIndex.IsOf.query_own {config : IndexConfig} {m : EntityMetadata} {index : NodeIndex}
    {s s' : NodeStore} {text : String} {records : List Record}
    (hpre : Text.isIdentifier config.tablePrefix = true) (h : index.IsOf config m)
    (hd : WellKept config s.database) (hq : (index.query text).perform s = (.ok records, s')) :
    s' = s ∧ (records.map (·.id)).Nodup ∧
      ∀ r ∈ records, ∃ n ∈ s.database.nodes, n.entity = m.entityName ∧ n.record? = some r := by
  obtain ⟨he, _, rfl⟩ := h.eq
  rw [NodeIndex.perform_query, Prod.mk.injEq, mapError_eq_ok] at hq
  obtain ⟨hq, rfl⟩ := hq
  refine ⟨rfl, ?_⟩
  by_cases hall : NodeIndex.isMatchAll text = true
  · rw [if_pos hall] at hq
    cases hq
    exact Database.recordsOf_own hd m.entityName
  rw [if_neg hall] at hq
  by_cases hcolumns : m.indexedNames.isEmpty = true
  · simp only [hcolumns, if_true] at hq
    cases hq
    simp
  · simp only [hcolumns] at hq
    exact Database.matching_own hpre hd he hq

/-! ## Finders -/

/-- The failures that tell of an object of another entity or kind. -/
def FinderError.IsMismatch (e : FinderError) : Prop :=
  ∃ expected found, e = .entityTypeMismatch expected found

/-- No finder of a repository fails because of an object of another entity or kind. -/
def Repository.NeverMismatches {σ : Type} (r : Repository σ) (s : σ) : Prop :=
  (∀ id, (r.find id).Avoids FinderError.IsMismatch s) ∧
  (r.findAll).Avoids FinderError.IsMismatch s ∧
  (∀ c, (r.findBy c).Avoids FinderError.IsMismatch s) ∧
  (∀ c, (r.findOneBy c).Avoids FinderError.IsMismatch s) ∧
  (∀ token value, (r.findByProperty token value).Avoids FinderError.IsMismatch s) ∧
  (∀ token value, (r.findOneByProperty token value).Avoids FinderError.IsMismatch s) ∧
  ∀ method args, (r.call method args).Avoids FinderError.IsMismatch s

/-- A refusal of criteria is no mismatch. -/
lemma FinderError.IsRefusal.not_isMismatch {e : FinderError} (h : e.IsRefusal) :
    ¬e.IsMismatch := by
  rintro ⟨_, _, rfl⟩
  rcases h with h | ⟨_, _, _, h⟩ <;> cases h

/-- A fault of the database is no mismatch. -/
lemma DatabaseFault.not_isMismatch (f : DatabaseFault) : ¬f.toError.IsMismatch := by
  rintro ⟨_, _, h⟩
  cases h

/-- What is answered from the database is not refused because of a mismatch. -/
lemma NodeStore.avoids_ask {α : Type} (f : Database → Except DatabaseFault α) (s : NodeStore) :
    (NodeStore.ask f).Avoids FinderError.IsMismatch s := by
  intro e s' he
  have hf : (f s.database).mapError DatabaseFault.toError = .error e := congrArg Prod.fst he
  cases hd : f s.database with
  | ok a =>
    rw [hd] at hf
    cases hf
  | error fault =>
    rw [hd] at hf
    cases hf
    exact fault.not_isMismatch

/-- What an index answers is not refused because of a mismatch. -/
lemma NodeIndex.avoids_query (index : NodeIndex) (text : String) (s : NodeStore) :
    (index.query text).Avoids FinderError.IsMismatch s :=
  NodeStore.avoids_ask _ s

namespace Repository

variable {r : Repository NodeStore} {s : NodeStore}

/-- Records of the entity of a repository of nodes become its objects. -/
lemma hydrateAll_eq (hloader : r.loader = nodeLoader) (hkind : r.kind = .node) :
    ∀ {records : List Record}, (∀ record ∈ records, record.entity = r.entityName) →
      (r.hydrateAll records).perform s =
        (.ok (records.map fun record => ⟨.node, .ofRecord record⟩), s)
  | [], _ => rfl
  | record :: records, hown => by
    have hrecord : record.entity = r.entityName := hown record (.head _)
    have hone : (r.hydrate record).perform s = (.ok ⟨.node, .ofRecord record⟩, s) := by
      simp [hydrate, hloader, nodeLoader, Action.ofExcept, checkObject, Entity.entityName,
        Node.ofRecord, hrecord, hkind]
    have hrest := hydrateAll_eq hloader hkind fun record h => hown record (.tail _ h)
    simp only [hydrateAll, Action.perform_bind, hone, hrest, Action.perform_pure, List.map_cons]

section

variable {config : IndexConfig} {index : NodeIndex}
variable (hpre : Text.isIdentifier config.tablePrefix = true)
  (hd : WellKept config s.database) (hof : index.IsOf config r.metadata)
  (hindex : r.index = index.searchIndex) (hloader : r.loader = nodeLoader) (hkind : r.kind = .node)

include hpre hd hof hindex hloader hkind

omit hloader hkind in
/-- What the index of a repository of nodes answers is not refused when it is turned into objects. -/
lemma avoids_query {α : Type} {text : String} {f : List Record → Action NodeStore α}
    (hf : ∀ records, (∀ record ∈ records, record.entity = r.entityName) →
      (f records).Avoids FinderError.IsMismatch s) :
    (r.index.query text >>= f).Avoids FinderError.IsMismatch s := by
  have hquery : r.index.query text = index.query text := by rw [hindex]; rfl
  rw [hquery]
  refine Action.avoids_bind (index.avoids_query text s) fun records s' hq => ?_
  obtain ⟨rfl, _, hown⟩ := hof.query_own hpre hd hq
  refine hf records fun record hrecord => ?_
  obtain ⟨n, _, hentity, hn⟩ := hown record hrecord
  rw [(Database.of_record? hn).2, hentity, entityName]

/-- Finding all objects that satisfy criteria comes upon no other object. -/
lemma avoids_findBy (c : Criteria) : (r.findBy c).Avoids FinderError.IsMismatch s := by
  refine Action.avoids_bind
    (Action.avoids_ofExcept fun e he => (isRefusal_of_checkedQuery he).not_isMismatch) fun query s' hs' => ?_
  obtain rfl : s = s' := congrArg Prod.snd hs'
  exact avoids_query hpre hd hof hindex fun records hown =>
    Action.avoids_of_ok (hydrateAll_eq hloader hkind hown)

/-- Finding the first object that satisfies criteria comes upon no other object. -/
lemma avoids_findOneBy (c : Criteria) : (r.findOneBy c).Avoids FinderError.IsMismatch s := by
  refine Action.avoids_bind
    (Action.avoids_ofExcept fun e he => (isRefusal_of_checkedQuery he).not_isMismatch) fun query s' hs' => ?_
  obtain rfl : s = s' := congrArg Prod.snd hs'
  unfold SearchIndex.queryOne
  rw [bind_assoc]
  refine avoids_query hpre hd hof hindex fun records hown => ?_
  rw [pure_bind]
  cases records with
  | nil => exact Action.avoids_of_ok rfl
  | cons record records =>
    have hone := @hydrateAll_eq r s hloader hkind [record]
      fun a ha => hown a (by rw [List.mem_singleton.mp ha]; exact .head _)
    have hhydrate : (r.hydrate record).Avoids FinderError.IsMismatch s := by
      intro e s' he
      simp only [hydrateAll, Action.perform_bind, he] at hone
      cases hone
    exact Action.avoids_bind hhydrate fun _ _ _ => Action.avoids_of_ok rfl

/-- A repository of nodes never comes upon an object of another entity or kind. -/
theorem neverMismatches : r.NeverMismatches s := by
  have htoken : ∀ token value {α : Type} {f : Criteria → Action NodeStore α},
      (∀ c, (f c).Avoids FinderError.IsMismatch s) →
      (Action.ofExcept (r.tokenCriteria token value) >>= f).Avoids FinderError.IsMismatch s := by
    intro token value α f hf
    refine Action.avoids_bind
      (Action.avoids_ofExcept fun e he => (isRefusal_of_tokenCriteria he).not_isMismatch) fun c s' hs' => ?_
    obtain rfl : s = s' := congrArg Prod.snd hs'
    exact hf c
  have hmany : ∀ token value,
      (r.findByProperty token value).Avoids FinderError.IsMismatch s := fun token value =>
    htoken token value (avoids_findBy hpre hd hof hindex hloader hkind)
  have hone : ∀ token value,
      (r.findOneByProperty token value).Avoids FinderError.IsMismatch s := fun token value =>
    htoken token value (avoids_findOneBy hpre hd hof hindex hloader hkind)
  refine ⟨fun id => ?_, ?_, avoids_findBy hpre hd hof hindex hloader hkind,
    avoids_findOneBy hpre hd hof hindex hloader hkind, hmany, hone, fun method args => ?_⟩
  · unfold find
    rw [hloader]
    refine Action.avoids_bind (Action.avoids_bind (NodeStore.avoids_ask _ s) fun _ _ _ => ?_)
      fun _ _ _ => Action.avoids_of_ok rfl
    exact Action.avoids_of_ok rfl
  · exact avoids_query hpre hd hof hindex fun records hown =>
      Action.avoids_of_ok (hydrateAll_eq hloader hkind hown)
  · unfold call
    refine Action.avoids_bind (Action.avoids_ofExcept fun e he => ?_) fun finder s' hs' => ?_
    · unfold FinderCall.parse at he
      split at he
      · cases he
      · cases he
        rintro ⟨_, _, h⟩
        cases h
    obtain rfl : s = s' := congrArg Prod.snd hs'
    refine Action.avoids_bind (Action.avoids_ofExcept fun e he => ?_) fun value s' hs' => ?_
    · unfold onlyArgument at he
      split at he
      · cases he
      · cases he
        rintro ⟨_, _, h⟩
        cases h
    obtain rfl : s = s' := congrArg Prod.snd hs'
    split
    · exact Action.avoids_bind (hone _ _) fun _ _ _ => Action.avoids_of_ok rfl
    · exact Action.avoids_bind (hmany _ _) fun _ _ _ => Action.avoids_of_ok rfl

end

end Repository

/-! ## Mappers -/

/-- A repository that a mapper makes has the index of its metadata and is of the wanted kind. -/
lemma Mapper.repository_ok {σ : Type} {mapper : Mapper σ} {type : EntityType} {wanted : ObjectKind}
    {c : MetadataCache × σ} {s : NodeStore} {r : Repository NodeStore}
    {t : (MetadataCache × σ) × NodeStore}
    (h : (mapper.repository type wanted).perform (c, s) = (.ok r, t)) :
    r.kind = wanted ∧ r.loader = mapper.loader ∧
      ∃ index : NodeIndex, index.IsOf s.config r.metadata ∧ r.index = index.searchIndex := by
  have hends : Ends (mapper.repository type wanted) (c, s)
      (fun r _ => r.kind = wanted ∧ r.loader = mapper.loader ∧
        ∃ index : NodeIndex, index.IsOf s.config r.metadata ∧ r.index = index.searchIndex)
      fun _ => True := by
    have hresolve : Ends (mapper.resolve type) (c, s) (fun _ t => t.2 = s) fun _ => True := by
      unfold resolve Action.onFirst
      exact Action.ends_onPart (Action.ends_true.mono (fun _ _ _ => rfl) fun _ _ => trivial)
    refine Action.ends_bind (hresolve.mono (fun m t ht => ?_) fun _ h => h)
    obtain ⟨c', s'⟩ := t
    obtain rfl : s' = s := ht
    have hindex : Ends (NodeStore.index m) s' (fun index _ => index.IsOf s'.config m)
        fun _ => True := by
      unfold Ends
      rcases hp : (NodeStore.index m).perform s' with ⟨_ | index, s''⟩
      · trivial
      · exact ⟨s', s'', rfl, hp⟩
    refine Action.ends_bind (Action.ends_onPart (hindex.mono (fun index _ hof => ?_) fun _ h => h))
    refine Action.ends_ofExcept (fun r hr => ?_) trivial
    unfold Repository.bind at hr
    split_ifs at hr with hkind
    cases hr
    exact ⟨hkind, rfl, index, hof, rfl⟩
  exact hends.of_perform h

/-- Whatever is done to a database, an index finds nodes of its entity only: what a query finds is
stored at that moment, each node once, and searching changes nothing. So no finder of a repository
of nodes ever comes upon an object of another entity. -/
theorem StoreRun.found_are_own {config : IndexConfig} {events : List StoreEvent} {s : NodeStore}
    (hpre : Text.isIdentifier config.tablePrefix = true) (hrun : StoreRun config events s) :
    (∀ (m : EntityMetadata) (index : NodeIndex) (text : String) (records : List Record)
      (s' : NodeStore), index.IsOf config m → (index.query text).perform s = (.ok records, s') →
        s' = s ∧ (records.map (·.id)).Nodup ∧ ∀ r ∈ records, r.entity = m.entityName ∧
          ∃ n ∈ s.database.nodes, n.id = r.id ∧ n.entity = r.entity ∧ n.record? = some r) ∧
    ∀ {σ : Type} (mapper : Mapper σ) (type : EntityType) (c : MetadataCache × σ) (s₀ : NodeStore)
      (r : Repository NodeStore) (t : (MetadataCache × σ) × NodeStore),
      mapper.loader = nodeLoader → s₀.config = config →
      (mapper.repository type .node).perform (c, s₀) = (.ok r, t) → r.NeverMismatches s := by
  obtain ⟨_, hd⟩ := hrun.wellKept hpre
  refine ⟨fun m index text records s' hof hq => ?_, fun mapper type c s₀ r t hloader hs₀ hr => ?_⟩
  · obtain ⟨hs', hnodup, hown⟩ := hof.query_own hpre hd hq
    refine ⟨hs', hnodup, fun r hr => ?_⟩
    obtain ⟨n, hn, hentity, hrecord⟩ := hown r hr
    obtain ⟨hid, hsame⟩ := Database.of_record? hrecord
    exact ⟨hsame.trans hentity, n, hn, hid.symm, hsame.symm, hrecord⟩
  · obtain ⟨hkind, hsame, index, hof, hindex⟩ := Mapper.repository_ok hr
    rw [hs₀] at hof
    exact Repository.neverMismatches hpre hd hof hindex (hsame.trans hloader) hkind

/-- Two films and a person, who is deleted, before a third film. -/
def filmsAndPerson : List StoreEvent :=
  [.call (.insert (.searchable "Film" ["title"]) (.ofList [("title", "M")])), .call (.delete 2),
    .call (.insert (.searchable "Person" ["name"]) (.ofList [("name", "Anna")])),
    .call (.insert (.searchable "Film" ["title"]) (.ofList [("title", "Metropolis")]))]

/-- The index of the films finds the films. -/
theorem StoreRun.found_are_own_films : ∃ records : List Record,
    ((⟨"Film", some "node_index__film"⟩ : NodeIndex).query Criteria.matchAllQuery).perform
        (NodeStore.after .standard filmsAndPerson) =
        (.ok records, NodeStore.after .standard filmsAndPerson) ∧
      records.map (·.id) = [1, 3] ∧ ∀ r ∈ records, r.entity = "Film" := by
  have hrun : StoreRun .standard filmsAndPerson (NodeStore.after .standard filmsAndPerson) :=
    .of_own .standard (by simp [filmsAndPerson, StoreEvent.IsOwn])
  have hof : (⟨"Film", some "node_index__film"⟩ : NodeIndex).IsOf .standard
      (.searchable "Film" ["title"]) :=
    NodeIndex.isOf_of_index (s := NodeStore.opened .standard .empty) (by decide +kernel)
  have hfound : ∀ s, ((⟨"Film", some "node_index__film"⟩ : NodeIndex).query
      Criteria.matchAllQuery).perform s = (.ok (s.database.recordsOf "Film"), s) := fun _ => rfl
  refine ⟨_, hfound _, by decide +kernel, fun r hr => ?_⟩
  exact (((StoreRun.found_are_own (by decide) hrun).1 _ _ _ _ _ hof (hfound _)).2.2 r hr).1

end EntityFinder
