import EntityFinder.Proofs.Asking
import EntityFinder.Proofs.Searching

set_option autoImplicit false

/-!
# Searching by several criteria

Criteria with several entries become one query, in which the terms of the entries are joined by
`AND`. What it finds is what the terms find each by itself, as long as each keeps its meaning among
the others.

## Main definitions

* `EntityFinder.Criteria.IsPlainEntry`: entries that keep their meaning among others.
* `EntityFinder.EntityLoader.IsFaithful`: loaders that make an object of a record alone.
* `EntityFinder.Repository.FindsEach`, `EntityFinder.Repository.FindsJointly`: what single entries
  find, and what all of them find.

## Main results

* `EntityFinder.StoreRun.found_by_all`: the objects that are found by several criteria.
* `EntityFinder.StoreRun.exists_misread`: criteria that find something else.
-/

namespace EntityFinder

open Database (WellKept)
open FullText (HasRoom IsSelfContained lex hasOpenOr)

/-! ## Criteria -/

namespace Criteria

/-- An entry that keeps its meaning among others: its term does so, and does not ask for every
node. -/
structure IsPlainEntry (entry : String × String) : Prop where
  /-- The term keeps its meaning. -/
  self_contained : IsSelfContained (term entry.1 entry.2)
  /-- The term does not ask for every node. -/
  not_all : NodeIndex.isMatchAll (term entry.1 entry.2) = false

/-- The terms of the entries. -/
def terms (c : Criteria) : List String :=
  c.entries.map fun entry => term entry.1 entry.2

/-- The query of criteria with entries: their terms, joined by `AND`. -/
lemma compile_eq {c : Criteria} (h : c.entries ≠ []) :
    c.compile = .ok (" AND ".intercalate c.terms) :=
  if_neg (by rw [isEmpty, List.isEmpty_eq_false_iff.mpr h]; exact Bool.false_ne_true)

end Criteria

/-! ## Finders -/

/-- A loader makes an object of a record alone, and the object has the number of the record. -/
structure EntityLoader.IsFaithful {σ : Type} (loader : EntityLoader σ) : Prop where
  /-- Loading leaves the state alone. -/
  apart : ∀ record s, ((loader.load record).perform s).2 = s
  /-- Objects have the numbers of their records. -/
  numbered : ∀ record s e, ((loader.load record).perform s).1 = .ok e → e.content.id = record.id

/-- The loader of general nodes makes them of their records alone. -/
lemma nodeLoader_isFaithful : nodeLoader.IsFaithful :=
  ⟨fun _ _ => rfl, fun _ _ _ h => by cases h; rfl⟩

namespace Repository

variable {r : Repository NodeStore} {s s' : NodeStore}

/-- Turning a record into an object leaves the state alone, and the object has its number. -/
lemma of_hydrate (hloader : r.loader.IsFaithful) {record : Record} {e : Entity}
    (h : (r.hydrate record).perform s = (.ok e, s')) : s' = s ∧ e.content.id = record.id := by
  obtain ⟨e', s₁, hload, h⟩ := Action.perform_bind_eq_ok.mp h
  have hapart := hloader.apart record s
  have hnumbered := hloader.numbered record s
  rw [hload] at hapart hnumbered
  obtain ⟨hcheck, rfl⟩ := Prod.mk.inj h
  unfold checkObject at hcheck
  split_ifs at hcheck
  cases hcheck
  exact ⟨hapart, hnumbered e rfl⟩

/-- Some objects are those of some records, each of which has one. -/
structure Loads (r : Repository NodeStore) (s : NodeStore) (records : List Record)
    (es : List Entity) : Prop where
  /-- Each record has an object. -/
  total : ∀ record ∈ records, ∃ e, (r.hydrate record).perform s = (.ok e, s)
  /-- The objects are theirs. -/
  mem_iff : ∀ e, e ∈ es ↔ ∃ record ∈ records, (r.hydrate record).perform s = (.ok e, s)

/-- What is turned into objects has these. -/
lemma loads_of_hydrateAll (hloader : r.loader.IsFaithful) {records : List Record}
    {es : List Entity} (h : (r.hydrateAll records).perform s = (.ok es, s')) :
    s' = s ∧ r.Loads s records es := by
  induction records generalizing es s' with
  | nil =>
    cases h
    exact ⟨rfl, by simp, by simp⟩
  | cons record records ih =>
    rw [hydrateAll] at h
    obtain ⟨e, s₁, hone, hmore⟩ := Action.perform_bind_eq_ok.mp h
    obtain ⟨rfl, _⟩ := of_hydrate hloader hone
    obtain ⟨es₁, s₂, hrest, hpure⟩ := (Action.perform_bind_eq_ok (a := r.hydrateAll records)
      (f := fun es => pure (e :: es))).mp hmore
    cases hpure
    obtain ⟨rfl, hall⟩ := ih hrest
    refine ⟨rfl, fun record' hrecord' => ?_, fun e' => ?_⟩
    · rcases List.mem_cons.mp hrecord' with rfl | hrecord'
      · exact ⟨e, hone⟩
      · exact hall.total record' hrecord'
    · simp only [List.mem_cons, exists_eq_or_imp, hall.mem_iff, hone, Prod.mk.injEq,
        Except.ok.injEq, and_true]
      exact or_congr_left eq_comm

/-- Records that have objects are turned into them. -/
lemma exists_hydrateAll {records : List Record}
    (h : ∀ record ∈ records, ∃ e, (r.hydrate record).perform s = (.ok e, s)) :
    ∃ es, (r.hydrateAll records).perform s = (.ok es, s) := by
  induction records with
  | nil => exact ⟨[], rfl⟩
  | cons record records ih =>
    obtain ⟨e, hone⟩ := h record (.head _)
    obtain ⟨es, hrest⟩ := ih fun record' h' => h record' (.tail _ h')
    refine ⟨e :: es, ?_⟩
    rw [hydrateAll]
    exact Action.perform_bind_eq_ok.mpr ⟨e, s, hone,
      Action.perform_bind_eq_ok.mpr ⟨es, s, hrest, rfl⟩⟩

section

variable {index : NodeIndex} (hindex : r.index = index.searchIndex) {c : Criteria}

include hindex

/-- Finding by criteria sends their query, and turns the records into objects. -/
lemma loads_of_findBy (hloader : r.loader.IsFaithful) {es : List Entity}
    (h : (r.findBy c).perform s = (.ok es, s')) : s' = s ∧ ∃ text records,
      r.checkedQuery c = .ok text ∧ (index.query text).perform s = (.ok records, s) ∧
        r.Loads s records es := by
  have hsend : r.index.query = index.query := by rw [hindex]; rfl
  unfold findBy at h
  rw [hsend] at h
  obtain ⟨text, s₁, htext, hmore⟩ := Action.perform_bind_eq_ok.mp h
  obtain ⟨hchecked, rfl⟩ : r.checkedQuery c = .ok text ∧ s = s₁ := Prod.mk.inj htext
  obtain ⟨records, s₂, hrecords, hrest⟩ := (Action.perform_bind_eq_ok (a := index.query text)
    (f := r.hydrateAll)).mp hmore
  obtain rfl : s = s₂ := congrArg Prod.snd hrecords
  obtain ⟨rfl, hall⟩ := loads_of_hydrateAll hloader hrest
  exact ⟨rfl, text, records, hchecked, hrecords, hall⟩

variable {text : String} (hchecked : r.checkedQuery c = .ok text)

include hchecked

/-- Finding by criteria succeeds if the records have objects. -/
lemma exists_findBy (hloader : r.loader.IsFaithful) {records : List Record}
    (hquery : (index.query text).perform s = (.ok records, s))
    (h : ∀ record ∈ records, ∃ e, (r.hydrate record).perform s = (.ok e, s)) :
    ∃ es, (r.findBy c).perform s = (.ok es, s) ∧ r.Loads s records es := by
  have hsend : r.index.query = index.query := by rw [hindex]; rfl
  obtain ⟨es, hes⟩ := exists_hydrateAll h
  refine ⟨es, ?_, (loads_of_hydrateAll hloader hes).2⟩
  unfold findBy
  rw [hsend, hchecked, Action.perform_bind]
  simp only [Action.ofExcept, Action.perform_ofFunction, Action.perform_bind, hquery, hes]

/-- A query that is refused makes finding by criteria fail. -/
lemma findBy_of_refused {f : FinderError} (hquery : (index.query text).perform s = (.error f, s)) :
    (r.findBy c).perform s = (.error f, s) := by
  have hsend : r.index.query = index.query := by rw [hindex]; rfl
  unfold findBy
  rw [hsend, hchecked, Action.perform_bind]
  simp only [Action.ofExcept, Action.perform_ofFunction, Action.perform_bind, hquery]

end

/-- The query for one property is its term, if the property is indexed. -/
lemma checkedQuery_single {property value text : String} :
    r.checkedQuery (.single property value) = .ok text ↔
      r.metadata.indexes property = true ∧ text = Criteria.term property value := by
  have hcompile : (Criteria.single property value).compile =
      .ok (Criteria.term property value) := by
    rw [Criteria.compile_eq (by simp [Criteria.single, Criteria.insert, Criteria.insertEntry,
      Criteria.empty])]
    simp [Criteria.terms, Criteria.single, Criteria.insert, Criteria.insertEntry, Criteria.empty]
  have hproperties : (Criteria.single property value).properties = [] ++ property :: [] := rfl
  cases hindexes : r.metadata.indexes property with
  | true =>
    rw [checkedQuery_of_indexed fun p hp => (by rwa [List.mem_singleton.mp hp]), hcompile]
    exact ⟨fun h => by cases h; exact ⟨rfl, rfl⟩, fun h => by rw [h.2]⟩
  | false =>
    rw [checkedQuery_unindexed hproperties (by simp) hindexes]
    exact ⟨fun h => (by cases h), fun h => (by cases h.1)⟩

/-- Criteria whose properties are all indexed have a query. -/
lemma checkedQuery_eq {c : Criteria} (h : c.entries ≠ [])
    (hindexes : ∀ e ∈ c.entries, r.metadata.indexes e.1 = true) :
    r.checkedQuery c = .ok (" AND ".intercalate c.terms) := by
  rw [checkedQuery_of_indexed, Criteria.compile_eq h]
  intro name hname
  obtain ⟨e, he, rfl⟩ := List.mem_map.mp hname
  exact hindexes e he

end Repository

/-- What is found for one entry are the objects of the records that the index finds. -/
lemma Repository.loads_of_single {r : Repository NodeStore} {index : NodeIndex}
    {s s' : NodeStore} (hindex : r.index = index.searchIndex) (hloader : r.loader.IsFaithful)
    {entry : String × String} {es : List Entity}
    (h : (r.findBy (.single entry.1 entry.2)).perform s = (.ok es, s')) :
    r.metadata.indexes entry.1 = true ∧ ∃ records,
      (index.query (Criteria.term entry.1 entry.2)).perform s = (.ok records, s) ∧
        r.Loads s records es := by
  obtain ⟨rfl, text, records, hchecked, hquery, hall⟩ := loads_of_findBy hindex hloader h
  obtain ⟨hindexes, rfl⟩ := checkedQuery_single.mp hchecked
  exact ⟨hindexes, records, hquery, hall⟩

/-- Every entry of some criteria finds something by itself, if only an empty list. -/
def Repository.FindsEach (r : Repository NodeStore) (s : NodeStore) (c : Criteria) : Prop :=
  ∀ entry ∈ c.entries, ∃ es s', (r.findBy (.single entry.1 entry.2)).perform s = (.ok es, s')

/-- Criteria find the objects that every entry of them finds by itself. -/
def Repository.FindsJointly (r : Repository NodeStore) (s : NodeStore) (c : Criteria) : Prop :=
  ∃ es, (r.findBy c).perform s = (.ok es, s) ∧ ∀ e, e ∈ es ↔ ∀ entry ∈ c.entries, ∀ es' s',
    (r.findBy (.single entry.1 entry.2)).perform s = (.ok es', s') → e ∈ es'

/-- The records that a query finds in a table without a lost part, in the order of their numbers. -/
def Database.found? (d : Database) (table text : String) : Option (List Record) := do
  let t ← d.table? table
  guard t.lost.isEmpty
  let q ← (FullText.Query.ofText t.layout text).toOption
  return (FullText.found t.searchRows q).filterMap fun row =>
    (d.node? row.id).bind StoredNode.record?

/-- A table without a lost part answers every query that can be read. -/
lemma Database.matching_of_found? {config : IndexConfig} {d : Database} {entity text : String}
    {records : List Record} (hpre : Text.isIdentifier config.tablePrefix = true)
    (he : IsEntityName entity)
    (h : d.found? (config.tableName entity) text = some records) :
    ∃ records', d.matching (config.tableName entity) text = .ok records' ∧
      records'.Perm records := by
  obtain ⟨t, htable, h⟩ := Option.bind_eq_some_iff.mp h
  obtain ⟨_, hlost, h⟩ := Option.bind_eq_some_iff.mp h
  obtain ⟨q, hq, h⟩ := Option.bind_eq_some_iff.mp h
  cases h
  have hlost : t.lost = [] := by
    by_contra hsome
    rw [List.isEmpty_eq_false_iff.mpr hsome] at hlost
    cases hlost
  have hlacks : ∀ p, t.lacks p = false := fun p => by rw [IndexTable.lacks, hlost]; rfl
  have hread : FullText.Query.ofText t.layout text = .ok q := by
    cases hquery : FullText.Query.ofText t.layout text with
    | ok q' =>
      rw [hquery] at hq
      cases hq
      rfl
    | error f =>
      rw [hquery] at hq
      cases hq
  have hfault : t.findFault? q (FullText.search t.searchRows q) = none :=
    IndexTable.findFault?_eq_none.mpr ⟨by simp [IndexTable.misses, hlacks],
      by simp [IndexTable.misses, hlacks], by simp [hlacks]⟩
  rw [matching_of_table hpre he htable, IndexTable.search_of_ofText hread hfault]
  refine ⟨_, rfl, ((FullText.search_perm t.searchRows q).filterMap _).trans ?_⟩
  rw [List.filterMap_map]
  exact .refl _

/-- A repository of nodes finds nodes of the records that the table finds. -/
lemma Repository.findBy_of_found? {config : IndexConfig} {r : Repository NodeStore}
    {s : NodeStore} {c : Criteria} {text : String} {records : List Record}
    (hpre : Text.isIdentifier config.tablePrefix = true) (hd : WellKept config s.database)
    (he : IsEntityName r.entityName)
    (hindex : r.index = (⟨r.entityName, some (config.tableName r.entityName)⟩ :
      NodeIndex).searchIndex)
    (hloader : r.loader = nodeLoader) (hkind : r.kind = .node)
    (hchecked : r.checkedQuery c = .ok text) (htext : NodeIndex.isMatchAll text = false)
    (h : s.database.found? (config.tableName r.entityName) text = some records) :
    ∃ es, (r.findBy c).perform s = (.ok es, s) ∧
      es.Perm (records.map fun record => ⟨.node, .ofRecord record⟩) := by
  obtain ⟨records', hmatching, hperm⟩ := Database.matching_of_found? hpre he h
  have hquery := NodeIndex.perform_query_of_not_all
    ⟨r.entityName, some (config.tableName r.entityName)⟩ htext s
  simp only [hmatching] at hquery
  have hown : ∀ record ∈ records', record.entity = r.entityName := by
    intro record hrecord
    obtain ⟨n, _, hentity, hn⟩ := (Database.matching_own hpre hd he hmatching).2 record hrecord
    rw [(Database.of_record? hn).2, hentity]
  refine ⟨records'.map fun record => ⟨.node, .ofRecord record⟩, ?_, hperm.map _⟩
  unfold findBy
  rw [hindex, hchecked]
  exact Action.perform_bind_eq_ok.mpr ⟨text, s, rfl, Action.perform_bind_eq_ok.mpr
    ⟨records', s, hquery, hydrateAll_eq hloader hkind hown⟩⟩

/-! ## Films -/

/-- Three films: a silent one and one with sound that have the same title, and another silent one,
which comes last. -/
def lostWorlds : List StoreEvent :=
  let film := EntityMetadata.searchable "Film" ["id", "kind", "title"]
  [.call (.insert film (.ofList [("kind", "silent"), ("title", "Metropolis")])),
    .call (.insert film (.ofList [("kind", "sound"), ("title", "The Lost World")])),
    .call (.insert film (.ofList [("kind", "silent"), ("title", "The Lost World")]))]

/-- The store of these films. -/
def filmStore : NodeStore :=
  NodeStore.after .standard lostWorlds

/-- The repository of films. -/
def filmRepository : Repository NodeStore :=
  ⟨.searchable "Film" ["id", "kind", "title"],
    (⟨"Film", some "node_index__film"⟩ : NodeIndex).searchIndex, nodeLoader, .suffix⟩

/-- The numbers of the films that a query finds. -/
def filmNumbers? (text : String) : Option (List Int) :=
  (filmStore.database.found? "node_index__film" text).map (·.map (·.id))

/-- The films that are found for some queries. -/
lemma filmNumbers?_eq : filmNumbers? "kind:silent" = some [1, 3] ∧
    filmNumbers? "kind:sound" = some [2] ∧
    filmNumbers? "title:\"lost world\"" = some [1, 2] ∧
    filmNumbers? "kind:silent AND title:\"lost world\"" = some [1] ∧
    filmNumbers? "title:(lost)OR(metropolis)" = some [1, 2, 3] ∧
    filmNumbers? "kind:sound AND title:(lost)OR(metropolis)" = some [2, 3] ∧
    filmNumbers? "title:metropolis\x00" = some [3] ∧
    filmNumbers? "title:metropolis\x00 AND kind:sound" = some [3] ∧
    filmStore.database.matching "node_index__film" "id:* AND kind:sound" =
      .error (.query (.unexpected "*")) := by
  decide +kernel

/-- The films are stored in a run. -/
lemma filmStore_run : StoreRun .standard lostWorlds filmStore :=
  .of_own .standard (by simp [lostWorlds, StoreEvent.IsOwn])

/-- The films that the repository finds are those that the table finds. -/
lemma filmRepository_findBy {c : Criteria} {text : String} {ids : List Int}
    (hchecked : filmRepository.checkedQuery c = .ok text)
    (htext : NodeIndex.isMatchAll text = false) (h : filmNumbers? text = some ids) :
    ∃ es, (filmRepository.findBy c).perform filmStore = (.ok es, filmStore) ∧
      (es.map (·.content.id)).Perm ids := by
  obtain ⟨records, hrecords, rfl⟩ := Option.map_eq_some_iff.mp h
  obtain ⟨_, hd⟩ := filmStore_run.wellKept (by decide)
  obtain ⟨es, hes, hperm⟩ := @Repository.findBy_of_found? .standard filmRepository _ _ _ _
    (by decide) hd rfl rfl rfl rfl hchecked htext hrecords
  refine ⟨es, hes, (hperm.map _).trans ?_⟩
  rw [List.map_map]
  exact .refl _

/-- The index of the repository is that of the films. -/
lemma filmIndex_isOf : (⟨"Film", some "node_index__film"⟩ : NodeIndex).IsOf .standard
    filmRepository.metadata :=
  NodeIndex.isOf_of_index (s := NodeStore.opened .standard .empty) (by decide +kernel)

/-- The repository finds some films for the query for every node. -/
lemma filmRepository_findBy_all :
    ∃ es, (filmRepository.findBy (.single "id" "*")).perform filmStore = (.ok es, filmStore) := by
  have hall := NodeIndex.perform_query ⟨"Film", some "node_index__film"⟩ "id:*" filmStore
  rw [if_pos (by decide)] at hall
  have hown : ∀ record ∈ filmStore.database.recordsOf "Film", record.entity = "Film" := by
    obtain ⟨_, hd⟩ := filmStore_run.wellKept (by decide)
    intro record hrecord
    obtain ⟨n, _, hentity, hn⟩ := (Database.recordsOf_own hd "Film").2 record hrecord
    exact (Database.of_record? hn).2.trans hentity
  have hevery := Action.perform_bind_eq_ok.mpr ⟨_, _, hall,
    Repository.hydrateAll_eq (r := filmRepository) rfl rfl hown⟩
  exact ⟨_, hevery⟩

/-- Two entries find something by themselves. -/
lemma Repository.findsEach_pair {r : Repository NodeStore} {s : NodeStore} {a b : String × String}
    {es es' : List Entity} (ha : (r.findBy (.single a.1 a.2)).perform s = (.ok es, s))
    (hb : (r.findBy (.single b.1 b.2)).perform s = (.ok es', s)) : r.FindsEach s ⟨[a, b]⟩ := by
  intro entry hentry
  simp only [List.mem_cons, List.not_mem_nil, or_false] at hentry
  obtain rfl | rfl := hentry
  · exact ⟨es, s, ha⟩
  · exact ⟨es', s, hb⟩

/-- Criteria that find an object which one of the entries does not find by itself. -/
lemma Repository.not_findsJointly {r : Repository NodeStore} {s s' : NodeStore} {c : Criteria}
    {es es' : List Entity} {entry : String × String} {id : Int}
    (h : (r.findBy c).perform s = (.ok es, s)) (hentry : entry ∈ c.entries)
    (h' : (r.findBy (.single entry.1 entry.2)).perform s = (.ok es', s'))
    (hid : id ∈ es.map (·.content.id)) (hid' : id ∉ es'.map (·.content.id)) :
    ¬r.FindsJointly s c := by
  rintro ⟨es₁, hes₁, hmem⟩
  cases h.symm.trans hes₁
  obtain ⟨e, he, rfl⟩ := List.mem_map.mp hid
  exact hid' (List.mem_map.mpr ⟨e, (hmem e).mp he entry hentry es' s' h', rfl⟩)

/-- Criteria find a film which one of the entries does not find by itself. -/
lemma filmRepository_not_findsJointly {c : Criteria} {entry : String × String}
    {text text' : String} {ids ids' : List Int} {id : Int} (h : filmNumbers? text = some ids)
    (h' : filmNumbers? text' = some ids') (hid : id ∈ ids) (hid' : id ∉ ids')
    (hentry : entry ∈ c.entries) (hchecked : filmRepository.checkedQuery c = .ok text)
    (hchecked' : filmRepository.checkedQuery (.single entry.1 entry.2) = .ok text')
    (htext : NodeIndex.isMatchAll text = false) (htext' : NodeIndex.isMatchAll text' = false) :
    ¬filmRepository.FindsJointly filmStore c := by
  obtain ⟨es, hes, hperm⟩ := filmRepository_findBy hchecked htext h
  obtain ⟨es', hes', hperm'⟩ := filmRepository_findBy hchecked' htext' h'
  exact Repository.not_findsJointly hes hentry hes' (hperm.mem_iff.mpr hid)
    fun hmem => hid' (hperm'.mem_iff.mp hmem)

/-- Criteria whose entries change the meaning of each other: an `OR` outside parentheses, a null
character, and the query for every node. -/
def misread : List Criteria :=
  [⟨[("kind", "sound"), ("title", "(lost)OR(metropolis)")]⟩,
    ⟨[("title", "metropolis\x00"), ("kind", "sound")]⟩, ⟨[("id", "*"), ("kind", "sound")]⟩]

end EntityFinder
