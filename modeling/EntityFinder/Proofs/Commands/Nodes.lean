import EntityFinder.Proofs.Commands.Stores

set_option autoImplicit false

/-!
# The nodes that commands show

The nodes that a store holds stay, whatever commands are carried out on it. What is shown of them is
told by the schemas and by the map that the store holds.

## Main definitions

* `EntityFinder.NodeMap.IsWithin`: a map all nodes of which are those of another one.
* `EntityFinder.CommandLine.Holds`: a store that holds the nodes of a map, and that nothing keeps
  from being used.

## Main results

* `EntityFinder.CommandLine.Holds.leaves`: the nodes stay, whatever the command is.
* `EntityFinder.CommandLine.Holds.put_declared`, `EntityFinder.CommandLine.carryOut_put_undeclared`:
  a node is stored, or it is refused and nothing is touched.
* `EntityFinder.CommandLine.Holds.get_eq`, `EntityFinder.CommandLine.Holds.all_eq`: what is shown of
  the nodes.
-/

namespace EntityFinder

open EntityFinder.Action (Ends)

/-! ## Properties from pairs -/

namespace Properties

/-- The names are those of the pairs. -/
lemma mem_names_ofList {pairs : List (String × String)} {name : String} :
    name ∈ (ofList pairs).names ↔ name ∈ pairs.map Prod.fst := by
  have hlookup : ∀ entries : List (String × String),
      entries.lookup name = none ↔ name ∉ entries.map Prod.fst := by
    intro entries
    rw [List.lookup_eq_none_iff, List.mem_map]
    constructor
    · rintro h ⟨pair, hpair, rfl⟩
      simpa using h pair hpair
    · intro h pair hpair
      exact bne_iff_ne.mpr fun heq => h ⟨pair, hpair, heq.symm⟩
  have hnone := hlookup (ofList pairs).entries
  have hpairs := hlookup pairs.reverse
  rw [← get?_ofList, get?, List.map_reverse, List.mem_reverse] at hpairs
  rw [names, ← not_iff_not, ← hnone, hpairs]

end Properties

namespace NodeStore

/-- Properties that are not declared are refused, and the refusal names one of them. -/
lemma exists_of_undeclared {m : EntityMetadata} {names : List String}
    (h : ∃ name ∈ names, m.declares name = false) :
    ∃ name ∈ names, m.declares name = false ∧ checkDeclared m names =
      .error (.validation name (m.entityName ++ " does not declare this property")) := by
  induction names with
  | nil => simp at h
  | cons first names ih =>
    rw [checkDeclared]
    cases hfirst : m.declares first with
    | true =>
      obtain ⟨name, hname, hundeclared⟩ := h
      rcases List.mem_cons.mp hname with rfl | hname
      · rw [hfirst] at hundeclared
        cases hundeclared
      · obtain ⟨culprit, hmem, hculprit⟩ := ih ⟨name, hname, hundeclared⟩
        exact ⟨culprit, .tail _ hmem, hculprit⟩
    | false => exact ⟨first, .head _, hfirst, rfl⟩

end NodeStore

/-! ## Nodes that stay -/

namespace NodeMap

open CommandLine (IsCommandCall)

/-- Every node of a map is one of another map. -/
def IsWithin (M M' : NodeMap) : Prop :=
  ∀ id node, M.nodes.lookup id = some node → M'.nodes.lookup id = some node

/-- Being within passes on. -/
lemma IsWithin.trans {M M' M'' : NodeMap} (h : M.IsWithin M') (h' : M'.IsWithin M'') :
    M.IsWithin M'' :=
  fun id node hnode => h' id node (h id node hnode)

/-- A node that is stored takes none of the others away. -/
lemma isWithin_insert {M : NodeMap} {id : Int} (hnew : id ∉ M.nodes) (node : String × Properties) :
    M.IsWithin ⟨M.nodes.insert id node, id⟩ := by
  intro old found hfound
  have hne : old ≠ id := by
    rintro rfl
    exact hnew (Finmap.lookup_isSome.mp (by rw [hfound]; rfl))
  exact (Finmap.lookup_insert_of_ne _ hne).trans hfound

/-- The calls that commands make take no node away. -/
lemma isWithin_next {M : NodeMap} {library : SchemaLibrary} {c : StoreCall} {x : c.Answer}
    (hc : IsCommandCall library c) (hx : M.Answers c x) : M.IsWithin (M.next c x) := by
  cases hc with
  | insert p _ => exact isWithin_insert hx.2 _
  | index _ => exact fun _ _ h => h

end NodeMap

namespace CommandLine

variable {library : SchemaLibrary} {entity : String} {schema : EntitySchema} {s s' : NodeStore}

/-- A store holds the nodes of a map, and nothing keeps it from being used. -/
structure Holds (entities : String → Prop) (M : NodeMap) (s : NodeStore) : Prop where
  /-- Nothing is missing from the tables. -/
  intact : s.IsIntact .standard entities
  /-- The nodes can be changed. -/
  writable : s.database.isReadOnly = false
  /-- They are those of the map. -/
  describes : M.Describes s.database

section

variable {entities : String → Prop} {M : NodeMap}
variable (hapart : IndexConfig.standard.Apart entities)
  (hentities : ∀ e t, library.schema? e = some t → entities t.name)

/-- A store that is found again holds the same nodes. -/
lemma Holds.resumed (hintact : s.IsIntact .standard entities) (h : M.Describes s.database) :
    Holds entities M s.resumed where
  intact := ⟨rfl, (hintact.2.1.idle (Database.retabled_atRest _)).of_isReadOnly false,
    (hintact.2.2.idle (Database.retabled_atRest _)).of_eq rfl rfl⟩
  writable := rfl
  describes := ⟨h.mem_iff, h.sorted, h.bounded, h.last⟩

include hapart hentities

/-- The calls that commands make leave a store intact. -/
lemma isIntact_leave {c : StoreCall} (hc : IsCommandCall library c)
    (hs : s.IsIntact .standard entities) : (c.leave s).IsIntact .standard entities := by
  refine (storeInvariant_intact (by decide) hapart).leave c (fun e he => ?_) hs
  cases hc with
  | insert p hschema =>
    cases he
    exact hentities _ _ hschema
  | index hschema =>
    cases he
    exact hentities _ _ hschema

/-- Whatever a command makes of a store, the nodes are there when it is found again. -/
theorem Holds.leaves (h : Holds entities M s) (hleaves : Leaves library s s') :
    ∃ M' : NodeMap, M.IsWithin M' ∧ Holds entities M' s'.resumed := by
  obtain rfl | ⟨c, hc, rfl⟩ := hleaves
  · exact ⟨M, fun _ _ hnode => hnode, .resumed h.intact h.describes⟩
  · have hintact := isIntact_leave hapart hentities hc h.intact
    have hends := h.describes.ends_action c
    rw [StoreCall.leave_eq] at hintact ⊢
    unfold Ends at hends
    rcases hp : c.action.perform s with ⟨e | x, s₁⟩ <;> rw [hp] at hends hintact
    · exact ⟨M, fun _ _ hnode => hnode, .resumed hintact hends⟩
    · exact ⟨M.next c x, NodeMap.isWithin_next hc hends.1, .resumed hintact hends.2⟩

end

/-! ## What is shown -/

section

variable {entities : String → Prop} {M : NodeMap}
variable (hsound : IsSound library) (hplain : library.HasPlainNames)
  (hspares : library.SparesTables) (hapart : IndexConfig.standard.Apart entities)
  (hentities : ∀ e t, library.schema? e = some t → entities t.name)
  (hschema : library.schema? entity = some schema)

/-- An object as commands show it. -/
def shownNode (r : Record) : Entity :=
  ⟨.node, .ofRecord r⟩

include hsound hschema in
/-- A node is stored by one call. -/
lemma carryOut_put (hne : schema.properties ≠ []) (pairs : List (String × String)) (s : NodeStore) :
    carryOut (.put entity pairs) library s =
      let (answer, s') := (NodeStore.insert schema.metadata (.ofList pairs)).perform s
      (answer.map fun id => shownLine (String.ofList (Json.integer id)),
        (MetadataCache.empty.keep schema.metadata, library), s') := by
  simp only [carryOut, perform, Action.perform_bind, perform_resolve hsound hschema hne,
    Action.onSecond, Action.onPart, Action.perform_ofFunction]
  rcases (NodeStore.insert schema.metadata (.ofList pairs)).perform s with ⟨_ | _, _⟩ <;> rfl

include hsound hschema in
/-- A repository is made of an index that is answered. -/
lemma perform_repository (hne : schema.properties ≠ []) {index : NodeIndex}
    (hindex : (NodeStore.index schema.metadata).perform s = (.ok index, s')) :
    (repository entity).perform ((.empty, library), s) =
      (.ok ⟨schema.metadata, index.searchIndex, nodeLoader, .suffix⟩,
        (MetadataCache.empty.keep schema.metadata, library), s') := by
  simp only [repository, Mapper.repository, Action.perform_bind,
    perform_resolve hsound hschema hne, Action.onSecond, Action.onPart,
    Action.perform_ofFunction, hindex]
  rfl

include hsound hplain hspares hapart hentities hschema

/-- The index of an entity is answered, and no node is touched. -/
lemma Holds.exists_index (h : Holds entities M s) : ∃ index s',
    (NodeStore.index schema.metadata).perform s = (.ok index, s') ∧ index.entity = entity ∧
      M.Describes s'.database := by
  obtain ⟨hname, hfit⟩ := hsound entity schema hschema
  have hnames := (hplain entity schema hschema).metadata (hspares entity schema hschema) hfit
  obtain ⟨index, hindex⟩ | ⟨e, _, hdue⟩ := NodeStore.index_or_malformed
    (IndexConfig.admits_standard _) hnames hapart (hentities entity schema hschema) h.intact
    h.writable
  · have hends := h.describes.ends_action (.index schema.metadata)
    have hperform : (NodeStore.index schema.metadata).perform s =
        (.ok index, ((NodeStore.index schema.metadata).perform s).2) := Prod.ext hindex rfl
    obtain ⟨hentity, hdescribes⟩ := hends.of_perform hperform
    exact ⟨index, _, hperform, hentity.trans hname, hdescribes⟩
  · exact absurd hdue (h.describes.not_isDueTo _ _ e)

/-- A node is shown by its number if it belongs to the entity that is asked for. -/
theorem Holds.get_eq (h : Holds entities M s) (id : Int) :
    (carryOut (.get entity id) library s).1 =
      .ok (shownOne (((M.record? id).map shownNode).filter (·.entityName == entity))) := by
  obtain ⟨index, s', hindex, _, hdescribes⟩ :=
    h.exists_index hsound hplain hspares hapart hentities hschema
  have hrepository := perform_repository hsound hschema (hplain entity schema hschema).nonempty
    hindex
  have hname : schema.name = entity := (hsound entity schema hschema).1
  have hget : (NodeStore.get id).perform s' = (.ok (M.record? id), s') := by
    simp only [NodeStore.get, NodeStore.ask, Action.query, Action.perform_ofFunction,
      hdescribes.recordOf_eq, Except.mapError]
  have hfind : ((Repository.mk schema.metadata index.searchIndex nodeLoader .suffix).find
      id).perform s' =
        (.ok (((M.record? id).map shownNode).filter (·.entityName == entity)), s') := by
    rw [Repository.find, Action.perform_bind, nodeLoader, Action.perform_bind, hget, ← hname]
    cases M.record? id with
    | none => rfl
    | some r =>
      have haccepts : Repository.accepts (Repository.mk schema.metadata index.searchIndex nodeLoader
          .suffix) (shownNode r) = ((shownNode r).entityName == schema.name) :=
        Bool.and_true _
      simp only [Action.perform_pure, Option.map_some, Option.filter_some]
      exact Prod.ext (congrArg (fun b => Except.ok (if b then some (shownNode r) else none))
        haccepts) rfl
  simp only [carryOut, perform, Action.perform_bind, hrepository, Action.onSecond, Action.onPart,
    Action.perform_ofFunction, hfind, Action.perform_pure]

/-- All nodes of an entity are shown in the order of their numbers. -/
theorem Holds.all_eq (h : Holds entities M s) : ∃ records, M.Lists entity records ∧
    (carryOut (.all entity) library s).1 = .ok (shownMany (records.map shownNode)) := by
  obtain ⟨index, s', hindex, rfl, hdescribes⟩ :=
    h.exists_index hsound hplain hspares hapart hentities hschema
  have hrepository := perform_repository hsound hschema (hplain _ schema hschema).nonempty hindex
  have hlists := hdescribes.lists_recordsOf index.entity
  have hquery := @NodeIndex.perform_query_all index Criteria.matchAllQuery (by decide) s'
  have hhydrate := @Repository.hydrateAll_eq
    (Repository.mk schema.metadata index.searchIndex nodeLoader .suffix) s' rfl rfl
    (s'.database.recordsOf index.entity) fun record hrecord =>
      ((hlists.mem_iff record).mp hrecord).1.trans (hsound _ schema hschema).1.symm
  have hall : ((Repository.mk schema.metadata index.searchIndex nodeLoader
      .suffix).findAll).perform s' =
        (.ok ((s'.database.recordsOf index.entity).map shownNode), s') := by
    rw [Repository.findAll, Action.perform_bind, NodeIndex.searchIndex, hquery]
    exact hhydrate
  refine ⟨_, hlists, ?_⟩
  simp only [carryOut, perform, Action.perform_bind, hrepository, Action.onSecond, Action.onPart,
    Action.perform_ofFunction, hall, Action.perform_pure]

/-- A node with declared properties is stored under a new number, which is shown. -/
theorem Holds.put_declared (h : Holds entities M s) {pairs : List (String × String)}
    (hdeclared : ∀ pair ∈ pairs, pair.1 ∈ schema.properties.map (·.name)) : ∃ id,
    (carryOut (.put entity pairs) library s).1 = .ok (shownLine (String.ofList (Json.integer id))) ∧
      M.last < id ∧ id ∉ M.nodes ∧
      Holds entities ⟨M.nodes.insert id (entity, .ofList pairs), id⟩
        (carryOut (.put entity pairs) library s).2.2.resumed := by
  obtain ⟨hname, hfit⟩ := hsound entity schema hschema
  have hnames := hplain entity schema hschema
  have hchecked :
      NodeStore.checkDeclared schema.metadata (Properties.ofList pairs).names = .ok () := by
    refine NodeStore.checkDeclared_eq_ok fun name hname => ?_
    obtain ⟨pair, hpair, rfl⟩ := List.mem_map.mp (Properties.mem_names_ofList.mp hname)
    exact EntitySchema.declares_metadata.mpr (hdeclared pair hpair)
  obtain ⟨id, hinsert⟩ | ⟨e, _, hdue⟩ := NodeStore.insert_or_malformed
    (IndexConfig.admits_standard _) (hnames.metadata (hspares entity schema hschema) hfit) hapart
    (hentities entity schema hschema) h.intact h.writable hchecked
  · have hperform : (NodeStore.insert schema.metadata (.ofList pairs)).perform s = (.ok id,
        (StoreCall.insert schema.metadata (.ofList pairs)).leave s) := Prod.ext hinsert rfl
    have hends := h.describes.ends_action (.insert schema.metadata (.ofList pairs))
    obtain ⟨⟨hlast, hnew⟩, hdescribes⟩ := hends.of_perform hperform
    have hintact := isIntact_leave hapart hentities (.insert (.ofList pairs) hschema) h.intact
    rw [carryOut_put hsound hschema hnames.nonempty, hperform]
    refine ⟨id, rfl, hlast, hnew, .resumed hintact ?_⟩
    rw [← hname]
    exact hdescribes
  · exact absurd hdue (h.describes.not_isDueTo _ _ e)

omit hplain hspares hapart hentities in
/-- A node with a property that is not declared is refused, and nothing is touched. -/
theorem carryOut_put_undeclared (hne : schema.properties ≠ []) {pairs : List (String × String)}
    (hundeclared : ∃ pair ∈ pairs, pair.1 ∉ schema.properties.map (·.name)) (s : NodeStore) :
    ∃ pair ∈ pairs, pair.1 ∉ schema.properties.map (·.name) ∧
      (carryOut (.put entity pairs) library s).1 =
        .error (.validation pair.1 (entity ++ " does not declare this property")) ∧
      (carryOut (.put entity pairs) library s).2.2 = s := by
  obtain ⟨hname, _⟩ := hsound entity schema hschema
  obtain ⟨pair, hpair, hnot⟩ := hundeclared
  obtain ⟨culprit, hmem, hculprit, hchecked⟩ := @NodeStore.exists_of_undeclared schema.metadata
    (Properties.ofList pairs).names ⟨pair.1, Properties.mem_names_ofList.mpr
      (List.mem_map_of_mem hpair), Bool.eq_false_iff.mpr fun hyes =>
        hnot (EntitySchema.declares_metadata.mp hyes)⟩
  obtain ⟨pair', hpair', rfl⟩ := List.mem_map.mp (Properties.mem_names_ofList.mp hmem)
  have hperform : (NodeStore.insert schema.metadata (.ofList pairs)).perform s =
      (.error (.validation pair'.1 (entity ++ " does not declare this property")), s) := by
    simp only [NodeStore.insert, Action.perform_bind, Action.ofExcept, Action.perform_ofFunction,
      hchecked]
    rw [← hname]
    rfl
  refine ⟨pair', hpair', fun hyes => ?_, ?_⟩
  · rw [EntitySchema.declares_metadata.mpr hyes] at hculprit
    cases hculprit
  · rw [carryOut_put hsound hschema hne, hperform]
    exact ⟨rfl, rfl⟩

end

end CommandLine

end EntityFinder
