import EntityFinder.Proofs.Commands.Sessions
import EntityFinder.Proofs.Refusals

set_option autoImplicit false

/-!
# What commands do to a store

A command stores a node, or it asks for the index of an entity and then only looks. It takes the
metadata of the entity from its schema.

## Main definitions

* `EntityFinder.Action.LooksOnly`: a call that leaves every state as it is.
* `EntityFinder.EntitySchema.HasPlainNames`: a schema whose names can stand in statements.
* `EntityFinder.EntitySchema.SparesTable`: a schema whose names leave that of its table alone.
* `EntityFinder.CommandLine.Leaves`: a store as a command may leave it.

## Main results

* `EntityFinder.EntitySchema.HasPlainNames.metadata`: the metadata of such a schema.
* `EntityFinder.CommandLine.perform_resolve`: the metadata of an entity is that of its schema.
* `EntityFinder.CommandLine.leaves_carryOut`: a command makes one call of a store at most.
-/

namespace EntityFinder

open EntityFinder.Action (Ends)

/-! ## Calls that only look -/

namespace Action

variable {σ α β : Type} {a : Action σ α}

/-- What holds of the state that a call leaves, holds however the call ends. -/
lemma ends_of_after {s : σ} {E : σ → Prop} (h : E (a.perform s).2) : Ends a s (fun _ => E) E := by
  unfold Ends
  rcases hp : a.perform s with ⟨_ | _, s'⟩ <;> rw [hp] at h <;> exact h

/-- A call leaves every state as it is. -/
def LooksOnly (a : Action σ α) : Prop :=
  ∀ s, (a.perform s).2 = s

/-- An answer that costs nothing changes nothing. -/
lemma looksOnly_pure (x : α) : LooksOnly (pure x : Action σ α) := fun _ => rfl

/-- An answer that does not depend on the state changes nothing. -/
lemma looksOnly_ofExcept (r : Except FinderError α) : LooksOnly (ofExcept r : Action σ α) :=
  fun _ => rfl

/-- A composed call only looks if both halves do. -/
lemma LooksOnly.bind (h : LooksOnly a) {f : α → Action σ β} (hf : ∀ x, LooksOnly (f x)) :
    LooksOnly (a >>= f) := by
  intro s
  have ha := h s
  rw [perform_bind]
  rcases hp : a.perform s with ⟨_ | x, s'⟩ <;> rw [hp] at ha
  · exact ha
  · exact (hf x s').trans ha

/-- What holds before a call that only looks, holds after it. -/
lemma LooksOnly.ends {s : σ} {E : σ → Prop} (h : LooksOnly a) (hE : E s) :
    Ends a s (fun _ => E) E :=
  ends_of_after ((h s).symm ▸ hE)

end Action

namespace Repository

/-- A repository finds the nodes of an index. -/
structure IsOfNodes (r : Repository NodeStore) : Prop where
  /-- Its objects are general nodes. -/
  loader : r.loader = nodeLoader
  /-- It asks an index. -/
  index : ∃ index : NodeIndex, r.index = index.searchIndex

namespace IsOfNodes

variable {r : Repository NodeStore} (h : r.IsOfNodes)

include h

/-- Looking a node up changes nothing. -/
lemma looksOnly_find (id : Int) : (r.find id).LooksOnly := by
  unfold find
  rw [h.loader]
  refine .bind (.bind (fun _ => rfl) fun _ => Action.looksOnly_pure _) fun _ => ?_
  exact Action.looksOnly_pure _

/-- Turning a record into an object changes nothing. -/
lemma looksOnly_hydrate (record : Record) : (r.hydrate record).LooksOnly := by
  unfold hydrate
  rw [h.loader]
  exact .bind (Action.looksOnly_pure _) fun _ => Action.looksOnly_ofExcept _

/-- Turning records into objects changes nothing. -/
lemma looksOnly_hydrateAll (records : List Record) : (r.hydrateAll records).LooksOnly := by
  induction records with
  | nil => exact Action.looksOnly_pure _
  | cons record records ih =>
    exact (looksOnly_hydrate h record).bind fun _ => ih.bind fun _ => Action.looksOnly_pure _

/-- A query changes nothing. -/
lemma looksOnly_query (text : String) : (r.index.query text).LooksOnly := by
  obtain ⟨index, hindex⟩ := h.index
  rw [hindex]
  exact fun _ => rfl

/-- Finding all objects changes nothing. -/
lemma looksOnly_findAll : r.findAll.LooksOnly :=
  (looksOnly_query h _).bind (looksOnly_hydrateAll h)

/-- Finding objects by criteria changes nothing. -/
lemma looksOnly_findBy (c : Criteria) : (r.findBy c).LooksOnly :=
  (Action.looksOnly_ofExcept _).bind fun query =>
    (looksOnly_query h query).bind (looksOnly_hydrateAll h)

/-- Finding one object by criteria changes nothing. -/
lemma looksOnly_findOneBy (c : Criteria) : (r.findOneBy c).LooksOnly := by
  refine (Action.looksOnly_ofExcept _).bind fun query => ?_
  refine .bind ((looksOnly_query h query).bind fun _ => Action.looksOnly_pure _) fun found => ?_
  cases found with
  | none => exact Action.looksOnly_pure _
  | some record => exact (looksOnly_hydrate h record).bind fun _ => Action.looksOnly_pure _

/-- Calling a finder by its name changes nothing. -/
lemma looksOnly_call (method : String) (args : List String) : (r.call method args).LooksOnly := by
  refine (Action.looksOnly_ofExcept _).bind fun finder => ?_
  refine (Action.looksOnly_ofExcept _).bind fun value => ?_
  cases finder.kind with
  | one =>
    refine .bind ((Action.looksOnly_ofExcept _).bind fun c => looksOnly_findOneBy h c) fun _ => ?_
    exact Action.looksOnly_pure _
  | many =>
    refine .bind ((Action.looksOnly_ofExcept _).bind fun c => looksOnly_findBy h c) fun _ => ?_
    exact Action.looksOnly_pure _

end IsOfNodes

end Repository

/-! ## Schemas -/

namespace EntitySchema

/-- The metadata of an entity with the properties of a schema. -/
def metadata (s : EntitySchema) : EntityMetadata :=
  ⟨s.entityType, s.properties⟩

/-- The names of a schema can stand in statements: they are identifiers, and those of properties are
in lower case and no reserved words. -/
structure HasPlainNames (s : EntitySchema) : Prop where
  /-- The entity can have a table. -/
  entity : IsEntityName s.name
  /-- There is something to store. -/
  nonempty : s.properties ≠ []
  /-- The names of properties can become part of a statement. -/
  valid : ∀ p ∈ s.properties, validateIdentifier "property" p.name = .ok ()
  /-- They are in lower case. -/
  lower : ∀ p ∈ s.properties, Text.lowerAscii p.name = p.name
  /-- None is a reserved word. -/
  not_reserved : ∀ p ∈ s.properties, Database.isReserved p.name = false

/-- No searchable property is named like the table of the entity. -/
def SparesTable (s : EntitySchema) : Prop :=
  ∀ p ∈ s.properties, p.indexed = true →
    p.name ≠ Text.lowerAscii (IndexConfig.standard.tableName s.name)

/-- The metadata of a sound schema with plain names has plain names, if none is that of the
table. -/
lemma HasPlainNames.metadata {s : EntitySchema} (h : s.HasPlainNames) (hspares : s.SparesTable)
    (hsound : s.IsSound) : s.metadata.HasPlainNames .standard := by
  have hmem : ∀ name ∈ s.metadata.indexedNames,
      ∃ p ∈ s.properties, p.indexed = true ∧ p.name = name := by
    intro name hname
    obtain ⟨p, hp, rfl⟩ := List.mem_map.mp hname
    obtain ⟨hp, hindexed⟩ := List.mem_filter.mp hp
    exact ⟨p, hp, hindexed, rfl⟩
  refine ⟨h.entity, fun name hname => ?_, fun name hname => ?_, fun name hname => ?_, ?_,
    fun hname => ?_⟩
  · obtain ⟨p, hp, _, rfl⟩ := hmem name hname
    exact h.valid p hp
  · obtain ⟨p, hp, _, rfl⟩ := hmem name hname
    exact h.lower p hp
  · obtain ⟨p, hp, _, rfl⟩ := hmem name hname
    exact h.not_reserved p hp
  · exact hsound.nodup.sublist (List.filter_sublist.map _)
  · obtain ⟨p, hp, hindexed, heq⟩ := hmem _ hname
    exact hspares p hp hindexed heq

/-- The properties that a schema declares are those that its metadata does. -/
lemma declares_metadata {s : EntitySchema} {name : String} :
    s.metadata.declares name = true ↔ name ∈ s.properties.map (·.name) := by
  rw [EntityMetadata.declares, EntityMetadata.property?, List.find?_isSome, List.mem_map]
  simp [metadata]

end EntitySchema

namespace SchemaLibrary

/-- The schemas of a directory that has been read are sound. -/
lemma sound_of_fromDirectory {directory : String} {tree tree' : FileTree} {library : SchemaLibrary}
    (h : (fromDirectory directory).perform tree = (.ok library, tree')) :
    ∀ name s, library.schema? name = some s → s.name = name ∧ s.IsSound := by
  rw [(LibraryHistory.opened h).eq_load]
  intro name s hs
  obtain ⟨hname, hsound, _⟩ := (serves_load directory _).declared name s hs
  exact ⟨hname, hsound⟩

/-- All schemas that a library serves have plain names. -/
def HasPlainNames (library : SchemaLibrary) : Prop :=
  ∀ name s, library.schema? name = some s → s.HasPlainNames

/-- No searchable property that a library serves is named like the table of its entity. -/
def SparesTables (library : SchemaLibrary) : Prop :=
  ∀ name s, library.schema? name = some s → s.SparesTable

end SchemaLibrary

namespace CommandLine

/-! ## What a command asks of a store -/

variable {library : SchemaLibrary} {entity : String} {schema : EntitySchema} {s s' : NodeStore}

/-- A library serves sound schemas under their names. -/
abbrev IsSound (library : SchemaLibrary) : Prop :=
  ∀ name s, library.schema? name = some s → s.name = name ∧ s.IsSound

/-- The metadata of an entity is that of its schema. -/
lemma perform_resolve (hsound : IsSound library) (hschema : library.schema? entity = some schema)
    (hne : schema.properties ≠ []) (s : NodeStore) :
    (mapper.resolve (declaredType entity)).perform ((.empty, library), s) =
      (.ok schema.metadata, ((MetadataCache.empty.keep schema.metadata, library), s)) := by
  obtain ⟨rfl, _⟩ := hsound entity schema hschema
  have hresolves := @SchemaLibrary.resolves library .empty schema.name
    (fun t ht => (hsound _ t ht).2) rfl
  have hfound := hresolves.found schema hschema hne
  simp only [Mapper.resolve, mapper, declaredType, Action.onFirst, Action.onPart,
    Action.perform_ofFunction, hfound]
  rfl

/-- An entity is resolved by its schema, or not at all. -/
lemma ends_resolve (hsound : IsSound library) (entity : String) (s : NodeStore) :
    Ends (mapper.resolve (declaredType entity)) ((.empty, library), s)
      (fun m w => w.2 = s ∧ ∃ schema, library.schema? entity = some schema ∧ m = schema.metadata)
      fun w => w.2 = s := by
  have hresolves := @SchemaLibrary.resolves library .empty entity
    (fun t ht => (hsound _ t ht).2) rfl
  rcases hschema : library.schema? entity with _ | schema
  · have hmissing := hresolves.missing hschema
    simp only [Ends, Mapper.resolve, mapper, declaredType, Action.onFirst, Action.onPart,
      Action.perform_ofFunction, hmissing]
  · by_cases hne : schema.properties = []
    · have hempty := hresolves.empty schema hschema hne
      simp only [Ends, Mapper.resolve, mapper, declaredType, Action.onFirst, Action.onPart,
        Action.perform_ofFunction, hempty]
    · rw [Ends, perform_resolve hsound hschema hne]
      exact ⟨rfl, schema, rfl, rfl⟩

/-- The calls that commands make on a store: they store nodes and ask for indexes, with the metadata
of a schema. -/
inductive IsCommandCall (library : SchemaLibrary) : StoreCall → Prop
  /-- A node is stored. -/
  | insert {entity : String} {schema : EntitySchema} (p : Properties) :
    library.schema? entity = some schema → IsCommandCall library (.insert schema.metadata p)
  /-- The index of an entity is asked for. -/
  | index {entity : String} {schema : EntitySchema} :
    library.schema? entity = some schema → IsCommandCall library (.index schema.metadata)

/-- A store is left as it is, or by one call. -/
def Leaves (library : SchemaLibrary) (s s' : NodeStore) : Prop :=
  s' = s ∨ ∃ c, IsCommandCall library c ∧ s' = c.leave s

/-- Making a repository is asking for an index. -/
lemma ends_repository (hsound : IsSound library) (entity : String) (s : NodeStore) :
    Ends (repository entity) ((.empty, library), s)
      (fun r w => r.IsOfNodes ∧ Leaves library s w.2) fun w => Leaves library s w.2 := by
  refine Action.ends_bind ((ends_resolve hsound entity s).mono ?_ fun w hw => .inl hw)
  rintro m ⟨cache, s'⟩ ⟨hw, schema, hschema, rfl⟩
  obtain rfl : s' = s := hw
  have hleft : Leaves library s' ((StoreCall.index schema.metadata).leave s') :=
    .inr ⟨_, .index hschema, rfl⟩
  have hindex := Action.ends_of_after (a := NodeStore.index schema.metadata)
    (E := Leaves library s') hleft
  refine Action.ends_bind (Action.ends_onPart (hindex.mono (fun index t ht => ?_) fun _ ht => ht))
  refine Action.ends_ofExcept (fun r hr => ?_) ht
  unfold Repository.bind at hr
  split_ifs at hr
  cases hr
  exact ⟨⟨rfl, index, rfl⟩, ht⟩

/-- A command makes one call of the store at most, with the metadata of a schema. -/
theorem leaves_carryOut (hsound : IsSound library) (c : Command) (s : NodeStore) :
    Leaves library s (carryOut c library s).2.2 := by
  have hlooks : ∀ {α : Type} {a : Action NodeStore α} {f : α → String} {w : World},
      a.LooksOnly → Leaves library s w.2 →
      Ends (a.onSecond >>= fun x => pure (f x)) w (fun _ w' => Leaves library s w'.2)
        fun w' => Leaves library s w'.2 :=
    fun ha hw => Action.ends_bind (Action.ends_onPart (ha.ends hw))
  have hrepository : ∀ {entity : String} {f : Repository NodeStore → Action World String},
      (∀ r w, r.IsOfNodes → Leaves library s w.2 →
        Ends (f r) w (fun _ w' => Leaves library s w'.2) fun w' => Leaves library s w'.2) →
      Leaves library s ((repository entity >>= f).perform ((.empty, library), s)).2.2 := by
    intro entity f hf
    have hends : Ends (repository entity >>= f) ((.empty, library), s)
        (fun _ w => Leaves library s w.2) fun w => Leaves library s w.2 :=
      Action.ends_bind ((ends_repository hsound entity s).mono (fun r w h => hf r w h.1 h.2)
        fun _ h => h)
    exact hends.after
  cases c with
  | compile criteria => exact .inl rfl
  | put entity properties =>
    have hends : Ends (perform (.put entity properties)) ((.empty, library), s)
        (fun _ w => Leaves library s w.2) fun w => Leaves library s w.2 := by
      refine Action.ends_bind ((ends_resolve hsound entity s).mono ?_ fun w hw => .inl hw)
      rintro m ⟨cache, s'⟩ ⟨hw, schema, hschema, rfl⟩
      obtain rfl : s' = s := hw
      refine Action.ends_bind (Action.ends_onPart (Action.ends_of_after ?_))
      exact .inr ⟨_, .insert (.ofList properties) hschema, rfl⟩
    exact hends.after
  | get entity id => exact hrepository fun r w hr hw => hlooks (hr.looksOnly_find id) hw
  | all entity => exact hrepository fun r w hr hw => hlooks hr.looksOnly_findAll hw
  | call entity method value =>
    exact hrepository fun r w hr hw => hlooks (hr.looksOnly_call method [value]) hw
  | select entity criteria one =>
    refine hrepository fun r w hr hw => ?_
    cases one with
    | true => exact hlooks (hr.looksOnly_findOneBy _) hw
    | false => exact hlooks (hr.looksOnly_findBy _) hw

end CommandLine

end EntityFinder
