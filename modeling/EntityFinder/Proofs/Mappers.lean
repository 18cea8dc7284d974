import EntityFinder.Mapper
import EntityFinder.Proofs.Alike.Stores
import EntityFinder.Proofs.Refusals
import EntityFinder.Proofs.Resolutions

set_option autoImplicit false

/-!
# Repositories of another kind

A mapper that is asked for a repository of another kind than the objects of an entity type always
refuses. It does so last, after the metadata has been resolved and the index of the entity has been
answered, so a refusal leaves what setting the table of the entity up has done. That is nothing
just if the table has been set up before.

## Main definitions

* `EntityFinder.NodeStore.TellsSame`: two stores whose files and answers are the same.
* `EntityFinder.NodeStore.HasSetUp`: stores that have nothing to set up for an entity.
* `EntityFinder.NodeStore.LeftByRefusal`: what a refusal leaves, and what it reports.

## Main results

* `EntityFinder.IndexPlan.ends_ensure_uses`: a table that is set up is only taken into use.
* `EntityFinder.StoreRun.refused_repository`: what becomes of a repository of another kind.
* `EntityFinder.StoreRun.exists_filled`: a refusal that creates and fills a table.
-/

namespace EntityFinder

open EntityFinder.Action (Ends)
open Database (Idle IsSetUp Retabled SameContents SameLayout)

/-! ## Taking a table into use -/

/-- A table is as it was, or has been taken into use. -/
def IndexTable.Uses (t t' : IndexTable) : Prop :=
  t' = t ∨ t.use = .ok t'

namespace IndexTable

variable {t t' : IndexTable}

/-- Only the use differs. -/
lemma Uses.idle (h : Uses t t') : Idle t t' := by
  obtain rfl | h := h
  · exact .refl t'
  · exact use_ok h

/-- A table has the same number of rows once it is in use, or the same fault. -/
lemma Uses.size_eq (h : Uses t t') : t'.size = t.size := by
  obtain rfl | h := h
  · rfl
  · have hused : t'.use = .ok t' := by
      unfold use at h
      split_ifs at h with hin
      · cases h
        exact if_pos hin
      · cases h
        rfl
    rw [size, size, h, hused]

end IndexTable

namespace Database

variable {d d' : Database}

/-- A table stays set up as long as the database at rest is the same. -/
lemma IsSetUp.of_atRest {config : IndexConfig} {e : String} {columns : List String}
    (h : IsSetUp config e columns d') (hd : d'.atRest = d.atRest) :
    IsSetUp config e columns d := by
  have hlayout : ∀ d : Database, SameLayout d d.atRest :=
    fun d => .of_restocked (.of_idle (retabled_atRest d))
  have hrest : IsSetUp config e columns d.atRest := hd ▸ h.congr (hlayout d')
  exact hrest.congr ⟨(hlayout d).shape.symm, (hlayout d).triggers.symm⟩

end Database

namespace IndexPlan

variable {config : IndexConfig} {p : IndexPlan} {d : Database}

/-- Setting a table up that is set up, or that is not wanted, takes it into use and does nothing
else, even if it fails. -/
theorem ends_ensure_uses (hp : p.IsPlain config)
    (h : p.columns ≠ [] → IsSetUp config p.entity p.columns d) :
    Ends p.ensure d (fun _ => Retabled IndexTable.Uses d) (Retabled IndexTable.Uses d) := by
  have hsame : Retabled IndexTable.Uses d d := .refl (fun _ => .inl rfl) d
  refine ends_ensure_of_opened hp h hsame (Action.ends_atomic (fun _ d₁ hopen => ?_) hsame)
    fun _ d₁ hused hall => ends_createTriggers hp hused fun _ => hall.symm ▸ hused
  obtain ⟨_, huse, hd₁⟩ := map_eq_ok.mp (mapError_eq_ok.mp hopen)
  cases hd₁
  have hused : Retabled IndexTable.Uses d d₁ := (Database.changeTable_ok huse).mono
    fun _ _ ht => ht.elim (fun _ => .inl rfl) fun _ _ => .inr
  exact ⟨hused, hused.triggers⟩

end IndexPlan

/-! ## Stores that tell the same -/

namespace NodeStore

/-- Two stores have the same nodes, tables, rows and triggers, and answer alike. -/
structure TellsSame (s s' : NodeStore) : Prop where
  /-- Their databases are the same once no table is in use. -/
  atRest : s'.database.atRest = s.database.atRest
  /-- They tell the same about the table of an entity. -/
  stats : ∀ m, (NodeStore.stats m).outcome s' = (NodeStore.stats m).outcome s
  /-- They answer queries alike. -/
  query : ∀ (index : NodeIndex) text, (index.query text).outcome s' = (index.query text).outcome s
  /-- They find the same node for a text in a property. -/
  findOne : ∀ (index : NodeIndex) property value,
    (index.findOne property value).outcome s' = (index.findOne property value).outcome s
  /-- They find the same node for a number. -/
  get : ∀ id, (NodeStore.get id).outcome s' = (NodeStore.get id).outcome s

variable {s s' : NodeStore} {m : EntityMetadata}

/-- Stores tell the same if their tables differ in their use alone. -/
lemma tellsSame_of_uses (hconfig : s'.config = s.config)
    (h : Retabled IndexTable.Uses s.database s'.database) : TellsSame s s' where
  atRest := (h.mono fun _ _ ht => ht.idle).atRest_eq
  stats m := by
    have hrows := h.rowCount_eq (fun _ _ => IndexTable.Uses.idle)
      fun _ _ _ => IndexTable.Uses.size_eq
    unfold NodeStore.stats
    rw [Action.outcome_bind, Action.outcome_bind]
    have hplan : (plan m).outcome s' = (plan m).outcome s :=
      congrArg (IndexPlan.ofMetadata · m) hconfig
    rw [hplan]
    refine bind_congr fun p => congrArg (Except.mapError DatabaseFault.toError) ?_
    exact congrArg _ (hrows p.table)
  query index text := by
    have hmatching := h.matching_eq (fun _ _ => IndexTable.Uses.idle)
    simp only [Action.outcome, NodeIndex.perform_query, Database.recordsOf, Database.nodesOf,
      h.nodes, hmatching]
  findOne index property value := by
    unfold NodeIndex.findOne
    rw [Action.outcome_ofExcept_bind, Action.outcome_ofExcept_bind]
    refine bind_congr fun _ => congrArg (Except.mapError DatabaseFault.toError) ?_
    simp only [Database.firstWith, Database.nodesOf, h.nodes]
  get id := by
    simp only [NodeStore.get, Action.outcome, ask, Action.query, Action.perform_ofFunction,
      Database.recordOf, Database.node?, h.nodes]

/-- The store has nothing to set up for an entity: that has been done, there is nothing to index, or
the table stands with all of its triggers. -/
def HasSetUp (s : NodeStore) (m : EntityMetadata) : Prop :=
  m.entityName ∈ s.prepared ∨ m.indexedNames = [] ∨
    IsSetUp s.config m.entityName m.indexedNames s.database

/-- Preparing an entity for which there is nothing to set up changes nothing that a store tells. -/
lemma ends_prepare_same (hpre : Text.isIdentifier s.config.tablePrefix = true)
    (h : s.HasSetUp m) : Ends (prepare m) s (fun _ => TellsSame s) (TellsSame s) := by
  have hsame : TellsSame s s := tellsSame_of_uses rfl (.refl (fun _ => .inl rfl) _)
  unfold prepare
  refine Action.ends_bind (Action.ends_get ?_)
  split_ifs with hprepared
  · have hnot : m.entityName ∉ s.prepared := by simpa using hprepared
    refine Action.ends_bind (Action.ends_query (fun p hp => ?_) hsame)
    obtain ⟨hplain, hentity, hcolumns⟩ := IndexPlan.isPlain_of_ofMetadata hpre hp
    have hsetup : p.columns ≠ [] → IsSetUp s.config p.entity p.columns s.database := fun hne => by
      rw [hentity, hcolumns]
      exact (h.resolve_left hnot).resolve_left (hcolumns ▸ hne)
    have hends := IndexPlan.ends_ensure_uses hplain hsetup
    exact Action.ends_bind (Action.ends_onPart
      (hends.mono (fun _ _ hd => tellsSame_of_uses rfl hd) fun _ hd => tellsSame_of_uses rfl hd))
  · exact hsame

/-- Once an entity has been prepared its table is set up, if it has anything to index. -/
lemma ends_prepare_hasSetUp (hpre : Text.isIdentifier s.config.tablePrefix = true) :
    Ends (prepare m) s
      (fun _ s' => m.entityName ∈ s.prepared ∨ m.indexedNames = [] ∨
        IsSetUp s.config m.entityName m.indexedNames s'.database) fun _ => True := by
  unfold prepare
  refine Action.ends_bind (Action.ends_get ?_)
  split_ifs with hprepared
  · refine Action.ends_bind (Action.ends_query (fun p hp => ?_) trivial)
    obtain ⟨hplain, hentity, hcolumns⟩ := IndexPlan.isPlain_of_ofMetadata hpre hp
    by_cases hne : p.columns = []
    · exact Action.ends_bind (Action.ends_true.mono
        (fun _ _ _ => .inr (.inl (hcolumns ▸ hne))) fun _ h => h)
    · have hhas : p.hasColumns = true := by simpa [IndexPlan.hasColumns]
      have hends := IndexPlan.ends_ensure_isSetUp (d := s.database) hplain hhas
      rw [hentity, hcolumns] at hends
      exact Action.ends_bind (Action.ends_onPart (hends.mono (fun _ _ hd => .inr (.inr hd))
        fun _ h => h))
  · exact .inl (by simpa using hprepared)

/-- The index of an entity leaves what preparing the entity leaves. -/
lemma leave_index (m : EntityMetadata) (s : NodeStore) :
    (StoreCall.index m).leave s = ((prepare m).perform s).2 := by
  simp only [StoreCall.leave, index, Action.perform_bind]
  rcases (prepare m).perform s with ⟨_ | _, s₁⟩
  · rfl
  · simp only [plan, Action.query, Action.perform_ofFunction]
    cases IndexPlan.ofMetadata s₁.config m <;> rfl

/-- The failure of a repository of another kind, once the metadata has been resolved: the kind is
refused, unless the index of the entity fails before. -/
def refusal (s : NodeStore) (m : EntityMetadata) (wanted : ObjectKind) : FinderError :=
  match (index m).outcome s with
  | .error f => f
  | .ok _ => .metadata m.entityName ("entity does not hydrate into " ++ wanted.typeName)

/-- What a repository of another kind leaves of a store, once the metadata has been resolved. -/
structure LeftByRefusal (config : IndexConfig) (s : NodeStore) (m : EntityMetadata)
    (s' : NodeStore) : Prop where
  /-- The index of the entity has been answered, or has failed. -/
  left : s' = (StoreCall.index m).leave s
  /-- Nothing happens if the entity has been prepared. -/
  prepared : m.entityName ∈ s.prepared → s' = s
  /-- Nothing shows if there was nothing to set up. -/
  same : Text.isIdentifier config.tablePrefix = true → s.HasSetUp m → TellsSame s s'
  /-- If the index was answered and nothing has changed, then there was nothing to set up. -/
  changed : Text.isIdentifier config.tablePrefix = true →
    (∃ i, (index m).outcome s = .ok i) → s'.database.atRest = s.database.atRest → s.HasSetUp m

end NodeStore

/-! ## Mappers -/

variable {σ : Type}

/-- The metadata that a type is resolved to is that of the type. -/
lemma MetadataCache.entityType_of_resolve {source : MetadataSource σ} {type : EntityType}
    {c : MetadataCache × σ} {m : EntityMetadata} (h : (resolve source type).outcome c = .ok m) :
    m.entityType = type := by
  obtain ⟨cache, s⟩ := c
  rw [Action.outcome] at h
  cases hfind : cache.find? type with
  | some known =>
    rw [perform_resolve_known hfind] at h
    cases h
    exact (of_find? hfind).2
  | none =>
    rw [perform_resolve_new hfind] at h
    obtain ⟨_, _, h⟩ := bind_eq_ok.mp h
    obtain ⟨_, rfl⟩ := build_eq_ok.mp h
    rfl

section

variable {mapper : Mapper σ} {type : EntityType} {wanted : ObjectKind} {c c' : MetadataCache × σ}

/-- Metadata that cannot be resolved is all that a repository fails for. -/
lemma Mapper.perform_repository_of_error {f : FinderError}
    (h : (MetadataCache.resolve mapper.source type).perform c = (.error f, c')) (s : NodeStore) :
    (mapper.repository type wanted).perform (c, s) = (.error f, c', s) := by
  simp only [repository, resolve, Action.perform_bind, Action.onFirst, Action.onPart,
    Action.perform_ofFunction, h]

/-- A repository of another kind fails after the index of the entity has been answered. -/
lemma Mapper.perform_repository_of_ne {m : EntityMetadata} (hkind : type.kind ≠ wanted)
    (h : (MetadataCache.resolve mapper.source type).perform c = (.ok m, c')) (s : NodeStore) :
    (mapper.repository type wanted).perform (c, s) =
      (.error (s.refusal m wanted), c', (StoreCall.index m).leave s) := by
  have htype : m.entityType = type := MetadataCache.entityType_of_resolve (congrArg Prod.fst h)
  have hrefused : ∀ index : NodeIndex, Repository.bind m index.searchIndex mapper.loader
      mapper.singularizer wanted = .error (.metadata m.entityName
        ("entity does not hydrate into " ++ wanted.typeName)) := fun _ => if_neg (htype ▸ hkind)
  simp only [repository, resolve, Action.perform_bind, Action.onFirst, Action.onSecond,
    Action.onPart, Action.perform_ofFunction, h, hrefused, NodeStore.refusal, Action.outcome,
    StoreCall.leave]
  rcases (NodeStore.index m).perform s with ⟨_ | _, s'⟩ <;> rfl

end

/-- What is left by a refusal is what the index of the entity leaves. -/
lemma StoreRun.leftByRefusal {config : IndexConfig} {events : List StoreEvent} {s : NodeStore}
    (hrun : StoreRun config events s) (m : EntityMetadata) :
    s.LeftByRefusal config m ((StoreCall.index m).leave s) where
  left := rfl
  prepared h := by rw [NodeStore.leave_index, NodeStore.perform_prepare_of_mem h]
  same hpre h := by
    obtain ⟨rfl, -⟩ := hrun.wellKept hpre
    rw [NodeStore.leave_index]
    exact (NodeStore.ends_prepare_same hpre h).after
  changed hpre := by
    rintro ⟨i, hi⟩ hrest
    obtain ⟨rfl, hkept⟩ := hrun.wellKept hpre
    have hprepare := NodeStore.prepare_of_index (Prod.ext hi rfl)
    rcases (NodeStore.ends_prepare_hasSetUp hpre).of_perform hprepare with h | h | h
    · exact .inl h
    · exact .inr (.inl h)
    · exact .inr (.inr (h.of_atRest hrest))

/-- A mapper of general nodes whose types are registered. -/
def nodeMapper : Mapper Registry :=
  ⟨Registry.source, nodeLoader, .suffix⟩

/-- Films are registered with a title. -/
def filmRegistry : Registry :=
  Registry.empty.register ⟨.node, "Film"⟩ [⟨"title", true⟩]

end EntityFinder
