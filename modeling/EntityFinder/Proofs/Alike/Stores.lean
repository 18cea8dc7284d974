import EntityFinder.Proofs.Alike.Setups
import EntityFinder.Proofs.Histories

set_option autoImplicit false

/-!
# Stores that have the same to tell

A store that was opened again does not know which entities have been prepared, and prepares them once
more. As long as every entity has one metadata and no table has the name of a part of another one,
it does what a store does that knows.

## Main definitions

* `EntityFinder.NodeStore.Knows`: what a store relies on without looking.
* `EntityFinder.NodeStore.Twins`: two stores that have the same to tell.

## Main results

* `EntityFinder.NodeStore.Knows.leave`: every call keeps what a store relies on.
* `EntityFinder.NodeStore.Twins.prepare`: an entity is prepared alike, once or again.
* `EntityFinder.NodeStore.Twins.matches_action`: every call comes out alike on two such stores.
-/

namespace EntityFinder

open EntityFinder.Action (Ends)
open Database (Alike IsSetUp)

/-! ## What a store relies on -/

/-- An event names only some entities, and each of them with its one metadata. -/
structure StoreEvent.IsRegular (entities : String → Prop) (metadata : String → EntityMetadata)
    (event : StoreEvent) : Prop where
  /-- The entities are some. -/
  entities : ∀ a, event.entity? = some a → entities a
  /-- The metadata is that of the entity. -/
  metadata : ∀ c m, event = .call c → c.metadata? = some m → m = metadata m.entityName

/-- A call is regular if its metadata is that of some entity. -/
lemma StoreEvent.isRegular_call {entities : String → Prop} {metadata : String → EntityMetadata}
    {c : StoreCall}
    (h : ∀ m, c.metadata? = some m → entities m.entityName ∧ m = metadata m.entityName) :
    (call c).IsRegular entities metadata where
  entities a ha := by
    obtain ⟨m, hm, rfl⟩ := Option.map_eq_some_iff.mp ha
    exact (h m hm).1
  metadata := by
    rintro c' m ⟨⟩ hm
    exact (h m hm).2

/-- What a store relies on without looking: an entity that has been prepared has a table that is set
up, if it has anything to index. -/
structure NodeStore.Knows (config : IndexConfig) (entities : String → Prop)
    (metadata : String → EntityMetadata) (s : NodeStore) : Prop where
  /-- Nothing is missing from the database. -/
  intact : s.IsIntact config entities
  /-- The tables are set up. -/
  stands : ∀ e, IsEntityName e →
    Database.Stands config e (metadata e).indexedNames s.prepared s.database
  /-- The names have been checked. -/
  planned : ∀ e ∈ s.prepared, ∃ p, IndexPlan.ofMetadata config (metadata e) = .ok p

section

variable {config : IndexConfig} {entities : String → Prop} {metadata : String → EntityMetadata}
variable {s s' : NodeStore}

/-- The names of an entity that has been prepared have been checked. -/
lemma callInvariant_planned :
    CallInvariant config (StoreEvent.IsRegular entities metadata)
      fun prepared _ => ∀ e ∈ prepared, ∃ p, IndexPlan.ofMetadata config (metadata e) = .ok p where
  insert _ h _ := h
  update _ h _ := h
  delete _ h _ := h
  ensure {c m p prepared d} hadmits hm _ hp h := by
    refine Action.ends_true.mono (fun _ _ _ e he => ?_) fun _ _ => h
    rcases List.mem_insert_iff.mp he with rfl | he
    · exact ⟨p, hadmits.metadata c m rfl hm ▸ hp⟩
    · exact h e he
  rebuild {m p prepared d} hadmits hp h := by
    refine Action.ends_true.mono (fun _ _ _ e he => ?_) fun _ _ => h
    rcases List.mem_insert_iff.mp he with rfl | he
    · exact ⟨p, hadmits.metadata _ m rfl rfl ▸ hp⟩
    · exact h e he

/-- An entity stays prepared as long as its store is open. -/
lemma callInvariant_prepared (config : IndexConfig) (e : String) :
    CallInvariant config (fun _ => True) fun prepared _ => e ∈ prepared where
  insert _ h _ := h
  update _ h _ := h
  delete _ h _ := h
  ensure _ _ _ _ h :=
    Action.ends_true.mono (fun _ _ _ => List.mem_insert_of_mem h) fun _ _ => h
  rebuild _ _ h := Action.ends_true.mono (fun _ _ _ => List.mem_insert_of_mem h) fun _ _ => h

namespace NodeStore

/-- A new store relies on nothing. -/
lemma Knows.opened (config : IndexConfig) (entities : String → Prop)
    (metadata : String → EntityMetadata) :
    Knows config entities metadata (.opened config .empty) :=
  ⟨⟨rfl, .empty config, .empty config entities⟩, fun _ _ hmem => (by cases hmem),
    fun _ hmem => (by cases hmem)⟩

/-- A node of another program keeps what a store relies on. -/
lemma Knows.foreign (h : Knows config entities metadata s) {entity document : String} {id : Int}
    {d : Database} (hd : s.database.insertForeignNode entity document = .ok (id, d)) :
    Knows config entities metadata { s with database := d } where
  intact := ⟨h.intact.1, Database.insertForeignNode_wellKept h.intact.2.1 hd,
    h.intact.2.2.insertForeignNode h.intact.2.1 hd⟩
  stands e he hmem hne := (h.stands e he hmem hne).congr (.of_restocked (.insertForeignNode hd))
  planned := h.planned

variable (hpre : Text.isIdentifier config.tablePrefix = true) (hapart : config.Apart entities)

include hpre hapart

/-- Every call keeps what a store relies on. -/
lemma Knows.leave (h : Knows config entities metadata s) {c : StoreCall}
    (hc : (StoreEvent.call c).IsRegular entities metadata) :
    Knows config entities metadata (c.leave s) where
  intact := (storeInvariant_intact hpre hapart).leave c hc.entities h.intact
  stands e he := by
    have hkeeps : (StoreEvent.call c).KeepsTo e (metadata e).indexedNames := by
      intro c' m hc' hm hme
      rw [hc.metadata c' m hc' hm, hme]
    exact ((storeInvariant_stands hpre hapart he).leave c ⟨hc.entities, hkeeps⟩
      ⟨h.intact.1, h.intact.2, h.stands e he⟩).2.2
  planned := (callInvariant_planned.leave c hc ⟨h.intact.1, h.planned⟩).2

omit hapart in
/-- An entity that has been prepared has a table that is set up, if it has anything to index. -/
lemma Knows.exists_plan (h : Knows config entities metadata s) {m : EntityMetadata}
    (hm : m = metadata m.entityName) (hmem : m.entityName ∈ s.prepared) :
    ∃ p, IndexPlan.ofMetadata config m = .ok p ∧ p.IsPlain config ∧
      (p.columns ≠ [] → IsSetUp config p.entity p.columns s.database) := by
  obtain ⟨p, hp⟩ := h.planned m.entityName hmem
  rw [← hm] at hp
  obtain ⟨hplain, hsame, hcolumns⟩ := IndexPlan.isPlain_of_ofMetadata hpre hp
  refine ⟨p, hp, hplain, fun hne => ?_⟩
  have hstands := h.stands m.entityName (hsame ▸ hplain.entity) hmem
  rw [← hm, ← hcolumns, ← hsame] at hstands
  exact hstands hne

/-- The table that metadata of an entity asks for is no part of another one. -/
lemma Knows.relation?_ne_part (h : Knows config entities metadata s) {m : EntityMetadata}
    {p : IndexPlan} (hentity : entities m.entityName) (hp : IndexPlan.ofMetadata config m = .ok p) :
    p.IsPlain config ∧ ∀ t q, s.database.relation? p.table ≠ some (.part t q) := by
  obtain ⟨hplain, hsame, _⟩ := IndexPlan.isPlain_of_ofMetadata hpre hp
  refine ⟨hplain, fun t q => ?_⟩
  rw [hplain.table]
  exact h.intact.2.2.relation?_ne_part hapart (hsame ▸ hentity) hplain.entity t q

end NodeStore

end

/-! ## Twins -/

namespace NodeStore

/-- There is nothing to do for an entity that has been prepared. -/
lemma perform_prepare_of_mem {s : NodeStore} {m : EntityMetadata} (h : m.entityName ∈ s.prepared) :
    (prepare m).perform s = (.ok (), s) := by
  refine Action.perform_bind_eq_ok.mpr ⟨s, s, rfl, ?_⟩
  rw [if_neg (by simpa using h)]
  rfl

/-- A node that another program stores in the database of a store. -/
def storeForeign (entity document : String) : Action NodeStore Int :=
  onDatabase (Database.execute (Database.insertForeignNode entity document))

/-- Two stores with databases that are alike and can be changed. The second one has prepared no
entity that the first one has not. -/
structure Twins (config : IndexConfig) (s s' : NodeStore) : Prop where
  /-- The databases are alike. -/
  databases : Database.Twins s.database s'.database
  /-- The first store has a configuration. -/
  configured : s.config = config
  /-- The second store has the same one. -/
  configured' : s'.config = config
  /-- What the second store has prepared, the first one has. -/
  prepared : ∀ e ∈ s'.prepared, e ∈ s.prepared

namespace Twins

variable {config : IndexConfig} {entities : String → Prop} {metadata : String → EntityMetadata}
variable {s s' : NodeStore} {α : Type}

/-- A call on the databases comes out alike on two stores if it does on these. -/
lemma onDatabase (h : Twins config s s') {a : Action Database α}
    (ha : a.Matches Database.Twins s.database a s'.database) :
    (NodeStore.onDatabase a).Matches (Twins config) s (NodeStore.onDatabase a) s' := by
  obtain ⟨houtcome, hleft⟩ := ha
  simp only [Action.Matches, NodeStore.onDatabase, Action.onPart, Action.perform_ofFunction]
  exact ⟨houtcome, hleft, h.configured, h.configured', h.prepared⟩

/-- An answer that both databases give comes out alike. -/
lemma ask (h : Twins config s s') {f : Database → Except DatabaseFault α}
    (hf : f s'.database = f s.database) :
    (NodeStore.ask f).Matches (Twins config) s (NodeStore.ask f) s' := by
  simp only [Action.Matches, NodeStore.ask, Action.query, Action.perform_ofFunction, hf]
  exact ⟨trivial, h⟩

/-- A refusal that does not depend on the store comes out alike. -/
lemma ofExcept (h : Twins config s s') (r : Except FinderError α) :
    (Action.ofExcept r : Action NodeStore α).Matches (Twins config) s (Action.ofExcept r) s' :=
  ⟨rfl, h⟩

/-- The table that metadata asks for is the same. -/
lemma plan (h : Twins config s s') (m : EntityMetadata) :
    (NodeStore.plan m).Matches (Twins config) s (NodeStore.plan m) s' := by
  simp only [Action.Matches, NodeStore.plan, Action.query, Action.perform_ofFunction, h.configured,
    h.configured']
  exact ⟨trivial, h⟩

/-- Both stores note that an entity has been prepared. -/
lemma markPrepared (h : Twins config s s') (e : String) :
    (NodeStore.markPrepared e).Matches (Twins config) s (NodeStore.markPrepared e) s' := by
  refine ⟨rfl, h.databases, h.configured, h.configured', fun a ha => ?_⟩
  rcases List.mem_insert_iff.mp ha with rfl | ha
  · exact List.mem_insert_self ..
  · exact List.mem_insert_of_mem (h.prepared a ha)

/-- The first store and the second one after it was opened again. -/
lemma reopen (h : Twins config s s') {s'' : NodeStore} (hreopen : s'.ReopensFile config s'')
    (hr : s''.database.isReadOnly = false) : Twins config s s'' := by
  obtain ⟨b, rfl⟩ := hreopen.exists_eq
  obtain rfl : b = false := hr
  obtain ⟨hidle, hwhole⟩ := h.databases.1.trans_idle (Database.retabled_atRest s'.database)
  exact ⟨⟨⟨⟨hidle.nodes, hidle.lastId, hidle.triggers, h.databases.2.symm, hidle.tables⟩, hwhole⟩,
    h.databases.2⟩, h.configured, rfl, fun _ he => (by cases he)⟩

/-- A statement on nodes comes out alike on two stores if its outcome is the same. -/
lemma execute (h : Twins config s s') {statement : Database → Except DatabaseFault (α × Database)}
    (hsame : SameOutcome Alike.Answered (statement s.database) (statement s'.database))
    (hr : ∀ {x d₁}, statement s.database = .ok (x, d₁) →
      d₁.isReadOnly = s.database.isReadOnly) :
    (NodeStore.onDatabase (Database.execute statement)).Matches (Twins config) s
      (NodeStore.onDatabase (Database.execute statement)) s' :=
  h.onDatabase (h.databases.execute hsame hr)

/-! ## Calls -/

variable (hpre : Text.isIdentifier config.tablePrefix = true) (hapart : config.Apart entities)

include hpre hapart

omit hapart in
/-- Preparing an entity in the second store that the first one has prepared finds a table that is set
up. -/
lemma ends_prepare_again (h : Twins config s s') (hs : Knows config entities metadata s)
    {m : EntityMetadata} (hm : m = metadata m.entityName) (hmem : m.entityName ∈ s.prepared) :
    Ends (NodeStore.prepare m) s' (fun _ s₁' => Twins config s s₁') fun _ => False := by
  unfold NodeStore.prepare
  refine Action.ends_bind (Action.ends_get ?_)
  split_ifs
  · obtain ⟨p, hp, hplain, hsetup⟩ := hs.exists_plan hpre hm hmem
    have hidle := h.databases.1.idle
    have hagain := IndexPlan.ends_ensure_again hplain (hs.intact.2.1.idle hidle)
      (hs.intact.2.2.idle hidle) (hidle.isReadOnly.trans h.databases.2) fun hne =>
        (hsetup hne).congr (.of_restocked (.of_idle hidle))
    have hplan : IndexPlan.ofMetadata s'.config m = .ok p := h.configured'.symm ▸ hp
    refine Action.ends_bind (Action.ends_query_of_ok hplan ?_)
    refine Action.ends_bind (Action.ends_onPart (hagain.mono (fun _ d₁ hd₁ => ?_) fun _ h => h))
    refine Action.ends_modify ⟨⟨h.databases.1.trans_idle hd₁, h.databases.2⟩, h.configured,
      h.configured', fun a ha => ?_⟩
    rcases List.mem_insert_iff.mp ha with rfl | ha
    · exact hmem
    · exact h.prepared a ha
  · exact Action.ends_pure h

/-- An entity is prepared alike. -/
theorem prepare (h : Twins config s s') (hs : Knows config entities metadata s)
    {m : EntityMetadata} (hentity : entities m.entityName) (hm : m = metadata m.entityName) :
    (NodeStore.prepare m).Matches (Twins config) s (NodeStore.prepare m) s' := by
  by_cases hmem : m.entityName ∈ s.prepared
  · have hnothing : (NodeStore.prepare m).perform s = (.ok (), s) := perform_prepare_of_mem hmem
    exact Action.matches_of_ends hnothing (h.ends_prepare_again hpre hs hm hmem)
  · have hmem' : m.entityName ∉ s'.prepared := fun h' => hmem (h.prepared _ h')
    unfold NodeStore.prepare
    refine Action.matches_get ?_
    rw [if_pos (by simpa using hmem), if_pos (by simpa using hmem')]
    refine Action.matches_bind (h.plan m) fun p s₁ s₁' hplan h₁ => ?_
    obtain ⟨hp, rfl⟩ : IndexPlan.ofMetadata s.config m = .ok p ∧ s = s₁ :=
      Prod.ext_iff.mp hplan
    rw [h.configured] at hp
    obtain ⟨hplain, hfree⟩ := hs.relation?_ne_part hpre hapart hentity hp
    refine Action.matches_bind (h₁.onDatabase (IndexPlan.matches_ensure hplain h₁.databases hfree))
      fun _ _ _ _ h₂ => h₂.markPrepared _

/-- A node is stored alike. -/
lemma insert (h : Twins config s s') (hs : Knows config entities metadata s)
    {m : EntityMetadata} (p : Properties) (hentity : entities m.entityName)
    (hm : m = metadata m.entityName) :
    (NodeStore.insert m p).Matches (Twins config) s (NodeStore.insert m p) s' := by
  refine Action.matches_bind (h.ofExcept _) fun _ s₁ s₁' hchecked h₁ => ?_
  obtain rfl : s = s₁ := congrArg Prod.snd hchecked
  refine Action.matches_bind (h₁.prepare hpre hapart hs hentity hm) fun _ s₂ s₂' _ h₂ => ?_
  exact h₂.execute (h₂.databases.1.insertNode _ _) fun hd =>
    (Database.insertNode_contents hd).2.2.2

/-- A node gets other properties alike. -/
lemma update (h : Twins config s s') (hs : Knows config entities metadata s)
    {m : EntityMetadata} (id : Int) (p : Properties) (hentity : entities m.entityName)
    (hm : m = metadata m.entityName) :
    (NodeStore.update m id p).Matches (Twins config) s (NodeStore.update m id p) s' := by
  refine Action.matches_bind (h.ofExcept _) fun _ s₁ s₁' hchecked h₁ => ?_
  obtain rfl : s = s₁ := congrArg Prod.snd hchecked
  refine Action.matches_bind (h₁.prepare hpre hapart hs hentity hm) fun _ s₂ s₂' _ h₂ => ?_
  exact h₂.execute (h₂.databases.1.updateNode _ _ _) fun hd =>
    (Database.updateNode_contents hd).2.2.2

/-- A table is set up anew alike. -/
lemma rebuild (h : Twins config s s') (hs : Knows config entities metadata s)
    {m : EntityMetadata} (hentity : entities m.entityName) :
    (NodeStore.rebuild m).Matches (Twins config) s (NodeStore.rebuild m) s' := by
  refine Action.matches_bind (h.plan m) fun p s₁ s₁' hplan h₁ => ?_
  obtain ⟨hp, rfl⟩ : IndexPlan.ofMetadata s.config m = .ok p ∧ s = s₁ := Prod.ext_iff.mp hplan
  rw [h.configured] at hp
  obtain ⟨hplain, hfree⟩ := hs.relation?_ne_part hpre hapart hentity hp
  refine Action.matches_bind (h₁.onDatabase (IndexPlan.matches_rebuild hplain h₁.databases hfree))
    fun _ _ _ _ h₂ => h₂.markPrepared _

omit hpre hapart in
/-- Nodes are looked up alike. -/
lemma get (h : Twins config s s') (id : Int) :
    (NodeStore.get id).Matches (Twins config) s (NodeStore.get id) s' :=
  h.ask (by simp only [Database.recordOf, Database.node?, h.databases.1.idle.nodes])

omit hpre hapart in
/-- Nodes are deleted alike. -/
lemma delete (h : Twins config s s') (id : Int) :
    (NodeStore.delete id).Matches (Twins config) s (NodeStore.delete id) s' :=
  h.execute (h.databases.1.deleteNode id) fun hd => (Database.deleteNode_contents hd).2.2.2

omit hpre hapart in
/-- An index answers queries alike. -/
lemma query (h : Twins config s s') (index : NodeIndex) (text : String) :
    (index.query text).Matches (Twins config) s (index.query text) s' := by
  refine h.ask ?_
  simp only [Database.recordsOf, Database.nodesOf, h.databases.1.idle.nodes,
    h.databases.1.matching_eq]

omit hpre hapart in
/-- An index answers searches of a property alike. -/
lemma findOne (h : Twins config s s') (index : NodeIndex) (property value : String) :
    (index.findOne property value).Matches (Twins config) s (index.findOne property value) s' := by
  refine Action.matches_bind (h.ofExcept _) fun _ _ _ _ h₁ => h₁.ask ?_
  simp only [Database.firstWith, Database.nodesOf, h₁.databases.1.idle.nodes]

/-- Every call comes out alike on two such stores. -/
theorem matches_action (h : Twins config s s') (hs : Knows config entities metadata s)
    {c : StoreCall} (hc : (StoreEvent.call c).IsRegular entities metadata) :
    c.action.Matches (Twins config) s c.action s' := by
  have hentity : ∀ m, c.metadata? = some m → entities m.entityName := fun m hm =>
    hc.entities _ (by rw [StoreEvent.entity?, hm, Option.map_some])
  cases c with
  | insert m p => exact h.insert hpre hapart hs p (hentity m rfl) (hc.metadata _ m rfl rfl)
  | update m id p => exact h.update hpre hapart hs id p (hentity m rfl) (hc.metadata _ m rfl rfl)
  | get id => exact h.get id
  | delete id => exact h.delete id
  | rebuild m => exact h.rebuild hpre hapart hs (hentity m rfl)
  | index m =>
    refine Action.matches_bind (h.prepare hpre hapart hs (hentity m rfl) (hc.metadata _ m rfl rfl))
      fun _ _ _ _ h₁ => ?_
    exact Action.matches_bind (h₁.plan m) fun _ _ _ _ h₂ => Action.matches_pure h₂
  | stats m =>
    refine Action.matches_bind (h.plan m) fun p _ _ _ h₁ => h₁.ask ?_
    rw [h₁.databases.1.rowCount_eq]
  | query i text => exact h.query i text
  | findOne i property value => exact h.findOne i property value

omit hpre hapart in
/-- Another program stores a node alike. -/
lemma storeForeign (h : Twins config s s') (entity document : String) :
    (NodeStore.storeForeign entity document).Matches (Twins config) s
      (NodeStore.storeForeign entity document) s' :=
  h.execute (h.databases.1.insertForeignNode entity document) fun hd =>
    (Database.insertForeignNode_contents hd).2.2.2

end Twins

end NodeStore

end EntityFinder
