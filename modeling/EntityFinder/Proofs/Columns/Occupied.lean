import EntityFinder.Proofs.Columns.Runs
import EntityFinder.Proofs.Contents
import EntityFinder.Proofs.Synchrony.Runs

set_option autoImplicit false

/-!
# Entities with nodes have tables

A node is stored only after the table of its entity was set up, and the table stays as long as the
entity keeps to its searchable properties. So every node has its row in such a table, whether or
not the entity has been prepared since the store was opened.

## Main definitions

* `EntityFinder.Database.CutsBy`: all tables have one tokenizer.
* `EntityFinder.Database.Occupied`: an entity has nodes only if its table is set up.
* `EntityFinder.Database.Serves`: what a database keeps to on behalf of an entity.
* `EntityFinder.StoreEvent.Conforms`: the events that a database can serve an entity through.

## Main results

* `EntityFinder.IndexPlan.ends_ensure_of_isSetUp`: setting a table up that is set up, however it
  ends.
* `EntityFinder.StoreRun.serves`: after every run of such events the database serves the entity.
* `EntityFinder.StoreRun.exists_row`: the table of a node, and its row.
-/

namespace EntityFinder

open EntityFinder.Action (Ends)

/-! ## Tokenizers -/

namespace Database

/-- All tables cut texts in one way. -/
def CutsBy (tokenizer : String) (d : Database) : Prop :=
  ∀ t ∈ d.tables, t.tokenizer = tokenizer

variable {config : IndexConfig} {tokenizer : String} {d d' : Database}

/-- Tables with other rows cut texts as before. -/
lemma CutsBy.restocked (h : CutsBy tokenizer d) (hd : Restocked d d') : CutsBy tokenizer d' := by
  intro t' ht'
  obtain ⟨t, ht, _, _, _, rfl⟩ := hd.origin ht'
  exact h t ht

end Database

/-! ## Setting up again -/

namespace IndexPlan

open Database

variable {config : IndexConfig} {p : IndexPlan} {d d' : Database}

/-- A step of a setup creates no table with another tokenizer. -/
lemma SetupStep.cutsBy (h : SetupStep p d d') (hd : CutsBy p.tokenizer d) :
    CutsBy p.tokenizer d' := by
  cases h with
  | use hr => exact hd.restocked (.of_idle hr)
  | create _ _ =>
    intro t ht
    obtain ht | ht := List.mem_append.mp ht
    · exact hd t ht
    · rw [List.mem_singleton.mp ht]
      rfl
  | refill hr => exact hd.restocked (.of_at hr fun _ _ h => h)
  | guard _ _ =>
    rw [withTriggers_eq]
    exact hd
  | drop => exact fun t ht => hd t (List.mem_of_mem_filter ht)

/-- A setup creates no table with another tokenizer. -/
lemma cutsBy_of_steps (h : Relation.ReflTransGen (SetupStep p) d d') (hd : CutsBy p.tokenizer d) :
    CutsBy p.tokenizer d' := by
  induction h with
  | refl => exact hd
  | tail _ hstep ih => exact hstep.cutsBy ih

/-- A table that is set up stays so when it is set up again, or when this fails: it has the columns
already, and nothing is missing but its use. -/
theorem ends_ensure_of_isSetUp (hp : p.IsPlain config) (h : IsSetUp config p.entity p.columns d) :
    Ends p.ensure d (fun _ => IsSetUp config p.entity p.columns)
      (IsSetUp config p.entity p.columns) := by
  refine ends_ensure_of_opened hp (fun _ => h) h
    (ends_openTable h fun d₁ hr => ⟨h.congr (.of_restocked (.of_idle hr)), hr.triggers⟩)
    fun _ d₁ h₁ hall => ends_createTriggers hp h₁ fun _ => ?_
  rwa [hall]

end IndexPlan

/-! ## Rows of nodes -/

/-- A table with a trigger mirrors the nodes of its entity. -/
lemma Database.InStep.mirrors {config : IndexConfig} {entities : String → Prop} {d : Database}
    (h : InStep config entities d) (hkept : WellKept config d) {e : String} (he : IsEntityName e)
    {t : IndexTable} (ht : d.table? (config.tableName e) = some t) {event : NodeEvent}
    (htrigger : d.hasTrigger (config.tableName e) event = true) : Mirrors d.nodes e t := by
  obtain ⟨htable, hname⟩ := mem_and_name_of_table? ht
  obtain ⟨trigger, hmem, hnamed, _⟩ := hasTrigger_iff.mp htrigger
  obtain ⟨table, htable', hname', _, hmirrors⟩ := h.triggers trigger hmem
  obtain rfl : table = t := hkept.table_eq htable' htable (hname'.trans (hnamed.trans hname.symm))
  rwa [hkept.triggers.entity_eq hmem he hnamed] at hmirrors

/-! ## Entities with nodes -/

namespace Database

/-- An entity has nodes only if its table is set up, with a trigger for every change. -/
def Occupied (config : IndexConfig) (e : String) (columns : List String) (d : Database) : Prop :=
  columns ≠ [] → (∃ n ∈ d.nodes, n.entity = e) → IsSetUp config e columns d

variable {config : IndexConfig} {e : String} {columns : List String} {d d' : Database}

/-- A change that gives an entity no first node, and leaves its table set up, keeps it occupied. -/
lemma Occupied.congr (h : Occupied config e columns d)
    (hnodes : (∃ n ∈ d'.nodes, n.entity = e) → ∃ n ∈ d.nodes, n.entity = e)
    (hkeep : IsSetUp config e columns d → IsSetUp config e columns d') :
    Occupied config e columns d' :=
  fun hne hn => hkeep (h hne (hnodes hn))

/-- A node of another entity is no first node. -/
lemma Occupied.insertNode {entity document : String} {id : Int} (h : Occupied config e columns d)
    (hother : entity ≠ e) (hd : insertNode entity document d = .ok (id, d')) :
    Occupied config e columns d' := by
  refine h.congr ?_ fun hsetup => hsetup.congr (.of_restocked (.insertNode hd))
  rintro ⟨n, hn, hentity⟩
  rw [(insertNode_contents hd).2.1, List.mem_append, List.mem_singleton] at hn
  obtain hn | rfl := hn
  · exact ⟨n, hn, hentity⟩
  · exact absurd hentity hother

/-- A node with another document is no first node. -/
lemma Occupied.updateNode {id : Int} {entity document : String} {found : Bool}
    (h : Occupied config e columns d) (hd : updateNode id entity document d = .ok (found, d')) :
    Occupied config e columns d' := by
  refine h.congr ?_ fun hsetup => hsetup.congr (.of_restocked (.updateNode hd))
  rintro ⟨n, hn, hentity⟩
  obtain ⟨hfound, hnodes, _⟩ := updateNode_contents hd
  rw [hnodes] at hn
  split_ifs at hn with htrue
  · obtain ⟨m, hm, rfl⟩ := List.mem_map.mp hn
    split_ifs at hentity
    · obtain ⟨old, hold, hsame⟩ := hfound.mp htrue
      exact ⟨old, List.mem_of_find?_eq_some hold, hsame.trans hentity⟩
    · exact ⟨m, hm, hentity⟩
  · exact ⟨n, hn, hentity⟩

/-- Deleting a node gives no entity a first one. -/
lemma Occupied.deleteNode {id : Int} {found : Bool} (h : Occupied config e columns d)
    (hd : deleteNode id d = .ok (found, d')) : Occupied config e columns d' := by
  refine h.congr ?_ fun hsetup => hsetup.congr (.of_restocked (.deleteNode hd))
  rintro ⟨n, hn, hentity⟩
  rw [(deleteNode_contents hd).2.1] at hn
  exact ⟨n, List.mem_of_mem_filter hn, hentity⟩

/-- What leaves the nodes alone, and the table set up, keeps an entity occupied. -/
lemma Occupied.of_ends {a : Action Database Unit} (h : Occupied config e columns d)
    (hcontents : Ends a d (fun _ => SameContents d) (SameContents d))
    (hkeep : columns ≠ [] → IsSetUp config e columns d →
      Ends a d (fun _ => IsSetUp config e columns) (IsSetUp config e columns)) :
    Ends a d (fun _ => Occupied config e columns) (Occupied config e columns) := by
  by_cases hne : columns = []
  · exact Action.ends_true.mono (fun _ _ _ h => absurd hne h) fun _ _ h => absurd hne h
  by_cases hsetup : IsSetUp config e columns d
  · exact (hkeep hne hsetup).mono (fun _ _ h _ _ => h) fun _ h _ _ => h
  · have hnone : ∀ {d'}, SameContents d d' → Occupied config e columns d' := fun hsame =>
      h.congr (by rw [hsame.nodes]; exact id) fun hsetup' => absurd hsetup' hsetup
    exact hcontents.mono (fun _ _ => hnone) fun _ => hnone

end Database

/-! ## Runs -/

section

open Database (CutsBy Intact IsSetUp Occupied SameContents Stands WellKept)

variable {config : IndexConfig} {entities : String → Prop} {e : String} {columns : List String}

/-- What a database keeps to on behalf of an entity that keeps to its searchable properties. -/
abbrev Database.Serves (config : IndexConfig) (entities : String → Prop) (e : String)
    (columns : List String) (prepared : List String) (d : Database) : Prop :=
  ((WellKept config d ∧ Intact config entities d) ∧ Stands config e columns prepared d) ∧
    CutsBy config.tokenizer d ∧ Occupied config e columns d

/-- An event of the store itself names some entities only, and always the same searchable
properties of one of them. -/
structure StoreEvent.Conforms (entities : String → Prop) (e : String) (columns : List String)
    (event : StoreEvent) : Prop where
  /-- The event is one of the store itself. -/
  own : event.IsOwn
  /-- It names one of the entities. -/
  named : ∀ a, event.entity? = some a → entities a
  /-- It keeps to the searchable properties. -/
  keeps : event.KeepsTo e columns

variable (hpre : Text.isIdentifier config.tablePrefix = true) (hapart : config.Apart entities)
variable (he : IsEntityName e)

include hpre hapart he

/-- A setup that consists of steps, and leaves the table of its own entity set up, creates no table
with another tokenizer and keeps the entity occupied. -/
lemma IndexPlan.ends_occupied {a : Action Database Unit} {m : EntityMetadata} {p : IndexPlan}
    {d : Database} (hp : IndexPlan.ofMetadata config m = .ok p) (hentity : entities m.entityName)
    (hd : Intact config entities d) (hcuts : CutsBy config.tokenizer d)
    (hoccupied : Occupied config e columns d)
    (hsteps : Ends a d (fun _ => Relation.ReflTransGen (SetupStep p) d)
      (Relation.ReflTransGen (SetupStep p) d))
    (hcontents : Ends a d (fun _ => SameContents d) (SameContents d))
    (hown : m.entityName = e → columns ≠ [] → IsSetUp config e columns d →
      Ends a d (fun _ => IsSetUp config e columns) (IsSetUp config e columns)) :
    Ends a d (fun _ d' => CutsBy config.tokenizer d' ∧ Occupied config e columns d')
      fun d' => CutsBy config.tokenizer d' ∧ Occupied config e columns d' := by
  have htokenizer : p.tokenizer = config.tokenizer := eq_of_ofMetadata hp ▸ rfl
  have hcuts' : ∀ d', Relation.ReflTransGen (SetupStep p) d d' → CutsBy config.tokenizer d' :=
    fun d' h => htokenizer ▸ cutsBy_of_steps h (htokenizer ▸ hcuts)
  refine (hsteps.mono (fun _ => hcuts') hcuts').and
    (hoccupied.of_ends hcontents fun hne hsetup => ?_)
  by_cases hm : m.entityName = e
  · exact hown hm hne hsetup
  · have hkept : ∀ d', Relation.ReflTransGen (SetupStep p) d d' → IsSetUp config e columns d' :=
      fun d' h => hsetup.of_steps hpre hapart he hp hentity hm hd h
    exact hsteps.mono (fun _ => hkept) hkept

/-- Every event keeps an entity served, as long as it stores none of its nodes. -/
lemma storeInvariant_serves :
    StoreInvariant config
      (fun event => event.Conforms entities e columns ∧
        ∀ m p, event = .call (.insert m p) → m.entityName ≠ e)
      (Database.Serves config entities e columns) where
  empty := ⟨(storeInvariant_stands hpre hapart he).empty, by simp [CutsBy, Database.empty],
    fun _ hn => by simp [Database.empty] at hn⟩
  insert hadmits hd h :=
    ⟨(storeInvariant_stands hpre hapart he).insert ⟨hadmits.1.named, hadmits.1.keeps⟩ hd.1 h,
      hd.2.1.restocked (.insertNode h), hd.2.2.insertNode (hadmits.2 _ _ rfl) h⟩
  update hadmits hd h :=
    ⟨(storeInvariant_stands hpre hapart he).update ⟨hadmits.1.named, hadmits.1.keeps⟩ hd.1 h,
      hd.2.1.restocked (.updateNode h), hd.2.2.updateNode h⟩
  delete hadmits hd h :=
    ⟨(storeInvariant_stands hpre hapart he).delete ⟨hadmits.1.named, hadmits.1.keeps⟩ hd.1 h,
      hd.2.1.restocked (.deleteNode h), hd.2.2.deleteNode h⟩
  foreign hadmits := hadmits.1.own.elim
  reopen {_ d} b hd := by
    have hrest := Database.retabled_atRest d
    have hcuts : CutsBy config.tokenizer d.atRest := hd.2.1.restocked (.of_idle hrest)
    refine ⟨(storeInvariant_stands hpre hapart he).reopen b hd.1, hcuts, ?_⟩
    exact hd.2.2.congr id fun h => h.congr ⟨hrest.shape_of_idle, rfl⟩
  ensure {c m p _ d} hadmits hm hnew hp hd := by
    have hentity := hadmits.1.named m.entityName (by simp [StoreEvent.entity?, hm])
    obtain ⟨hplain, hsame, hcolumns⟩ := IndexPlan.isPlain_of_ofMetadata hpre hp
    have hsteps := IndexPlan.ends_ensure_steps hplain (IndexPlan.eq_of_ofMetadata hp ▸ rfl) hapart
      (hsame ▸ hentity) hd.1.1.2
    refine ((storeInvariant_stands hpre hapart he).ensure ⟨hadmits.1.named, hadmits.1.keeps⟩ hm
      hnew hp hd.1).and (IndexPlan.ends_occupied hpre hapart he hp hentity hd.1.1.2 hd.2.1 hd.2.2
        hsteps (IndexPlan.ends_ensure_contents (.refl d)) fun hm' _ hsetup => ?_)
    -- a setup of the entity itself finds its table set up, and has nothing to do
    have hagain := IndexPlan.ends_ensure_of_isSetUp (d := d) hplain
    rw [hsame.trans hm', hcolumns.trans (hadmits.1.keeps c m rfl hm hm')] at hagain
    exact hagain hsetup
  rebuild {m p _ d} hadmits hp hd := by
    have hentity := hadmits.1.named m.entityName rfl
    obtain ⟨hplain, hsame, hcolumns⟩ := IndexPlan.isPlain_of_ofMetadata hpre hp
    have htokenizer : p.tokenizer = config.tokenizer := IndexPlan.eq_of_ofMetadata hp ▸ rfl
    have hsteps := IndexPlan.ends_rebuild_steps hplain htokenizer hapart (hsame ▸ hentity)
      hd.1.1.2
    refine ((storeInvariant_stands hpre hapart he).rebuild ⟨hadmits.1.named, hadmits.1.keeps⟩ hp
      hd.1).and (IndexPlan.ends_occupied hpre hapart he hp hentity hd.1.1.2 hd.2.1 hd.2.2
        hsteps (IndexPlan.ends_rebuild_contents (.refl d)) fun hm' hne hsetup => ?_)
    -- the table of the entity itself is set up anew with the columns that it has
    have hwanted : p.columns = columns := hcolumns.trans (hadmits.1.keeps _ m rfl rfl hm')
    have hagain := IndexPlan.ends_rebuild_again (d := d) hplain htokenizer hapart
      (hsame ▸ hentity) (by simpa [IndexPlan.hasColumns, hwanted] using hne) hd.1.1.1 hd.1.1.2
    rw [hsame.trans hm', hwanted] at hagain
    exact hagain hsetup

/-- Storing a node of the entity keeps it served: its table has been set up before. -/
lemma NodeStore.serves_of_insert {s : NodeStore} {m : EntityMetadata} {p : Properties}
    (hevent : (StoreEvent.call (.insert m p)).Conforms entities e columns)
    (hm : m.entityName = e)
    (hs : CallInvariant.Holds config (Database.Serves config entities e columns) s) :
    CallInvariant.Holds config (Database.Serves config entities e columns)
      (StoreCall.leave s (.insert m p)) := by
  have hindex : (StoreEvent.call (.index m)).Conforms entities e columns :=
    ⟨trivial, fun a ha => hevent.named a ha, fun c m' hc hm' => by
      cases hc
      cases hm'
      exact hevent.keeps _ m rfl rfl⟩
  have hprepare := ((storeInvariant_serves hpre hapart he).ends_prepare (c := .index m)
    ⟨hindex, fun _ _ h => by cases h⟩ rfl hs).and (NodeStore.ends_prepare_mem m s)
  refine Action.Ends.after (a := NodeStore.insert m p) ?_
  refine Action.ends_bind (Action.ends_ofExcept (fun _ _ => ?_) hs)
  refine Action.ends_bind (hprepare.mono (fun _ s₁ hs₁ => ?_) fun _ h => h.1)
  obtain ⟨⟨hconfig, hd⟩, hmem⟩ := hs₁
  refine CallInvariant.ends_execute ⟨hconfig, hd⟩ fun _ d' h => ?_
  refine ⟨(storeInvariant_stands hpre hapart he).insert ⟨hevent.named, hevent.keeps⟩ hd.1 h,
    hd.2.1.restocked (.insertNode h), fun hne _ => ?_⟩
  exact (hd.1.2 (hm ▸ hmem) hne).congr (.of_restocked (.insertNode h))

/-- After every run of such events the entity is served. -/
theorem StoreRun.serves {events : List StoreEvent} {s : NodeStore} (hrun : StoreRun config events s)
    (hevents : ∀ event ∈ events, event.Conforms entities e columns) :
    CallInvariant.Holds config (Database.Serves config entities e columns) s := by
  have hinvariant := @storeInvariant_serves config entities e columns hpre hapart he
  induction hrun with
  | start => exact ⟨rfl, hinvariant.empty⟩
  | @step events event s s' _ hstep ih =>
    have hs := ih fun event hevent => hevents event (.tail _ hevent)
    have hevent := hevents event (.head _)
    by_cases hinsert : ∃ m p, event = .call (.insert m p) ∧ m.entityName = e
    · obtain ⟨m, p, rfl, hm⟩ := hinsert
      cases hstep
      exact NodeStore.serves_of_insert hpre hapart he hevent hm hs
    · exact hinvariant.step ⟨hevent, fun m p h hm => hinsert ⟨m, p, h, hm⟩⟩ hs hstep

/-- **Every node has its row**: the table of its entity has the searchable properties as its
columns, is cut by the tokenizer of the store, has lost nothing, and holds the row of the node. -/
theorem StoreRun.exists_row {events : List StoreEvent} {s : NodeStore}
    (hrun : StoreRun config events s)
    (hevents : ∀ event ∈ events, event.Conforms entities e columns)
    (hne : columns ≠ []) {n : StoredNode} (hn : n ∈ s.database.nodes) (hentity : n.entity = e) :
    ∃ t : IndexTable, s.database.table? (config.tableName e) = some t ∧ t.columns = columns ∧
      t.tokenizer = config.tokenizer ∧ Database.IsIntact config entities t ∧
      Database.checkColumnNames columns = .ok () ∧
      ∃ p : Properties, n.document = p.document ∧ ⟨n.id, columns.map p.shown?⟩ ∈ t.rows := by
  obtain ⟨_, ⟨⟨hkept, hintact⟩, _⟩, hcuts, hoccupied⟩ := hrun.serves hpre hapart he hevents
  obtain ⟨_, _, hstep⟩ := (storeInvariant_inStep hpre hapart).run hrun
    fun event hevent => ⟨(hevents event hevent).own, (hevents event hevent).named⟩
  have hsetup := hoccupied hne ⟨n, hn, hentity⟩
  obtain ⟨t, ht, rfl⟩ := Database.columnsOf?_eq_some.mp hsetup.columns
  obtain ⟨hmem, _⟩ := Database.mem_and_name_of_table? ht
  refine ⟨t, ht, rfl, hcuts t hmem, hintact.tables t hmem,
    (hsetup.can_be_created hkept hintact).1, ?_⟩
  obtain ⟨p, hp⟩ := hstep.documents n hn
  refine ⟨p, hp, (hstep.mirrors hkept he ht (hsetup.guarded .insert) _).mpr ⟨n, hn, hentity, ?_⟩⟩
  rw [StoredNode.indexRow, hp, IndexRow.ofDocument_document]

end

end EntityFinder
