import EntityFinder.Proofs.Frames.Basic
import EntityFinder.Proofs.Intact.Calls

set_option autoImplicit false

/-!
# Calls for other entities

Whatever is done for some entities, succeed or fail, leaves the nodes of every other one as they
are, and its table and triggers too. So no answer about it changes.

## Main definitions

* `EntityFinder.StoreCall.Spares`: calls that are made for other entities than one.

## Main results

* `EntityFinder.StoreRun.others_unaffected`: an entity before and after a call for another one.
-/

namespace EntityFinder

open EntityFinder.Action (Ends)
open Database (AgreesOn Intact WellKept)

/-- A call is made for other entities than one. -/
structure StoreCall.Spares (e : String) (d : Database) (c : StoreCall) : Prop where
  /-- Its metadata is that of another entity. -/
  metadata : ∀ m, c.metadata? = some m → m.entityName ≠ e
  /-- If it deletes a node, then none of the entity. -/
  node : ∀ id, c = .delete id → ∀ n ∈ d.nodes, n.id = id → n.entity ≠ e

section

variable {config : IndexConfig} {entities : String → Prop} {e : String}
variable (hpre : Text.isIdentifier config.tablePrefix = true) (hapart : config.Apart entities)
variable (he : IsEntityName e)

include hpre hapart he

/-- Calls for other entities keep what a database holds of an entity. -/
lemma callInvariant_agreesOn (d₀ : Database) :
    CallInvariant config
      (fun event => (∃ c, event = .call c ∧ c.Spares e d₀) ∧
        ∀ a, event.entity? = some a → entities a)
      fun _ d => (WellKept config d ∧ Intact config entities d) ∧ AgreesOn config e d₀ d where
  insert hadmits hd h := by
    obtain ⟨⟨c, hc, hspares⟩, _⟩ := hadmits
    cases hc
    refine ⟨⟨Database.insertNode_wellKept hd.1.1 h, hd.1.2.insertNode hd.1.1 h⟩, ?_⟩
    exact hd.2.trans (.insertNode hd.1.1 he (hspares.metadata _ rfl) h)
  update hadmits hd h := by
    obtain ⟨⟨c, hc, hspares⟩, _⟩ := hadmits
    cases hc
    refine ⟨⟨Database.updateNode_wellKept hd.1.1 h, hd.1.2.updateNode hd.1.1 h⟩, ?_⟩
    exact hd.2.trans (.updateNode hd.1.1 he (hspares.metadata _ rfl) h)
  delete {id found prepared d d'} hadmits hd h := by
    obtain ⟨⟨c, hc, hspares⟩, _⟩ := hadmits
    cases hc
    refine ⟨⟨Database.deleteNode_wellKept hd.1.1 h, hd.1.2.deleteNode hd.1.1 h⟩, ?_⟩
    refine hd.2.trans (.deleteNode hd.1.1 he (fun n hn hid hentity => ?_) h)
    -- a node of the entity would have been there from the beginning
    have hown : n ∈ d.nodesOf e := List.mem_filter.mpr ⟨hn, by simpa using hentity⟩
    rw [hd.2.nodes] at hown
    exact hspares.node id rfl n (List.mem_of_mem_filter hown) hid hentity
  ensure {c m p prepared d} hadmits hm _ hp hd := by
    obtain ⟨⟨c, hc, hspares⟩, hentities⟩ := hadmits
    cases hc
    have hentity : entities m.entityName := hentities m.entityName (by simp [StoreEvent.entity?, hm])
    have hintact := IndexPlan.ends_ensure_intact hpre hapart hp hentity hd.1.1 hd.1.2
    obtain ⟨hplain, _⟩ := IndexPlan.isPlain_of_ofMetadata hpre hp
    obtain rfl := IndexPlan.eq_of_ofMetadata hp
    -- every step of the setup is on the table of the other entity, also if a later one fails
    have hagrees : ∀ d', Relation.ReflTransGen (IndexPlan.SetupStep _) d d' →
        AgreesOn config e d₀ d' := fun _ h => hd.2.trans
      (IndexPlan.agreesOn_of_steps hplain rfl hapart hentity he (hspares.metadata m hm) h hd.1.2)
    exact hintact.and ((IndexPlan.ends_ensure_steps hplain rfl hapart hentity hd.1.2).mono
      (fun _ => hagrees) hagrees)
  rebuild {m p prepared d} hadmits hp hd := by
    obtain ⟨⟨c, hc, hspares⟩, hentities⟩ := hadmits
    cases hc
    have hentity : entities m.entityName := hentities m.entityName rfl
    have hintact := IndexPlan.ends_rebuild_intact hpre hapart hp hentity hd.1.1 hd.1.2
    obtain ⟨hplain, _⟩ := IndexPlan.isPlain_of_ofMetadata hpre hp
    obtain rfl := IndexPlan.eq_of_ofMetadata hp
    have hagrees : ∀ d', Relation.ReflTransGen (IndexPlan.SetupStep _) d d' →
        AgreesOn config e d₀ d' := fun _ h => hd.2.trans
      (IndexPlan.agreesOn_of_steps hplain rfl hapart hentity he (hspares.metadata m rfl) h hd.1.2)
    exact hintact.and ((IndexPlan.ends_rebuild_steps hplain rfl hapart hentity hd.1.2).mono
      (fun _ => hagrees) hagrees)

end

/-! ## Answers -/

section

variable {config : IndexConfig} {entities : String → Prop} {e : String} {s s' : NodeStore}

/-- Stores whose databases agree on an entity and keep to everything. -/
structure NodeStore.AgreeOn (config : IndexConfig) (entities : String → Prop) (e : String)
    (s s' : NodeStore) : Prop where
  /-- The first one. -/
  before : s.IsIntact config entities
  /-- The second one. -/
  after : s'.IsIntact config entities
  /-- What they hold of the entity. -/
  agrees : AgreesOn config e s.database s'.database

variable (h : s.AgreeOn config entities e s') (hapart : config.Apart entities)
variable (hentity : entities e) (he : IsEntityName e)

include h

/-- A property is searched with one outcome. -/
lemma NodeStore.AgreeOn.findOne_eq {index : NodeIndex} (hindex : index.entity = e)
    (property value : String) : ((index.findOne property value).perform s').1 =
      ((index.findOne property value).perform s).1 := by
  have hasked : ((NodeStore.ask fun d => d.firstWith index.entity property value).perform s').1 =
      ((NodeStore.ask fun d => d.firstWith index.entity property value).perform s).1 := by
    simp only [NodeStore.ask, Action.query, Action.perform_ofFunction, hindex,
      h.agrees.firstWith_eq]
  simp only [NodeIndex.findOne, Action.perform_bind, Action.ofExcept, Action.perform_ofFunction]
  cases validateIdentifier "property" property with
  | error f => rfl
  | ok u => exact hasked

include hapart hentity he

/-- The state of the table is told alike. -/
lemma NodeStore.AgreeOn.stats_eq {m : EntityMetadata} (hm : m.entityName = e) :
    ((NodeStore.stats m).perform s').1 = ((NodeStore.stats m).perform s).1 := by
  have hplan : ∀ s₁ : NodeStore, s₁.config = config →
      ((NodeStore.stats m).perform s₁).1 = (IndexPlan.ofMetadata config m).bind fun p =>
        ((s₁.database.rowCount p.table).map fun rows => ⟨p.table, rows, p.columns⟩).mapError
          DatabaseFault.toError := by
    intro s₁ hconfig
    simp only [NodeStore.stats, NodeStore.plan, NodeStore.ask, Action.query, Action.perform_bind,
      Action.perform_ofFunction, hconfig]
    cases IndexPlan.ofMetadata config m with
    | error f => rfl
    | ok p => rfl
  rw [hplan s' h.after.1, hplan s h.before.1]
  cases hp : IndexPlan.ofMetadata config m with
  | error f => rfl
  | ok p =>
    obtain rfl := IndexPlan.eq_of_ofMetadata hp
    simp only [Except.bind, hm]
    rw [h.agrees.rowCount_eq hapart hentity he h.before.2.2 h.after.2.2]

/-- An index of the entity answers every query alike. -/
lemma NodeStore.AgreeOn.query_eq (hpre : Text.isIdentifier config.tablePrefix = true)
    {m : EntityMetadata} {index : NodeIndex} (hm : m.entityName = e) (hof : index.IsOf config m)
    (text : String) : ((index.query text).perform s').1 = ((index.query text).perform s).1 := by
  obtain ⟨_, _, rfl⟩ := hof.eq
  rw [NodeIndex.perform_query, NodeIndex.perform_query]
  simp only [hm]
  rw [h.agrees.recordsOf_eq]
  split_ifs
  · rfl
  · rfl
  · simp only
    rw [h.agrees.matching_eq hapart hentity he h.before.2.2 h.after.2.2 hpre h.before.2.1
      h.after.2.1]

end

/-! ## Runs -/

/-- Nodes of another entity are not updated: the call says so, as long as its entity can be prepared,
the properties are declared, and the database can be changed. -/
lemma NodeStore.update_of_other {config : IndexConfig} {entities : String → Prop} {s : NodeStore}
    {m : EntityMetadata} {id : Int} {p : Properties} {n : StoredNode}
    (hpre : Text.isIdentifier config.tablePrefix = true) (hapart : config.Apart entities)
    (hentity : entities m.entityName) (hs : s.IsIntact config entities)
    (hn : n ∈ s.database.nodes) (hid : n.id = id) (hne : n.entity ≠ m.entityName) :
    (∀ found, ((NodeStore.update m id p).perform s).1 = .ok found → found = false) ∧
      ((∃ index, ((NodeStore.index m).perform s).1 = .ok index) →
        NodeStore.checkDeclared m p.names = .ok () → s.database.isReadOnly = false →
        ((NodeStore.update m id p).perform s).1 = .ok false) := by
  -- whatever preparing does, the node stays
  have hother : ∀ {s₁ : NodeStore} {found d'}, (NodeStore.prepare m).perform s = (.ok (), s₁) →
      Database.updateNode id m.entityName p.document s₁.database = .ok (found, d') →
      found = false := by
    intro s₁ found d' hprepare hupdate
    have hcontents := (ends_prepare_contents m s).of_perform hprepare
    obtain ⟨hfound, _⟩ := Database.updateNode_contents hupdate
    cases found with
    | false => rfl
    | true =>
      obtain ⟨n', hn', hsame⟩ := hfound.mp rfl
      rw [Database.node?, hcontents.2.nodes] at hn'
      have hstored := hs.2.1.node?_eq_some.mpr ⟨hn, hid⟩
      rw [Database.node?, hn', Option.some.injEq] at hstored
      exact absurd (hstored ▸ hsame) hne
  refine ⟨fun found hfound => ?_, fun hindex hdeclared hr => ?_⟩
  · obtain ⟨_, s₀, hunchanged, h⟩ := Action.perform_bind_eq_ok.mp (Prod.ext hfound rfl :
      (update m id p).perform s = (.ok found, ((update m id p).perform s).2))
    obtain rfl : s = s₀ := congrArg Prod.snd hunchanged
    obtain ⟨_, s₁, hprepare, hexecute⟩ := Action.perform_bind_eq_ok.mp h
    obtain ⟨d', hd', _⟩ := exists_of_perform_execute hexecute
    exact hother hprepare hd'
  · obtain ⟨index, hindex⟩ := hindex
    have hprepare := prepare_of_index (Prod.ext hindex rfl : (NodeStore.index m).perform s =
      (.ok index, ((NodeStore.index m).perform s).2))
    have hs₁ := (ends_prepare_intact hpre hapart hentity hs).of_perform hprepare
    have hcontents := (ends_prepare_contents m s).of_perform hprepare
    obtain ⟨found, d', hd', hperform⟩ :=
      exists_update hs₁ (hcontents.2.isReadOnly.trans hr) id hdeclared hprepare
    rw [hperform, hother hprepare hd']

/-- Two entities whose names differ in letter case alone. -/
def filmsInBothCases : List StoreEvent :=
  [.call (.insert (.searchable "film" ["title"]) (.ofList [("title", "M")])),
    .call (.insert (.searchable "Film" ["title"]) (.ofList [("title", "Metropolis")]))]

end EntityFinder
