import EntityFinder.Proofs.Columns.Queries
import EntityFinder.Proofs.Frames.Runs
import EntityFinder.Proofs.Upkeep.Rows

set_option autoImplicit false

/-!
# Runs keep tables set up

An entity is prepared once after its store was opened. As long as all metadata of the entity agrees
on the searchable properties this is enough: the table stays as it was set up. Metadata with other
searchable properties finds the table of the earlier one.

## Main definitions

* `EntityFinder.Database.SameLayout`: two databases with the same tables and triggers, rows apart.
* `EntityFinder.Database.IsSetUp`: the table of an entity has some columns and all of its triggers.

## Main results

* `EntityFinder.IndexPlan.ends_ensure_isSetUp`, `EntityFinder.IndexPlan.ends_rebuild_isSetUp`: a
  setup that succeeds.
* `EntityFinder.IndexPlan.ends_rebuild_again`: setting a table up anew, however it ends.
* `EntityFinder.IndexPlan.ends_ensure_of_opened`: setting a table up that is set up.
* `EntityFinder.StoreRun.index_has_columns`: the table behind an index.
* `EntityFinder.StoreRun.exists_missing_column`: an index whose table lacks a column.
-/

namespace EntityFinder

open EntityFinder.Action (Ends)

/-! ## Layouts -/

namespace Database

/-- Two databases have the same tables with the same columns, and the same triggers. -/
structure SameLayout (d d' : Database) : Prop where
  /-- The tables have the same names and columns. -/
  shape : d'.shape = d.shape
  /-- The triggers are the same. -/
  triggers : d'.triggers = d.triggers

variable {d d' d'' : Database}

/-- Other rows keep the layout. -/
lemma SameLayout.of_restocked (h : Restocked d d') : SameLayout d d' := by
  refine ⟨map_eq_of_forall₂ h.tables fun t t' ht => ?_, h.triggers⟩
  obtain ⟨_, _, _, rfl⟩ := ht
  rfl

/-! ## Tables that are set up -/

/-- The table of an entity has some columns, and a trigger for every change. -/
structure IsSetUp (config : IndexConfig) (e : String) (columns : List String) (d : Database) :
    Prop where
  /-- The table has the columns. -/
  columns : d.columnsOf? (config.tableName e) = some columns
  /-- It has its triggers. -/
  guarded : ∀ event, d.hasTrigger (config.tableName e) event = true

namespace IsSetUp

variable {config : IndexConfig} {e : String} {columns : List String}

/-- Rows do not matter. -/
lemma congr (h : IsSetUp config e columns d) (hd : SameLayout d d') :
    IsSetUp config e columns d' := by
  refine ⟨(columnsOf?_congr hd.shape _).trans h.columns, fun event => ?_⟩
  rw [hasTrigger, trigger?, hd.triggers]
  exact h.guarded event

/-- What is done to other entities does not matter. -/
lemma of_agreesOn (h : IsSetUp config e columns d) (hd : AgreesOn config e d d') :
    IsSetUp config e columns d' := by
  refine ⟨?_, fun event => ?_⟩
  · obtain ⟨t, ht, hcolumns⟩ := columnsOf?_eq_some.mp h.columns
    obtain ⟨hnone, _⟩ | ⟨t₁, t', ht₁, ht', hsame⟩ := hd.table_cases
    · rw [ht] at hnone
      cases hnone
    · obtain rfl : t = t₁ := Option.some.inj (ht.symm.trans ht₁)
      refine columnsOf?_eq_some.mpr ⟨t', ht', ?_⟩
      exact (congrArg IndexTable.columns hsame).trans hcolumns
  · obtain ⟨t, ht, htable, hevent⟩ := hasTrigger_iff.mp (h.guarded event)
    have hmem : t ∈ d.triggers.filter fun t => t.table == config.tableName e :=
      List.mem_filter.mpr ⟨ht, by simpa using htable⟩
    rw [← hd.triggers] at hmem
    exact hasTrigger_iff.mpr ⟨t, List.mem_of_mem_filter hmem, htable, hevent⟩

/-- The columns of a table that is set up can be named, and the table could be created again. -/
lemma can_be_created {entities : String → Prop} (h : IsSetUp config e columns d)
    (hkept : WellKept config d) (hd : Intact config entities d) :
    checkColumnNames columns = .ok () ∧
      CanDeclare (config.tableName e) columns config.tokenizer := by
  obtain ⟨t, ht, rfl⟩ := columnsOf?_eq_some.mp h.columns
  obtain ⟨hmem, hname⟩ := mem_and_name_of_table? ht
  refine ⟨?_, hname ▸ (hd.tables t hmem).declared⟩
  obtain ⟨trigger, htrigger, htable, _⟩ := hasTrigger_iff.mp (h.guarded .insert)
  obtain ⟨t', ht', hname', hcolumns, hcheck⟩ := hd.triggers trigger htrigger
  obtain rfl : t' = t := hkept.table_eq ht' hmem (hname'.trans (htable.trans hname.symm))
  rw [hcolumns, hcheck]

end IsSetUp

end Database

/-! ## Setups -/

namespace IndexPlan

open Database

variable {config : IndexConfig} {entities : String → Prop} {p : IndexPlan} {d d₀ : Database}
variable (hp : p.IsPlain config)

include hp

/-- Filling a table keeps the layout, however it ends. -/
lemma ends_populate_layout : Ends p.populate d (fun _ => SameLayout d) (SameLayout d) :=
  (ends_populate_restocked hp).mono (fun _ _ => .of_restocked) fun _ => .of_restocked

/-- A table that gets its triggers last has all of them. -/
lemma ends_createTriggers_guarded : Ends p.createTriggers d
    (fun _ d' => ∀ event, d'.hasTrigger p.table event = true) fun _ => True :=
  ends_createTriggers hp trivial fun _ event => hasTrigger_withTriggers p d event

/-- A table that was set up anew has all of its triggers. -/
lemma ends_rebuild_guarded (hcolumns : p.hasColumns = true) : Ends p.rebuild d
    (fun _ d' => ∀ event, d'.hasTrigger p.table event = true) fun _ => True := by
  refine Action.ends_bind (ends_drop hp trivial fun d₁ _ _ => ?_)
  rw [if_pos hcolumns]
  refine Action.ends_bind (ends_run trivial fun d₂ _ _ => ?_)
  refine Action.ends_bind ((ends_createTriggers_guarded hp).mono (fun _ d₃ h₃ => ?_) fun _ h => h)
  refine (ends_populate_layout hp).mono (fun _ d₄ h₄ event => ?_) fun _ _ => trivial
  rw [hasTrigger, trigger?, h₄.triggers]
  exact h₃ event

/-- A table that was set up has all of its triggers. -/
lemma ends_ensure_guarded (hcolumns : p.hasColumns = true) : Ends p.ensure d
    (fun _ d' => ∀ event, d'.hasTrigger p.table event = true) fun _ => True := by
  have hfill : ∀ {d}, Ends (p.populate >>= fun _ => p.createTriggers) d
      (fun _ d' => ∀ event, d'.hasTrigger p.table event = true) fun _ => True := fun {d} =>
    Action.ends_bind (Action.ends_true.mono (fun _ _ _ => ends_createTriggers_guarded hp)
      fun _ h => h)
  refine ends_ensure (fun hnone => ?idle) trivial ?create ?replace ?change ?fill ?guard
  case idle =>
    rw [hcolumns] at hnone
    cases hnone
  case create =>
    exact fun _ => Action.ends_bind (Action.ends_true.mono (fun _ _ _ => hfill) fun _ h => h)
  case replace => exact fun _ _ _ => ends_rebuild_guarded hp hcolumns
  case change => exact fun _ _ _ _ _ => ends_rebuild_guarded hp hcolumns
  case fill => exact fun _ _ _ _ _ _ => hfill
  case guard => exact fun _ _ _ _ _ _ => ends_createTriggers_guarded hp

/-- A table that was set up anew is set up. -/
theorem ends_rebuild_isSetUp (hcolumns : p.hasColumns = true) :
    Ends p.rebuild d (fun _ => IsSetUp config p.entity p.columns) fun _ => True :=
  ((ends_rebuild_columns hp hcolumns).and (ends_rebuild_guarded hp hcolumns)).mono
    (fun _ _ h => ⟨hp.table ▸ h.1, hp.table ▸ h.2⟩) fun _ _ => trivial

/-- A table that was set up is set up, whatever there was before. -/
theorem ends_ensure_isSetUp (hcolumns : p.hasColumns = true) :
    Ends p.ensure d (fun _ => IsSetUp config p.entity p.columns) fun _ => True :=
  ((ends_ensure_columns hp hcolumns).and (ends_ensure_guarded hp hcolumns)).mono
    (fun _ _ h => ⟨hp.table ▸ h.1, hp.table ▸ h.2⟩) fun _ _ => trivial

/-- Where the table is set up, or not wanted, a setup comes to taking it into use: it has the columns
already, and lacks no trigger. -/
theorem ends_ensure_of_opened {R : Database → Prop} {Q : Unit → Database → Prop}
    {E : Database → Prop} (h : p.columns ≠ [] → IsSetUp config p.entity p.columns d)
    (idle : Q () d)
    (opened : Ends (openTable p.table) d (fun _ d₁ => R d₁ ∧ d₁.triggers = d.triggers) E)
    (guard : p.columns ≠ [] → ∀ d₁, R d₁ → p.withTriggers d₁ = d₁ →
      Ends p.createTriggers d₁ Q E) : Ends p.ensure d Q E := by
  by_cases hne : p.columns = []
  · have hnone : ¬p.hasColumns = true := by simp [hasColumns, hne]
    unfold ensure
    rw [if_neg hnone]
    exact idle
  have hsetup := h hne
  obtain ⟨t, ht, hcolumns⟩ := columnsOf?_eq_some.mp hsetup.columns
  have hfound : d.relation? p.table = some (.index t) := relation?_eq_index.mpr (hp.table ▸ ht)
  have hguarded : ∀ d₁ : Database, d₁.triggers = d.triggers →
      ∀ event, d₁.hasTrigger p.table event = true := by
    intro d₁ htriggers event
    rw [hasTrigger, trigger?, htriggers, hp.table]
    exact hsetup.guarded event
  refine ends_ensure_of_open (fun _ => idle) ?create ?replace (fun _ _ => opened) ?change ?fill
    ?guard
  case create =>
    intro hrelation
    rw [hfound] at hrelation
    cases hrelation
  case replace =>
    intro owner part hrelation
    rw [hfound] at hrelation
    cases hrelation
  case change =>
    intro t' hrelation hdiffer
    rw [hfound] at hrelation
    cases hrelation
    exact absurd hcolumns hdiffer
  case fill =>
    intro _ _ _ d₁ h₁ hnone
    rw [hguarded d₁ h₁.2 .insert] at hnone
    cases hnone
  case guard =>
    intro _ _ _ d₁ h₁ _
    exact guard hne d₁ h₁.1 (withTriggers_of_guarded (hguarded d₁ h₁.2))

/-- A table that is set up is still set up after it was set up anew, or after this has failed: once
it is dropped it can be created again with its triggers, and then only the rows can be refused. -/
theorem ends_rebuild_again (htokenizer : p.tokenizer = config.tokenizer)
    (hapart : config.Apart entities) (hentity : entities p.entity) (hcolumns : p.hasColumns = true)
    (hkept : WellKept config d) (hd : Intact config entities d)
    (h : IsSetUp config p.entity p.columns d) :
    Ends p.rebuild d (fun _ => IsSetUp config p.entity p.columns)
      (IsSetUp config p.entity p.columns) := by
  obtain ⟨hcheck, hdeclare⟩ := h.can_be_created hkept hd
  refine Action.ends_bind (ends_drop hp h fun d₁ h₁ hread => ?_)
  rw [hp.table] at h₁
  have hgone : ∀ t ∈ d₁.tables, t.name ≠ config.tableName p.entity :=
    name_ne_of_dropTable hp.isIdentifier hp.entity h₁
  obtain rfl := hd.dropTable_ok hapart hentity hp.entity hp.isIdentifier h₁
  -- of a database that can only be read the table would not be gone
  have hr : d.isReadOnly = false := by
    refine Bool.eq_false_iff.mpr fun hr => ?_
    have hnone : d.columnsOf? (config.tableName p.entity) = none := by
      rw [← hread hr]
      exact columnsOf?_eq_none.mpr hgone
    rw [h.columns] at hnone
    cases hnone
  have hd₂ := hd.removeTable hapart hentity hp.entity
  rw [← hp.table] at hd₂ hgone hdeclare ⊢
  have hr₂ : ((d.removeTable p.table).withoutTriggers p.table).isReadOnly = false := hr
  have hgone₂ : ∀ t ∈ ((d.removeTable p.table).withoutTriggers p.table).tables,
      t.name ≠ p.table := hgone
  generalize (d.removeTable p.table).withoutTriggers p.table = d₂ at hd₂ hgone₂ hr₂
  have hcreate : Database.createTable p.table p.columns p.tokenizer d₂ =
      .ok { d₂ with tables := d₂.tables ++ [.created p.table p.columns p.tokenizer] } := by
    rw [htokenizer]
    rw [hp.table] at hgone₂ hdeclare ⊢
    exact hd₂.createTable_eq hapart hentity hp.entity hp.isIdentifier hgone₂ hdeclare
  rw [if_pos hcolumns]
  refine Action.ends_bind (ends_run_of_ok hcreate hr₂ ?_)
  refine Action.ends_bind (ends_createTriggers_of_ok hp hcheck hr₂ ?_)
  -- filling the table does not touch its columns and its triggers, even if it fails
  have hstanding : IsSetUp config p.entity p.columns (p.withTriggers
      { d₂ with tables := d₂.tables ++ [.created p.table p.columns p.tokenizer] }) := by
    refine ⟨?_, fun event => ?_⟩
    · rw [columnsOf?_congr (shape_withTriggers _), ← hp.table]
      exact columnsOf?_created hgone₂
    · rw [← hp.table]
      exact hasTrigger_withTriggers p _ event
  exact (ends_populate_layout hp).mono (fun _ _ h => hstanding.congr h) fun _ h => hstanding.congr h

end IndexPlan

/-! ## Runs -/

section

open Database (Intact IsSetUp SameLayout WellKept)

variable {config : IndexConfig} {entities : String → Prop} {e : String} {columns : List String}
variable (hpre : Text.isIdentifier config.tablePrefix = true) (hapart : config.Apart entities)
variable (he : IsEntityName e)

/-- Every metadata of an entity that an event brings along has the same searchable properties. -/
def StoreEvent.KeepsTo (e : String) (columns : List String) (event : StoreEvent) : Prop :=
  ∀ c m, event = .call c → c.metadata? = some m → m.entityName = e → m.indexedNames = columns

/-- The table of an entity stands as far as the store knows. -/
abbrev Database.Stands (config : IndexConfig) (e : String) (columns : List String)
    (prepared : List String) (d : Database) : Prop :=
  e ∈ prepared → columns ≠ [] → IsSetUp config e columns d

/-- Rows do not matter. -/
lemma Database.Stands.restocked {prepared : List String} {d d' : Database}
    (h : Database.Stands config e columns prepared d) (hd : Database.Restocked d d') :
    Database.Stands config e columns prepared d' :=
  fun hmem hne => (h hmem hne).congr (.of_restocked hd)

/-- A setup makes the table of its entity stand if it succeeds. -/
lemma IndexPlan.ends_ensure_stands {p : IndexPlan} {d : Database} {prepared prepared' : List String}
    (hp : p.IsPlain config) (hnew : p.entity ∉ prepared) :
    Ends p.ensure d (fun _ => Database.Stands config p.entity p.columns prepared')
      (Database.Stands config p.entity p.columns prepared) := by
  by_cases hne : p.columns = []
  · exact Action.ends_true.mono (fun _ _ _ _ h => absurd hne h) fun _ _ _ h => absurd hne h
  · have hhas : p.hasColumns = true := by simpa [hasColumns] using hne
    exact (ends_ensure_isSetUp hp hhas).mono (fun _ _ h _ _ => h)
      fun _ _ hmem => absurd hmem hnew

include hapart

/-- A setup from scratch leaves the table of its entity standing, and makes it stand if it
succeeds. -/
lemma IndexPlan.ends_rebuild_stands {p : IndexPlan} {d : Database}
    {prepared prepared' : List String} (hp : p.IsPlain config)
    (htokenizer : p.tokenizer = config.tokenizer) (hentity : entities p.entity)
    (hkept : WellKept config d) (hd : Intact config entities d)
    (h : Database.Stands config p.entity p.columns prepared d) :
    Ends p.rebuild d (fun _ => Database.Stands config p.entity p.columns prepared')
      (Database.Stands config p.entity p.columns prepared) := by
  by_cases hne : p.columns = []
  · exact Action.ends_true.mono (fun _ _ _ _ h => absurd hne h) fun _ _ _ h => absurd hne h
  have hhas : p.hasColumns = true := by simpa [hasColumns] using hne
  by_cases hmem : p.entity ∈ prepared
  · exact (ends_rebuild_again hp htokenizer hapart hentity hhas hkept hd (h hmem hne)).mono
      (fun _ _ h _ _ => h) fun _ h _ _ => h
  · exact (ends_rebuild_isSetUp hp hhas).mono (fun _ _ h _ _ => h)
      fun _ _ h => absurd h hmem

include hpre he

/-- Steps of a setup for another entity do not matter. -/
lemma Database.IsSetUp.of_steps {m : EntityMetadata} {p : IndexPlan} {d d' : Database}
    (hp : IndexPlan.ofMetadata config m = .ok p) (hentity : entities m.entityName)
    (hne : m.entityName ≠ e) (hd : Intact config entities d)
    (hsteps : Relation.ReflTransGen (IndexPlan.SetupStep p) d d')
    (h : IsSetUp config e columns d) : IsSetUp config e columns d' := by
  obtain ⟨hplain, _⟩ := IndexPlan.isPlain_of_ofMetadata hpre hp
  obtain rfl := IndexPlan.eq_of_ofMetadata hp
  exact h.of_agreesOn (IndexPlan.agreesOn_of_steps hplain rfl hapart hentity he hne hsteps hd)

/-- Steps of a setup for another entity leave the table standing, whether that entity counts as
prepared afterwards or not. -/
lemma Database.Stands.of_steps {m : EntityMetadata} {p : IndexPlan} {prepared : List String}
    {d d' : Database} (h : Database.Stands config e columns prepared d)
    (hp : IndexPlan.ofMetadata config m = .ok p) (hentity : entities m.entityName)
    (hother : m.entityName ≠ e) (hd : Intact config entities d)
    (hsteps : Relation.ReflTransGen (IndexPlan.SetupStep p) d d') :
    Database.Stands config e columns prepared d' ∧
      Database.Stands config e columns (prepared.insert m.entityName) d' := by
  have hkept : Database.Stands config e columns prepared d' := fun hmem hne =>
    (h hmem hne).of_steps hpre hapart he hp hentity hother hd hsteps
  exact ⟨hkept, fun hmem => hkept ((List.mem_insert_iff.mp hmem).resolve_left hother.symm)⟩

/-- Every event keeps the table of an entity set up once the entity has been prepared. -/
lemma storeInvariant_stands :
    StoreInvariant config
      (fun event => (∀ a, event.entity? = some a → entities a) ∧ event.KeepsTo e columns)
      fun prepared d => (WellKept config d ∧ Intact config entities d) ∧
        Database.Stands config e columns prepared d where
  empty := ⟨⟨.empty config, .empty config entities⟩, fun hmem => by cases hmem⟩
  insert _ hd h := ⟨⟨Database.insertNode_wellKept hd.1.1 h, hd.1.2.insertNode hd.1.1 h⟩,
    hd.2.restocked (.insertNode h)⟩
  update _ hd h := ⟨⟨Database.updateNode_wellKept hd.1.1 h, hd.1.2.updateNode hd.1.1 h⟩,
    hd.2.restocked (.updateNode h)⟩
  delete _ hd h := ⟨⟨Database.deleteNode_wellKept hd.1.1 h, hd.1.2.deleteNode hd.1.1 h⟩,
    hd.2.restocked (.deleteNode h)⟩
  foreign _ hd h :=
    ⟨⟨Database.insertForeignNode_wellKept hd.1.1 h, hd.1.2.insertForeignNode hd.1.1 h⟩,
      hd.2.restocked (.insertForeignNode h)⟩
  -- nothing has been prepared in a store that has just been opened
  reopen b hd := ⟨⟨(hd.1.1.idle (Database.retabled_atRest _)).of_isReadOnly b,
    (hd.1.2.idle (Database.retabled_atRest _)).of_eq rfl rfl⟩, fun hmem => by cases hmem⟩
  ensure {c m p prepared d} hadmits hm hnew hp hd := by
    have hentity := hadmits.1 m.entityName (by simp [StoreEvent.entity?, hm])
    obtain ⟨hplain, hsame, hcolumns⟩ := IndexPlan.isPlain_of_ofMetadata hpre hp
    refine (IndexPlan.ends_ensure_intact hpre hapart hp hentity hd.1.1 hd.1.2).and ?_
    by_cases hown : m.entityName = e
    · obtain rfl : p.columns = columns := hcolumns.trans (hadmits.2 c m rfl hm hown)
      obtain rfl : p.entity = e := hsame.trans hown
      exact IndexPlan.ends_ensure_stands hplain (hown ▸ hnew)
    · refine (IndexPlan.ends_ensure_steps hplain (IndexPlan.eq_of_ofMetadata hp ▸ rfl) hapart
        (hsame ▸ hentity) hd.1.2).mono (fun _ _ h => ?_) fun _ h => ?_
      · exact (hd.2.of_steps hpre hapart he hp hentity hown hd.1.2 h).2
      · exact (hd.2.of_steps hpre hapart he hp hentity hown hd.1.2 h).1
  rebuild {m p prepared d} hadmits hp hd := by
    have hentity := hadmits.1 m.entityName rfl
    have htokenizer : p.tokenizer = config.tokenizer := IndexPlan.eq_of_ofMetadata hp ▸ rfl
    obtain ⟨hplain, hsame, hcolumns⟩ := IndexPlan.isPlain_of_ofMetadata hpre hp
    refine (IndexPlan.ends_rebuild_intact hpre hapart hp hentity hd.1.1 hd.1.2).and ?_
    by_cases hown : m.entityName = e
    · obtain rfl : p.columns = columns := hcolumns.trans (hadmits.2 _ m rfl rfl hown)
      obtain rfl : p.entity = e := hsame.trans hown
      exact IndexPlan.ends_rebuild_stands hapart hplain htokenizer (hown ▸ hentity) hd.1.1 hd.1.2
        hd.2
    · refine (IndexPlan.ends_rebuild_steps hplain htokenizer hapart (hsame ▸ hentity)
        hd.1.2).mono (fun _ _ h => ?_) fun _ h => ?_
      · exact (hd.2.of_steps hpre hapart he hp hentity hown hd.1.2 h).2
      · exact (hd.2.of_steps hpre hapart he hp hentity hown hd.1.2 h).1

end

/-- The index of an entity is answered only if the table has the searchable properties as its
columns, in their order, as long as all metadata of the entity has these searchable properties and
no table has the name of a part of another one. So no query is refused for want of the table or of
such a column. -/
theorem StoreRun.index_has_columns {config : IndexConfig} {events : List StoreEvent}
    {s s' : NodeStore} {m : EntityMetadata} {index : NodeIndex}
    (hpre : Text.isIdentifier config.tablePrefix = true) (hrun : StoreRun config events s)
    (hapart : config.Apart fun a => a = m.entityName ∨ ∃ event ∈ events, event.entity? = some a)
    (hkeeps : ∀ event ∈ events, event.KeepsTo m.entityName m.indexedNames)
    (hne : m.indexedNames ≠ []) (h : (NodeStore.index m).perform s = (.ok index, s')) :
    s'.database.columnsOf? (config.tableName m.entityName) = some m.indexedNames ∧
      ∀ text, (index.query text).Avoids (FinderError.IsMissing (· ∈ m.indexedNames)) s' := by
  have hconfig := (hrun.wellKept hpre).1
  have hof : index.IsOf config m := ⟨s, s', hconfig, h⟩
  obtain ⟨he, _, heq⟩ := hof.eq
  have hinvariant := @storeInvariant_stands config _ m.entityName m.indexedNames hpre hapart he
  have hs := hinvariant.run hrun fun event hevent =>
    ⟨fun a ha => .inr ⟨event, hevent, ha⟩, hkeeps event hevent⟩
  have hprepare := NodeStore.prepare_of_index h
  have hs' := (hinvariant.ends_prepare (c := .index m)
    ⟨fun a ha => .inl (Option.some.inj ha).symm, fun c m' hc hm' _ => by cases hc; cases hm'; rfl⟩
    rfl hs).of_perform hprepare
  have hstands := hs'.2.2 (NodeStore.mem_prepared_of_prepare hprepare) hne
  refine ⟨hstands.columns, fun text => ?_⟩
  have hindex : index = ⟨m.entityName, some (config.tableName m.entityName)⟩ := by
    rw [heq, if_neg (by simpa using hne)]
  rw [hindex]
  refine NodeIndex.avoids_missing hpre he hstands.columns (fun column hcolumn => ?_) text
  exact List.any_eq_true.mpr ⟨column, hcolumn, by simp [Text.sameName]⟩

/-- A film is stored, and the store is opened again. -/
def filmBefore : List StoreEvent :=
  [.reopen, .call (.insert (.searchable "Film" ["title"]) (.ofList [("title", "Metropolis")]))]

/-- The table of the films has the column of their titles. -/
theorem StoreRun.index_has_columns_films :
    ((NodeStore.index (.searchable "Film" ["title"])).perform
      (NodeStore.after .standard filmBefore)).2.database.columnsOf?
        (IndexConfig.standard.tableName "Film") = some ["title"] := by
  have hown : ∀ event ∈ filmBefore, event.IsOwn := by
    simp [filmBefore, StoreEvent.IsOwn]
  have hapart : IndexConfig.standard.Apart fun a =>
      a = "Film" ∨ ∃ event ∈ filmBefore, event.entity? = some a :=
    .of_events ["Film"] (by decide) (by decide)
  have hkeeps : ∀ event ∈ filmBefore, event.KeepsTo "Film" ["title"] := by
    intro event hevent c m hc hm _
    simp only [filmBefore, List.mem_cons, List.not_mem_nil, or_false] at hevent
    obtain rfl | rfl := hevent
    · cases hc
    · cases hc
      cases hm
      rfl
  have hindex : ((NodeStore.index (.searchable "Film" ["title"])).perform
      (NodeStore.after .standard filmBefore)).1 = .ok ⟨"Film", some "node_index__film"⟩ := by
    decide +kernel
  have hrun : StoreRun .standard filmBefore (NodeStore.after .standard filmBefore) :=
    .of_own .standard hown
  -- the store need not be looked at any more
  generalize NodeStore.after .standard filmBefore = s at hindex hrun ⊢
  exact (StoreRun.index_has_columns (m := .searchable "Film" ["title"]) (by decide) hrun hapart
    hkeeps (by decide) (Prod.ext hindex rfl)).1

/-- The index of an entity, asked for with two properties after it was prepared with one. -/
theorem StoreRun.exists_missing_column : ∃ s index s' e,
    StoreRun .standard [.call (.index (.searchable "Film" ["title"]))] s ∧
      (NodeStore.index (.searchable "Film" ["title", "year"])).perform s = (.ok index, s') ∧
      s'.database.columnsOf? (IndexConfig.standard.tableName "Film") = some ["title"] ∧
      (index.query "\"year\":1927").perform s' = (.error e, s') ∧
      e.IsMissing (· ∈ (EntityMetadata.searchable "Film" ["title", "year"]).indexedNames) := by
  have hindex : (NodeStore.index (.searchable "Film" ["title", "year"])).perform
      (NodeStore.after .standard [.call (.index (.searchable "Film" ["title"]))]) =
        (.ok ⟨"Film", some (IndexConfig.standard.tableName "Film")⟩,
          NodeStore.after .standard [.call (.index (.searchable "Film" ["title"]))]) := by
    decide +kernel
  have hcolumns : (NodeStore.after .standard
      [.call (.index (.searchable "Film" ["title"]))]).database.columnsOf?
        (IndexConfig.standard.tableName "Film") = some ["title"] := by decide +kernel
  have hrun : StoreRun .standard [.call (.index (.searchable "Film" ["title"]))]
      (NodeStore.after .standard [.call (.index (.searchable "Film" ["title"]))]) :=
    .of_own .standard (by simp [StoreEvent.IsOwn])
  have hrefused : (((⟨"Film", some (IndexConfig.standard.tableName "Film")⟩ : NodeIndex).query
      "\"year\":1927").perform (NodeStore.after .standard
        [.call (.index (.searchable "Film" ["title"]))])).1 =
      .error (DatabaseFault.query (.noSuchColumn "year")).toError := by decide +kernel
  exact ⟨_, _, _, _, hrun, hindex, hcolumns, Prod.ext hrefused rfl, .inr ⟨"year", by decide, rfl⟩⟩

end EntityFinder
