import EntityFinder.Proofs.Columns.Basic
import EntityFinder.Proofs.Intact.Basic

set_option autoImplicit false

/-!
# Setting tables up in intact databases

Setting the table of an entity up, or setting it up anew, takes a few kinds of steps, whether it
succeeds or fails on the way. What each of these steps keeps is kept by every setup.

## Main definitions

* `EntityFinder.IndexPlan.SetupStep`: what a setup can do to an intact database.

## Main results

* `EntityFinder.IndexPlan.ends_rebuild_steps`, `EntityFinder.IndexPlan.ends_ensure_steps`: every
  setup consists of such steps, however it ends.
* `EntityFinder.IndexPlan.SetupStep.intact`: each step keeps a database intact.
* `EntityFinder.Database.Intact.createTable_eq`, `EntityFinder.Database.Intact.dropTable_eq`: tables
  that can be created, and tables that can be dropped.
-/

namespace EntityFinder

open EntityFinder.Action (Ends)
open Relation (ReflTransGen)

/-! ## Names of parts -/

/-- The name of a part tells which part it is, since no two words of parts end alike. -/
lemma Database.Part.eq_of_tableName_eq {a b : String} {p q : Database.Part}
    (h : p.tableName a = q.tableName b) : p = q := by
  have hend : ∀ (s : String) (p : Part),
      (p.tableName s).toList.getLast? = p.word.toList.getLast? := by
    intro s p
    cases p <;> simp [tableName, word]
  have hinjective : ∀ p q : Part, p.word.toList.getLast? = q.word.toList.getLast? → p = q := by
    intro p q
    cases p <;> cases q <;> decide
  exact hinjective p q (by rw [← hend a p, ← hend b q, h])

/-- The name of a part tells the table. -/
lemma Database.Part.tableName_injective {a b : String} {p q : Database.Part}
    (h : p.tableName a = q.tableName b) : a = b := by
  obtain rfl := eq_of_tableName_eq h
  rwa [tableName, tableName, String.append_left_inj, String.append_left_inj] at h

namespace Database

variable {config : IndexConfig} {entities : String → Prop} {d d' : Database}

/-! ## Declarations -/

/-- A table that was created could be declared. -/
lemma canDeclare_of_createTable {name : String} {columns : List String} {tokenizer : String}
    (hplain : TableName.plain? name = some ⟨none, name⟩) (hnone : d.relation? name = none)
    (h : createTable name columns tokenizer d = .ok d') : CanDeclare name columns tokenizer := by
  obtain ⟨n, hn, h⟩ := bind_eq_ok.mp h
  obtain rfl : n = ⟨none, name⟩ := by
    simp only [TableName.declared, hplain] at hn
    obtain ⟨_, _, hn⟩ := bind_eq_ok.mp hn
    obtain ⟨_, _, hn⟩ := bind_eq_ok.mp hn
    cases hn
    rfl
  simp only [hnone, Option.isSome_none, Bool.false_eq_true, if_false] at h
  split_ifs at h with hindex hdistinct
  · obtain ⟨_, htokenizer, h⟩ := bind_eq_ok.mp h
    exact ⟨⟨_, hn⟩, by simpa using hindex, htokenizer, hdistinct⟩
  · obtain ⟨_, _, h⟩ := bind_eq_ok.mp h
    obtain ⟨_, _, h⟩ := bind_eq_ok.mp h
    cases h

/-- A table that can be declared is none that every database has. -/
lemma CanDeclare.checkDroppable {name : String} {columns : List String} {tokenizer : String}
    (h : CanDeclare name columns tokenizer)
    (hplain : TableName.plain? name = some ⟨none, name⟩) :
    TableName.checkDroppable ⟨none, name⟩ = .ok () := by
  obtain ⟨n, hn⟩ := h.declared
  simp only [TableName.declared, hplain] at hn
  obtain ⟨_, husable, _⟩ := bind_eq_ok.mp hn
  have hkept : TableName.isKept ⟨none, name⟩ = false := by
    simp only [TableName.checkUsable, Option.filter_none] at husable
    split_ifs at husable with hk
    exact Bool.eq_false_iff.mpr hk
  have hnone : TableName.fixedTables.lookup (Text.lowerAscii name) = none := by
    refine List.lookup_eq_none_iff.mpr fun table htable => ?_
    rw [bne_iff_ne]
    intro hsame
    have hall : ∀ table ∈ TableName.fixedTables,
        "sqlite_".toList.isPrefixOf table.1.toList = true := by decide
    have hbegins := hall table htable
    rw [← hsame] at hbegins
    rw [TableName.isKept, hbegins] at hkept
    cases hkept
  simp only [TableName.checkDroppable, hnone]

namespace Intact

section

variable {e : String} (h : Intact config entities d) (hapart : config.Apart entities)
  (hentity : entities e) (he : IsEntityName e)

include h hapart hentity he

/-- Nothing stands under the name of a table if no table does. -/
lemma relation?_eq_none (hgone : ∀ t ∈ d.tables, t.name ≠ config.tableName e) :
    d.relation? (config.tableName e) = none :=
  relation?_eq_none_of_ne hgone (h.relation?_ne_part hapart hentity he)

/-- Nothing stands in the way of the parts of a table that is not there. -/
lemma checkParts_eq_ok (hgone : ∀ t ∈ d.tables, t.name ≠ config.tableName e) :
    checkParts (config.tableName e) d = .ok () := by
  have hnone : ∀ p : Part, d.relation? (p.tableName (config.tableName e)) = none := by
    intro p
    have htable : d.table? (p.tableName (config.tableName e)) = none := by
      refine List.find?_eq_none.mpr fun t ht => ?_
      obtain ⟨a, ha, hvalid, hname⟩ := (h.tables t ht).named
      rw [hname, beq_iff_eq]
      exact hapart e a hentity ha he hvalid p
    have hpart : d.partAt? (p.tableName (config.tableName e)) = none := by
      refine List.findSome?_eq_none_iff.mpr fun t ht => ?_
      rw [Option.map_eq_none_iff, List.find?_eq_none]
      intro q _ hq
      simp only [Bool.and_eq_true, beq_iff_eq] at hq
      exact hgone t ht (Part.tableName_injective hq.1)
    rw [relation?, htable, hpart]
    rfl
  have hfind : (Part.all.find? fun p =>
      (d.relation? (p.tableName (config.tableName e))).isSome) = none :=
    List.find?_eq_none.mpr fun p _ => by simp [hnone p]
  rw [checkParts, hfind]

/-- A table that can be declared is created if it is not there. -/
theorem createTable_eq (hpre : Text.isIdentifier config.tablePrefix = true)
    {columns : List String} {tokenizer : String}
    (hgone : ∀ t ∈ d.tables, t.name ≠ config.tableName e)
    (hdeclare : CanDeclare (config.tableName e) columns tokenizer) :
    createTable (config.tableName e) columns tokenizer d = .ok
      { d with tables := d.tables ++ [.created (config.tableName e) columns tokenizer] } := by
  obtain ⟨n, hn⟩ := hdeclare.declared
  obtain rfl := IndexConfig.declared_tableName hpre he hn
  simp [createTable, hn, h.relation?_eq_none hapart hentity he hgone, hdeclare.not_index,
    hdeclare.tokenizer, hdeclare.columns, h.checkParts_eq_ok hapart hentity he hgone, bind,
    Except.bind]

/-- What is dropped with a table is the table alone. -/
lemma tables_removeTable :
    (d.removeTable (config.tableName e)).tables =
      d.tables.filter fun t => t.name != config.tableName e := by
  refine List.filter_congr fun t ht => ?_
  have hpart : (Part.all.any fun p => t.name == p.tableName (config.tableName e)) = false := by
    obtain ⟨a, ha, hvalid, hname⟩ := (h.tables t ht).named
    simp only [List.any_eq_false, beq_iff_eq, hname]
    exact fun p _ => hapart e a hentity ha he hvalid p
  rw [hpart, Bool.not_false, Bool.and_true]

/-- Dropping a table leaves the database without it, whether it was there or not. -/
lemma dropTable_ok (hpre : Text.isIdentifier config.tablePrefix = true)
    (hd : dropTable (config.tableName e) d = .ok d') :
    d' = d.removeTable (config.tableName e) := by
  obtain ⟨hnone, rfl⟩ | ⟨_, _, rfl⟩ | ⟨owner, p, hpart, _⟩ :=
    Database.dropTable_ok hpre he hd
  · have hgone := @name_ne_of_relation? d' (config.tableName e) (by simp [hnone])
    have htables : d'.tables = (d'.removeTable (config.tableName e)).tables := by
      rw [h.tables_removeTable hapart hentity he]
      refine (List.filter_eq_self.mpr fun t ht => ?_).symm
      rw [bne_iff_ne]
      exact hgone t ht
    rw [removeTable]
    exact congrArg (fun tables => { d' with tables }) htables
  · rfl
  · exact absurd hpart (h.relation?_ne_part hapart hentity he owner p)

omit hapart hentity in
/-- A table that is there can be dropped. -/
theorem dropTable_eq (hpre : Text.isIdentifier config.tablePrefix = true) {t : IndexTable}
    (ht : d.table? (config.tableName e) = some t) :
    dropTable (config.tableName e) d = .ok (d.removeTable (config.tableName e)) := by
  obtain ⟨hmem, hname⟩ := mem_and_name_of_table? ht
  have hintact := h.tables t hmem
  have hdroppable := (hname ▸ hintact.declared).checkDroppable
    (IndexConfig.plain?_tableName hpre he)
  obtain ⟨t', ht'⟩ := IndexTable.exists_use hintact.lost
  simp only [dropTable, IndexConfig.alone_tableName hpre he, hdroppable,
    relation?_eq_index.mpr ht, ht', bind, Except.bind]

/-- Without a table and its triggers a database is intact. -/
lemma removeTable : Intact config entities
    ((d.removeTable (config.tableName e)).withoutTriggers (config.tableName e)) where
  tables t ht := h.tables t (List.mem_of_mem_filter ht)
  triggers t ht := by
    obtain ⟨ht, hne⟩ := List.mem_filter.mp ht
    obtain ⟨table, htable, hname, hrest⟩ := h.triggers t ht
    refine ⟨table, ?_, hname, hrest⟩
    change table ∈ (d.removeTable (config.tableName e)).tables
    rw [h.tables_removeTable hapart hentity he]
    exact List.mem_filter.mpr ⟨htable, by simpa [hname] using hne⟩

end

end Intact

end Database

namespace IndexPlan

open Database

/-! ## Steps of a setup -/

/-- What a setup can do to an intact database, one step at a time. -/
inductive SetupStep (p : IndexPlan) : Database → Database → Prop
  /-- Tables are taken into use. -/
  | use {d d' : Database} : Retabled Idle d d' → SetupStep p d d'
  /-- The table is created. -/
  | create {d : Database} : d.relation? p.table = none →
      CanDeclare p.table p.columns p.tokenizer →
      SetupStep p d { d with tables := d.tables ++ [.created p.table p.columns p.tokenizer] }
  /-- The table gets other rows. -/
  | refill {d d' : Database} :
      Retabled (At p.table fun t t' => ∃ rows k, t' = { t with rows, segments := k }) d d' →
      SetupStep p d d'
  /-- The table gets the triggers that it lacks. -/
  | guard {d : Database} : d.columnsOf? p.table = some p.columns →
      checkColumnNames p.columns = .ok () → SetupStep p d (p.withTriggers d)
  /-- The table is dropped with its triggers. -/
  | drop {d : Database} : SetupStep p d ((d.removeTable p.table).withoutTriggers p.table)

variable {config : IndexConfig} {entities : String → Prop} {p : IndexPlan} {d d' : Database}
variable (hp : p.IsPlain config) (htokenizer : p.tokenizer = config.tokenizer)
variable (hapart : config.Apart entities) (hentity : entities p.entity)

include hp

/-- Creating the table where nothing stands is a step. -/
lemma ends_createTable_step {Q : Unit → Database → Prop} {E : Database → Prop}
    (hnone : d.relation? p.table = none) (hE : E d)
    (hQ : SetupStep p d
        { d with tables := d.tables ++ [.created p.table p.columns p.tokenizer] } →
      Q () { d with tables := d.tables ++ [.created p.table p.columns p.tokenizer] }) :
    Ends p.createTable d Q E := by
  refine ends_createTable hp hnone hE fun h _ => hQ (.create hnone ?_)
  have hplain := IndexConfig.plain?_tableName hp.isIdentifier hp.entity
  rw [← hp.table] at hplain
  exact canDeclare_of_createTable hplain hnone h

/-- What is set up anew or filled may be taken as a step. -/
lemma ends_populate_steps {Q : Unit → Database → Prop} {E : Database → Prop}
    (hE : ∀ d', ReflTransGen (SetupStep p) d d' → E d')
    (hQ : ∀ d', ReflTransGen (SetupStep p) d d' → d'.shape = d.shape → Q () d') :
    Ends p.populate d Q E := by
  refine Action.ends_bind (ends_run (hE d .refl) fun d₁ h₁ _ => ?_)
  rw [hp.table] at h₁
  have hcleared := (clearTable_ok hp.isIdentifier hp.entity h₁).2
  have hstep₁ : SetupStep p d d₁ := by
    refine .refill (hcleared.mono fun t t' ht => ?_)
    rw [hp.table]
    refine ht.mono fun ht => ?_
    obtain ⟨k, ht⟩ := IndexTable.clear_ok ht
    exact ⟨[], k, ht⟩
  refine ends_run (hE d₁ (.single hstep₁)) fun d₂ h₂ _ => ?_
  rw [hp.table] at h₂
  obtain ⟨_, _, rows, _, hfilled⟩ := fillTable_ok hp.isIdentifier hp.entity h₂
  have hstep₂ : SetupStep p d₁ d₂ := by
    refine .refill (hfilled.mono fun t t' ht => ?_)
    rw [hp.table]
    refine ht.mono fun ht => ?_
    obtain ⟨k, ht⟩ := IndexTable.putAll_ok ht
    exact ⟨_, k, ht⟩
  refine hQ d₂ (.tail (.single hstep₁) hstep₂) ?_
  rw [shape_fillTable hp.isIdentifier hp.entity h₂, shape_clearTable hp.isIdentifier hp.entity h₁]

include htokenizer hapart hentity

/-- Each step of a setup keeps a database intact. -/
theorem SetupStep.intact (h : SetupStep p d d') (hd : Intact config entities d) :
    Intact config entities d' := by
  cases h with
  | use hidle => exact hd.idle hidle
  | create hnone hdeclare =>
    refine ⟨fun t ht => ?_, fun t ht => ?_⟩
    · rcases List.mem_append.mp ht with ht | ht
      · exact hd.tables t ht
      · rw [List.mem_singleton.mp ht]
        exact ⟨⟨p.entity, hentity, hp.entity, hp.table⟩, rfl, htokenizer ▸ hdeclare⟩
    · obtain ⟨table, htable, hrest⟩ := hd.triggers t ht
      exact ⟨table, List.mem_append_left _ htable, hrest⟩
  | refill hr => exact hd.retabled_at hr fun _ _ ht => ht
  | guard hcolumns hcheck =>
    refine ⟨fun t ht => ?_, fun t ht => ?_⟩
    · rw [tables_withTriggers] at ht
      exact hd.tables t ht
    · rw [tables_withTriggers]
      rcases eq_or_mem_of_mem_withTriggers ht with ⟨event, rfl⟩ | ht
      · obtain ⟨table, htable, hcol⟩ := columnsOf?_eq_some.mp hcolumns
        obtain ⟨hmem, hname⟩ := mem_and_name_of_table? htable
        exact ⟨table, hmem, hname, hcol, hcheck⟩
      · exact hd.triggers t ht
  | drop =>
    rw [hp.table]
    exact hd.removeTable hapart hentity hp.entity

/-- All steps of a setup together keep a database intact. -/
lemma intact_of_steps (h : ReflTransGen (SetupStep p) d d') (hd : Intact config entities d) :
    Intact config entities d' := by
  induction h with
  | refl => exact hd
  | tail _ hstep ih => exact hstep.intact hp htokenizer hapart hentity ih

/-- Setting a table up anew consists of steps, however it ends. -/
theorem ends_rebuild_steps (hd : Intact config entities d) :
    Ends p.rebuild d (fun _ d' => ReflTransGen (SetupStep p) d d')
      fun d' => ReflTransGen (SetupStep p) d d' := by
  refine Action.ends_bind (ends_drop hp .refl fun d₁ h₁ _ => ?_)
  rw [hp.table] at h₁
  obtain rfl := hd.dropTable_ok hapart hentity hp.entity hp.isIdentifier h₁
  rw [← hp.table] at h₁ ⊢
  have hdrop : ReflTransGen (SetupStep p) d
      ((d.removeTable p.table).withoutTriggers p.table) := .single .drop
  have hgone : ∀ t ∈ ((d.removeTable p.table).withoutTriggers p.table).tables,
      t.name ≠ config.tableName p.entity := by
    rw [hp.table] at h₁ ⊢
    exact fun t ht => name_ne_of_dropTable hp.isIdentifier hp.entity h₁ t ht
  have hd₂ := intact_of_steps hp htokenizer hapart hentity hdrop hd
  generalize (d.removeTable p.table).withoutTriggers p.table = d₂ at hdrop hgone hd₂
  have hnone := hd₂.relation?_eq_none hapart hentity hp.entity hgone
  split_ifs
  · rw [← hp.table] at hnone hgone
    refine Action.ends_bind (ends_createTable_step hp hnone hdrop fun h₃ => ?_)
    have hcreated := hdrop.tail h₃
    refine Action.ends_bind (ends_createTriggers hp hcreated fun hcheck => ?_)
    have hguarded := hcreated.tail (.guard (columnsOf?_created hgone) hcheck)
    exact ends_populate_steps hp (fun _ h => hguarded.trans h) fun _ h _ => hguarded.trans h
  · exact hdrop

/-- Setting a table up consists of steps, however it ends. -/
theorem ends_ensure_steps (hd : Intact config entities d) :
    Ends p.ensure d (fun _ d' => ReflTransGen (SetupStep p) d d')
      fun d' => ReflTransGen (SetupStep p) d d' := by
  have hguard : ∀ {d₁}, ReflTransGen (SetupStep p) d d₁ → d₁.columnsOf? p.table = some p.columns →
      Ends p.createTriggers d₁ (fun _ d' => ReflTransGen (SetupStep p) d d')
        fun d' => ReflTransGen (SetupStep p) d d' :=
    fun h₁ hcolumns => ends_createTriggers hp h₁ fun hcheck => h₁.tail (.guard hcolumns hcheck)
  have hfill : ∀ {d₁}, ReflTransGen (SetupStep p) d d₁ → d₁.columnsOf? p.table = some p.columns →
      Ends (p.populate >>= fun _ => p.createTriggers) d₁
        (fun _ d' => ReflTransGen (SetupStep p) d d') fun d' => ReflTransGen (SetupStep p) d d' := by
    intro d₁ h₁ hcolumns
    refine Action.ends_bind (ends_populate_steps hp (fun _ h => h₁.trans h) fun d₂ h₂ hshape => ?_)
    exact hguard (h₁.trans h₂) ((columnsOf?_congr hshape _).trans hcolumns)
  refine ends_ensure (fun _ => .refl) .refl ?create ?replace ?change ?fill ?guard
  case create =>
    refine fun hrelation => Action.ends_bind (ends_createTable_step hp hrelation .refl fun h₁ => ?_)
    exact hfill (.single h₁) (columnsOf?_created (name_ne_of_relation? (by simp [hrelation])))
  case replace =>
    intro owner part hrelation
    rw [hp.table] at hrelation
    exact absurd hrelation (hd.relation?_ne_part hapart hentity hp.entity _ _)
  case change =>
    intro t _ _ d₁ hr
    have h₁ : ReflTransGen (SetupStep p) d d₁ := .single (.use hr)
    exact (ends_rebuild_steps hp htokenizer hapart hentity (hd.idle hr)).mono
      (fun _ _ h => h₁.trans h) fun _ h => h₁.trans h
  case fill =>
    exact fun t hrelation hsame d₁ hr _ =>
      hfill (.single (.use hr)) (hsame ▸ columnsOf?_of_idle hr hrelation)
  case guard =>
    exact fun t hrelation hsame d₁ hr _ =>
      hguard (.single (.use hr)) (hsame ▸ columnsOf?_of_idle hr hrelation)

end IndexPlan

end EntityFinder
