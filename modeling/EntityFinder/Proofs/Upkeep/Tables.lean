import EntityFinder.Proofs.Upkeep.Basic

set_option autoImplicit false

/-!
# Setting tables up

A table that is set up is filled from the nodes of its entity. If this fails half-way, no row is
left that its triggers would not take out again.

## Main results

* `EntityFinder.IndexPlan.ends_rebuild_wellKept`, `EntityFinder.IndexPlan.ends_ensure_wellKept`: a
  database keeps to everything when a table is set up, however this ends.
-/

namespace EntityFinder

open EntityFinder.Action (Ends)
open IndexTable (RowsSorted)

namespace Database

variable {config : IndexConfig} {d d' : Database}

/-! ## What stands under a name -/

/-- What stands under the name of a table is this table. -/
lemma relation?_eq_index {name : String} {t : IndexTable} :
    d.relation? name = some (.index t) ↔ d.table? name = some t := by
  unfold relation?
  cases d.table? name with
  | some t' => simp
  | none => simp

/-- No table has a name under which no table stands. -/
lemma name_ne_of_relation? {name : String} (h : ∀ t, d.relation? name ≠ some (.index t)) :
    ∀ t ∈ d.tables, t.name ≠ name := by
  intro t ht hname
  cases hf : d.tables.find? fun a => a.name == name with
  | none => simpa [hname] using List.find?_eq_none.mp hf t ht
  | some a => exact h a (relation?_eq_index.mpr hf)

/-- Nothing stands under a name that neither a table has nor a part. -/
lemma relation?_eq_none_of_ne {name : String} (hgone : ∀ t ∈ d.tables, t.name ≠ name)
    (hparts : ∀ owner p, d.relation? name ≠ some (.part owner p)) : d.relation? name = none := by
  cases hrelation : d.relation? name with
  | none => rfl
  | some r =>
    cases r with
    | index t =>
      have ht := relation?_eq_index.mp hrelation
      exact absurd (by simpa using List.find?_some ht) (hgone t (List.mem_of_find?_eq_some ht))
    | part owner p => exact absurd hrelation (hparts owner p)

/-- A table that was dropped is gone. -/
lemma name_ne_of_dropTable {e : String} (hpre : Text.isIdentifier config.tablePrefix = true)
    (he : IsEntityName e) (h : dropTable (config.tableName e) d = .ok d') :
    ∀ t ∈ d'.tables, t.name ≠ config.tableName e := by
  obtain ⟨hnone, rfl⟩ | ⟨_, _, rfl⟩ | ⟨owner, p, hpart, hr⟩ := dropTable_ok hpre he h
  · exact name_ne_of_relation? (by simp [hnone])
  · intro t ht
    have hkept := (List.mem_filter.mp ht).2
    simp only [Bool.and_eq_true, bne_iff_ne] at hkept
    exact hkept.1
  · intro t' ht'
    obtain ⟨t, ht, hat⟩ := hr.origin ht'
    rw [hat.name fun _ _ ht => by rw [ht]; rfl]
    exact name_ne_of_relation? (by simp [hpart]) t ht

/-- A table that is found has the name that was looked for. -/
lemma mem_and_name_of_table? {name : String} {t : IndexTable} (h : d.table? name = some t) :
    t ∈ d.tables ∧ t.name = name :=
  ⟨List.mem_of_find?_eq_some h, by simpa using List.find?_some h⟩

/-! ## Rows from nodes -/

/-- There is a row for each node. -/
lemma indexRows_eq_ok {columns : List String} : ∀ {nodes : List StoredNode} {rows : List IndexRow},
    indexRows columns nodes = .ok rows ↔
      List.Forall₂ (fun n row => n.indexRow columns = .ok row) nodes rows
  | [], rows => by
    simp only [indexRows, List.forall₂_nil_left_iff]
    exact ⟨fun h => by cases h; rfl, fun h => by rw [h]⟩
  | n :: nodes, rows => by
    simp only [indexRows, bind_eq_ok, @indexRows_eq_ok _ nodes, List.forall₂_cons_left_iff]
    constructor
    · rintro ⟨row, hrow, rest, hrest, h⟩
      cases h
      exact ⟨row, rest, hrow, hrest, rfl⟩
    · rintro ⟨row, rest, hrow, hrest, rfl⟩
      exact ⟨row, hrow, rest, hrest, rfl⟩

/-- Rows of nodes are members as their nodes are. -/
lemma mem_indexRows {columns : List String} {nodes : List StoredNode} {rows : List IndexRow}
    (h : indexRows columns nodes = .ok rows) {r : IndexRow} :
    r ∈ rows ↔ ∃ n ∈ nodes, n.indexRow columns = .ok r := by
  have hall := indexRows_eq_ok.mp h
  have hl := hall.length_eq
  constructor
  · intro hr
    obtain ⟨i, hi, rfl⟩ := List.getElem_of_mem hr
    exact ⟨nodes[i], List.getElem_mem _, hall.get (by omega) hi⟩
  · rintro ⟨n, hn, hr⟩
    obtain ⟨i, hi, rfl⟩ := List.getElem_of_mem hn
    have hget := hall.get hi (by omega)
    rw [List.get_eq_getElem, List.get_eq_getElem, hr] at hget
    cases hget
    exact List.getElem_mem _

/-- Each row that is made of the nodes of an entity is that of one of them. -/
lemma exists_node_of_mem_indexRows {columns : List String} {entity : String}
    {rows : List IndexRow} (h : indexRows columns (d.nodesOf entity) = .ok rows) {r : IndexRow}
    (hr : r ∈ rows) : ∃ n ∈ d.nodes, n.entity = entity ∧ n.indexRow columns = .ok r := by
  obtain ⟨n, hn, hrow⟩ := (mem_indexRows h).mp hr
  simp only [nodesOf, List.mem_filter, beq_iff_eq] at hn
  exact ⟨n, hn.1, hn.2, hrow⟩

namespace WellKept

/-! ## Tables -/

section

variable {e : String} (hpre : Text.isIdentifier config.tablePrefix = true)
  (he : IsEntityName e)

include hpre he

/-- Creating a table keeps to everything. -/
lemma createTable {columns : List String} {tokenizer : String} (hd : WellKept config d)
    (h : createTable (config.tableName e) columns tokenizer d = .ok d') : WellKept config d' := by
  obtain ⟨_, rfl⟩ | ⟨hnone, _, rfl⟩ := createTable_ok hpre he h
  · exact hd
  · exact hd.addTable (@name_ne_of_relation? d (config.tableName e) (by simp [hnone])) rfl

/-- Dropping a table keeps to everything. -/
lemma dropTable (hd : WellKept config d) (h : dropTable (config.tableName e) d = .ok d') :
    WellKept config d' := by
  obtain ⟨_, rfl⟩ | ⟨_, _, rfl⟩ | ⟨_, _, _, hr⟩ := dropTable_ok hpre he h
  · exact hd
  · exact hd.filterTables _
  · refine hd.retabled_of_sublist hr fun t t' ht => ?_
    refine ht.elim (S := fun t t' => t'.name = t.name ∧ t'.rows.Sublist t.rows)
      (fun _ => ⟨rfl, .refl _⟩) fun t t' ht => ?_
    subst ht
    exact ⟨rfl, .refl _⟩

/-- Clearing a table keeps to everything. -/
lemma clearTable (hd : WellKept config d) (h : clearTable (config.tableName e) d = .ok d') :
    WellKept config d' := by
  refine hd.retabled_of_sublist (clearTable_ok hpre he h).2 fun t t' ht => ?_
  refine ht.elim (S := fun t t' => t'.name = t.name ∧ t'.rows.Sublist t.rows)
    (fun _ => ⟨rfl, .refl _⟩) fun t t' ht => ?_
  obtain ⟨_, rfl⟩ := IndexTable.clear_ok ht
  exact ⟨rfl, List.nil_sublist _⟩

omit hpre in
/-- Filling a table from the nodes of its entity keeps to everything, if it has its triggers. -/
lemma putAll {columns : List String} {rows : List IndexRow} (hd : WellKept config d)
    (hrows : indexRows columns (d.nodesOf e) = .ok rows)
    (hr : Retabled (At (config.tableName e) fun t t' => t.putAll rows = .ok t') d d')
    (hguard : d.hasTrigger (config.tableName e) .delete = true) : WellKept config d' := by
  refine hd.retabled hr ?_ ?_ ?_ ?_
  · intro t t' ht
    refine ht.name fun t t' ht => ?_
    obtain ⟨_, rfl⟩ := IndexTable.putAll_ok ht
    rfl
  · intro t ht t' hat
    refine hat.elim (S := fun t t' => RowsSorted t.rows → RowsSorted t'.rows) (fun _ => id)
      (fun t t' hput hs => ?_) (hd.rows_sorted t ht)
    obtain ⟨_, rfl⟩ := IndexTable.putAll_ok hput
    exact hs.insertRows rows
  · intro t ht t' hat r hr
    unfold At at hat
    split_ifs at hat with hname
    · obtain ⟨_, rfl⟩ := IndexTable.putAll_ok hat
      rcases IndexTable.mem_or_mem_of_mem_insertRows hr with hr | hr
      · obtain ⟨n, hn, hentity, hrow⟩ := exists_node_of_mem_indexRows hrows hr
        exact ⟨n, hn, (id_of_indexRow hrow).symm, hentity ▸ he, by rw [hentity, hname]⟩
      · exact hd.rows_backed t ht r hr
    · exact hd.rows_backed t ht r (hat ▸ hr)
  · intro t ht t' hat hne
    unfold At at hat
    split_ifs at hat with hname
    · rwa [hname]
    · exact hd.rows_guarded t ht (hat ▸ hne)

end

/-! ## Triggers -/

/-- Dropping the triggers of a table that does not exist keeps to everything. -/
lemma withoutTriggers (hd : WellKept config d) {table : String}
    (hnone : ∀ t ∈ d.tables, t.name ≠ table) : WellKept config (d.withoutTriggers table) where
  nodes_sorted := hd.nodes_sorted
  nodes_le := hd.nodes_le
  triggers := by
    refine ⟨fun t ht => hd.triggers.named t (List.mem_of_mem_filter ht),
      hd.triggers.nodup.sublist (List.filter_sublist.map _), fun t ht event => ?_⟩
    obtain ⟨ht, hkept⟩ := List.mem_filter.mp ht
    obtain ⟨t', ht', htable, h⟩ := hd.triggers.complete t ht event
    exact ⟨t', List.mem_filter.mpr ⟨ht', by rwa [htable]⟩, htable, h⟩
  names_nodup := hd.names_nodup
  rows_sorted := hd.rows_sorted
  rows_backed := hd.rows_backed
  rows_guarded t ht hne := by
    obtain ⟨t', ht', htable, h⟩ := hasTrigger_iff.mp (hd.rows_guarded t ht hne)
    refine hasTrigger_iff.mpr ⟨t', List.mem_filter.mpr ⟨ht', ?_⟩, htable, h⟩
    rw [htable, bne_iff_ne]
    exact hnone t ht

end WellKept

end Database

namespace IndexPlan

open Database

variable {config : IndexConfig} {p : IndexPlan} {d d' : Database}

/-- A table with a trigger lacks none. -/
lemma withTriggers_of_mem (htriggers : TriggersKept config d.triggers) {t : Trigger}
    (ht : t ∈ d.triggers) (htable : t.table = p.table) : p.withTriggers d = d :=
  withTriggers_of_guarded fun event => htable ▸ htriggers.hasTrigger ht event

/-- A table without triggers gets all of them. -/
lemma withTriggers_of_forall_ne (hnone : ∀ t ∈ d.triggers, t.table ≠ p.table) :
    (p.withTriggers d).triggers =
      p.trigger .delete :: p.trigger .update :: p.trigger .insert :: d.triggers := by
  have hadd : ∀ (d : Database) (t : Trigger),
      (∀ t' ∈ d.triggers, t'.table = t.table → t'.event ≠ t.event) →
      (d.addTrigger t).triggers = t :: d.triggers := by
    intro d t hlacks
    have hnot : ¬d.hasTrigger t.table t.event = true := by
      rw [hasTrigger_iff]
      rintro ⟨t', ht', htable, hevent⟩
      exact hlacks t' ht' htable hevent
    rw [addTrigger, if_neg hnot]
  have h₁ : (d.addTrigger (p.trigger .insert)).triggers = p.trigger .insert :: d.triggers :=
    hadd _ _ fun t ht htable => absurd htable (hnone t ht)
  have h₂ : ((d.addTrigger (p.trigger .insert)).addTrigger (p.trigger .update)).triggers =
      p.trigger .update :: p.trigger .insert :: d.triggers := by
    rw [hadd, h₁]
    rw [h₁]
    simp only [List.mem_cons, forall_eq_or_imp]
    exact ⟨fun _ h => (by cases h), fun t ht htable => absurd htable (hnone t ht)⟩
  rw [withTriggers, hadd, h₂]
  rw [h₂]
  simp only [List.mem_cons, forall_eq_or_imp]
  exact ⟨fun _ h => (by cases h), fun _ h => (by cases h),
    fun t ht htable => absurd htable (hnone t ht)⟩

/-- The triggers of a new table are kept along with those of the others. -/
lemma triggersKept_of_forall_ne (hp : p.IsPlain config) (h : TriggersKept config d.triggers)
    (hnone : ∀ t ∈ d.triggers, t.table ≠ p.table) :
    TriggersKept config (p.withTriggers d).triggers where
  named t ht := by
    obtain ⟨event, rfl⟩ | ht := eq_or_mem_of_mem_withTriggers ht
    · exact ⟨hp.entity, hp.table⟩
    · exact h.named t ht
  nodup := by
    have hold : ∀ event, (p.table, event) ∉ d.triggers.map fun t => (t.table, t.event) := by
      intro event h
      obtain ⟨t, ht, heq⟩ := List.mem_map.mp h
      exact hnone t ht (congrArg Prod.fst heq)
    rw [withTriggers_of_forall_ne hnone]
    simp only [List.map_cons, List.nodup_cons, List.mem_cons, not_or]
    exact ⟨⟨by simp [trigger], by simp [trigger], hold .delete⟩,
      ⟨by simp [trigger], hold .update⟩, hold .insert, h.nodup⟩
  complete t ht event := by
    have hown : p.trigger event ∈ (p.withTriggers d).triggers := by
      rw [withTriggers_of_forall_ne hnone]
      cases event <;> simp
    obtain ⟨_, rfl⟩ | ht := eq_or_mem_of_mem_withTriggers ht
    · exact ⟨p.trigger event, hown, rfl, rfl, rfl⟩
    · obtain ⟨t', ht', h⟩ := h.complete t ht event
      exact ⟨t', mem_withTriggers_of_mem ht', h⟩

/-- The missing triggers keep to everything. -/
lemma withTriggers_wellKept (hp : p.IsPlain config) (hd : WellKept config d) :
    WellKept config (p.withTriggers d) := by
  have htriggers : TriggersKept config (p.withTriggers d).triggers := by
    by_cases hsome : ∃ t ∈ d.triggers, t.table = p.table
    · obtain ⟨t, ht, htable⟩ := hsome
      rw [withTriggers_of_mem hd.triggers ht htable]
      exact hd.triggers
    · exact triggersKept_of_forall_ne hp hd.triggers fun t ht htable => hsome ⟨t, ht, htable⟩
  rw [withTriggers_eq]
  refine { hd with triggers := htriggers, rows_guarded := fun t ht hne => ?_ }
  obtain ⟨t', ht', h⟩ := hasTrigger_iff.mp (hd.rows_guarded t ht hne)
  exact hasTrigger_iff.mpr ⟨t', mem_withTriggers_of_mem ht', h⟩

/-- The missing triggers do not depend on the tables. -/
lemma withTriggers_retabled {R : IndexTable → IndexTable → Prop} (h : Retabled R d d') :
    Retabled R (p.withTriggers d) (p.withTriggers d') := by
  have hadd : ∀ {d d' : Database} (t : Trigger), Retabled R d d' →
      Retabled R (d.addTrigger t) (d'.addTrigger t) := by
    intro d d' t h
    have hhas : d'.hasTrigger t.table t.event = d.hasTrigger t.table t.event := by
      simp only [hasTrigger, trigger?, h.triggers]
    unfold addTrigger
    rw [hhas]
    split_ifs
    · exact h
    · exact ⟨h.nodes, h.lastId, by simp only [h.triggers], h.isReadOnly, h.tables⟩
  exact hadd _ (hadd _ (hadd _ h))

/-! ## Setting a table up -/

variable (hp : p.IsPlain config)

include hp

/-- Filling a table and then creating its triggers keeps to everything, however this ends. -/
lemma ends_fill_wellKept (hd : WellKept config d) :
    Ends (p.populate >>= fun _ => p.createTriggers) d (fun _ => WellKept config)
      (WellKept config) := by
  refine Action.ends_bind (Action.ends_bind (ends_run hd fun d₁ h₁ _ => ?_))
  rw [hp.table] at h₁
  have hd₁ := hd.clearTable hp.isIdentifier hp.entity h₁
  refine ends_run hd₁ fun d₂ h₂ hro => ?_
  rw [hp.table] at h₂
  obtain ⟨hcolumns, _, rows, hrows, hr⟩ := fillTable_ok hp.isIdentifier hp.entity h₂
  -- the rows have no trigger yet, so what counts is the database with the triggers
  have hfilled : WellKept config (p.withTriggers d₂) := by
    have hrows' : indexRows p.columns ((p.withTriggers d₁).nodesOf p.entity) = .ok rows := by
      rw [withTriggers_eq]
      exact hrows
    refine (withTriggers_wellKept hp hd₁).putAll hp.entity hrows' (withTriggers_retabled hr) ?_
    rw [← hp.table]
    exact hasTrigger_withTriggers p d₁ .delete
  cases hr₂ : d₂.isReadOnly with
  | false => exact ends_createTriggers_of_ok hp hcolumns hr₂ hfilled
  | true =>
    have hsame : d₂ = d₁ := hro (hr.isReadOnly ▸ hr₂)
    exact ends_createTriggers hp (hsame ▸ hd₁) fun _ => hfilled

/-- Setting a table up anew keeps to everything, however this ends. -/
theorem ends_rebuild_wellKept (hd : WellKept config d) :
    Ends p.rebuild d (fun _ => WellKept config) (WellKept config) := by
  refine Action.ends_bind (ends_drop hp hd fun d₁ h₁ _ => ?_)
  rw [hp.table] at h₁
  have hgone := Database.name_ne_of_dropTable hp.isIdentifier hp.entity h₁
  have hd₂ := (hd.dropTable hp.isIdentifier hp.entity h₁).withoutTriggers (hp.table ▸ hgone)
  split_ifs
  · refine Action.ends_bind (ends_run hd₂ fun d₃ h₃ _ => ?_)
    rw [hp.table] at h₃ hd₂
    have hd₃ := hd₂.createTable hp.isIdentifier hp.entity h₃
    refine Action.ends_bind (ends_createTriggers hp hd₃ fun _ => ?_)
    have hd₄ := withTriggers_wellKept hp hd₃
    refine Action.ends_bind (ends_run hd₄ fun d₅ h₅ _ => ?_)
    rw [hp.table] at h₅
    have hd₅ := hd₄.clearTable hp.isIdentifier hp.entity h₅
    refine ends_run hd₅ fun d₆ h₆ _ => ?_
    rw [hp.table] at h₆
    obtain ⟨_, _, rows, hrows, hr⟩ := fillTable_ok hp.isIdentifier hp.entity h₆
    refine hd₅.putAll hp.entity hrows hr ?_
    have hguard := hasTrigger_withTriggers p d₃ .delete
    have hcleared := (clearTable_ok hp.isIdentifier hp.entity h₅).2.triggers
    rwa [← hp.table, hasTrigger, trigger?, hcleared]
  · exact hd₂

/-- Setting a table up keeps to everything, however this ends. -/
theorem ends_ensure_wellKept (hd : WellKept config d) :
    Ends p.ensure d (fun _ => WellKept config) (WellKept config) := by
  refine ends_ensure (fun _ => hd) hd ?create ?replace ?change ?fill ?guard
  case create =>
    refine fun _ => Action.ends_bind (ends_run hd fun d₁ h₁ _ => ?_)
    rw [hp.table] at h₁
    exact ends_fill_wellKept hp (hd.createTable hp.isIdentifier hp.entity h₁)
  case replace => exact fun _ _ _ => ends_rebuild_wellKept hp hd
  case change => exact fun _ _ _ _ hr => ends_rebuild_wellKept hp (hd.idle hr)
  case fill => exact fun _ _ _ _ hr _ => ends_fill_wellKept hp (hd.idle hr)
  case guard =>
    exact fun _ _ _ _ hr _ =>
      ends_createTriggers hp (hd.idle hr) fun _ => withTriggers_wellKept hp (hd.idle hr)

end IndexPlan

end EntityFinder
