import EntityFinder.Proofs.Upkeep.Tables

set_option autoImplicit false

/-!
# The columns of tables

Setting a table up gives it the columns that were asked for, whatever stood under its name before.

## Main definitions

* `EntityFinder.Database.columnsOf?`, `EntityFinder.Database.shape`: the columns of a table, and of
  all tables.

## Main results

* `EntityFinder.IndexPlan.ends_rebuild_columns`, `EntityFinder.IndexPlan.ends_ensure_columns`: a
  table that is set up has the columns that were asked for.
-/

namespace EntityFinder

open EntityFinder.Action (Ends)
open Database (WellKept)

/-! ## Columns -/

namespace Database

/-- The columns of a table, if there is such a table. -/
def columnsOf? (d : Database) (table : String) : Option (List String) :=
  (d.table? table).map (·.columns)

/-- The tables with their columns. -/
def shape (d : Database) : List (String × List String) :=
  d.tables.map fun t => (t.name, t.columns)

variable {config : IndexConfig} {d d' : Database} {table : String}

/-- A table has columns if it exists. -/
lemma columnsOf?_eq_some {columns : List String} :
    d.columnsOf? table = some columns ↔ ∃ t, d.table? table = some t ∧ t.columns = columns :=
  Option.map_eq_some_iff

/-- A table without columns does not exist. -/
lemma columnsOf?_eq_none : d.columnsOf? table = none ↔ ∀ t ∈ d.tables, t.name ≠ table := by
  simp [columnsOf?, table?]

/-- A table that exists has columns. -/
lemma columnsOf?_ne_none (h : d.hasTable table = true) : d.columnsOf? table ≠ none := by
  unfold hasTable at h
  obtain ⟨t, ht⟩ := Option.isSome_iff_exists.mp h
  rw [columnsOf?, ht]
  exact Option.some_ne_none _

/-- The columns of a table are told by the shape of the database. -/
lemma columnsOf?_eq (d : Database) (table : String) :
    d.columnsOf? table = (d.shape.find? (·.1 == table)).map (·.2) := by
  rw [shape, List.find?_map, Option.map_map]
  rfl

/-- Databases of one shape have the same columns. -/
lemma columnsOf?_congr (h : d'.shape = d.shape) (table : String) :
    d'.columnsOf? table = d.columnsOf? table := by
  rw [columnsOf?_eq, columnsOf?_eq, h]

/-- A table that was created where none was has its columns. -/
lemma columnsOf?_created {columns : List String} {tokenizer : String}
    (h : ∀ t ∈ d.tables, t.name ≠ table) :
    ({ d with tables := d.tables ++ [.created table columns tokenizer] } : Database).columnsOf?
      table = some columns := by
  have hold : d.tables.find? (·.name == table) = none := by simpa using h
  simp [columnsOf?, table?, List.find?_append, hold, IndexTable.created]

/-- The shape stays if every table keeps its name and its columns. -/
lemma Retabled.shape_eq {R : IndexTable → IndexTable → Prop} (h : Retabled R d d')
    (hR : ∀ t t', R t t' → t'.name = t.name ∧ t'.columns = t.columns) : d'.shape = d.shape :=
  map_eq_of_forall₂ h.tables fun t t' ht => Prod.ext (hR t t' ht).1 (hR t t' ht).2

/-- A change of the rows of a table keeps the shape. -/
lemma Retabled.shape_of_at {name : String} {R : IndexTable → IndexTable → Prop}
    (h : Retabled (At name R) d d')
    (hR : ∀ t t', R t t' → t'.name = t.name ∧ t'.columns = t.columns) : d'.shape = d.shape :=
  h.shape_eq fun _ _ ht => ht.elim (fun _ => ⟨rfl, rfl⟩) hR

/-- Taking tables into use keeps the shape. -/
lemma Retabled.shape_of_idle (h : Retabled Idle d d') : d'.shape = d.shape :=
  h.shape_eq fun _ _ ⟨_, ht⟩ => ht ▸ ⟨rfl, rfl⟩

/-- A table that was found has its columns also when tables have been taken into use. -/
lemma columnsOf?_of_idle {t : IndexTable} (hr : Retabled Idle d d')
    (h : d.relation? table = some (.index t)) : d'.columnsOf? table = some t.columns := by
  rw [columnsOf?_congr hr.shape_of_idle, columnsOf?_eq_some]
  exact ⟨t, relation?_eq_index.mp h, rfl⟩

section

variable {e : String} (hpre : Text.isIdentifier config.tablePrefix = true)
  (he : IsEntityName e)

include hpre he

/-- Where there was no table, one that is created has its columns, or there is still none. -/
lemma columnsOf?_createTable {columns : List String} {tokenizer : String}
    (hnone : d.columnsOf? (config.tableName e) = none)
    (h : createTable (config.tableName e) columns tokenizer d = .ok d') :
    d'.columnsOf? (config.tableName e) = none ∨
      d'.columnsOf? (config.tableName e) = some columns := by
  obtain ⟨_, rfl⟩ | ⟨_, _, rfl⟩ := createTable_ok hpre he h
  · exact .inl hnone
  · exact .inr (columnsOf?_created (columnsOf?_eq_none.mp hnone))

/-- Clearing a table keeps the shape. -/
lemma shape_clearTable (h : clearTable (config.tableName e) d = .ok d') : d'.shape = d.shape :=
  (clearTable_ok hpre he h).2.shape_of_at fun t t' ht => by
    obtain ⟨_, rfl⟩ := IndexTable.clear_ok ht
    exact ⟨rfl, rfl⟩

/-- Filling a table keeps the shape. -/
lemma shape_fillTable {entity : String} {columns : List String}
    (h : fillTable (config.tableName e) entity columns d = .ok d') : d'.shape = d.shape := by
  obtain ⟨_, _, rows, _, hr⟩ := fillTable_ok hpre he h
  refine hr.shape_of_at fun t t' ht => ?_
  obtain ⟨_, rfl⟩ := IndexTable.putAll_ok ht
  exact ⟨rfl, rfl⟩

end

end Database

/-! ## Setting up -/

namespace IndexPlan

open Database

variable {config : IndexConfig} {p : IndexPlan} {d : Database} (hp : p.IsPlain config)

include hp

omit hp in
/-- Triggers do not change the shape. -/
lemma shape_withTriggers (d : Database) : (p.withTriggers d).shape = d.shape := by
  rw [withTriggers_eq]
  rfl

/-- A table that could be filled exists. -/
lemma ends_populate_columns {Q : Unit → Database → Prop}
    (h : d.columnsOf? p.table = none ∨ d.columnsOf? p.table = some p.columns)
    (hQ : ∀ d', d'.columnsOf? p.table = some p.columns → Q () d') :
    Ends p.populate d Q fun _ => True := by
  refine Action.ends_bind (ends_run trivial fun d₁ h₁ _ => ?_)
  refine ends_run trivial fun d₂ h₂ _ => hQ d₂ ?_
  rw [hp.table] at h h₁ h₂ ⊢
  rw [columnsOf?_congr (shape_fillTable hp.isIdentifier hp.entity h₂),
    columnsOf?_congr (shape_clearTable hp.isIdentifier hp.entity h₁)]
  exact h.resolve_left (columnsOf?_ne_none (clearTable_ok hp.isIdentifier hp.entity h₁).1)

/-- A table that was set up anew has the columns that were asked for. -/
theorem ends_rebuild_columns (hcolumns : p.hasColumns = true) :
    Ends p.rebuild d (fun _ d' => d'.columnsOf? p.table = some p.columns) fun _ => True := by
  refine Action.ends_bind (ends_drop hp trivial fun d₁ h₁ _ => ?_)
  rw [hp.table] at h₁
  have hgone : (d₁.withoutTriggers p.table).columnsOf? p.table = none := by
    rw [columnsOf?_eq_none, hp.table]
    exact fun t ht => name_ne_of_dropTable hp.isIdentifier hp.entity h₁ t ht
  rw [if_pos hcolumns]
  refine Action.ends_bind (ends_run trivial fun d₂ h₂ _ => ?_)
  refine Action.ends_bind (ends_createTriggers hp trivial fun _ => ?_)
  refine ends_populate_columns hp ?_ fun _ h => h
  rw [columnsOf?_congr (shape_withTriggers _)]
  rw [hp.table] at h₂ hgone ⊢
  exact columnsOf?_createTable hp.isIdentifier hp.entity hgone h₂

/-- A table that was set up has the columns that were asked for, whatever there was before. -/
theorem ends_ensure_columns (hcolumns : p.hasColumns = true) :
    Ends p.ensure d (fun _ d' => d'.columnsOf? p.table = some p.columns) fun _ => True := by
  have htriggers : ∀ d', d'.columnsOf? p.table = some p.columns →
      Ends p.createTriggers d' (fun _ d' => d'.columnsOf? p.table = some p.columns)
        fun _ => True := by
    intro d' h
    refine ends_createTriggers hp trivial fun _ => ?_
    rwa [columnsOf?_congr (shape_withTriggers _)]
  refine ends_ensure (fun hnone => ?idle) trivial ?create ?replace ?change ?fill ?guard
  case idle =>
    rw [hcolumns] at hnone
    cases hnone
  case create =>
    refine fun hrelation => Action.ends_bind (ends_run trivial fun d₁ h₁ _ => ?_)
    refine Action.ends_bind (ends_populate_columns hp ?_ htriggers)
    have hnone : d.columnsOf? p.table = none :=
      columnsOf?_eq_none.mpr (name_ne_of_relation? (by simp [hrelation]))
    rw [hp.table] at h₁ hnone ⊢
    exact columnsOf?_createTable hp.isIdentifier hp.entity hnone h₁
  case replace => exact fun _ _ _ => ends_rebuild_columns hp hcolumns
  case change => exact fun _ _ _ _ _ => ends_rebuild_columns hp hcolumns
  case fill =>
    intro t hrelation hsame d₁ hr _
    have hopened := hsame ▸ columnsOf?_of_idle hr hrelation
    exact Action.ends_bind (ends_populate_columns hp (.inr hopened) htriggers)
  case guard =>
    exact fun t hrelation hsame d₁ hr _ => htriggers d₁ (hsame ▸ columnsOf?_of_idle hr hrelation)

end IndexPlan

end EntityFinder
