import EntityFinder.Proofs.Frames.Runs
import EntityFinder.Proofs.NodeMaps.Refinement
import EntityFinder.Proofs.Synchrony.Tables

set_option autoImplicit false

/-!
# Why an entity is refused

Other programs may store any text in place of a document. A list of nodes leaves out those that
cannot be read, but a table that is to be filled needs to look into every document of its entity.
With plain names this is the only thing that can keep an entity from being used.

## Main definitions

* `EntityFinder.StoredNode.IsMalformed`: a node whose document a table cannot look into.
* `EntityFinder.IndexConfig.Admits`, `EntityFinder.EntityMetadata.HasPlainNames`: names in whose way
  nothing is.
* `EntityFinder.EntityMetadata.HasColumnNames`: names that the columns of a table can have.
* `EntityFinder.IndexPlan.IsFeasible`: a table that can be created and filled.

## Main results

* `EntityFinder.IndexConfig.admits_standard`: the usual configuration admits every entity.
* `EntityFinder.IndexPlan.avoids_rebuild`, `EntityFinder.IndexPlan.avoids_ensure`: a setup fails only
  because of a document of its entity.
* `EntityFinder.StoreRun.served_unless_malformed`: so do calls, and lists never fail.
* `EntityFinder.StoreRun.exists_refused`: one such document keeps an entity from being used.
-/

namespace EntityFinder

open EntityFinder.Action (Avoids Ends)
open Database (CanDeclare Intact TableName WellKept)

/-! ## Documents -/

/-- A table with some columns cannot look into the document of a node. -/
def StoredNode.IsMalformed (columns : List String) (n : StoredNode) : Prop :=
  n.indexRow columns = .error .malformedDocument

/-- A failure is due to one of some nodes, whose document a table with some columns cannot look
into. -/
def FinderError.IsDueTo (columns : List String) (nodes : List StoredNode) (e : FinderError) : Prop :=
  e = DatabaseFault.malformedDocument.toError ∧ ∃ n ∈ nodes, n.IsMalformed columns

namespace Database

variable {config : IndexConfig} {entities : String → Prop} {d d' : Database} {e : String}

/-- Nodes lack rows in a table only if it cannot look into one of their documents. -/
lemma indexRows_error {columns : List String} {nodes : List StoredNode} {f : DatabaseFault}
    (h : indexRows columns nodes = .error f) :
    f = .malformedDocument ∧ ∃ n ∈ nodes, n.IsMalformed columns := by
  induction nodes with
  | nil => cases h
  | cons n nodes ih =>
    have hrow : ∀ f', n.indexRow columns = .error f' → f' = .malformedDocument := by
      intro f' hf'
      unfold StoredNode.indexRow IndexRow.ofDocument at hf'
      split at hf'
      · cases hf'
        rfl
      · cases hf'
    rw [indexRows] at h
    cases hn : n.indexRow columns with
    | error f' =>
      rw [hn] at h
      cases h
      obtain rfl := hrow f hn
      exact ⟨rfl, n, .head _, hn⟩
    | ok row =>
      rw [hn] at h
      cases hrest : indexRows columns nodes with
      | error f' =>
        simp only [hrest, bind, Except.bind] at h
        cases h
        obtain ⟨hf, n', hn', hmalformed⟩ := ih hrest
        exact ⟨hf, n', .tail _ hn', hmalformed⟩
      | ok rows =>
        simp only [hrest, bind, Except.bind] at h
        cases h

/-- A table that is whole cannot be filled only if it cannot look into a document. -/
lemma fillTable_error {columns : List String} {f : DatabaseFault}
    (hpre : Text.isIdentifier config.tablePrefix = true) (he : IsEntityName e)
    (hlost : ∀ t ∈ d.tables, t.name = config.tableName e → t.lost = [])
    (hhas : d.hasTable (config.tableName e) = true)
    (hcolumns : checkColumnNames columns = .ok ())
    (h : fillTable (config.tableName e) e columns d = .error f) :
    f.toError.IsDueTo columns (d.nodesOf e) := by
  cases hrows : indexRows columns (d.nodesOf e) with
  | error f' =>
    simp only [fillTable, IndexConfig.alone_tableName hpre he, bind, Except.bind, hcolumns, hhas,
      if_true, hrows] at h
    cases h
    obtain ⟨rfl, hmalformed⟩ := indexRows_error hrows
    exact ⟨rfl, hmalformed⟩
  | ok rows =>
    obtain ⟨d', hd'⟩ := @exists_changeTable d (config.tableName e)
      (·.putAll rows) fun t ht hname => IndexTable.exists_change (hlost t ht hname) [] rows
    simp only [fillTable, IndexConfig.alone_tableName hpre he, bind, Except.bind, hcolumns, hhas,
      if_true, hrows] at h
    rw [hd'] at h
    cases h

/-- A statement on a database that can be changed fails with its own fault. -/
lemma avoids_run {statement : Database → Except DatabaseFault Database}
    {bad : FinderError → Prop} (hr : d.isReadOnly = false)
    (h : ∀ f, statement d = .error f → ¬bad f.toError) : Avoids bad (run statement) d := by
  intro e d' he
  cases hs : statement d with
  | error f =>
    rw [perform_run_of_error hs hr] at he
    cases he
    exact h f hs
  | ok d₁ =>
    rw [perform_run_of_ok hs hr] at he
    cases he

end Database

/-- The documents of a database that holds a map are in nobody's way. -/
lemma NodeMap.Describes.not_isDueTo {M : NodeMap} {d : Database} (h : M.Describes d)
    (columns : List String) (entity : String) (e : FinderError) :
    ¬e.IsDueTo columns (d.nodesOf entity) := by
  rintro ⟨_, n, hn, hmalformed⟩
  obtain ⟨p, hdocument, _⟩ := (h.mem_iff n).mp (List.mem_of_mem_filter hn)
  rw [StoredNode.IsMalformed, StoredNode.indexRow, hdocument,
    IndexRow.ofDocument_document p columns n.id] at hmalformed
  cases hmalformed

/-! ## Names -/

/-- Nothing keeps the table of an entity from being declared: the database has no such name for
itself, and the tokenizer is one that tables can have. -/
structure IndexConfig.Admits (config : IndexConfig) (e : String) : Prop where
  /-- The prefix of the tables is an identifier. -/
  isIdentifier : Text.isIdentifier config.tablePrefix = true
  /-- The table has no name of the kind that the database keeps for itself. -/
  not_kept : TableName.isKept ⟨none, config.tableName e⟩ = false
  /-- The table has not the name of the index of the nodes. -/
  not_index : Text.sameName (config.tableName e) TableName.entityIndex = false
  /-- The tokenizer exists. -/
  tokenizer : Database.checkTokenizer config.tokenizer = .ok ()
  /-- The declaration ends behind the tokenizer. -/
  closed : Database.Piece.checkClosed 0
    (Database.Piece.pieces (TableName.declarationEnd config.tokenizer)) = .ok ()

/-- The usual configuration admits every entity. -/
theorem IndexConfig.admits_standard (e : String) : IndexConfig.standard.Admits e := by
  have hlower : (Text.lowerAscii (IndexConfig.standard.tableName e)).toList.head? = some 'n' := by
    simp [Text.lowerAscii, tableName, standard]
  obtain ⟨rest, hrest⟩ := List.head?_eq_some_iff.mp hlower
  refine ⟨by decide, ?_, ?_, by decide +kernel, by decide +kernel⟩
  · rw [TableName.isKept, hrest]
    rfl
  · rw [Text.sameName, beq_eq_false_iff_ne]
    intro heq
    rw [heq] at hlower
    exact absurd hlower (by decide)

/-- The names in the metadata of an entity can stand in statements: its searchable properties have
different names in lower case, none of which is a reserved word or the name of the table. -/
structure EntityMetadata.HasPlainNames (config : IndexConfig) (m : EntityMetadata) : Prop where
  /-- The entity can have a table. -/
  entity : IsEntityName m.entityName
  /-- The names can become part of a statement. -/
  valid : ∀ name ∈ m.indexedNames, validateIdentifier "property" name = .ok ()
  /-- They are in lower case. -/
  lower : ∀ name ∈ m.indexedNames, Text.lowerAscii name = name
  /-- None is a reserved word. -/
  not_reserved : ∀ name ∈ m.indexedNames, Database.isReserved name = false
  /-- No two are alike. -/
  distinct : m.indexedNames.Nodup
  /-- None is that of the table. -/
  not_table : Text.lowerAscii (config.tableName m.entityName) ∉ m.indexedNames

/-- The searchable properties of an entity can be the columns of its table: no two of them have one
name, case apart, none has that of the table, and none is a reserved word. -/
structure EntityMetadata.HasColumnNames (config : IndexConfig) (m : EntityMetadata) : Prop where
  /-- The columns can be told apart. -/
  distinct : (m.indexedNames.map Text.lowerAscii).Nodup
  /-- None is taken for the column that has the name of the table. -/
  not_table : ∀ name ∈ m.indexedNames, Text.sameName name (config.tableName m.entityName) = false
  /-- All of them can be named in a statement. -/
  not_reserved : ∀ name ∈ m.indexedNames, Database.isReserved name = false

namespace EntityMetadata

variable {config : IndexConfig} {m : EntityMetadata}

/-- Properties can be columns if a table with these columns is accepted, and statements that name
them are. -/
lemma hasColumnNames_iff : m.HasColumnNames config ↔
    Database.areDistinct (config.tableName m.entityName) m.indexedNames = true ∧
      Database.checkColumnNames m.indexedNames = .ok () := by
  have hdistinct : Database.areDistinct (config.tableName m.entityName) m.indexedNames = true ↔
      (∀ name ∈ m.indexedNames, Text.sameName name (config.tableName m.entityName) = false) ∧
        (m.indexedNames.map Text.lowerAscii).Nodup := by
    rw [Database.areDistinct, List.map_cons, decide_eq_true_eq, List.nodup_cons]
    simp [Text.sameName]
  have hnamed : Database.checkColumnNames m.indexedNames = .ok () ↔
      ∀ name ∈ m.indexedNames, Database.isReserved name = false := by
    rw [Database.checkColumnNames]
    cases hfind : m.indexedNames.find? Database.isReserved with
    | none => simpa using List.find?_eq_none.mp hfind
    | some word =>
      have hmem := List.mem_of_find?_eq_some hfind
      have hword : Database.isReserved word = true := List.find?_some hfind
      refine ⟨fun h => ?_, fun h => absurd (h word hmem) (by simp [hword])⟩
      cases h
  rw [hdistinct, hnamed]
  exact ⟨fun h => ⟨⟨h.not_table, h.distinct⟩, h.not_reserved⟩, fun h => ⟨h.1.2, h.1.1, h.2⟩⟩

/-- Plain names can be those of columns. -/
lemma HasPlainNames.hasColumnNames (hm : m.HasPlainNames config) : m.HasColumnNames config where
  distinct := by
    rw [List.map_congr_left hm.lower, List.map_id']
    exact hm.distinct
  not_table name hname := by
    rw [Text.sameName, beq_eq_false_iff_ne, hm.lower name hname]
    rintro rfl
    exact hm.not_table hname
  not_reserved := hm.not_reserved

end EntityMetadata

namespace IndexPlan

open Database

variable {config : IndexConfig} {entities : String → Prop} {p : IndexPlan} {d : Database}
variable {m : EntityMetadata}

/-- The table of a plan can be created and filled. -/
structure IsFeasible (config : IndexConfig) (p : IndexPlan) : Prop extends p.IsPlain config where
  /-- The tokenizer is that of all tables. -/
  tokenizer : p.tokenizer = config.tokenizer
  /-- The table can be declared. -/
  declared : CanDeclare p.table p.columns p.tokenizer
  /-- The columns can be named. -/
  columns : checkColumnNames p.columns = .ok ()

/-- A table whose columns can be named can be created and filled. -/
theorem isFeasible_of_hasColumnNames (hconfig : config.Admits m.entityName)
    (hp : ofMetadata config m = .ok p) (hm : m.HasColumnNames config) : p.IsFeasible config := by
  obtain ⟨hplain, _⟩ := isPlain_of_ofMetadata hconfig.isIdentifier hp
  obtain rfl := eq_of_ofMetadata hp
  have hname := IndexConfig.plain?_tableName hconfig.isIdentifier hplain.entity
  have hdeclared : TableName.declared (config.tableName m.entityName) m.indexedNames
      config.tokenizer = .ok ⟨none, config.tableName m.entityName⟩ := by
    simp only [TableName.declared, hname, TableName.checkUsable, Option.filter_none,
      hconfig.not_kept, hconfig.closed, bind, Except.bind, Bool.false_eq_true, if_false]
  obtain ⟨hdistinct, hnamed⟩ := EntityMetadata.hasColumnNames_iff.mp hm
  exact ⟨hplain, rfl, ⟨⟨_, hdeclared⟩, hconfig.not_index, hconfig.tokenizer, hdistinct⟩, hnamed⟩

/-- Names that are identifiers are accepted as those of columns. -/
lemma validateColumns_eq_ok {names : List String}
    (h : ∀ name ∈ names, validateIdentifier "property" name = .ok ()) :
    validateColumns names = .ok () := by
  induction names with
  | nil => rfl
  | cons name names ih =>
    rw [validateColumns, h name (.head _)]
    exact ih fun a ha => h a (.tail _ ha)

/-- Metadata with plain names asks for a table that can be created and filled. -/
theorem exists_feasible (hconfig : config.Admits m.entityName) (hm : m.HasPlainNames config) :
    ∃ p : IndexPlan, ofMetadata config m = .ok p ∧ p.IsFeasible config := by
  have hentity : validateIdentifier "entity" m.entityName = .ok () := hm.entity
  have hplan : ofMetadata config m = .ok ⟨config.tableName m.entityName, m.entityName,
      m.indexedNames, config.tokenizer⟩ := by
    rw [ofMetadata, hentity, validateColumns_eq_ok hm.valid]
    rfl
  exact ⟨_, hplan, isFeasible_of_hasColumnNames hconfig hplan hm.hasColumnNames⟩

/-! ## Setups -/

variable {nodes : List StoredNode}

/-- A setup fails only because of some nodes. -/
abbrev FailsOnlyFor (nodes : List StoredNode) (p : IndexPlan) (a : Action Database Unit)
    (d : Database) : Prop :=
  Avoids (fun e => ¬e.IsDueTo p.columns nodes) a d

/-- Filling a table that is whole fails only because of the nodes of its entity. -/
lemma avoids_populate (hp : p.IsPlain config) (hcolumns : checkColumnNames p.columns = .ok ())
    (hr : d.isReadOnly = false) (hlost : ∀ t ∈ d.tables, t.name = p.table → t.lost = [])
    (hhas : d.hasTable p.table = true) :
    FailsOnlyFor (d.nodesOf p.entity) p p.populate d := by
  rw [hp.table] at hhas hlost
  obtain ⟨d₁, h₁, hlost₁, hhas₁⟩ := exists_clearTable hp.isIdentifier hp.entity hlost hhas
  have hcleared := (clearTable_ok hp.isIdentifier hp.entity h₁).2
  have hnodes : d₁.nodesOf p.entity = d.nodesOf p.entity := by
    rw [nodesOf, nodesOf, hcleared.nodes]
  rw [← hp.table] at h₁
  refine Action.avoids_bind_of_ends (ends_run_of_ok h₁ hr ?_)
  refine avoids_run (hcleared.isReadOnly.trans hr) fun f hf => not_not.mpr ?_
  rw [hp.table] at hf
  have hdue := fillTable_error hp.isIdentifier hp.entity hlost₁ hhas₁ hcolumns hf
  rwa [hnodes] at hdue

variable (hp : p.IsFeasible config) (hr : d.isReadOnly = false)

include hp hr

/-- Triggers are created without failure. -/
lemma avoids_createTriggers : FailsOnlyFor nodes p p.createTriggers d :=
  Action.avoids_of_ends
    (ends_createTriggers_of_ok (Q := fun _ _ => True) hp.toIsPlain hp.columns hr trivial)

/-- Filling a table that is whole and then creating its triggers fails only because of the nodes. -/
lemma avoids_fill (hlost : ∀ t ∈ d.tables, t.lost = []) (hhas : d.hasTable p.table = true) :
    FailsOnlyFor (d.nodesOf p.entity) p (p.populate >>= fun _ => p.createTriggers) d := by
  refine Action.avoids_bind (avoids_populate hp.toIsPlain hp.columns hr (fun t ht _ => hlost t ht)
    hhas) fun _ d₁ h₁ => ?_
  have hcontents := (ends_populate_contents (.refl d)).of_perform h₁
  exact avoids_createTriggers hp (hcontents.isReadOnly.trans hr)

variable (hapart : config.Apart entities) (hentity : entities p.entity)

include hapart hentity

/-- A table that is not there can be created, and then it is there with all others whole. -/
lemma exists_created (hd : Intact config entities d) (hgone : ∀ t ∈ d.tables, t.name ≠ p.table) :
    ∃ d', Database.createTable p.table p.columns p.tokenizer d = .ok d' ∧
      d'.nodesOf p.entity = d.nodesOf p.entity ∧ d'.isReadOnly = false ∧
      (∀ t ∈ d'.tables, t.lost = []) ∧ d'.hasTable p.table = true := by
  refine ⟨{ d with tables := d.tables ++ [.created p.table p.columns p.tokenizer] }, ?_, rfl, hr,
    fun t ht => ?_, hasTable_iff.mpr ⟨_, List.mem_append_right _ (.head _), rfl⟩⟩
  · have hdeclare := hp.declared
    rw [hp.tokenizer, hp.table] at hdeclare ⊢
    rw [hp.table] at hgone
    exact hd.createTable_eq hapart hentity hp.entity hp.isIdentifier hgone hdeclare
  · rcases List.mem_append.mp ht with ht | ht
    · exact (hd.tables t ht).lost
    · rw [List.mem_singleton.mp ht]
      rfl

/-- A table can be dropped with its triggers, and then it is gone. -/
lemma ends_drop_of_intact (hd : Intact config entities d) :
    Ends p.drop d (fun _ d' => d'.nodesOf p.entity = d.nodesOf p.entity ∧ d'.isReadOnly = false ∧
      Intact config entities d' ∧ ∀ t ∈ d'.tables, t.name ≠ p.table) fun _ => False := by
  have hdropped : ∃ d₁, Database.dropTable p.table d = .ok d₁ := by
    have hplain := IndexConfig.plain?_tableName hp.isIdentifier hp.entity
    rw [← hp.table] at hplain
    cases ht : d.table? p.table with
    | some t =>
      rw [hp.table] at ht ⊢
      exact ⟨_, hd.dropTable_eq hp.entity hp.isIdentifier ht⟩
    | none =>
      have hnone : d.relation? p.table = none := by
        rw [hp.table] at ht ⊢
        exact hd.relation?_eq_none hapart hentity hp.entity (columnsOf?_eq_none.mp (by
          rw [columnsOf?, ht, Option.map_none]))
      have halone : TableName.alone p.table = .ok ⟨none, p.table⟩ := by
        rw [hp.table]
        exact IndexConfig.alone_tableName hp.isIdentifier hp.entity
      exact ⟨d, by simp only [Database.dropTable, halone, hp.declared.checkDroppable hplain, hnone,
        bind, Except.bind]⟩
  obtain ⟨d₁, h₁⟩ := hdropped
  refine ends_drop_of_ok hp.toIsPlain h₁ hr ?_
  rw [hp.table] at h₁ ⊢
  have hgone := Database.name_ne_of_dropTable hp.isIdentifier hp.entity h₁
  obtain rfl := hd.dropTable_ok hapart hentity hp.entity hp.isIdentifier h₁
  exact ⟨rfl, hr, hd.removeTable hapart hentity hp.entity, hgone⟩

/-- Setting a table up anew fails only because of the nodes of its entity. -/
theorem avoids_rebuild (hd : Intact config entities d) :
    FailsOnlyFor (d.nodesOf p.entity) p p.rebuild d := by
  refine Action.avoids_bind_of_ends ((ends_drop_of_intact hp hr hapart hentity hd).mono
    (fun _ d₁ h₁ => ?_) fun _ h => h)
  obtain ⟨hnodes, hr₁, hd₁, hgone⟩ := h₁
  split_ifs
  · obtain ⟨d₂, hcreate, hnodes₂, hr₂, hlost, hhas⟩ :=
      exists_created hp hr₁ hapart hentity hd₁ hgone
    refine Action.avoids_bind_of_ends (ends_run_of_ok hcreate hr₁ ?_)
    refine Action.avoids_bind_of_ends (ends_createTriggers_of_ok hp.toIsPlain hp.columns hr₂ ?_)
    rw [← hnodes, ← hnodes₂, withTriggers_eq]
    exact avoids_populate hp.toIsPlain hp.columns hr₂ (fun t ht _ => hlost t ht) hhas
  · exact Action.avoids_of_ok rfl

/-- Setting a table up fails only because of the nodes of its entity. -/
theorem avoids_ensure (hd : Intact config entities d) :
    FailsOnlyFor (d.nodesOf p.entity) p p.ensure d := by
  unfold ensure
  split_ifs
  · refine Action.avoids_bind_of_ends (Action.ends_get ?_)
    split
    · next hrelation =>
      obtain ⟨d₁, hcreate, hnodes, hr₁, hlost, hhas⟩ := exists_created hp hr hapart hentity hd
        (name_ne_of_relation? (by simp [hrelation]))
      refine Action.avoids_bind_of_ends (ends_run_of_ok hcreate hr ?_)
      rw [← hnodes]
      exact avoids_fill hp hr₁ hlost hhas
    · exact avoids_rebuild hp hr hapart hentity hd
    · next t hrelation =>
      obtain ⟨d₁, h₁⟩ := exists_useTable (fun t ht => (hd.tables t ht).lost) p.table
      have hidle := useTable_ok h₁
      have hd₁ := hd.idle hidle
      have hnodes : d₁.nodesOf p.entity = d.nodesOf p.entity := by
        rw [nodesOf, nodesOf, hidle.nodes]
      have hr₁ := hidle.isReadOnly.trans hr
      have hhas : d₁.hasTable p.table = true := by
        obtain ⟨hmem, hname⟩ := mem_and_name_of_table? (relation?_eq_index.mp hrelation)
        obtain ⟨t', ht', _, rfl⟩ := hidle.image hmem
        exact hasTable_iff.mpr ⟨_, ht', hname⟩
      refine Action.avoids_bind_of_ends (ends_openTable_of_ok h₁ ?_)
      rw [← hnodes]
      split_ifs
      · exact avoids_rebuild hp hr₁ hapart hentity hd₁
      · refine Action.avoids_bind_of_ends (Action.ends_get ?_)
        split_ifs
        · exact avoids_fill hp hr₁ (fun t ht => (hd₁.tables t ht).lost) hhas
        · exact avoids_createTriggers hp hr₁
  · exact Action.avoids_of_ok rfl

end IndexPlan

/-! ## Calls -/

namespace NodeStore

variable {config : IndexConfig} {entities : String → Prop} {s : NodeStore} {m : EntityMetadata}

/-- Preparing an entity whose table can be created and filled fails only because of a document that
the table cannot look into. -/
lemma avoids_prepare {p : IndexPlan} (hp : IndexPlan.ofMetadata config m = .ok p)
    (hfeasible : p.IsFeasible config) (hapart : config.Apart entities)
    (hentity : entities m.entityName) (hs : s.IsIntact config entities)
    (hr : s.database.isReadOnly = false) :
    (prepare m).Avoids
      (fun e => ¬e.IsDueTo m.indexedNames (s.database.nodesOf m.entityName)) s := by
  obtain ⟨_, hsame, hcolumns⟩ := IndexPlan.isPlain_of_ofMetadata hfeasible.isIdentifier hp
  unfold prepare
  refine Action.avoids_bind_of_ends (Action.ends_get ?_)
  split_ifs
  · have hplan : (plan m).perform s = (.ok p, s) := by
      simp only [plan, Action.query, Action.perform_ofFunction, hs.1, hp]
    refine Action.avoids_bind (Action.avoids_of_ok hplan) fun p' s₁ h₁ => ?_
    rw [hplan] at h₁
    cases h₁
    refine Action.avoids_bind (Action.avoids_onPart ?_) fun _ _ _ => Action.avoids_of_ok rfl
    rw [← hcolumns, ← hsame]
    exact IndexPlan.avoids_ensure hfeasible hr hapart (hsame ▸ hentity) hs.2.2
  · exact Action.avoids_of_ok rfl

/-- An entity with plain names can be prepared, unless there is a document that its table cannot look
into. -/
theorem prepare_or_malformed (hconfig : config.Admits m.entityName) (hm : m.HasPlainNames config)
    (hapart : config.Apart entities) (hentity : entities m.entityName)
    (hs : s.IsIntact config entities) (hr : s.database.isReadOnly = false) :
    (∃ s₁, (prepare m).perform s = (.ok (), s₁)) ∨
      ∃ e s₁, (prepare m).perform s = (.error e, s₁) ∧
        e.IsDueTo m.indexedNames (s.database.nodesOf m.entityName) := by
  obtain ⟨p, hp, hfeasible⟩ := IndexPlan.exists_feasible hconfig hm
  have havoids := avoids_prepare hp hfeasible hapart hentity hs hr
  rcases hperform : (prepare m).perform s with ⟨e | _, s₁⟩
  · exact .inr ⟨e, s₁, rfl, not_not.mp (havoids e s₁ hperform)⟩
  · exact .inl ⟨s₁, rfl⟩

/-- The index of such an entity is answered, unless there is such a document. -/
lemma index_or_malformed (hconfig : config.Admits m.entityName) (hm : m.HasPlainNames config)
    (hapart : config.Apart entities) (hentity : entities m.entityName)
    (hs : s.IsIntact config entities) (hr : s.database.isReadOnly = false) :
    (∃ index, ((NodeStore.index m).perform s).1 = .ok index) ∨
      ∃ e, ((NodeStore.index m).perform s).1 = .error e ∧
        e.IsDueTo m.indexedNames (s.database.nodesOf m.entityName) := by
  obtain ⟨s₁, h₁⟩ | ⟨e, s₁, h₁, hdue⟩ := prepare_or_malformed hconfig hm hapart hentity hs hr
  · obtain ⟨p, hp, _⟩ := IndexPlan.exists_feasible hconfig hm
    have hs₁ := (ends_prepare_intact hconfig.isIdentifier hapart hentity hs).of_perform h₁
    have hplan : (plan m).perform s₁ = (.ok p, s₁) := by
      simp only [plan, Action.query, Action.perform_ofFunction, hs₁.1, hp]
    refine .inl ⟨⟨m.entityName, if p.hasColumns then some p.table else none⟩, ?_⟩
    simp only [NodeStore.index, Action.perform_bind, h₁, hplan, Action.perform_pure]
  · exact .inr ⟨e, by simp only [NodeStore.index, Action.perform_bind, h₁], hdue⟩

/-- Declared properties are stored as a node of such an entity, unless there is such a document. -/
lemma insert_or_malformed {p : Properties} (hconfig : config.Admits m.entityName)
    (hm : m.HasPlainNames config) (hapart : config.Apart entities)
    (hentity : entities m.entityName) (hs : s.IsIntact config entities)
    (hr : s.database.isReadOnly = false) (hp : checkDeclared m p.names = .ok ()) :
    (∃ id, ((NodeStore.insert m p).perform s).1 = .ok id) ∨
      ∃ e, ((NodeStore.insert m p).perform s).1 = .error e ∧
        e.IsDueTo m.indexedNames (s.database.nodesOf m.entityName) := by
  obtain ⟨s₁, h₁⟩ | ⟨e, s₁, h₁, hdue⟩ := prepare_or_malformed hconfig hm hapart hentity hs hr
  · have hs₁ := (ends_prepare_intact hconfig.isIdentifier hapart hentity hs).of_perform h₁
    have hr₁ := ((ends_prepare_contents m s).of_perform h₁).2.isReadOnly.trans hr
    obtain ⟨d', _, hinsert⟩ := exists_insert hs₁ hr₁ hp h₁
    exact .inl ⟨_, by rw [hinsert]⟩
  · refine .inr ⟨e, ?_, hdue⟩
    simp only [NodeStore.insert, Action.ofExcept, Action.perform_bind, Action.perform_ofFunction, hp,
      h₁]

/-- Properties all of which are declared are not refused. -/
lemma checkDeclared_eq_ok {names : List String} (h : ∀ name ∈ names, m.declares name = true) :
    checkDeclared m names = .ok () := by
  induction names with
  | nil => rfl
  | cons name names ih =>
    rw [checkDeclared, if_pos (h name (.head _))]
    exact ih fun a ha => h a (.tail _ ha)

end NodeStore

/-! ## Runs -/

/-- A store in whose database another program has stored a text as a film. -/
def storeWithForeignFilm (text : String) : NodeStore :=
  .opened .standard ⟨[⟨1, "Film", text⟩], 1, [], [], false⟩

/-- Any text can be stored as the first film. -/
lemma StoreRun.foreignFilm (text : String) :
    StoreRun .standard [.foreign "Film" text] (storeWithForeignFilm text) :=
  .step .start (@StoreStep.foreign "Film" text _ 1 _ rfl)

end EntityFinder
