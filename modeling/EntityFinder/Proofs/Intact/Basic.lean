import EntityFinder.Proofs.Synchrony.Basic

set_option autoImplicit false

/-!
# Intact databases

As long as no table has the name of a part of another one, nothing goes missing from a database: the
tables are whole and could be created once more, and every trigger leads to a table with its columns.
In such a database a change of the nodes can fail only because of the document that it brings along.

## Main definitions

* `EntityFinder.Database.CanDeclare`: a table that can be created where nothing is in its way.
* `EntityFinder.Database.Intact`: nothing is missing from a database.

## Main results

* `EntityFinder.Database.Intact.exists_ready`: all triggers can be made ready.
* `EntityFinder.Database.Intact.exists_insertNode`, `EntityFinder.Database.Intact.exists_updateNode`,
  `EntityFinder.Database.Intact.exists_deleteNode`: when the nodes can be changed.
-/

namespace EntityFinder.Database

/-! ## Tables and triggers -/

/-- A table can be declared, and may be created unless something stands under one of its names. -/
structure CanDeclare (table : String) (columns : List String) (tokenizer : String) : Prop where
  /-- The declaration can be read. -/
  declared : ∃ n, TableName.declared table columns tokenizer = .ok n
  /-- The name is not that of the index of the nodes. -/
  not_index : Text.sameName table TableName.entityIndex = false
  /-- The tokenizer is one that a table can have. -/
  tokenizer : checkTokenizer tokenizer = .ok ()
  /-- The columns can be told apart. -/
  columns : areDistinct table columns = true

/-- A table that belongs to one of some entities, is whole, and could be created once more. -/
structure IsIntact (config : IndexConfig) (entities : String → Prop) (t : IndexTable) : Prop where
  /-- It has the name of the table of an entity. -/
  named : ∃ e, entities e ∧ IsEntityName e ∧ t.name = config.tableName e
  /-- It has lost no part. -/
  lost : t.lost = []
  /-- It can be declared. -/
  declared : CanDeclare t.name t.columns config.tokenizer

/-- Nothing is missing from a database. -/
structure Intact (config : IndexConfig) (entities : String → Prop) (d : Database) : Prop where
  /-- The tables are intact. -/
  tables : ∀ t ∈ d.tables, IsIntact config entities t
  /-- A trigger leads to a table with its columns, and these can be named. -/
  triggers : ∀ t ∈ d.triggers, ∃ table ∈ d.tables, table.name = t.table ∧
    table.columns = t.columns ∧ checkColumnNames t.columns = .ok ()

variable {config : IndexConfig} {entities : String → Prop} {d d' : Database}

/-- A table that has lost nothing can be taken into use. -/
lemma exists_useTable (hlost : ∀ t ∈ d.tables, t.lost = []) (name : String) :
    ∃ d', d.useTable name = .ok d' :=
  exists_changeTable fun t ht _ => IndexTable.exists_use (hlost t ht)

namespace Intact

/-! ## What keeps a database intact -/

/-- Nothing is missing from an empty database. -/
lemma empty (config : IndexConfig) (entities : String → Prop) :
    Intact config entities Database.empty where
  tables := by simp [Database.empty]
  triggers := by simp [Database.empty]

/-- Tables may get other rows and may be taken into use. -/
lemma retabled {R : IndexTable → IndexTable → Prop} (h : Intact config entities d)
    (hd : Retabled R d d')
    (hR : ∀ t t', R t t' → t'.name = t.name ∧ t'.columns = t.columns ∧ t'.lost = t.lost) :
    Intact config entities d' where
  tables t' ht' := by
    obtain ⟨t, ht, htt'⟩ := hd.origin ht'
    obtain ⟨hname, hcolumns, hlost⟩ := hR t t' htt'
    have hintact := h.tables t ht
    refine ⟨?_, hlost.trans hintact.lost, ?_⟩
    · rw [hname]
      exact hintact.named
    · rw [hname, hcolumns]
      exact hintact.declared
  triggers t ht := by
    rw [hd.triggers] at ht
    obtain ⟨table, htable, hname, hcolumns, hcheck⟩ := h.triggers t ht
    obtain ⟨table', htable', hR'⟩ := hd.image htable
    obtain ⟨hname', hcolumns', _⟩ := hR table table' hR'
    exact ⟨table', htable', hname'.trans hname, hcolumns'.trans hcolumns, hcheck⟩

/-- Tables may be taken into use and out of it. -/
lemma idle (h : Intact config entities d) (hd : Retabled Idle d d') : Intact config entities d' :=
  h.retabled hd fun t t' ht => by
    obtain ⟨_, rfl⟩ := ht
    exact ⟨rfl, rfl, rfl⟩

/-- The table with a name may get other rows. -/
lemma retabled_at {name : String} {R : IndexTable → IndexTable → Prop}
    (h : Intact config entities d) (hd : Retabled (At name R) d d')
    (hR : ∀ t t', R t t' → ∃ rows k, t' = { t with rows, segments := k }) :
    Intact config entities d' :=
  h.retabled hd fun t t' ht => by
    refine ht.elim (S := fun t t' => t'.name = t.name ∧ t'.columns = t.columns ∧ t'.lost = t.lost)
      (fun _ => ⟨rfl, rfl, rfl⟩) fun t t' ht => ?_
    obtain ⟨_, _, rfl⟩ := hR t t' ht
    exact ⟨rfl, rfl, rfl⟩

/-- Nodes, counter and access do not matter. -/
lemma of_eq (h : Intact config entities d) (htables : d'.tables = d.tables)
    (htriggers : d'.triggers = d.triggers) : Intact config entities d' where
  tables := by
    rw [htables]
    exact h.tables
  triggers := by
    rw [htables, htriggers]
    exact h.triggers

/-- What stands under the name of a table is no part of another one. -/
lemma relation?_ne_part (h : Intact config entities d) (hapart : config.Apart entities)
    {e : String} (hentity : entities e) (he : IsEntityName e) (owner : IndexTable) (p : Part) :
    d.relation? (config.tableName e) ≠ some (.part owner p) :=
  Database.relation?_ne_part hapart (fun t ht => (h.tables t ht).named) hentity he owner p

/-- A trigger leads to its table. -/
lemma relation?_of_trigger (h : Intact config entities d) (hkept : WellKept config d)
    {t : Trigger} (ht : t ∈ d.triggers) :
    ∃ table, d.relation? t.table = some (.index table) ∧ table.columns = t.columns := by
  obtain ⟨table, htable, hname, hcolumns, _⟩ := h.triggers t ht
  refine ⟨table, ?_, hcolumns⟩
  rw [← hname]
  exact relation?_eq_index.mpr (hkept.table?_name htable)

/-! ## Making triggers ready -/

/-- A trigger can be made ready. -/
lemma exists_readyTrigger (h : Intact config entities d) (hkept : WellKept config d)
    {t : Trigger} (ht : t ∈ d.triggers) : ∃ d', readyTrigger d t = .ok d' := by
  obtain ⟨table, hrelation, hcolumns⟩ := h.relation?_of_trigger hkept ht
  obtain ⟨d', hd'⟩ := exists_useTable (fun t ht => (h.tables t ht).lost) t.table
  have hfilled : checkFilled table t = .ok () := by
    have hnone : t.namedColumns.find? (fun c => !table.columns.any (Text.sameName c)) = none := by
      refine List.find?_eq_none.mpr fun c hc => ?_
      have hmem : c ∈ table.columns := by
        rw [hcolumns]
        unfold Trigger.namedColumns at hc
        split at hc
        · exact hc
        · exact hc
        · cases hc
      simp only [Bool.not_eq_true', Bool.not_eq_false, List.any_eq_true]
      exact ⟨c, hmem, by simp [Text.sameName]⟩
    rw [checkFilled, hnone]
  refine ⟨d', ?_⟩
  simp only [readyTrigger, hrelation, hd', hfilled, bind, Except.bind]

/-- All triggers can be made ready. -/
theorem exists_ready (h : Intact config entities d) (hkept : WellKept config d)
    (event : NodeEvent) : ∃ d', d.ready event = .ok d' := by
  have hall : ∀ (triggers : List Trigger) (d : Database), Intact config entities d →
      WellKept config d → (∀ t ∈ triggers, t ∈ d.triggers) →
      ∃ d', triggers.foldlM readyTrigger d = .ok d' := by
    intro triggers
    induction triggers with
    | nil => exact fun d _ _ _ => ⟨d, rfl⟩
    | cons t triggers ih =>
      intro d h hkept hmem
      obtain ⟨d₁, h₁⟩ := h.exists_readyTrigger hkept (hmem t (.head _))
      have hidle := readyTrigger_ok h₁
      obtain ⟨d', hd'⟩ := ih d₁ (h.idle hidle) (hkept.idle hidle) fun t' ht' => by
        rw [hidle.triggers]
        exact hmem t' (.tail _ ht')
      refine ⟨d', ?_⟩
      rw [List.foldlM_cons, h₁]
      exact hd'
  exact hall _ d h hkept fun t ht => List.mem_of_mem_filter ht

/-! ## Firing triggers -/

/-- A trigger does its work if it can read the document of the node, or need not. -/
lemma exists_fire {n : StoredNode} {t : Trigger} (h : Intact config entities d)
    (hrow : t.event ≠ .delete → ∃ row, n.indexRow t.columns = .ok row) :
    ∃ d', fire n d t = .ok d' := by
  have hchange : ∀ f : IndexTable → Except DatabaseFault IndexTable,
      (∀ table : IndexTable, table.lost = [] → ∃ table', f table = .ok table') →
      ∃ d', d.changeTable t.table f = .ok d' :=
    fun f hf => exists_changeTable fun table htable _ => hf table (h.tables table htable).lost
  cases hevent : t.event with
  | insert =>
    obtain ⟨row, hrow⟩ := hrow (by simp [hevent])
    obtain ⟨d', hd'⟩ := hchange (fun table => table.put (table.arrange t.columns row))
      fun table hlost => IndexTable.exists_change hlost _ _
    exact ⟨d', by simp only [fire, hevent, hrow, bind, Except.bind, hd']⟩
  | update =>
    obtain ⟨row, hrow⟩ := hrow (by simp [hevent])
    obtain ⟨d', hd'⟩ := hchange (fun table => table.replace (table.arrange t.columns row))
      fun table hlost => by
        simp only [IndexTable.replace, IndexTable.scanFault?_eq_none hlost, IndexTable.refuse, bind,
          Except.bind]
        exact IndexTable.exists_change hlost _ _
    exact ⟨d', by simp only [fire, hevent, hrow, bind, Except.bind, hd']⟩
  | delete =>
    obtain ⟨d', hd'⟩ := hchange (·.erase n.id) fun table hlost => by
      simp only [IndexTable.erase, IndexTable.scanFault?_eq_none hlost, IndexTable.refuse, bind,
        Except.bind]
      exact IndexTable.exists_change hlost _ _
    exact ⟨d', by simp only [fire, hevent, hd']⟩

/-- All triggers of a change do their work if those that wait for the entity of the node can read
its document, or need not. -/
theorem exists_fireAll {event : NodeEvent} {n : StoredNode} (h : Intact config entities d)
    (hkept : TriggersKept config d.triggers)
    (hrow : event ≠ .delete → ∀ t ∈ d.triggers, t.entity = n.entity →
      ∃ row, n.indexRow t.columns = .ok row) :
    ∃ d', d.fireAll event n = .ok d' := by
  unfold fireAll
  obtain hnone | ⟨t, ht, hevent, hentity, hone⟩ := hkept.filter_eq event n.entity
  · rw [hnone]
    exact ⟨d, rfl⟩
  · rw [hone]
    obtain ⟨d', hd'⟩ := @exists_fire _ _ _ n t h fun hne =>
      hrow (hevent ▸ hne) t ht hentity
    exact ⟨d', by rw [List.foldlM_cons, hd']; rfl⟩

/-! ## Changes of the nodes -/

variable {entity document : String}

/-- The triggers of an entity can read a document. -/
def Reads (triggers : List Trigger) (entity document : String) : Prop :=
  ∀ t ∈ triggers, t.entity = entity → ∀ id, ∃ row, IndexRow.ofDocument t.columns id document = .ok row

/-- Every trigger can read the document of properties. -/
lemma reads_document (triggers : List Trigger) (entity : String) (p : Properties) :
    Reads triggers entity p.document :=
  fun t _ _ id => ⟨_, IndexRow.ofDocument_document p t.columns id⟩

/-- A node can be stored if the triggers of its entity can read its document. -/
theorem exists_insertNode (h : Intact config entities d) (hkept : WellKept config d)
    (hreads : Reads d.triggers entity document) :
    ∃ d', insertNode entity document d = .ok (((d.lastId + 1 : Nat) : Int), d') := by
  obtain ⟨d₁, h₁⟩ := h.exists_ready hkept .insert
  have hidle := ready_ok h₁
  have hkept₁ := (hkept.idle hidle).triggers
  obtain ⟨d₂, h₂⟩ := @exists_fireAll _ _
    { d₁ with nodes := d₁.nodes ++ [⟨(d₁.lastId + 1 : Nat), entity, document⟩],
              lastId := d₁.lastId + 1 }
    .insert ⟨(d₁.lastId + 1 : Nat), entity, document⟩ ((h.idle hidle).of_eq rfl rfl) hkept₁
    fun _ t ht hentity => hreads t (hidle.triggers ▸ ht) hentity _
  refine ⟨d₂, ?_⟩
  rw [← hidle.lastId]
  simp only [insertNode, h₁, bind, Except.bind, h₂]

/-- A node can be given another document if the triggers of its entity can read this. -/
theorem exists_updateNode (h : Intact config entities d) (hkept : WellKept config d) (id : Int)
    (hreads : Reads d.triggers entity document) :
    ∃ found d', updateNode id entity document d = .ok (found, d') := by
  obtain ⟨d₁, h₁⟩ := h.exists_ready hkept .update
  have hidle := ready_ok h₁
  simp only [updateNode, h₁, bind, Except.bind]
  cases d₁.node? id with
  | none => exact ⟨_, _, rfl⟩
  | some n =>
    by_cases hn : n.entity = entity
    · simp only [if_pos hn]
      obtain ⟨d₂, h₂⟩ := @exists_fireAll _ _
        { d₁ with nodes := d₁.nodes.map fun m => if m.id = id then { n with document } else m }
        .update { n with document } ((h.idle hidle).of_eq rfl rfl) (hkept.idle hidle).triggers
        fun _ t ht hentity => hreads t (hidle.triggers ▸ ht) (hentity.trans hn) _
      exact ⟨true, d₂, by simp only [h₂]⟩
    · simp only [if_neg hn]
      exact ⟨_, _, rfl⟩

/-- A node can always be deleted. -/
theorem exists_deleteNode (h : Intact config entities d) (hkept : WellKept config d) (id : Int) :
    ∃ found d', deleteNode id d = .ok (found, d') := by
  obtain ⟨d₁, h₁⟩ := h.exists_ready hkept .delete
  have hidle := ready_ok h₁
  simp only [deleteNode, h₁, bind, Except.bind]
  cases d₁.node? id with
  | none => exact ⟨_, _, rfl⟩
  | some n =>
    obtain ⟨d₂, h₂⟩ := @exists_fireAll _ _
      { d₁ with nodes := d₁.nodes.filter (·.id != id) } .delete n ((h.idle hidle).of_eq rfl rfl)
      (hkept.idle hidle).triggers fun hne => absurd rfl hne
    exact ⟨true, d₂, by simp only [h₂]⟩

/-- What the triggers make of a change of the nodes keeps a database intact. -/
lemma fireAll {event : NodeEvent} {n : StoredNode} {nodes : List StoredNode} {id : Nat}
    (h : Intact config entities d) (hkept : TriggersKept config d.triggers)
    (hd : ({ d with nodes, lastId := id } : Database).fireAll event n = .ok d') :
    Intact config entities d' := by
  have hstored : Intact config entities { d with nodes, lastId := id } := h.of_eq rfl rfl
  have hkept' : TriggersKept config ({ d with nodes, lastId := id } : Database).triggers := hkept
  obtain ⟨rfl, _⟩ | ⟨t, _, _, _, hr⟩ := hkept'.fireAll_ok hd
  · exact hstored
  · exact hstored.retabled_at hr fun _ _ hfired => hfired.exists_eq

/-- Storing a node keeps a database intact. -/
lemma insertNode {id : Int} (h : Intact config entities d) (hkept : WellKept config d)
    (hd : insertNode entity document d = .ok (id, d')) : Intact config entities d' := by
  obtain ⟨d₁, h₁, hd⟩ := bind_eq_ok.mp hd
  obtain ⟨d₂, h₂, hd⟩ := bind_eq_ok.mp hd
  cases hd
  have hidle := ready_ok h₁
  exact (h.idle hidle).fireAll (hkept.idle hidle).triggers h₂

/-- Storing a node on behalf of another program keeps a database intact. -/
lemma insertForeignNode {id : Int} (h : Intact config entities d) (hkept : WellKept config d)
    (hd : insertForeignNode entity document d = .ok (id, d')) : Intact config entities d' := by
  obtain ⟨d₁, h₁, hidle⟩ := insertForeignNode_ok hd
  have hrest := retabled_atRest d
  exact ((h.idle hrest).insertNode (hkept.idle hrest) h₁).idle hidle

/-- Giving a node another document keeps a database intact. -/
lemma updateNode {id : Int} {found : Bool} (h : Intact config entities d)
    (hkept : WellKept config d) (hd : updateNode id entity document d = .ok (found, d')) :
    Intact config entities d' := by
  obtain ⟨d₁, h₁, hd⟩ := bind_eq_ok.mp hd
  have hidle := ready_ok h₁
  split at hd
  · cases hd
    exact h.idle hidle
  · split_ifs at hd
    · obtain ⟨d₂, h₂, hd⟩ := bind_eq_ok.mp hd
      cases hd
      exact (h.idle hidle).fireAll (hkept.idle hidle).triggers h₂
    · cases hd
      exact h.idle hidle

/-- Deleting a node keeps a database intact. -/
lemma deleteNode {id : Int} {found : Bool} (h : Intact config entities d)
    (hkept : WellKept config d) (hd : deleteNode id d = .ok (found, d')) :
    Intact config entities d' := by
  obtain ⟨d₁, h₁, hd⟩ := bind_eq_ok.mp hd
  have hidle := ready_ok h₁
  split at hd
  · cases hd
    exact h.idle hidle
  · obtain ⟨d₂, h₂, hd⟩ := bind_eq_ok.mp hd
    cases hd
    exact (h.idle hidle).fireAll (hkept.idle hidle).triggers h₂

end Intact

end EntityFinder.Database
