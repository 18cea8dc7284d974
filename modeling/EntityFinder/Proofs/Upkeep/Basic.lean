import EntityFinder.Proofs.IndexSetup

set_option autoImplicit false

/-!
# What every database keeps to

Whatever is done to a database, its rows stay rows of its nodes: the table of an entity has rows of
nodes of that entity only, and no row outlives its node.

## Main definitions

* `EntityFinder.Database.TriggersKept`: triggers belong to entities, and come three at a time.
* `EntityFinder.Database.WellKept`: all that a database keeps to.

## Main results

* `EntityFinder.Database.TriggersKept.fireAll_ok`: a change of a node fires one trigger at most.
* `EntityFinder.Database.Fired.mem_iff`: the rows after a trigger was fired.
* `EntityFinder.Database.WellKept.retabled`, `EntityFinder.Database.WellKept.fired`: changes of
  tables keep to it if they put in rows of nodes only.
-/

namespace EntityFinder.Database

open IndexTable (RowsSorted)

/-! ## Triggers -/

/-- Triggers belong to the tables of entities, and a table has all of them or none. -/
structure TriggersKept (config : IndexConfig) (triggers : List Trigger) : Prop where
  /-- A trigger of an entity is one of its table. -/
  named : ∀ t ∈ triggers, IsEntityName t.entity ∧ t.table = config.tableName t.entity
  /-- A table has one trigger for a change. -/
  nodup : (triggers.map fun t => (t.table, t.event)).Nodup
  /-- A table with a trigger has one for each change, with the same columns. -/
  complete : ∀ t ∈ triggers, ∀ event, ∃ t' ∈ triggers,
    t'.table = t.table ∧ t'.event = event ∧ t'.columns = t.columns

variable {config : IndexConfig} {d d' : Database}

/-- Two triggers of a table for a change are one. -/
lemma TriggersKept.eq_of_eq {triggers : List Trigger} (h : TriggersKept config triggers)
    {t t' : Trigger} (ht : t ∈ triggers) (ht' : t' ∈ triggers) (htable : t.table = t'.table)
    (hevent : t.event = t'.event) : t = t' :=
  List.inj_on_of_nodup_map h.nodup ht ht' (by rw [htable, hevent])

/-- A trigger of the table of an entity is one of this entity. -/
lemma TriggersKept.entity_eq {triggers : List Trigger} (h : TriggersKept config triggers)
    {t : Trigger} {e : String} (ht : t ∈ triggers) (he : IsEntityName e)
    (htable : t.table = config.tableName e) : t.entity = e := by
  obtain ⟨hvalid, hnamed⟩ := h.named t ht
  exact config.tableName_injective hvalid he (hnamed.symm.trans htable)

/-- All triggers of a table have the same columns. -/
lemma TriggersKept.columns_eq {triggers : List Trigger} (h : TriggersKept config triggers)
    {t t' : Trigger} (ht : t ∈ triggers) (ht' : t' ∈ triggers) (htable : t'.table = t.table) :
    t'.columns = t.columns := by
  obtain ⟨t₁, ht₁, htable₁, hevent₁, hcolumns₁⟩ := h.complete t' ht' t.event
  rw [← hcolumns₁, h.eq_of_eq ht₁ ht (htable₁.trans htable) hevent₁]

/-- A table with a trigger has one for each change. -/
lemma TriggersKept.hasTrigger (h : TriggersKept config d.triggers) {t : Trigger}
    (ht : t ∈ d.triggers) (event : NodeEvent) : d.hasTrigger t.table event = true := by
  obtain ⟨t', ht', htable, hevent, _⟩ := h.complete t ht event
  exact hasTrigger_iff.mpr ⟨t', ht', htable, hevent⟩

/-- A change of a node fires one trigger at most: that of the table of its entity. -/
lemma TriggersKept.filter_eq {triggers : List Trigger} (h : TriggersKept config triggers)
    (event : NodeEvent) (entity : String) :
    (triggers.filter fun t => t.event == event && t.entity == entity) = [] ∨
      ∃ t ∈ triggers, t.event = event ∧ t.entity = entity ∧
        (triggers.filter fun t => t.event == event && t.entity == entity) = [t] := by
  have hmem : ∀ t ∈ triggers.filter fun t => t.event == event && t.entity == entity,
      t ∈ triggers ∧ t.event = event ∧ t.entity = entity := by
    intro t ht
    simpa only [List.mem_filter, Bool.and_eq_true, beq_iff_eq] using ht
  have hnodup : (triggers.filter fun t => t.event == event && t.entity == entity).Nodup :=
    h.nodup.of_map.filter _
  cases hf : triggers.filter fun t => t.event == event && t.entity == entity with
  | nil => exact .inl rfl
  | cons t rest =>
    rw [hf] at hmem hnodup
    obtain ⟨ht, hevent, hentity⟩ := hmem t (.head _)
    refine .inr ⟨t, ht, hevent, hentity, ?_⟩
    cases rest with
    | nil => rfl
    | cons t' rest =>
      obtain ⟨ht', hevent', hentity'⟩ := hmem t' (.tail _ (.head _))
      have heq : t = t' := by
        refine h.eq_of_eq ht ht' ?_ (hevent.trans hevent'.symm)
        rw [(h.named t ht).2, (h.named t' ht').2, hentity, hentity']
      subst heq
      simp at hnodup

/-- What a change of a node makes of the tables: nothing, or what one trigger does. -/
lemma TriggersKept.fireAll_ok (h : TriggersKept config d.triggers) {event : NodeEvent}
    {n : StoredNode} (hf : d.fireAll event n = .ok d') :
    (d' = d ∧ ∀ t ∈ d.triggers, t.event = event → t.entity ≠ n.entity) ∨
      ∃ t ∈ d.triggers, t.event = event ∧ t.entity = n.entity ∧
        Retabled (At t.table (Fired n t)) d d' := by
  unfold fireAll at hf
  obtain hnone | ⟨t, ht, hevent, hentity, hone⟩ := h.filter_eq event n.entity
  · rw [hnone] at hf
    cases hf
    refine .inl ⟨rfl, fun t ht hevent hentity => ?_⟩
    rw [List.filter_eq_nil_iff] at hnone
    exact hnone t ht (by simp [hevent, hentity])
  · rw [hone] at hf
    obtain ⟨d₁, h₁, hf⟩ := bind_eq_ok.mp hf
    cases hf
    exact .inr ⟨t, ht, hevent, hentity, fire_ok h₁⟩

/-! ## What a trigger makes of a table -/

section

variable {n : StoredNode} {t : Trigger} {table table' : IndexTable}

/-- The row of a node has its number. -/
lemma id_of_indexRow {columns : List String} {row : IndexRow}
    (h : n.indexRow columns = .ok row) : row.id = n.id := by
  unfold StoredNode.indexRow IndexRow.ofDocument at h
  split at h <;> cases h
  rfl

/-- A trigger changes the rows of its table, and nothing else but the segments. -/
lemma Fired.exists_eq (h : Fired n t table table') :
    ∃ rows k, table' = { table with rows, segments := k } := by
  unfold Fired at h
  split at h
  · obtain ⟨row, _, h⟩ := h
    obtain ⟨k, hk⟩ := IndexTable.put_ok h
    exact ⟨_, k, hk⟩
  · obtain ⟨row, _, h⟩ := h
    obtain ⟨k, hk⟩ := IndexTable.replace_ok h
    exact ⟨_, k, hk⟩
  · obtain ⟨k, hk⟩ := IndexTable.erase_ok h
    exact ⟨_, k, hk⟩

/-- A trigger keeps the rows in order. -/
lemma Fired.rowsSorted (h : Fired n t table table') (hs : RowsSorted table.rows) :
    RowsSorted table'.rows := by
  unfold Fired at h
  split at h
  · obtain ⟨row, _, h⟩ := h
    obtain ⟨k, rfl⟩ := IndexTable.put_ok h
    exact hs.insertRow _
  · obtain ⟨row, _, h⟩ := h
    obtain ⟨k, rfl⟩ := IndexTable.replace_ok h
    exact RowsSorted.insertRow (hs.filter _) _
  · obtain ⟨k, rfl⟩ := IndexTable.erase_ok h
    exact hs.filter _

/-- After a trigger the rows of the other nodes are there, and that of its node unless this was
deleted. -/
theorem Fired.mem_iff (h : Fired n t table table') (hs : RowsSorted table.rows) {r : IndexRow} :
    r ∈ table'.rows ↔
      (t.event ≠ .delete ∧ ∃ row, n.indexRow t.columns = .ok row ∧
        r = table.arrange t.columns row) ∨ (r ∈ table.rows ∧ r.id ≠ n.id) := by
  cases hevent : t.event with
  | insert =>
    simp only [Fired, hevent] at h
    obtain ⟨row, hrow, h⟩ := h
    obtain ⟨k, rfl⟩ := IndexTable.put_ok h
    have hid : (table.arrange t.columns row).id = n.id := (id_of_indexRow hrow :)
    simp [IndexTable.mem_insertRow hs, hid, hrow]
  | update =>
    simp only [Fired, hevent] at h
    obtain ⟨row, hrow, h⟩ := h
    obtain ⟨k, rfl⟩ := IndexTable.replace_ok h
    have hid : (table.arrange t.columns row).id = n.id := (id_of_indexRow hrow :)
    simp [IndexTable.mem_insertRow (hs.filter _), hid, hrow]
  | delete =>
    simp only [Fired, hevent] at h
    obtain ⟨k, rfl⟩ := IndexTable.erase_ok h
    simp

end

/-! ## Rows and their nodes -/

/-- There is a node with the number of a row, and the table of its entity is the row's. -/
def Backed (config : IndexConfig) (nodes : List StoredNode) (table : String) (r : IndexRow) :
    Prop :=
  ∃ n ∈ nodes, n.id = r.id ∧ IsEntityName n.entity ∧ config.tableName n.entity = table

/-- What a database keeps to. -/
structure WellKept (config : IndexConfig) (d : Database) : Prop where
  /-- The nodes are in ascending order of their numbers. -/
  nodes_sorted : d.nodes.Pairwise fun a b => a.id < b.id
  /-- No number is greater than the one that was given last. -/
  nodes_le : ∀ n ∈ d.nodes, n.id ≤ d.lastId
  /-- The triggers are those of tables of entities. -/
  triggers : TriggersKept config d.triggers
  /-- The tables have different names. -/
  names_nodup : (d.tables.map (·.name)).Nodup
  /-- The rows are in ascending order of their numbers. -/
  rows_sorted : ∀ t ∈ d.tables, RowsSorted t.rows
  /-- Each row is that of a node. -/
  rows_backed : ∀ t ∈ d.tables, ∀ r ∈ t.rows, Backed config d.nodes t.name r
  /-- A table with rows is told when a node is deleted. -/
  rows_guarded : ∀ t ∈ d.tables, t.rows ≠ [] → d.hasTrigger t.name .delete = true

/-- Two nodes with one number are one where no number is given twice. -/
lemma eq_of_nodes_sorted (hs : d.nodes.Pairwise fun a b => a.id < b.id) {a b : StoredNode}
    (ha : a ∈ d.nodes) (hb : b ∈ d.nodes) (hid : a.id = b.id) : a = b := by
  have hnodup : (d.nodes.map (·.id)).Nodup := List.pairwise_map.mpr (hs.imp fun hlt => hlt.ne)
  exact List.inj_on_of_nodup_map hnodup ha hb hid

/-- The node with a number is found where no number is given twice. -/
lemma node?_eq_some_of_sorted (hs : d.nodes.Pairwise fun a b => a.id < b.id) {n : StoredNode}
    {id : Int} : d.node? id = some n ↔ n ∈ d.nodes ∧ n.id = id := by
  unfold node?
  constructor
  · intro hn
    exact ⟨List.mem_of_find?_eq_some hn, by simpa using List.find?_some hn⟩
  · rintro ⟨hn, rfl⟩
    cases hf : d.nodes.find? fun m => m.id == n.id with
    | none => simpa using List.find?_eq_none.mp hf n hn
    | some m =>
      have hm : m.id = n.id := by simpa using List.find?_some hf
      rw [eq_of_nodes_sorted hs (List.mem_of_find?_eq_some hf) hn hm]

namespace WellKept

/-- An empty database keeps to everything. -/
lemma empty (config : IndexConfig) : WellKept config Database.empty where
  nodes_sorted := .nil
  nodes_le := by simp [Database.empty]
  triggers := ⟨by simp [Database.empty], by simp [Database.empty], by simp [Database.empty]⟩
  names_nodup := by simp [Database.empty]
  rows_sorted := by simp [Database.empty]
  rows_backed := by simp [Database.empty]
  rows_guarded := by simp [Database.empty]

/-- Two nodes with one number are one. -/
lemma node_eq (h : WellKept config d) {a b : StoredNode} (ha : a ∈ d.nodes) (hb : b ∈ d.nodes)
    (hid : a.id = b.id) : a = b :=
  eq_of_nodes_sorted h.nodes_sorted ha hb hid

/-- The node with a number is found. -/
lemma node?_eq_some (h : WellKept config d) {n : StoredNode} {id : Int} :
    d.node? id = some n ↔ n ∈ d.nodes ∧ n.id = id :=
  node?_eq_some_of_sorted h.nodes_sorted

/-- Two tables of one name are one. -/
lemma table_eq (h : WellKept config d) {a b : IndexTable} (ha : a ∈ d.tables) (hb : b ∈ d.tables)
    (hname : a.name = b.name) : a = b :=
  List.inj_on_of_nodup_map h.names_nodup ha hb hname

/-- A table is found under its name. -/
lemma table?_name (h : WellKept config d) {t : IndexTable} (ht : t ∈ d.tables) :
    d.table? t.name = some t := by
  cases hfound : d.table? t.name with
  | none => simpa using List.find?_eq_none.mp hfound t ht
  | some a =>
    have hname : a.name = t.name := by simpa using List.find?_some hfound
    rw [h.table_eq (List.mem_of_find?_eq_some hfound) ht hname]

/-- A row in the table of an entity is that of a node of the entity. -/
lemma exists_node (h : WellKept config d) {t : IndexTable} {e : String} (ht : t ∈ d.tables)
    (hname : t.name = config.tableName e) (he : IsEntityName e) {r : IndexRow} (hr : r ∈ t.rows) :
    ∃ n ∈ d.nodes, n.id = r.id ∧ n.entity = e := by
  obtain ⟨n, hn, hid, hvalid, htable⟩ := h.rows_backed t ht r hr
  exact ⟨n, hn, hid, config.tableName_injective hvalid he (htable.trans hname)⟩

/-! ## Changes of tables -/

/-- A change of the tables keeps to everything if the rows of each have their nodes and their
trigger. -/
lemma retabled {R : IndexTable → IndexTable → Prop} (h : WellKept config d)
    (hd : Retabled R d d') (hname : ∀ t t', R t t' → t'.name = t.name)
    (hsorted : ∀ t ∈ d.tables, ∀ t', R t t' → RowsSorted t'.rows)
    (hbacked : ∀ t ∈ d.tables, ∀ t', R t t' → ∀ r ∈ t'.rows, Backed config d.nodes t.name r)
    (hguarded : ∀ t ∈ d.tables, ∀ t', R t t' → t'.rows ≠ [] →
      d.hasTrigger t.name .delete = true) : WellKept config d' where
  nodes_sorted := by
    rw [hd.nodes]
    exact h.nodes_sorted
  nodes_le := by
    rw [hd.nodes, hd.lastId]
    exact h.nodes_le
  triggers := by
    rw [hd.triggers]
    exact h.triggers
  names_nodup := by
    rw [hd.names hname]
    exact h.names_nodup
  rows_sorted := by
    intro t' ht'
    obtain ⟨t, ht, hR⟩ := hd.origin ht'
    exact hsorted t ht t' hR
  rows_backed := by
    intro t' ht' r hr
    obtain ⟨t, ht, hR⟩ := hd.origin ht'
    rw [hd.nodes, hname t t' hR]
    exact hbacked t ht t' hR r hr
  rows_guarded := by
    intro t' ht' hrows
    obtain ⟨t, ht, hR⟩ := hd.origin ht'
    have hg := hguarded t ht t' hR hrows
    rw [hasTrigger_iff] at hg ⊢
    rwa [hd.triggers, hname t t' hR]

/-- A change of the tables that adds no row keeps to everything. -/
lemma retabled_of_sublist {R : IndexTable → IndexTable → Prop} (h : WellKept config d)
    (hd : Retabled R d d')
    (hR : ∀ t t', R t t' → t'.name = t.name ∧ t'.rows.Sublist t.rows) : WellKept config d' :=
  h.retabled hd (fun t t' ht => (hR t t' ht).1)
    (fun t ht t' htt' => (h.rows_sorted t ht).sublist (hR t t' htt').2)
    (fun t ht t' htt' r hr => h.rows_backed t ht r ((hR t t' htt').2.subset hr))
    (fun t ht t' htt' hne => h.rows_guarded t ht fun hnil =>
      hne (List.sublist_nil.mp (hnil ▸ (hR t t' htt').2)))

/-- Taking tables into use keeps to everything. -/
lemma idle (h : WellKept config d) (hd : Retabled Idle d d') : WellKept config d' :=
  h.retabled_of_sublist hd fun t t' ⟨_, ht⟩ => by
    subst ht
    exact ⟨rfl, .refl _⟩

/-- Whether a database can only be read does not matter. -/
lemma of_isReadOnly (h : WellKept config d) (b : Bool) :
    WellKept config { d with isReadOnly := b } :=
  { h with }

/-- Dropping tables keeps to everything. -/
lemma filterTables (h : WellKept config d) (keep : IndexTable → Bool) :
    WellKept config { d with tables := d.tables.filter keep } where
  nodes_sorted := h.nodes_sorted
  nodes_le := h.nodes_le
  triggers := h.triggers
  names_nodup := h.names_nodup.sublist (List.filter_sublist.map _)
  rows_sorted t ht := h.rows_sorted t (List.mem_of_mem_filter ht)
  rows_backed t ht := h.rows_backed t (List.mem_of_mem_filter ht)
  rows_guarded t ht := h.rows_guarded t (List.mem_of_mem_filter ht)

/-- A new table without rows keeps to everything, if its name is. -/
lemma addTable (h : WellKept config d) {t : IndexTable} (hnew : ∀ a ∈ d.tables, a.name ≠ t.name)
    (hrows : t.rows = []) : WellKept config { d with tables := d.tables ++ [t] } where
  nodes_sorted := h.nodes_sorted
  nodes_le := h.nodes_le
  triggers := h.triggers
  names_nodup := by
    rw [List.map_append, List.nodup_append]
    refine ⟨h.names_nodup, by simp, ?_⟩
    intro name hname b hb
    obtain ⟨a, ha, rfl⟩ := List.mem_map.mp hname
    simp only [List.map_cons, List.map_nil, List.mem_singleton] at hb
    exact hb ▸ hnew a ha
  rows_sorted a ha := by
    rcases List.mem_append.mp ha with ha | ha
    · exact h.rows_sorted a ha
    · rw [List.mem_singleton.mp ha, hrows]
      exact .nil
  rows_backed a ha := by
    rcases List.mem_append.mp ha with ha | ha
    · exact h.rows_backed a ha
    · rw [List.mem_singleton.mp ha, hrows]
      simp
  rows_guarded a ha := by
    rcases List.mem_append.mp ha with ha | ha
    · exact h.rows_guarded a ha
    · rw [List.mem_singleton.mp ha, hrows]
      simp

/-! ## Changes of nodes -/

/-- A node under the next number keeps to everything. -/
lemma addNode (h : WellKept config d) {n : StoredNode} (hid : n.id = (d.lastId + 1 : Nat)) :
    WellKept config { d with nodes := d.nodes ++ [n], lastId := d.lastId + 1 } where
  nodes_sorted := by
    refine List.pairwise_append.mpr ⟨h.nodes_sorted, List.pairwise_singleton _ _, ?_⟩
    intro a ha b hb
    have := h.nodes_le a ha
    rw [List.mem_singleton.mp hb, hid]
    omega
  nodes_le a ha := by
    simp only
    rcases List.mem_append.mp ha with ha | ha
    · have := h.nodes_le a ha
      omega
    · rw [List.mem_singleton.mp ha, hid]
  triggers := h.triggers
  names_nodup := h.names_nodup
  rows_sorted := h.rows_sorted
  rows_backed t ht r hr := by
    obtain ⟨m, hm, hback⟩ := h.rows_backed t ht r hr
    exact ⟨m, List.mem_append_left _ hm, hback⟩
  rows_guarded := h.rows_guarded

/-- Another document for a node keeps to everything. -/
lemma changeNode (h : WellKept config d) {n : StoredNode} (hn : n ∈ d.nodes) (document : String) :
    WellKept config { d with
      nodes := d.nodes.map fun m => if m.id = n.id then { n with document } else m } where
  nodes_sorted := by
    have hkeep : ∀ m : StoredNode,
        (if m.id = n.id then { n with document } else m).id = m.id := by
      intro m
      split_ifs with hid
      · exact hid.symm
      · rfl
    refine List.pairwise_map.mpr (h.nodes_sorted.imp fun {a b} hab => ?_)
    rwa [hkeep, hkeep]
  nodes_le a ha := by
    obtain ⟨m, hm, rfl⟩ := List.mem_map.mp ha
    simp only
    split_ifs
    · exact h.nodes_le n hn
    · exact h.nodes_le m hm
  triggers := h.triggers
  names_nodup := h.names_nodup
  rows_sorted := h.rows_sorted
  rows_backed t ht r hr := by
    obtain ⟨m, hm, hid, hback⟩ := h.rows_backed t ht r hr
    refine ⟨_, List.mem_map.mpr ⟨m, hm, rfl⟩, ?_⟩
    split_ifs with heq
    · rw [← h.node_eq hm hn heq]
      exact ⟨hid, hback⟩
    · exact ⟨hid, hback⟩
  rows_guarded := h.rows_guarded

/-- A node may go that has no row. -/
lemma removeNode (h : WellKept config d) {id : Int}
    (hrows : ∀ t ∈ d.tables, ∀ r ∈ t.rows, r.id ≠ id) :
    WellKept config { d with nodes := d.nodes.filter (·.id != id) } where
  nodes_sorted := h.nodes_sorted.filter _
  nodes_le n hn := h.nodes_le n (List.mem_of_mem_filter hn)
  triggers := h.triggers
  names_nodup := h.names_nodup
  rows_sorted := h.rows_sorted
  rows_backed t ht r hr := by
    obtain ⟨m, hm, hid, hback⟩ := h.rows_backed t ht r hr
    refine ⟨m, List.mem_filter.mpr ⟨hm, ?_⟩, hid, hback⟩
    rw [bne_iff_ne, hid]
    exact hrows t ht r hr
  rows_guarded := h.rows_guarded

/-- A trigger that is fired for a node of its entity keeps to everything. -/
lemma fired (h : WellKept config d) {n : StoredNode} {t : Trigger} (ht : t ∈ d.triggers)
    (hn : n ∈ d.nodes) (hentity : t.entity = n.entity)
    (hd : Retabled (At t.table (Fired n t)) d d') : WellKept config d' := by
  refine h.retabled hd ?_ ?_ ?_ ?_
  · intro a b hab
    refine hab.elim (S := fun a b => b.name = a.name) (fun _ => rfl) fun a b hab => ?_
    obtain ⟨_, _, rfl⟩ := hab.exists_eq
    rfl
  · intro a ha b hab
    exact hab.elim (S := fun a b => RowsSorted a.rows → RowsSorted b.rows) (fun _ => id)
      (fun _ _ hab => hab.rowsSorted) (h.rows_sorted a ha)
  · intro a ha b hab r hr
    unfold At at hab
    split_ifs at hab with hname
    · obtain ⟨_, row, hrow, rfl⟩ | ⟨hr, _⟩ := (hab.mem_iff (h.rows_sorted a ha)).mp hr
      · obtain ⟨hvalid, htable⟩ := h.triggers.named t ht
        rw [hentity] at hvalid htable
        exact ⟨n, hn, (id_of_indexRow hrow).symm, hvalid, by rw [hname, htable]⟩
      · exact h.rows_backed a ha r hr
    · exact h.rows_backed a ha r (hab ▸ hr)
  · intro a ha b hab hne
    unfold At at hab
    split_ifs at hab with hname
    · rw [hname]
      exact h.triggers.hasTrigger ht .delete
    · exact h.rows_guarded a ha (hab ▸ hne)

end WellKept

end EntityFinder.Database
