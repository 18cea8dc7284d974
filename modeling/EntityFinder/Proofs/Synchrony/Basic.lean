import EntityFinder.Proofs.Contents
import EntityFinder.Proofs.Documents
import EntityFinder.Proofs.Upkeep.Tables

set_option autoImplicit false

/-!
# Tables in step with the nodes

As long as no table has the name of a part of another one, a table with triggers has exactly the rows
that its nodes make. Its triggers see to this, since a node that they cannot read is not stored; so
it holds of nodes of other programs, too. Where all nodes come from the store itself, every table
can read them.

## Main definitions

* `EntityFinder.IndexConfig.Apart`: entities no table of which has the name of a part.
* `EntityFinder.Database.Mirrors`: the rows of a table are those of the nodes of an entity.
* `EntityFinder.Database.Current`: the tables of some entities mirror the nodes if they have triggers.
* `EntityFinder.Database.IsBlocked`: the triggers of a table cannot read a node.
* `EntityFinder.Database.InStep`: all do, and all nodes have been stored with properties.

## Main results

* `EntityFinder.Database.Mirrors.fired`: a trigger carries a change of the nodes over.
* `EntityFinder.Database.Current.of_renewed`, `EntityFinder.Database.Current.of_fired`: a change of a
  node without a trigger, and with one.
* `EntityFinder.Database.Current.fireAll`: all triggers together carry it over.
* `EntityFinder.Database.indexRows_eq_rows`: a table that mirrors nodes is what they fill it with.
-/

namespace EntityFinder

/-- No table of some entities has the name of a part of another one. -/
def IndexConfig.Apart (config : IndexConfig) (entities : String → Prop) : Prop :=
  ∀ a b, entities a → entities b → IsEntityName a → IsEntityName b → ∀ p : Database.Part,
    config.tableName b ≠ p.tableName (config.tableName a)

/-- Entities with names from a list are apart if those in the list are. -/
lemma IndexConfig.Apart.of_names {config : IndexConfig} {entities : String → Prop}
    {names : List String} (hnames : ∀ e, entities e → e ∈ names)
    (h : ∀ a ∈ names, ∀ b ∈ names, ∀ p ∈ Database.Part.all,
      config.tableName b ≠ p.tableName (config.tableName a)) : config.Apart entities :=
  fun a b ha hb _ _ p => h a (hnames a ha) b (hnames b hb) p (by cases p <;> decide)

/-- An entity and those that events name are apart if all of them are in a list of entities that
are. -/
lemma IndexConfig.Apart.of_events {config : IndexConfig} {events : List StoreEvent} {e : String}
    (names : List String) (hnames : ∀ a ∈ e :: events.filterMap StoreEvent.entity?, a ∈ names)
    (h : ∀ a ∈ names, ∀ b ∈ names, ∀ p ∈ Database.Part.all,
      config.tableName b ≠ p.tableName (config.tableName a)) :
    config.Apart fun a => a = e ∨ ∃ event ∈ events, event.entity? = some a := by
  refine @IndexConfig.Apart.of_names _ _ names ?_ h
  rintro a (rfl | ⟨event, hevent, ha⟩)
  · exact hnames a (.head _)
  · exact hnames a (.tail _ (List.mem_filterMap.mpr ⟨event, hevent, ha⟩))

namespace Database

open IndexTable (RowsSorted)

variable {config : IndexConfig} {entities watched : String → Prop} {d d' : Database}

/-- What stands under the name of the table of an entity is no part of a table of another one. -/
lemma relation?_ne_part (hapart : config.Apart entities)
    (hnamed : ∀ t ∈ d.tables, ∃ e, entities e ∧ IsEntityName e ∧ t.name = config.tableName e)
    {e : String} (hentity : entities e) (he : IsEntityName e) (owner : IndexTable) (p : Part) :
    d.relation? (config.tableName e) ≠ some (.part owner p) := by
  have hnone : d.partAt? (config.tableName e) = none := by
    refine List.findSome?_eq_none_iff.mpr fun t ht => ?_
    obtain ⟨a, ha, hvalid, hname⟩ := hnamed t ht
    rw [Option.map_eq_none_iff, List.find?_eq_none]
    intro q _
    simp [hname, (hapart a e ha hentity hvalid he q).symm]
  intro hpart
  unfold relation? at hpart
  split at hpart
  · cases hpart
  · simp [hnone] at hpart

/-! ## Rows of nodes -/

/-- The rows of a table are those of the nodes of an entity. -/
def Mirrors (nodes : List StoredNode) (entity : String) (t : IndexTable) : Prop :=
  ∀ r, r ∈ t.rows ↔ ∃ n ∈ nodes, n.entity = entity ∧ n.indexRow t.columns = .ok r

/-- A table that belongs to one of some entities and is whole. -/
structure IsWhole (config : IndexConfig) (entities : String → Prop) (t : IndexTable) : Prop where
  /-- It has the name of the table of an entity. -/
  named : ∃ e, entities e ∧ IsEntityName e ∧ t.name = config.tableName e
  /-- It has lost no part. -/
  lost : t.lost = []
  /-- Its columns can be told apart. -/
  columns : areDistinct t.name t.columns = true

/-- A table stays whole when it gets other rows. -/
lemma IsWhole.of_at {name : String} {R : IndexTable → IndexTable → Prop} {t t' : IndexTable}
    (h : IsWhole config entities t) (hat : At name R t t')
    (hR : ∀ t t', R t t' → ∃ rows k, t' = { t with rows, segments := k }) :
    IsWhole config entities t' := by
  unfold At at hat
  split_ifs at hat
  · obtain ⟨_, _, rfl⟩ := hR t t' hat
    exact ⟨h.named, h.lost, h.columns⟩
  · exact hat ▸ h

/-- All tables are whole. Where an entity is watched and its table has triggers, the table mirrors
the nodes of the entity, and the triggers can read these. -/
structure Current (config : IndexConfig) (entities watched : String → Prop) (d : Database) :
    Prop where
  /-- The tables are whole. -/
  tables : ∀ t ∈ d.tables, IsWhole config entities t
  /-- A trigger belongs to a table with its columns, and the table mirrors the nodes. -/
  triggers : ∀ t ∈ d.triggers, watched t.entity → ∃ table ∈ d.tables, table.name = t.table ∧
    table.columns = t.columns ∧ Mirrors d.nodes t.entity table
  /-- A trigger can read the nodes of its entity. -/
  readable : ∀ t ∈ d.triggers, watched t.entity → ∀ n ∈ d.nodes, n.entity = t.entity →
    ∃ row, n.indexRow t.columns = .ok row

/-- The table of an entity has a trigger that cannot read one of the nodes of the entity. -/
def IsBlocked (e : String) (d : Database) : Prop :=
  ∃ t ∈ d.triggers, t.entity = e ∧ ∃ n ∈ d.nodesOf e, ¬∃ row, n.indexRow t.columns = .ok row

/-- Every table with triggers mirrors the nodes, all of which have been stored with properties. -/
structure InStep (config : IndexConfig) (entities : String → Prop) (d : Database) : Prop where
  /-- The tables are whole. -/
  tables : ∀ t ∈ d.tables, IsWhole config entities t
  /-- A trigger belongs to a table with its columns, and the table mirrors the nodes. -/
  triggers : ∀ t ∈ d.triggers, ∃ table ∈ d.tables, table.name = t.table ∧
    table.columns = t.columns ∧ Mirrors d.nodes t.entity table
  /-- The nodes have been stored with properties. -/
  documents : ∀ n ∈ d.nodes, ∃ p : Properties, n.document = p.document

/-- The nodes after one of them was stored, changed or deleted. -/
def Renewed (nodes nodes' : List StoredNode) (event : NodeEvent) (n : StoredNode) : Prop :=
  ∀ m, m ∈ nodes' ↔ event ≠ .delete ∧ m = n ∨ m ∈ nodes ∧ m.id ≠ n.id

/-- The row of a node has a text, or none, for each column. -/
lemma length_texts_of_indexRow {columns : List String} {n : StoredNode} {row : IndexRow}
    (h : n.indexRow columns = .ok row) : row.texts.length = columns.length := by
  have hlength : ∀ (value : Json.Relaxed) (columns : List String) (found : List Json.Extract),
      columns.mapM value.under? = some found → found.length = columns.length := by
    intro value columns
    induction columns with
    | nil =>
      intro found hfound
      cases hfound
      rfl
    | cons column columns ih =>
      intro found hfound
      simp only [List.mapM_cons, Option.bind_eq_bind, Option.bind_eq_some_iff] at hfound
      obtain ⟨first, _, rest, hrest, hfound⟩ := hfound
      cases hfound
      rw [List.length_cons, List.length_cons, ih rest hrest]
  unfold StoredNode.indexRow IndexRow.ofDocument at h
  split at h
  · cases h
  · next found hfound =>
    cases h
    obtain ⟨value, _, hvalue⟩ := Option.bind_eq_some_iff.mp hfound
    rw [List.length_map, hlength value columns found hvalue]

/-- Nodes that were stored with properties can be read. -/
lemma exists_indexRow_of_document {columns : List String} {n : StoredNode}
    (h : ∃ p : Properties, n.document = p.document) : ∃ row, n.indexRow columns = .ok row := by
  obtain ⟨p, hp⟩ := h
  rw [StoredNode.indexRow, hp]
  exact ⟨_, IndexRow.ofDocument_document p columns n.id⟩

/-- No table is blocked where all nodes have been stored with properties. -/
lemma not_isBlocked {e : String}
    (hdocuments : ∀ n ∈ d.nodes, ∃ p : Properties, n.document = p.document) : ¬d.IsBlocked e := by
  rintro ⟨_, _, _, n, hn, hunreadable⟩
  exact hunreadable (exists_indexRow_of_document (hdocuments n (List.mem_of_mem_filter hn)))

/-- A trigger that puts a row in has read the document of its node. -/
lemma Fired.exists_row {n : StoredNode} {t : Trigger} {table table' : IndexTable}
    (h : Fired n t table table') (hevent : t.event ≠ .delete) :
    ∃ row, n.indexRow t.columns = .ok row := by
  unfold Fired at h
  split at h
  · exact ⟨h.choose, h.choose_spec.1⟩
  · exact ⟨h.choose, h.choose_spec.1⟩
  · next hdelete => exact absurd hdelete hevent

namespace Mirrors

variable {nodes nodes' : List StoredNode} {n : StoredNode} {table table' : IndexTable}

/-- A trigger carries a change of a node of its entity over to a table with its columns. -/
theorem fired {config : IndexConfig} {entities : String → Prop} {t : Trigger}
    (h : Mirrors nodes t.entity table) (hrenewed : Renewed nodes nodes' t.event n)
    (hentity : n.entity = t.entity) (hcolumns : table.columns = t.columns)
    (hwhole : IsWhole config entities table) (hsorted : RowsSorted table.rows)
    (hfired : Fired n t table table') :
    Mirrors nodes' t.entity table' := by
  have hcolumns' : table'.columns = table.columns := by
    obtain ⟨_, _, rfl⟩ := hfired.exists_eq
    rfl
  have hkept : ∀ row, n.indexRow t.columns = .ok row → table.arrange t.columns row = row := by
    intro row hrow
    rw [← hcolumns] at hrow ⊢
    exact IndexTable.arrange_eq_self hwhole.columns (length_texts_of_indexRow hrow)
  intro r
  rw [hfired.mem_iff hsorted, h r, hcolumns', hcolumns]
  constructor
  · rintro (⟨hevent, row, hrow, rfl⟩ | ⟨⟨m, hm, hme, hmr⟩, hid⟩)
    · rw [hkept row hrow]
      exact ⟨n, (hrenewed n).mpr (.inl ⟨hevent, rfl⟩), hentity, hrow⟩
    · rw [id_of_indexRow hmr] at hid
      exact ⟨m, (hrenewed m).mpr (.inr ⟨hm, hid⟩), hme, hmr⟩
  · rintro ⟨m, hm, hme, hmr⟩
    obtain ⟨hevent, rfl⟩ | ⟨hm, hid⟩ := (hrenewed m).mp hm
    · exact .inl ⟨hevent, r, hmr, (hkept r hmr).symm⟩
    · exact .inr ⟨⟨m, hm, hme, hmr⟩, by rwa [id_of_indexRow hmr]⟩

/-- A change of a node of another entity does not matter. -/
lemma renewed {event : NodeEvent} {e : String} (h : Mirrors nodes e table)
    (hrenewed : Renewed nodes nodes' event n) (hentity : n.entity ≠ e)
    (hold : ∀ m ∈ nodes, m.id = n.id → m.entity = n.entity) : Mirrors nodes' e table := by
  intro r
  rw [h r]
  constructor
  · rintro ⟨m, hm, hme, hmr⟩
    refine ⟨m, (hrenewed m).mpr (.inr ⟨hm, fun hid => hentity ?_⟩), hme, hmr⟩
    rw [← hold m hm hid, hme]
  · rintro ⟨m, hm, hme, hmr⟩
    obtain ⟨_, rfl⟩ | ⟨hm, _⟩ := (hrenewed m).mp hm
    · exact absurd hme hentity
    · exact ⟨m, hm, hme, hmr⟩

end Mirrors

namespace Current

/-! ## Changes of tables -/

/-- What is current is current even if less is watched. -/
lemma mono {watched' : String → Prop} (h : Current config entities watched d)
    (hwatched : ∀ e, watched' e → watched e) : Current config entities watched' d :=
  ⟨h.tables, fun t ht ht' => h.triggers t ht (hwatched _ ht'),
    fun t ht ht' => h.readable t ht (hwatched _ ht')⟩

/-- An empty database is current. -/
lemma empty (config : IndexConfig) (entities watched : String → Prop) :
    Current config entities watched Database.empty where
  tables := by simp [Database.empty]
  triggers := by simp [Database.empty]
  readable := by simp [Database.empty]

/-- Taking tables into use keeps them current. -/
lemma idle (h : Current config entities watched d) (hd : Retabled Idle d d') :
    Current config entities watched d' where
  tables t' ht' := by
    obtain ⟨t, ht, _, rfl⟩ := hd.origin ht'
    exact ⟨(h.tables t ht).named, (h.tables t ht).lost, (h.tables t ht).columns⟩
  triggers t ht hwatched := by
    rw [hd.triggers] at ht
    obtain ⟨table, htable, hname, hcolumns, hmirrors⟩ := h.triggers t ht hwatched
    obtain ⟨table', htable', _, rfl⟩ := hd.image htable
    rw [hd.nodes]
    exact ⟨_, htable', hname, hcolumns, hmirrors⟩
  readable := by
    rw [hd.nodes, hd.triggers]
    exact h.readable

/-- Whether a database can only be read does not matter. -/
lemma of_isReadOnly (h : Current config entities watched d) (b : Bool) :
    Current config entities watched { d with isReadOnly := b } :=
  ⟨h.tables, h.triggers, h.readable⟩

/-- A table without triggers for what is watched may get other rows. -/
lemma retabled_of_forall_ne {name : String} {R : IndexTable → IndexTable → Prop}
    (h : Current config entities watched d) (hd : Retabled (At name R) d d')
    (hR : ∀ t t', R t t' → ∃ rows k, t' = { t with rows, segments := k })
    (hnone : ∀ t ∈ d.triggers, watched t.entity → t.table ≠ name) :
    Current config entities watched d' where
  tables t' ht' := by
    obtain ⟨t, ht, hat⟩ := hd.origin ht'
    exact (h.tables t ht).of_at hat hR
  triggers t ht hwatched := by
    rw [hd.triggers] at ht
    obtain ⟨table, htable, hname, h⟩ := h.triggers t ht hwatched
    obtain ⟨table', htable', hat⟩ := hd.image htable
    rw [At, if_neg (hname ▸ hnone t ht hwatched)] at hat
    subst hat
    rw [hd.nodes]
    exact ⟨table', htable', hname, h⟩
  readable := by
    rw [hd.nodes, hd.triggers]
    exact h.readable

/-! ## Changes of nodes -/

section

variable {event : NodeEvent} {n : StoredNode} {nodes : List StoredNode} {id : Nat}

/-- A change of a node keeps the tables current if there are no triggers of its entity. -/
lemma of_renewed (h : Current config entities watched d)
    (hrenewed : Renewed d.nodes nodes event n)
    (hold : ∀ m ∈ d.nodes, m.id = n.id → m.entity = n.entity)
    (hother : ∀ t ∈ d.triggers, n.entity ≠ t.entity) :
    Current config entities watched { d with nodes, lastId := id } where
  tables := h.tables
  triggers t ht hwatched := by
    obtain ⟨table, htable, hname, hcolumns, hmirrors⟩ := h.triggers t ht hwatched
    exact ⟨table, htable, hname, hcolumns, hmirrors.renewed hrenewed (hother t ht) hold⟩
  readable t ht hwatched m hm hentity := by
    obtain ⟨_, rfl⟩ | ⟨hm, _⟩ := (hrenewed m).mp hm
    · exact absurd hentity (hother t ht)
    · exact h.readable t ht hwatched m hm hentity

/-- A change of a node keeps the tables current with what the trigger for it makes of the table of
the entity. -/
lemma of_fired {t : Trigger} (h : Current config entities watched d) (hkept : WellKept config d)
    (hrenewed : Renewed d.nodes nodes t.event n)
    (hold : ∀ m ∈ d.nodes, m.id = n.id → m.entity = n.entity) (ht : t ∈ d.triggers)
    (hentity : t.entity = n.entity)
    (hr : Retabled (At t.table (Fired n t)) { d with nodes, lastId := id } d') :
    Current config entities watched d' where
  tables table' htable' := by
    obtain ⟨table, htable, hat⟩ := hr.origin htable'
    exact (h.tables table htable).of_at hat fun _ _ hfired => hfired.exists_eq
  triggers t' ht' hwatched := by
    rw [hr.triggers] at ht'
    rw [hr.nodes]
    obtain ⟨table, htable, hname, hcolumns, hmirrors⟩ := h.triggers t' ht' hwatched
    obtain ⟨table', htable', hat⟩ := hr.image htable
    obtain ⟨hvalid, hnamed⟩ := hkept.triggers.named t ht
    unfold At at hat
    split_ifs at hat with hsame
    -- the table of the trigger, which carries the change over
    · have hshared : t'.table = t.table := hname.symm.trans hsame
      have hown : t'.entity = t.entity :=
        hkept.triggers.entity_eq ht' hvalid (hshared.trans hnamed)
      rw [hown] at hmirrors ⊢
      have hcarried := hmirrors.fired hrenewed hentity.symm
        (hcolumns.trans (hkept.triggers.columns_eq ht ht' hshared)) (h.tables table htable)
        (hkept.rows_sorted table htable) hat
      obtain ⟨_, _, rfl⟩ := hat.exists_eq
      exact ⟨_, htable', hname, hcolumns, hcarried⟩
    -- any other table, whose entity is another one
    · subst hat
      refine ⟨table', htable', hname, hcolumns, hmirrors.renewed hrenewed (fun hown => ?_) hold⟩
      refine hsame ?_
      rw [hname, (hkept.triggers.named t' ht').2, hnamed, hentity, hown]
  readable t' ht' hwatched m hm hown := by
    rw [hr.triggers] at ht'
    rw [hr.nodes] at hm
    obtain ⟨hevent, rfl⟩ | ⟨hm, _⟩ := (hrenewed m).mp hm
    · have hsame : t'.entity = t.entity := hown.symm.trans hentity.symm
      have hshared : t'.table = t.table := by
        rw [(hkept.triggers.named t' ht').2, (hkept.triggers.named t ht).2, hsame]
      obtain ⟨table, htable, hname, _⟩ := h.triggers t ht (hsame ▸ hwatched)
      obtain ⟨table', _, hat⟩ := hr.image htable
      rw [At, if_pos hname] at hat
      rw [hkept.triggers.columns_eq ht ht' hshared]
      exact hat.exists_row hevent
    · exact h.readable t' ht' hwatched m hm hown

/-- All triggers together carry a change of a node over to the tables.

**Proof sketch.** The tables of other entities are left alone, and so are their nodes. If the entity
of the node has triggers, then it has one for the change, and `Mirrors.fired` tells what this one
does. It has read the document of the node, unless this was deleted. -/
theorem fireAll (h : Current config entities watched d) (hkept : WellKept config d)
    (hrenewed : Renewed d.nodes nodes event n)
    (hold : ∀ m ∈ d.nodes, m.id = n.id → m.entity = n.entity)
    (hf : ({ d with nodes, lastId := id } : Database).fireAll event n = .ok d') :
    Current config entities watched d' := by
  have htriggers : TriggersKept config ({ d with nodes, lastId := id } : Database).triggers :=
    hkept.triggers
  obtain ⟨rfl, hnone⟩ | ⟨t, ht, rfl, hentity, hr⟩ := htriggers.fireAll_ok hf
  · refine h.of_renewed hrenewed hold fun t ht hentity => ?_
    -- a trigger of the entity would come with one for the change
    obtain ⟨t', ht', htable, hevent, _⟩ := hkept.triggers.complete t ht event
    obtain ⟨hvalid, hnamed⟩ := hkept.triggers.named t ht
    exact hnone t' ht' hevent
      ((hkept.triggers.entity_eq ht' hvalid (htable.trans hnamed)).trans hentity.symm)
  · exact h.of_fired hkept hrenewed hold ht hentity hr

end

/-- Storing a node keeps the tables current, whatever is stored. -/
theorem insertNode {entity document : String} {id : Int} (h : Current config entities watched d)
    (hkept : WellKept config d) (hd : insertNode entity document d = .ok (id, d')) :
    Current config entities watched d' := by
  obtain ⟨d₁, h₁, hd⟩ := bind_eq_ok.mp hd
  obtain ⟨d₂, h₂, hd⟩ := bind_eq_ok.mp hd
  cases hd
  have hkept₁ := hkept.idle (ready_ok h₁)
  have hfresh : ∀ m ∈ d₁.nodes, m.id ≠ ((d₁.lastId + 1 : Nat) : Int) := by
    intro m hm
    have := hkept₁.nodes_le m hm
    omega
  refine (h.idle (ready_ok h₁)).fireAll hkept₁ (fun m => ?_) (fun m hm hid => ?_) h₂
  · simp only [List.mem_append, List.mem_singleton, ne_eq, reduceCtorEq, not_false_eq_true,
      true_and]
    rw [or_comm, and_iff_left_of_imp (hfresh m)]
  · exact absurd hid (hfresh m hm)

/-- Storing a node on behalf of another program keeps the tables current. -/
theorem insertForeignNode {entity document : String} {id : Int} (h : Current config entities watched d)
    (hkept : WellKept config d) (hd : insertForeignNode entity document d = .ok (id, d')) :
    Current config entities watched d' := by
  obtain ⟨d₁, h₁, hidle⟩ := insertForeignNode_ok hd
  have hrest := retabled_atRest d
  exact ((h.idle hrest).insertNode (hkept.idle hrest) h₁).idle hidle

/-- Giving a node another document keeps the tables current. -/
theorem updateNode {id : Int} {entity document : String} {found : Bool}
    (h : Current config entities watched d) (hkept : WellKept config d)
    (hd : updateNode id entity document d = .ok (found, d')) : Current config entities watched d' := by
  obtain ⟨d₁, h₁, hd⟩ := bind_eq_ok.mp hd
  have hkept₁ := hkept.idle (ready_ok h₁)
  have hready := h.idle (ready_ok h₁)
  split at hd
  · cases hd
    exact hready
  · next n hn =>
    obtain ⟨hmem, rfl⟩ := hkept₁.node?_eq_some.mp hn
    split_ifs at hd
    · obtain ⟨d₂, h₂, hd⟩ := bind_eq_ok.mp hd
      cases hd
      refine hready.fireAll hkept₁ (fun m => ?_) (fun m hm hid => ?_) h₂
      · simp only [List.mem_map, ne_eq, reduceCtorEq, not_false_eq_true, true_and]
        constructor
        · rintro ⟨a, ha, rfl⟩
          split_ifs with hid
          · exact .inl rfl
          · exact .inr ⟨ha, hid⟩
        · rintro (rfl | ⟨hm, hid⟩)
          · exact ⟨n, hmem, if_pos rfl⟩
          · exact ⟨m, hm, if_neg hid⟩
      · rw [hkept₁.node_eq hm hmem hid]
    · cases hd
      exact hready

/-- Deleting a node keeps the tables current. -/
theorem deleteNode {id : Int} {found : Bool} (h : Current config entities watched d)
    (hkept : WellKept config d) (hd : deleteNode id d = .ok (found, d')) :
    Current config entities watched d' := by
  obtain ⟨d₁, h₁, hd⟩ := bind_eq_ok.mp hd
  have hkept₁ := hkept.idle (ready_ok h₁)
  have hready := h.idle (ready_ok h₁)
  split at hd
  · cases hd
    exact hready
  · next n hn =>
    obtain ⟨hmem, rfl⟩ := hkept₁.node?_eq_some.mp hn
    obtain ⟨d₂, h₂, hd⟩ := bind_eq_ok.mp hd
    cases hd
    refine hready.fireAll hkept₁ (fun m => ?_) (fun m hm hid => ?_) h₂
    · simp [List.mem_filter]
    · rw [hkept₁.node_eq hm hmem hid]

end Current

namespace InStep

/-- Tables in step are current, whatever is watched. -/
lemma current (h : InStep config entities d) : Current config entities watched d :=
  ⟨h.tables, fun t ht _ => h.triggers t ht,
    fun _ _ _ n hn _ => exists_indexRow_of_document (h.documents n hn)⟩

/-- Tables are in step if all are current and all nodes have been stored with properties. -/
lemma of_current (h : Current config entities (fun _ => True) d)
    (hdocuments : ∀ n ∈ d.nodes, ∃ p : Properties, n.document = p.document) :
    InStep config entities d :=
  ⟨h.tables, fun t ht => h.triggers t ht trivial, hdocuments⟩

/-- An empty database is in step. -/
lemma empty (config : IndexConfig) (entities : String → Prop) :
    InStep config entities Database.empty :=
  of_current (.empty config entities _) (by simp [Database.empty])

/-- Taking tables into use keeps them in step. -/
lemma idle (h : InStep config entities d) (hd : Retabled Idle d d') :
    InStep config entities d' :=
  of_current (h.current.idle hd) (hd.nodes ▸ h.documents)

/-- Whether a database can only be read does not matter. -/
lemma of_isReadOnly (h : InStep config entities d) (b : Bool) :
    InStep config entities { d with isReadOnly := b } :=
  ⟨h.tables, h.triggers, h.documents⟩

/-- Storing a node with properties keeps the tables in step. -/
theorem insertNode {entity : String} {p : Properties} {id : Int} (h : InStep config entities d)
    (hkept : WellKept config d) (hd : insertNode entity p.document d = .ok (id, d')) :
    InStep config entities d' := by
  refine of_current (h.current.insertNode hkept hd) fun n hn => ?_
  rw [(insertNode_contents hd).2.1, List.mem_append, List.mem_singleton] at hn
  obtain hn | rfl := hn
  · exact h.documents n hn
  · exact ⟨p, rfl⟩

/-- Giving a node other properties keeps the tables in step. -/
theorem updateNode {id : Int} {entity : String} {p : Properties} {found : Bool}
    (h : InStep config entities d) (hkept : WellKept config d)
    (hd : updateNode id entity p.document d = .ok (found, d')) : InStep config entities d' := by
  refine of_current (h.current.updateNode hkept hd) fun n hn => ?_
  rw [(updateNode_contents hd).2.1] at hn
  split_ifs at hn
  · obtain ⟨m, hm, rfl⟩ := List.mem_map.mp hn
    split_ifs
    · exact ⟨p, rfl⟩
    · exact h.documents m hm
  · exact h.documents n hn

/-- Deleting a node keeps the tables in step. -/
theorem deleteNode {id : Int} {found : Bool} (h : InStep config entities d)
    (hkept : WellKept config d) (hd : deleteNode id d = .ok (found, d')) :
    InStep config entities d' := by
  refine of_current (h.current.deleteNode hkept hd) fun n hn => ?_
  rw [(deleteNode_contents hd).2.1] at hn
  exact h.documents n (List.mem_of_mem_filter hn)

end InStep

/-! ## Rows in order -/

/-- Nodes that can be read have rows. -/
lemma exists_indexRows_of_readable {columns : List String} {nodes : List StoredNode}
    (h : ∀ n ∈ nodes, ∃ row, n.indexRow columns = .ok row) :
    ∃ rows, indexRows columns nodes = .ok rows := by
  induction nodes with
  | nil => exact ⟨[], rfl⟩
  | cons n nodes ih =>
    obtain ⟨rows, hrows⟩ := ih fun m hm => h m (.tail _ hm)
    obtain ⟨row, hrow⟩ := h n (.head _)
    refine ⟨row :: rows, ?_⟩
    rw [indexRows, hrow, hrows]
    rfl

/-- Nodes that have rows can be read. -/
lemma exists_indexRow_of_mem {columns : List String} {nodes : List StoredNode}
    {rows : List IndexRow} {n : StoredNode} (h : indexRows columns nodes = .ok rows)
    (hn : n ∈ nodes) : ∃ row, n.indexRow columns = .ok row := by
  obtain ⟨i, hi, rfl⟩ := List.getElem_of_mem hn
  have hall := indexRows_eq_ok.mp h
  have hl := hall.length_eq
  exact ⟨rows[i], hall.get hi (by omega)⟩

/-- The rows of nodes in order are in order. -/
lemma rowsSorted_of_indexRows {columns : List String} {nodes : List StoredNode}
    {rows : List IndexRow} (hnodes : nodes.Pairwise fun a b => a.id < b.id)
    (h : indexRows columns nodes = .ok rows) : RowsSorted rows := by
  have hids : rows.map (·.id) = nodes.map (·.id) := by
    have hids : List.Forall₂ (· = ·) (nodes.map (·.id)) (rows.map (·.id)) := by
      rw [List.forall₂_map_left_iff, List.forall₂_map_right_iff]
      exact (indexRows_eq_ok.mp h).imp fun n r hr => (id_of_indexRow hr).symm
    exact (List.forall₂_eq_eq_eq ▸ hids :).symm
  have hsorted : (rows.map (·.id)).Pairwise (· < ·) := by
    rw [hids]
    exact List.pairwise_map.mpr hnodes
  exact List.pairwise_map.mp hsorted

/-- A table that mirrors nodes which it can read has the rows that these fill it with. -/
theorem indexRows_eq_rows_of_readable {e : String} {t : IndexTable} (h : Mirrors d.nodes e t)
    (hsorted : RowsSorted t.rows) (hnodes : d.nodes.Pairwise fun a b => a.id < b.id)
    (hreadable : ∀ n ∈ d.nodesOf e, ∃ row, n.indexRow t.columns = .ok row) :
    indexRows t.columns (d.nodesOf e) = .ok t.rows := by
  obtain ⟨rows, hrows⟩ := exists_indexRows_of_readable hreadable
  have hsorted' := rowsSorted_of_indexRows (hnodes.filter _) hrows
  have hnodup : ∀ {l : List IndexRow}, RowsSorted l → l.Nodup :=
    fun hl => hl.imp fun hlt heq => (heq ▸ hlt).false
  have hperm : rows.Perm t.rows := by
    refine (List.perm_ext_iff_of_nodup (hnodup hsorted') (hnodup hsorted)).mpr fun r => ?_
    rw [mem_indexRows hrows, h r]
    simp [nodesOf, and_assoc]
  have heq : rows = t.rows := hperm.eq_of_pairwise
    (fun a b _ _ hab hba => absurd (hab.trans hba) (lt_irrefl _)) hsorted' hsorted
  rw [hrows, heq]

/-- A table that mirrors the nodes of an entity has the rows that these fill it with. -/
theorem indexRows_eq_rows {e : String} {t : IndexTable} (h : Mirrors d.nodes e t)
    (hsorted : RowsSorted t.rows) (hnodes : d.nodes.Pairwise fun a b => a.id < b.id)
    (hdocuments : ∀ n ∈ d.nodes, ∃ p : Properties, n.document = p.document) :
    indexRows t.columns (d.nodesOf e) = .ok t.rows :=
  indexRows_eq_rows_of_readable h hsorted hnodes fun n hn =>
    exists_indexRow_of_document (hdocuments n (List.mem_of_mem_filter hn))

end Database

end EntityFinder
