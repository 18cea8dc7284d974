import EntityFinder.Proofs.Intact.Runs

set_option autoImplicit false

/-!
# What a database holds of one entity

All entities share the nodes, the counter, and the names of tables and triggers. Two databases agree
on an entity if they hold the same of it; then they give the same answers about it.

## Main definitions

* `EntityFinder.IndexTable.inService`: a table as it is once it has been taken into use.
* `EntityFinder.Database.AgreesOn`: two databases hold the same of an entity.

## Main results

* `EntityFinder.Database.AgreesOn.insertNode`, `EntityFinder.Database.AgreesOn.updateNode`,
  `EntityFinder.Database.AgreesOn.deleteNode`: changes of the nodes of other entities.
* `EntityFinder.IndexPlan.SetupStep.agreesOn`: setups for other entities.
* `EntityFinder.Database.AgreesOn.matching_eq`, `EntityFinder.Database.AgreesOn.rowCount_eq`: answers
  about the entity.
-/

namespace EntityFinder

/-- A table as it is once it has been taken into use. -/
def IndexTable.inService (t : IndexTable) : IndexTable :=
  { t with inUse := true }

namespace Database

/-- Two databases hold the same of an entity: its nodes, its table, whether in use or not, and the
triggers of this table. -/
structure AgreesOn (config : IndexConfig) (e : String) (d d' : Database) : Prop where
  /-- The nodes are the same. -/
  nodes : d'.nodesOf e = d.nodesOf e
  /-- The table is the same. -/
  table : (d'.table? (config.tableName e)).map IndexTable.inService =
    (d.table? (config.tableName e)).map IndexTable.inService
  /-- The triggers are the same. -/
  triggers : (d'.triggers.filter fun t => t.table == config.tableName e) =
    d.triggers.filter fun t => t.table == config.tableName e

variable {config : IndexConfig} {entities : String → Prop} {e : String} {d d' d'' : Database}

namespace AgreesOn

/-- A database agrees with itself. -/
lemma refl (config : IndexConfig) (e : String) (d : Database) : AgreesOn config e d d :=
  ⟨rfl, rfl, rfl⟩

/-- Agreeing passes on. -/
lemma trans (h : AgreesOn config e d d') (h' : AgreesOn config e d' d'') :
    AgreesOn config e d d'' :=
  ⟨h'.nodes.trans h.nodes, h'.table.trans h.table, h'.triggers.trans h.triggers⟩

/-! ## Changes of tables -/

/-- A change of tables does not matter if the table of the entity stays, in use or not. -/
lemma of_retabled {R : IndexTable → IndexTable → Prop} (h : Retabled R d d')
    (hname : ∀ t t', R t t' → t'.name = t.name)
    (hsame : ∀ t t', R t t' → t.name = config.tableName e → t'.inService = t.inService) :
    AgreesOn config e d d' where
  nodes := by rw [nodesOf, nodesOf, h.nodes]
  table := by
    obtain ⟨hnone, hnone'⟩ | ⟨t, t', ht, ht', hr⟩ := h.table?_cases hname (config.tableName e)
    · rw [hnone, hnone']
    · have hnamed : t.name = config.tableName e := by simpa using List.find?_some ht
      rw [ht, ht', Option.map_some, Option.map_some, hsame t t' hr hnamed]
  triggers := by rw [h.triggers]

/-- Taking tables into use does not matter. -/
lemma of_idle (h : Retabled Idle d d') : AgreesOn config e d d' :=
  of_retabled h (fun t t' ht => by obtain ⟨_, rfl⟩ := ht; rfl) fun t t' ht _ => by
    obtain ⟨_, rfl⟩ := ht
    rfl

/-- What becomes of the rows of another table does not matter. -/
lemma of_at {name : String} {R : IndexTable → IndexTable → Prop} (h : Retabled (At name R) d d')
    (hR : ∀ t t', R t t' → ∃ rows k, t' = { t with rows, segments := k })
    (hne : name ≠ config.tableName e) : AgreesOn config e d d' := by
  refine of_retabled h (fun t t' ht => ?_) fun t t' ht hname => ?_
  · refine ht.name fun t t' ht => ?_
    obtain ⟨_, _, rfl⟩ := hR t t' ht
    rfl
  · rw [At, if_neg fun heq => hne (heq.symm.trans hname)] at ht
    rw [ht]

/-! ## Changes of nodes -/

/-- A change of the nodes of another entity does not matter, with what the triggers make of it. -/
lemma fireAll {event : NodeEvent} {n : StoredNode} {nodes : List StoredNode} {id : Nat}
    (hkept : TriggersKept config d.triggers) (he : IsEntityName e) (hne : n.entity ≠ e)
    (hnodes : (nodes.filter (·.entity == e)) = d.nodesOf e)
    (hd : ({ d with nodes, lastId := id } : Database).fireAll event n = .ok d') :
    AgreesOn config e d d' := by
  have hstored : AgreesOn config e d { d with nodes, lastId := id } := ⟨hnodes, rfl, rfl⟩
  have hkept' : TriggersKept config ({ d with nodes, lastId := id } : Database).triggers := hkept
  obtain ⟨rfl, _⟩ | ⟨t, ht, _, hentity, hr⟩ := hkept'.fireAll_ok hd
  · exact hstored
  · refine hstored.trans (of_at hr (fun _ _ h => h.exists_eq) fun htable => hne ?_)
    rw [← hentity]
    exact hkept'.entity_eq ht he htable

/-- Storing a node of another entity does not matter. -/
theorem insertNode {entity document : String} {id : Int} (hkept : WellKept config d)
    (he : IsEntityName e) (hne : entity ≠ e)
    (hd : insertNode entity document d = .ok (id, d')) : AgreesOn config e d d' := by
  obtain ⟨d₁, h₁, hd⟩ := bind_eq_ok.mp hd
  obtain ⟨d₂, h₂, hd⟩ := bind_eq_ok.mp hd
  cases hd
  have hidle := ready_ok h₁
  refine (of_idle hidle).trans (fireAll (hkept.idle hidle).triggers he hne ?_ h₂)
  rw [List.filter_append, List.filter_cons_of_neg (by simpa using hne), List.filter_nil,
    List.append_nil]
  rfl

/-- Nodes that are none of an entity may become another one that is none. -/
lemma filter_map_eq {id : Int} {n : StoredNode} (hn : n.entity ≠ e) {nodes : List StoredNode}
    (h : ∀ m ∈ nodes, m.id = id → m.entity ≠ e) :
    ((nodes.map fun m => if m.id = id then n else m).filter (·.entity == e)) =
      nodes.filter (·.entity == e) := by
  induction nodes with
  | nil => rfl
  | cons m nodes ih =>
    have ih := ih fun a ha => h a (.tail _ ha)
    rw [List.map_cons]
    by_cases hm : m.id = id
    · rw [if_pos hm, List.filter_cons_of_neg (by simpa using hn),
        List.filter_cons_of_neg (by simpa using h m (.head _) hm), ih]
    · rw [if_neg hm, List.filter_cons, List.filter_cons, ih]

/-- Giving a node of another entity another document does not matter. -/
theorem updateNode {id : Int} {entity document : String} {found : Bool}
    (hkept : WellKept config d) (he : IsEntityName e) (hne : entity ≠ e)
    (hd : updateNode id entity document d = .ok (found, d')) : AgreesOn config e d d' := by
  obtain ⟨d₁, h₁, hd⟩ := bind_eq_ok.mp hd
  have hidle := ready_ok h₁
  have hkept₁ := hkept.idle hidle
  split at hd
  · cases hd
    exact of_idle hidle
  · next n hn =>
    split_ifs at hd with hentity
    · obtain ⟨d₂, h₂, hd⟩ := bind_eq_ok.mp hd
      cases hd
      obtain ⟨hmem, hid⟩ := hkept₁.node?_eq_some.mp hn
      have hother : n.entity ≠ e := fun h => hne (hentity.symm.trans h)
      refine (of_idle hidle).trans
        (fireAll (n := { n with document }) hkept₁.triggers he hother ?_ h₂)
      refine filter_map_eq (n := { n with document }) hother fun m hm hmid => ?_
      rwa [hkept₁.node_eq hm hmem (hmid.trans hid.symm)]
    · cases hd
      exact of_idle hidle

/-- Deleting a node of another entity does not matter. -/
theorem deleteNode {id : Int} {found : Bool} (hkept : WellKept config d) (he : IsEntityName e)
    (hne : ∀ n ∈ d.nodes, n.id = id → n.entity ≠ e)
    (hd : deleteNode id d = .ok (found, d')) : AgreesOn config e d d' := by
  obtain ⟨d₁, h₁, hd⟩ := bind_eq_ok.mp hd
  have hidle := ready_ok h₁
  have hkept₁ := hkept.idle hidle
  rw [← hidle.nodes] at hne
  split at hd
  · cases hd
    exact of_idle hidle
  · next n hn =>
    obtain ⟨d₂, h₂, hd⟩ := bind_eq_ok.mp hd
    cases hd
    obtain ⟨hmem, hid⟩ := hkept₁.node?_eq_some.mp hn
    refine (of_idle hidle).trans (fireAll hkept₁.triggers he (hne n hmem hid) ?_ h₂)
    rw [nodesOf, List.filter_filter]
    refine List.filter_congr fun m hm => ?_
    by_cases hentity : m.entity = e
    · have hmid : m.id ≠ id := fun h => hne m hm h hentity
      simp [hentity, hmid]
    · simp [hentity]

/-! ## Answers -/

section

variable (h : AgreesOn config e d d')

include h

/-- The records of the entity are the same. -/
lemma recordsOf_eq : d'.recordsOf e = d.recordsOf e := by
  rw [recordsOf, recordsOf, h.nodes]

/-- The same node is found by a property. -/
lemma firstWith_eq (key value : String) : d'.firstWith e key value = d.firstWith e key value := by
  rw [firstWith, firstWith, h.nodes]

/-- Either both databases have a table of the entity, and it is the same, or none has one. -/
lemma table_cases : d.table? (config.tableName e) = none ∧ d'.table? (config.tableName e) = none ∨
    ∃ t t', d.table? (config.tableName e) = some t ∧ d'.table? (config.tableName e) = some t' ∧
      t'.inService = t.inService := by
  have htable := h.table
  cases ht : d.table? (config.tableName e) with
  | none =>
    rw [ht, Option.map_none, Option.map_eq_none_iff] at htable
    exact .inl ⟨rfl, htable⟩
  | some t =>
    rw [ht, Option.map_some, Option.map_eq_some_iff] at htable
    obtain ⟨t', ht', hsame⟩ := htable
    exact .inr ⟨t, t', rfl, ht', hsame⟩

variable (hapart : config.Apart entities) (hentity : entities e) (he : IsEntityName e)
variable (hd : Intact config entities d) (hd' : Intact config entities d')

include hapart hentity he hd hd'

/-- The number of rows is the same. -/
theorem rowCount_eq : d'.rowCount (config.tableName e) = d.rowCount (config.tableName e) := by
  obtain ⟨ht, ht'⟩ | ⟨t, t', ht, ht', hsame⟩ := h.table_cases
  · rw [rowCount, rowCount, hd.relation?_eq_none hapart hentity he (columnsOf?_eq_none.mp (by
      rw [columnsOf?, ht, Option.map_none])), hd'.relation?_eq_none hapart hentity he
      (columnsOf?_eq_none.mp (by rw [columnsOf?, ht', Option.map_none]))]
  · have hrows : t'.rows = t.rows := (congrArg IndexTable.rows hsame :)
    rw [rowCount, rowCount, relation?_eq_index.mpr ht, relation?_eq_index.mpr ht']
    simp only
    rw [IndexTable.size_eq (hd.tables t (mem_and_name_of_table? ht).1).lost,
      IndexTable.size_eq (hd'.tables t' (mem_and_name_of_table? ht').1).lost, hrows]

/-- A query of the table finds the same. -/
theorem matching_eq (hpre : Text.isIdentifier config.tablePrefix = true)
    (hkept : WellKept config d) (hkept' : WellKept config d') (text : String) :
    d'.matching (config.tableName e) text = d.matching (config.tableName e) text := by
  obtain ⟨ht, ht'⟩ | ⟨t, t', ht, ht', hsame⟩ := h.table_cases
  · have hnone := hd.relation?_eq_none hapart hentity he (columnsOf?_eq_none.mp (by
      rw [columnsOf?, ht, Option.map_none]))
    have hnone' := hd'.relation?_eq_none hapart hentity he (columnsOf?_eq_none.mp (by
      rw [columnsOf?, ht', Option.map_none]))
    simp only [matching, IndexConfig.alone_tableName hpre he, bind, Except.bind, hnone, hnone']
  · rw [matching_of_table hpre he ht, matching_of_table hpre he ht']
    have hsearch : t'.search text = t.search text :=
      (congrArg (fun t : IndexTable => t.search text) hsame :)
    rw [hsearch]
    cases hfound : t.search text with
    | error f => rfl
    | ok ids =>
      refine congrArg Except.ok (List.filterMap_congr fun id hid => ?_)
      -- a row that is found is that of a node of the entity, which both databases hold
      obtain ⟨htable, hname⟩ := mem_and_name_of_table? ht
      obtain ⟨_, hrows⟩ := IndexTable.search_ok (hkept.rows_sorted t htable) hfound
      obtain ⟨r, hr, hrid⟩ := hrows id hid
      obtain ⟨n, hn, hnid, hentity⟩ := hkept.exists_node htable hname he hr
      have hown : n ∈ d.nodesOf e := List.mem_filter.mpr ⟨hn, beq_iff_eq.mpr hentity⟩
      have hown' : n ∈ d'.nodes := by
        rw [← h.nodes] at hown
        exact List.mem_of_mem_filter hown
      rw [hkept.node?_eq_some.mpr ⟨hn, hnid.trans hrid⟩,
        hkept'.node?_eq_some.mpr ⟨hown', hnid.trans hrid⟩]

end

end AgreesOn

end Database

/-! ## Setups -/

namespace IndexPlan

open Database
open Relation (ReflTransGen)

variable {config : IndexConfig} {entities : String → Prop} {p : IndexPlan} {e : String}
  {d d' : Database}

/-- The triggers of other tables stay when the missing ones are added. -/
lemma filter_triggers_withTriggers {name : String} (hne : p.table ≠ name) (d : Database) :
    ((p.withTriggers d).triggers.filter fun t => t.table == name) =
      d.triggers.filter fun t => t.table == name := by
  have hadd : ∀ (event : NodeEvent) (d : Database),
      ((d.addTrigger (p.trigger event)).triggers.filter fun t => t.table == name) =
        d.triggers.filter fun t => t.table == name := by
    intro event d
    unfold addTrigger
    split_ifs
    · rfl
    · exact List.filter_cons_of_neg (by simpa [trigger] using hne)
  rw [withTriggers, hadd, hadd, hadd]

variable (hp : p.IsPlain config) (htokenizer : p.tokenizer = config.tokenizer)
variable (hapart : config.Apart entities) (hentity : entities p.entity)
variable (he : IsEntityName e) (hne : p.entity ≠ e)

include hp hapart hentity he hne

/-- A step of a setup for another entity does not matter. -/
theorem SetupStep.agreesOn (h : SetupStep p d d') (hd : Intact config entities d) :
    AgreesOn config e d d' := by
  have htable : p.table ≠ config.tableName e := by
    rw [hp.table]
    exact fun heq => hne (config.tableName_injective hp.entity he heq)
  cases h with
  | use hidle => exact .of_idle hidle
  | create hnone hdeclare =>
    refine ⟨rfl, ?_, rfl⟩
    have hother : ((IndexTable.created p.table p.columns p.tokenizer).name ==
        config.tableName e) = false := beq_eq_false_iff_ne.mpr htable
    simp only [table?, List.find?_append, List.find?_cons, hother, List.find?_nil, Option.or_none]
  | refill hr => exact .of_at hr (fun _ _ h => h) htable
  | guard _ _ =>
    refine ⟨?_, ?_, filter_triggers_withTriggers htable d⟩
    · rw [withTriggers_eq]
      rfl
    · rw [withTriggers_eq]
      rfl
  | drop =>
    refine ⟨rfl, ?_, ?_⟩
    -- what is dropped has other names than the table of the entity and its triggers
    · have htables : ((d.removeTable p.table).withoutTriggers p.table).tables =
          d.tables.filter fun t => t.name != p.table := by
        rw [hp.table]
        exact hd.tables_removeTable hapart hentity hp.entity
      rw [table?, htables, table?, List.find?_filter]
      refine congrArg _ (List.find?_congr fun t _ => ?_)
      by_cases hname : t.name = config.tableName e
      · simp [hname, htable.symm]
      · simp [hname]
    · change ((d.triggers.filter fun t => t.table != p.table).filter _) = _
      rw [List.filter_filter]
      refine List.filter_congr fun t _ => ?_
      by_cases hname : t.table = config.tableName e
      · simp [hname, htable.symm]
      · simp [hname]

include htokenizer

/-- A setup for another entity does not matter. -/
lemma agreesOn_of_steps (h : ReflTransGen (SetupStep p) d d') (hd : Intact config entities d) :
    AgreesOn config e d d' := by
  induction h with
  | refl => exact .refl config e d
  | tail hsteps hstep ih =>
    have hintact := intact_of_steps hp htokenizer hapart hentity hsteps hd
    exact ih.trans (hstep.agreesOn hp hapart hentity he hne hintact)

end IndexPlan

end EntityFinder
