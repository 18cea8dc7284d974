import EntityFinder.Proofs.IndexRows
import EntityFinder.Proofs.TableNames

set_option autoImplicit false

/-!
# What statements do

Each statement on the table of an entity is described by what it leaves when it succeeds. One that
fails leaves the database as it was.

## Main definitions

* `EntityFinder.Database.Retabled`: two databases differ in their tables only, one by one.
* `EntityFinder.Database.At`: only the table with a name differs.
* `EntityFinder.Database.addTrigger`, `EntityFinder.Database.withoutTrigger`: a database with a
  trigger, unless there is one like it, and without a trigger.

## Main results

* `EntityFinder.Database.ends_run`, `EntityFinder.Database.ends_execute`: how statements end.
* `EntityFinder.Database.createTable_ok`, `EntityFinder.Database.dropTable_ok`,
  `EntityFinder.Database.clearTable_ok`, `EntityFinder.Database.fillTable_ok`: full-text tables.
* `EntityFinder.Database.createTrigger_eq`, `EntityFinder.Database.dropTrigger_eq`: triggers.
* `EntityFinder.Database.ready_ok`, `EntityFinder.Database.fire_ok`: what triggers do.
-/

namespace EntityFinder.Database

open EntityFinder.Action (Ends)

variable {d d' : Database}

/-! ## Success and failure -/

/-- A statement either succeeds or leaves the database alone. Of a database that can only be read
it succeeds if it has nothing to do. -/
lemma ends_run {statement : Database → Except DatabaseFault Database}
    {Q : Unit → Database → Prop} {E : Database → Prop} (hE : E d)
    (hQ : ∀ d', statement d = .ok d' → (d.isReadOnly = true → d' = d) → Q () d') :
    Ends (run statement) d Q E := by
  refine Action.ends_atomic (fun x d' h => ?_) hE
  rw [mapError_eq_ok] at h
  cases hs : settling statement d with
  | error f =>
    rw [hs] at h
    cases h
  | ok d₁ =>
    rw [hs] at h
    cases h
    unfold settling at hs
    cases hst : statement d with
    | error f =>
      rw [hst] at hs
      cases hs
    | ok d₂ =>
      simp only [hst] at hs
      split_ifs at hs with hro
      cases hs
      exact hQ _ hst fun hr => by_contra fun hne => hro ⟨hr, hne⟩

/-- A statement that succeeds takes effect in a database that can be changed. -/
lemma perform_run_of_ok {statement : Database → Except DatabaseFault Database}
    (h : statement d = .ok d') (hr : d.isReadOnly = false) :
    (run statement).perform d = (.ok (), d') := by
  simp [run, Action.atomic, settling, h, hr, Except.map, Except.mapError]

/-- A statement that fails on a database that can be changed fails with its own fault. -/
lemma perform_run_of_error {statement : Database → Except DatabaseFault Database}
    {f : DatabaseFault} (h : statement d = .error f) (hr : d.isReadOnly = false) :
    (run statement).perform d = (.error f.toError, d) := by
  simp [run, Action.atomic, settling, reported, h, hr, Except.map, Except.mapError]

/-- A statement that succeeds, on a database that can be changed. -/
lemma ends_run_of_ok {statement : Database → Except DatabaseFault Database}
    {Q : Unit → Database → Prop} {E : Database → Prop} (h : statement d = .ok d')
    (hr : d.isReadOnly = false) (hQ : Q () d') : Ends (run statement) d Q E := by
  rw [Ends, perform_run_of_ok h hr]
  exact hQ

/-- A statement with an answer changes the database, or leaves it alone. -/
lemma ends_execute {α : Type} {statement : Database → Except DatabaseFault (α × Database)}
    {Q : α → Database → Prop} {E : Database → Prop} (hE : E d)
    (hQ : ∀ x d', statement d = .ok (x, d') → d.isReadOnly = false → Q x d') :
    Ends (execute statement) d Q E := by
  refine Action.ends_atomic (fun x d' h => ?_) hE
  rw [mapError_eq_ok] at h
  unfold changing at h
  cases hs : statement d with
  | error f =>
    rw [hs] at h
    cases h
  | ok r =>
    simp only [hs] at h
    split_ifs at h with hr
    cases h
    exact hQ x d' hs (by simpa using hr)

/-! ## Changes of tables -/

/-- What relates the members of lists one by one passes on. -/
lemma forall₂_trans {α : Type} {R S T : α → α → Prop} (hRST : ∀ a b c, R a b → S b c → T a c)
    {l l' l'' : List α} (h : List.Forall₂ R l l') (h' : List.Forall₂ S l' l'') :
    List.Forall₂ T l l'' := by
  induction h generalizing l'' with
  | nil =>
    cases h'
    exact .nil
  | cons hab _ ih =>
    cases h' with
    | cons hbc htail => exact .cons (hRST _ _ _ hab hbc) (ih htail)

/-- A member of the first of two lists that are related one by one is related to one of the
second. -/
lemma exists_right_of_forall₂ {α : Type} {R : α → α → Prop} {l l' : List α}
    (h : List.Forall₂ R l l') {a : α} (ha : a ∈ l) : ∃ b ∈ l', R a b := by
  obtain ⟨i, hi, rfl⟩ := List.getElem_of_mem ha
  have hl := h.length_eq
  exact ⟨l'[i], List.getElem_mem _, h.get hi (by omega)⟩

/-- A member of the second of two lists that are related one by one is related to one of the
first. -/
lemma exists_left_of_forall₂ {α : Type} {R : α → α → Prop} {l l' : List α}
    (h : List.Forall₂ R l l') {b : α} (hb : b ∈ l') : ∃ a ∈ l, R a b :=
  exists_right_of_forall₂ h.flip hb

/-- Lists whose members are related one by one have the same values of a function if related members
have. -/
lemma map_eq_of_forall₂ {α β : Type} {R : α → α → Prop} {f : α → β} {l l' : List α}
    (h : List.Forall₂ R l l') (hf : ∀ a b, R a b → f b = f a) : l'.map f = l.map f := by
  have hmap : List.Forall₂ (fun x y => y = x) (l.map f) (l'.map f) := by
    rw [List.forall₂_map_left_iff, List.forall₂_map_right_iff]
    exact h.imp hf
  exact (List.forall₂_eq_eq_eq ▸ hmap.flip : l'.map f = l.map f)

/-- Databases with the same nodes find the same under a number. -/
lemma node?_congr (h : d'.nodes = d.nodes) : d'.node? = d.node? := by
  funext id
  rw [node?, node?, h]

/-- The tables of a database have become others, one by one, and nothing else has changed. -/
structure Retabled (R : IndexTable → IndexTable → Prop) (d d' : Database) : Prop where
  /-- The nodes are the same. -/
  nodes : d'.nodes = d.nodes
  /-- The counter is the same. -/
  lastId : d'.lastId = d.lastId
  /-- The triggers are the same. -/
  triggers : d'.triggers = d.triggers
  /-- It can be changed as before. -/
  isReadOnly : d'.isReadOnly = d.isReadOnly
  /-- Each table has become another. -/
  tables : List.Forall₂ R d.tables d'.tables

namespace Retabled

variable {R S : IndexTable → IndexTable → Prop}

/-- Every table has come from one. -/
lemma origin (h : Retabled R d d') {t' : IndexTable} (ht : t' ∈ d'.tables) :
    ∃ t ∈ d.tables, R t t' :=
  exists_left_of_forall₂ h.tables ht

/-- Every table has become one. -/
lemma image (h : Retabled R d d') {t : IndexTable} (ht : t ∈ d.tables) :
    ∃ t' ∈ d'.tables, R t t' :=
  exists_right_of_forall₂ h.tables ht

/-- The names of the tables are the same if each keeps its own. -/
lemma names (h : Retabled R d d') (hR : ∀ t t', R t t' → t'.name = t.name) :
    d'.tables.map (·.name) = d.tables.map (·.name) :=
  map_eq_of_forall₂ h.tables hR

/-- Both databases have a table with a name, or neither has, if each table keeps its own name. -/
lemma table?_cases (h : Retabled R d d') (hR : ∀ t t', R t t' → t'.name = t.name) (name : String) :
    d.table? name = none ∧ d'.table? name = none ∨
      ∃ t t', d.table? name = some t ∧ d'.table? name = some t' ∧ R t t' := by
  unfold table?
  have hall := h.tables
  generalize d.tables = l at hall
  generalize d'.tables = l' at hall
  induction hall with
  | nil => exact .inl ⟨rfl, rfl⟩
  | @cons t t' l l' ht _ ih =>
    rw [List.find?_cons, List.find?_cons, hR t t' ht]
    cases t.name == name with
    | true => exact .inr ⟨_, _, rfl, rfl, ht⟩
    | false => exact ih

/-- The table with a name has become one with this name if each keeps its own. -/
lemma table?_eq_some (h : Retabled R d d') (hR : ∀ t t', R t t' → t'.name = t.name) {name : String}
    {t : IndexTable} (ht : d.table? name = some t) : ∃ t', d'.table? name = some t' ∧ R t t' := by
  obtain ⟨hnone, _⟩ | ⟨t₁, t', hsome, ht', hr⟩ := h.table?_cases hR name
  · rw [hnone] at ht
    cases ht
  · rw [hsome] at ht
    cases ht
    exact ⟨t', ht', hr⟩

/-- What has become of the tables may be told less precisely. -/
lemma mono (h : Retabled R d d') (hRS : ∀ t t', R t t' → S t t') : Retabled S d d' :=
  { h with tables := h.tables.imp hRS }

/-- Nothing has become of a database. -/
lemma refl (hR : ∀ t, R t t) (d : Database) : Retabled R d d :=
  ⟨rfl, rfl, rfl, rfl, List.forall₂_same.mpr fun t _ => hR t⟩

/-- One change after another is a change. -/
lemma trans {T : IndexTable → IndexTable → Prop} {d'' : Database}
    (hRST : ∀ a b c, R a b → S b c → T a c) (h : Retabled R d d') (h' : Retabled S d' d'') :
    Retabled T d d'' where
  nodes := h'.nodes.trans h.nodes
  lastId := h'.lastId.trans h.lastId
  triggers := h'.triggers.trans h.triggers
  isReadOnly := h'.isReadOnly.trans h.isReadOnly
  tables := forall₂_trans hRST h.tables h'.tables

end Retabled

/-- The table with a name has become another, and all others have stayed. -/
def At (name : String) (R : IndexTable → IndexTable → Prop) (t t' : IndexTable) : Prop :=
  if t.name = name then R t t' else t' = t

/-- What is known of a change of the table with a name, and of no change, is known of `At`. -/
lemma At.elim {name : String} {R S : IndexTable → IndexTable → Prop} {t t' : IndexTable}
    (h : At name R t t') (hS : ∀ t, S t t) (hR : ∀ t t', R t t' → S t t') : S t t' := by
  unfold At at h
  split_ifs at h
  · exact hR _ _ h
  · exact h ▸ hS t

/-- A table keeps its name if the one with the name keeps it. -/
lemma At.name {name : String} {R : IndexTable → IndexTable → Prop} {t t' : IndexTable}
    (h : At name R t t') (hR : ∀ t t', R t t' → t'.name = t.name) : t'.name = t.name :=
  h.elim (S := fun t t' => t'.name = t.name) (fun _ => rfl) hR

/-- What has become of the table with a name may be told less precisely. -/
lemma At.mono {name : String} {R S : IndexTable → IndexTable → Prop} {t t' : IndexTable}
    (h : At name R t t') (hRS : R t t' → S t t') : At name S t t' := by
  unfold At at h ⊢
  split_ifs at h ⊢
  · exact hRS h
  · exact h

/-- One change of the table with a name after another is a change of it. -/
lemma At.trans {name : String} {R S T : IndexTable → IndexTable → Prop} {a b c : IndexTable}
    (hname : R a b → b.name = a.name) (hRST : R a b → S b c → T a c) (h : At name R a b)
    (h' : At name S b c) : At name T a c := by
  unfold At at h h' ⊢
  split_ifs at h with ha
  · rw [if_pos ((hname h).trans ha)] at h'
    rw [if_pos ha]
    exact hRST h h'
  · subst h
    rwa [if_neg ha] at h' ⊢

/-- A change of a table is a change of the table with its name. -/
lemma changeTable_ok {name : String} {f : IndexTable → Except DatabaseFault IndexTable}
    (h : d.changeTable name f = .ok d') : Retabled (At name fun t t' => f t = .ok t') d d' := by
  obtain ⟨tables, htables, h⟩ := bind_eq_ok.mp h
  cases h
  refine ⟨rfl, rfl, rfl, rfl, (mapM_eq_ok.mp htables).imp fun t t' ht => ?_⟩
  unfold At
  split_ifs at ht ⊢
  · exact ht
  · cases ht
    rfl

/-- A table can be changed if every table of its name can. -/
lemma exists_changeTable {name : String} {f : IndexTable → Except DatabaseFault IndexTable}
    (h : ∀ t ∈ d.tables, t.name = name → ∃ t', f t = .ok t') :
    ∃ d', d.changeTable name f = .ok d' := by
  have hall : ∀ l : List IndexTable, (∀ t ∈ l, t ∈ d.tables) →
      ∃ l', l.mapM (fun t => if t.name = name then f t else .ok t) = .ok l' := by
    intro l hl
    induction l with
    | nil => exact ⟨[], rfl⟩
    | cons t l ih =>
      obtain ⟨l', hl'⟩ := ih fun a ha => hl a (.tail _ ha)
      have ht : ∃ t', (if t.name = name then f t else .ok t) = .ok t' := by
        split_ifs with hn
        · exact h t (hl t (.head _)) hn
        · exact ⟨t, rfl⟩
      obtain ⟨t', ht'⟩ := ht
      exact ⟨t' :: l', by simp [List.mapM_cons, ht', hl', bind, Except.bind, pure, Except.pure]⟩
  obtain ⟨tables, htables⟩ := hall d.tables fun _ ht => ht
  exact ⟨{ d with tables }, by simp [changeTable, htables, bind, Except.bind]⟩

/-! ## Tables in use -/

/-- A table that may have been taken into use or out of it, and is the same otherwise. -/
def Idle (t t' : IndexTable) : Prop :=
  ∃ b, t' = { t with inUse := b }

/-- A table is the same as itself. -/
lemma Idle.refl (t : IndexTable) : Idle t t := ⟨t.inUse, rfl⟩

/-- A table keeps its name whether it is in use or not. -/
lemma Idle.name {t t' : IndexTable} (h : Idle t t') : t'.name = t.name := by
  obtain ⟨_, rfl⟩ := h
  rfl

/-- A table arranges a row alike whether it is in use or not. -/
lemma Idle.arrange_eq {t t' : IndexTable} (h : Idle t t') (columns : List String) (row : IndexRow) :
    t'.arrange columns row = t.arrange columns row := by
  obtain ⟨_, rfl⟩ := h
  rfl

/-- Being the same but for its use passes on. -/
lemma Idle.trans {a b c : IndexTable} (h : Idle a b) (h' : Idle b c) : Idle a c := by
  obtain ⟨x, rfl⟩ := h
  obtain ⟨y, rfl⟩ := h'
  exact ⟨y, rfl⟩

/-- Taking a table into use changes nothing else. -/
lemma useTable_ok {name : String} (h : d.useTable name = .ok d') : Retabled Idle d d' :=
  (changeTable_ok h).mono fun _ _ ht => ht.elim Idle.refl fun _ _ => IndexTable.use_ok

/-- Whoever asks for the columns of a table takes it into use. -/
lemma ends_openTable {name : String} {Q : Unit → Database → Prop} {E : Database → Prop}
    (hE : E d) (hQ : ∀ d', Retabled Idle d d' → Q () d') : Ends (openTable name) d Q E := by
  refine Action.ends_atomic (fun x d' h => ?_) hE
  rw [mapError_eq_ok] at h
  cases hu : useTable name d with
  | error f =>
    rw [hu] at h
    cases h
  | ok d₁ =>
    rw [hu] at h
    cases h
    exact hQ _ (useTable_ok hu)

/-- A table that can be taken into use is taken into use by whoever asks for its columns. -/
lemma ends_openTable_of_ok {name : String} {Q : Unit → Database → Prop} {E : Database → Prop}
    (h : d.useTable name = .ok d') (hQ : Q () d') : Ends (openTable name) d Q E := by
  simpa [Ends, openTable, Action.atomic, h, Except.map, Except.mapError] using hQ

/-- Opening a database anew takes all tables out of use. -/
lemma retabled_atRest (d : Database) : Retabled Idle d d.atRest :=
  ⟨rfl, rfl, rfl, rfl, by
    simp only [atRest, List.forall₂_map_right_iff]
    exact List.forall₂_same.mpr fun t _ => ⟨false, rfl⟩⟩

/-- Databases whose tables differ in their use alone are the same at rest. -/
lemma Retabled.atRest_eq (h : Retabled Idle d d') : d'.atRest = d.atRest := by
  have htables : (d'.tables.map fun t => { t with inUse := false }) =
      d.tables.map fun t => { t with inUse := false } := by
    refine map_eq_of_forall₂ h.tables fun t t' ht => ?_
    obtain ⟨_, rfl⟩ := ht
    rfl
  rw [atRest, atRest, htables, h.nodes, h.lastId, h.triggers, h.isReadOnly]

/-- What another program stores is stored in the database at rest, and changes the use of no
table. -/
lemma insertForeignNode_ok {entity document : String} {id : Int}
    (h : insertForeignNode entity document d = .ok (id, d')) :
    ∃ d₁, insertNode entity document d.atRest = .ok (id, d₁) ∧ Retabled Idle d₁ d' := by
  obtain ⟨⟨_, d₁⟩, h₁, h⟩ := bind_eq_ok.mp h
  cases h
  refine ⟨d₁, h₁, rfl, rfl, rfl, rfl, ?_⟩
  simp only [List.forall₂_map_right_iff]
  exact List.forall₂_same.mpr fun t _ => ⟨_, rfl⟩

/-- What every step of a run leads to from one database to the next, the whole run leads to. -/
lemma foldlM_ok {α : Type} {f : Database → α → Except DatabaseFault Database}
    {P : Database → Database → Prop} (hrefl : ∀ d, P d d)
    (htrans : ∀ {a b c}, P a b → P b c → P a c) (hf : ∀ x a b, f a x = .ok b → P a b)
    {l : List α} (h : l.foldlM f d = .ok d') : P d d' := by
  induction l generalizing d with
  | nil =>
    cases h
    exact hrefl _
  | cons x l ih =>
    rw [List.foldlM_cons] at h
    obtain ⟨d₁, h₁, h⟩ := bind_eq_ok.mp h
    exact htrans (hf x _ _ h₁) (ih h)

/-- A trigger that is ready has its table in use. -/
lemma readyTrigger_ok {t : Trigger} (h : readyTrigger d t = .ok d') : Retabled Idle d d' := by
  unfold readyTrigger at h
  split at h
  · obtain ⟨d₁, h₁, h⟩ := bind_eq_ok.mp h
    obtain ⟨_, _, h⟩ := bind_eq_ok.mp h
    cases h
    exact useTable_ok h₁
  · obtain ⟨_, _, h⟩ := bind_eq_ok.mp h
    cases h
    exact .refl Idle.refl d
  · cases h

/-- When all triggers of a change are ready their tables are in use. -/
lemma ready_ok {event : NodeEvent} (h : d.ready event = .ok d') : Retabled Idle d d' :=
  foldlM_ok (.refl Idle.refl) (.trans fun _ _ _ => Idle.trans) (fun _ _ _ => readyTrigger_ok) h

/-- What a trigger makes of a change of a node. -/
def Fired (n : StoredNode) (t : Trigger) (table table' : IndexTable) : Prop :=
  match t.event with
  | .insert => ∃ row, n.indexRow t.columns = .ok row ∧
      table.put (table.arrange t.columns row) = .ok table'
  | .update => ∃ row, n.indexRow t.columns = .ok row ∧
      table.replace (table.arrange t.columns row) = .ok table'
  | .delete => table.erase n.id = .ok table'

/-- A trigger changes its own table. -/
lemma fire_ok {n : StoredNode} {t : Trigger} (h : fire n d t = .ok d') :
    Retabled (At t.table (Fired n t)) d d' := by
  cases hevent : t.event with
  | insert =>
    simp only [fire, hevent] at h
    obtain ⟨row, hrow, h⟩ := bind_eq_ok.mp h
    exact (changeTable_ok h).mono fun _ _ ht => ht.mono fun ht => by
      simp only [Fired, hevent]
      exact ⟨row, hrow, ht⟩
  | update =>
    simp only [fire, hevent] at h
    obtain ⟨row, hrow, h⟩ := bind_eq_ok.mp h
    exact (changeTable_ok h).mono fun _ _ ht => ht.mono fun ht => by
      simp only [Fired, hevent]
      exact ⟨row, hrow, ht⟩
  | delete =>
    simp only [fire, hevent] at h
    exact (changeTable_ok h).mono fun _ _ ht => ht.mono fun ht => by
      simpa only [Fired, hevent] using ht

/-! ## The table of an entity -/

section

variable {config : IndexConfig} {e : String} {columns : List String}
variable (hpre : Text.isIdentifier config.tablePrefix = true) (he : IsEntityName e)

include hpre he

/-- A table is created unless something stands under its name. -/
lemma createTable_ok {tokenizer : String}
    (h : createTable (config.tableName e) columns tokenizer d = .ok d') :
    (d.relation? (config.tableName e)).isSome ∧ d' = d ∨
      d.relation? (config.tableName e) = none ∧
        areDistinct (config.tableName e) columns = true ∧
        d' = { d with tables := d.tables ++ [.created (config.tableName e) columns tokenizer] } := by
  obtain ⟨n, hn, h⟩ := bind_eq_ok.mp h
  obtain rfl := IndexConfig.declared_tableName hpre he hn
  split_ifs at h with h₁ h₂ h₃
  · cases h
    exact .inl ⟨h₁, rfl⟩
  · obtain ⟨_, _, h⟩ := bind_eq_ok.mp h
    obtain ⟨_, _, h⟩ := bind_eq_ok.mp h
    cases h
    exact .inr ⟨by simpa using h₁, h₃, rfl⟩
  · obtain ⟨_, _, h⟩ := bind_eq_ok.mp h
    obtain ⟨_, _, h⟩ := bind_eq_ok.mp h
    cases h

/-- A dropped table is gone. If what stands under its name is a part, another table loses it. -/
lemma dropTable_ok (h : dropTable (config.tableName e) d = .ok d') :
    d.relation? (config.tableName e) = none ∧ d' = d ∨
      (∃ t, d.relation? (config.tableName e) = some (.index t) ∧
        d' = d.removeTable (config.tableName e)) ∨
      ∃ owner p, d.relation? (config.tableName e) = some (.part owner p) ∧
        Retabled (At owner.name fun t t' => t' = t.lose p) d d' := by
  obtain ⟨n, hn, h⟩ := bind_eq_ok.mp h
  rw [IndexConfig.alone_tableName hpre he] at hn
  cases hn
  obtain ⟨_, _, h⟩ := bind_eq_ok.mp h
  split at h
  · next hrel =>
    cases h
    exact .inl ⟨hrel, rfl⟩
  · next t hrel =>
    obtain ⟨_, _, h⟩ := bind_eq_ok.mp h
    cases h
    exact .inr (.inl ⟨t, hrel, rfl⟩)
  · next owner p hrel =>
    refine .inr (.inr ⟨owner, p, hrel, (changeTable_ok h).mono fun t t' ht => ?_⟩)
    unfold At at ht ⊢
    split_ifs at ht ⊢
    · cases ht
      rfl
    · exact ht

/-- All rows are taken out of a table. -/
lemma clearTable_ok (h : clearTable (config.tableName e) d = .ok d') :
    d.hasTable (config.tableName e) = true ∧
      Retabled (At (config.tableName e) fun t t' => t.clear = .ok t') d d' := by
  obtain ⟨n, hn, h⟩ := bind_eq_ok.mp h
  rw [IndexConfig.alone_tableName hpre he] at hn
  cases hn
  split_ifs at h with h₁
  exact ⟨h₁, changeTable_ok h⟩

/-- A row for every node of an entity is put into a table. -/
lemma fillTable_ok {entity : String}
    (h : fillTable (config.tableName e) entity columns d = .ok d') :
    checkColumnNames columns = .ok () ∧ d.hasTable (config.tableName e) = true ∧
      ∃ rows, indexRows columns (d.nodesOf entity) = .ok rows ∧
        Retabled (At (config.tableName e) fun t t' => t.putAll rows = .ok t') d d' := by
  obtain ⟨n, hn, h⟩ := bind_eq_ok.mp h
  rw [IndexConfig.alone_tableName hpre he] at hn
  cases hn
  obtain ⟨_, hcolumns, h⟩ := bind_eq_ok.mp h
  split_ifs at h with h₁
  obtain ⟨rows, hrows, h⟩ := bind_eq_ok.mp h
  exact ⟨hcolumns, h₁, rows, hrows, changeTable_ok h⟩

end

/-! ## The triggers of a table -/

/-- The database with a trigger, unless its table has one for the same change. -/
def addTrigger (t : Trigger) (d : Database) : Database :=
  if d.hasTrigger t.table t.event then d else { d with triggers := t :: d.triggers }

/-- The database without the trigger of a table for a change. -/
def withoutTrigger (table : String) (event : NodeEvent) (d : Database) : Database :=
  { d with triggers := d.triggers.filter fun t => !(t.table == table && t.event == event) }

section

variable {config : IndexConfig} {e : String} {t : Trigger}
variable (hpre : Text.isIdentifier config.tablePrefix = true) (he : IsEntityName e)

include hpre he

/-- A trigger is created if its columns can be named. -/
lemma createTrigger_eq (ht : t.table = config.tableName e) (d : Database) :
    createTrigger t d =
      match checkColumnNames t.namedColumns with
      | .ok _ => .ok (d.addTrigger t)
      | .error f => .error f := by
  obtain ⟨table, event, entity, columns⟩ := t
  obtain rfl : table = config.tableName e := ht
  simp only [createTrigger, IndexConfig.alone_tableName hpre he, bind, Except.bind,
    Option.isSome_none, Bool.false_eq_true, if_false, addTrigger]
  cases checkColumnNames _ with
  | error f => rfl
  | ok _ =>
    simp only
    split_ifs <;> rfl

/-- A trigger is dropped. -/
lemma dropTrigger_eq (event : NodeEvent) (d : Database) :
    dropTrigger (config.tableName e) event d =
      .ok (d.withoutTrigger (config.tableName e) event) := by
  simp [dropTrigger, IndexConfig.alone_tableName hpre he, bind, Except.bind, withoutTrigger]

end

end EntityFinder.Database
