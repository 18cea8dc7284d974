import EntityFinder.Proofs.Intact.Basic

set_option autoImplicit false

/-!
# Tables in use and at rest

Whether a table has been taken into use since its database was opened shows in nothing, as long as
the table is whole: two databases that differ in this alone do the same.

## Main definitions

* `EntityFinder.SameOutcome`: the same failure, or answers that are related.
* `EntityFinder.Database.Alike`: two databases whose tables are whole and differ in their use alone.

## Main results

* `EntityFinder.Database.Retabled.relation?_cases`, `EntityFinder.Database.Retabled.matching_eq`,
  `EntityFinder.Database.Retabled.rowCount_eq`: what tables that differ in their use alone have in
  common.
* `EntityFinder.Database.Alike.createTable`, `EntityFinder.Database.Alike.dropTable`,
  `EntityFinder.Database.Alike.fillTable`: statements on tables.
* `EntityFinder.Database.Alike.insertNode`, `EntityFinder.Database.Alike.updateNode`,
  `EntityFinder.Database.Alike.deleteNode`: statements on nodes.
* `EntityFinder.Database.Alike.matching_eq`, `EntityFinder.Database.Alike.rowCount_eq`: answers.
-/

namespace EntityFinder

open Database (Idle Part)

/-! ## Outcomes -/

section

variable {ε α β γ δ : Type} {R : α → β → Prop} {S : γ → δ → Prop}

/-- Two outcomes are the same failure, or answers that are related. -/
inductive SameOutcome (R : α → β → Prop) : Except ε α → Except ε β → Prop
  /-- Both are answers. -/
  | ok {a : α} {b : β} : R a b → SameOutcome R (.ok a) (.ok b)
  /-- Both are one failure. -/
  | error (e : ε) : SameOutcome R (.error e) (.error e)

namespace SameOutcome

variable {x : Except ε α} {y : Except ε β}

/-- Outcomes of composed steps are the same if those of all steps are. -/
lemma bind {f : α → Except ε γ} {g : β → Except ε δ} (h : SameOutcome R x y)
    (hfg : ∀ a b, R a b → SameOutcome S (f a) (g b)) : SameOutcome S (x >>= f) (y >>= g) := by
  cases h with
  | ok hab => exact hfg _ _ hab
  | error e => exact .error e

/-- Two calls that begin with the same step have the same outcome if they do from there on. -/
lemma bind_left {f : α → Except ε γ} {g : α → Except ε δ}
    (hfg : ∀ a, x = .ok a → SameOutcome S (f a) (g a)) : SameOutcome S (x >>= f) (x >>= g) := by
  cases x with
  | ok a => exact hfg a rfl
  | error e => exact .error e

/-- What is known of an answer and of its relative is known of the pair. -/
lemma mono {R' : α → β → Prop} (h : SameOutcome R x y)
    (hR : ∀ a b, x = .ok a → y = .ok b → R a b → R' a b) : SameOutcome R' x y := by
  cases h with
  | ok hab => exact .ok (hR _ _ rfl rfl hab)
  | error e => exact .error e

/-- One step for each member of two lists has the same outcome if it has for each pair. -/
lemma mapM {P : α → β → Prop} {f : α → Except ε γ} {g : β → Except ε δ}
    (hfg : ∀ a b, P a b → SameOutcome S (f a) (g b)) {l : List α} {l' : List β}
    (h : List.Forall₂ P l l') : SameOutcome (List.Forall₂ S) (l.mapM f) (l'.mapM g) := by
  induction h with
  | nil => exact .ok .nil
  | cons hab _ ih =>
    rw [List.mapM_cons, List.mapM_cons]
    exact (hfg _ _ hab).bind fun _ _ hc => ih.bind fun _ _ hl => .ok (.cons hc hl)

/-- Several steps have the same outcome from related states if each has. -/
lemma foldlM {f : α → γ → Except ε α} {g : β → γ → Except ε β} {l : List γ}
    (hfg : ∀ c ∈ l, ∀ a b, R a b → SameOutcome R (f a c) (g b c)) {a : α} {b : β} (h : R a b) :
    SameOutcome R (l.foldlM f a) (l.foldlM g b) := by
  induction l generalizing a b with
  | nil => exact .ok h
  | cons c l ih =>
    rw [List.foldlM_cons, List.foldlM_cons]
    exact (hfg c (.head _) a b h).bind fun a' b' h' =>
      ih (fun c' hc' => hfg c' (.tail _ hc')) h'

end SameOutcome

end

/-! ## Tables -/

namespace IndexTable

variable {t t' : IndexTable}

/-- The segments of a table grow alike, in use or not. -/
lemma grown_inUse (t : IndexTable) (changed : List IndexRow) (b : Bool) :
    grown { t with inUse := b } changed = { t.grown changed with inUse := b } := by
  have hsame : changed.any (hasTokens { t with inUse := b }) = changed.any t.hasTokens := rfl
  unfold grown
  rw [hsame]
  cases changed.any t.hasTokens with
  | true => rfl
  | false => rfl

/-- A change does not depend on use. -/
lemma change_alike (gone added : List IndexRow) (h : Idle t t') :
    SameOutcome Idle (t.change gone added) (t'.change gone added) := by
  obtain ⟨b, rfl⟩ := h
  have hgrown := fun rows => grown_inUse { t with rows } (gone ++ added) b
  exact SameOutcome.bind_left (x := refuse ((gone ++ added).findSome? t.writeFault?))
    fun _ _ => .ok ⟨b, hgrown _⟩

/-- A whole table can be taken into use, whether it has been or not. -/
lemma use_alike (h : Idle t t') (hlost : t.lost = []) : SameOutcome Idle t.use t'.use := by
  obtain ⟨b, rfl⟩ := h
  obtain ⟨u, hu⟩ := exists_use hlost
  obtain ⟨u', hu'⟩ := @exists_use { t with inUse := b } hlost
  rw [hu, hu']
  obtain ⟨x, rfl⟩ := use_ok hu
  obtain ⟨y, rfl⟩ := use_ok hu'
  exact .ok ⟨y, rfl⟩

/-- Putting rows into a table does not depend on use. -/
lemma putAll_alike (rows : List IndexRow) (h : Idle t t') :
    SameOutcome Idle (t.putAll rows) (t'.putAll rows) :=
  change_alike [] rows h

/-- Replacing a row does not depend on use. -/
lemma replace_alike (row : IndexRow) (h : Idle t t') :
    SameOutcome Idle (t.replace row) (t'.replace row) := by
  have hchange := change_alike (t.rowsAt row.id) [row] h
  obtain ⟨b, rfl⟩ := h
  exact SameOutcome.bind_left (x := refuse t.scanFault?) fun _ _ => hchange

/-- Taking a row out does not depend on use. -/
lemma erase_alike (id : Int) (h : Idle t t') :
    SameOutcome Idle (t.erase id) (t'.erase id) := by
  have hchange := change_alike (t.rowsAt id) [] h
  obtain ⟨b, rfl⟩ := h
  exact SameOutcome.bind_left (x := refuse t.scanFault?) fun _ _ => hchange

/-- Taking all rows out does not depend on use. -/
lemma clear_alike (h : Idle t t') : SameOutcome Idle t.clear t'.clear := by
  have hchange := change_alike t.rows [] h
  obtain ⟨b, rfl⟩ := h
  exact SameOutcome.bind_left (x := refuse t.scanFault?) fun _ _ => hchange

end IndexTable

namespace Database

/-! ## What stands under a name -/

namespace Retabled

variable {R : IndexTable → IndexTable → Prop} {d d' : Database}

/-- Both databases find a part under a name, or none. -/
lemma partAt?_cases (h : Retabled R d d') (hR : ∀ t t', R t t' → Idle t t') (name : String) :
    d.partAt? name = none ∧ d'.partAt? name = none ∨
      ∃ t t' p, d.partAt? name = some (t, p) ∧ d'.partAt? name = some (t', p) ∧ R t t' := by
  unfold partAt?
  have hall := h.tables
  generalize d.tables = l at hall
  generalize d'.tables = l' at hall
  induction hall with
  | nil => exact .inl ⟨rfl, rfl⟩
  | @cons t t' l l' ht _ ih =>
    rw [List.findSome?_cons, List.findSome?_cons]
    obtain ⟨b, rfl⟩ := hR t t' ht
    have hsame : (fun p => p.tableName t.name == name && !IndexTable.lacks { t with inUse := b } p) =
        fun p => p.tableName t.name == name && !t.lacks p := rfl
    rw [hsame]
    cases Part.all.find? fun p => p.tableName t.name == name && !t.lacks p with
    | some p => exact .inr ⟨_, _, p, rfl, rfl, ht⟩
    | none => exact ih

/-- The same kind of thing stands under a name in both databases. -/
lemma relation?_cases (h : Retabled R d d') (hR : ∀ t t', R t t' → Idle t t') (name : String) :
    d.relation? name = none ∧ d'.relation? name = none ∨
      (∃ t t', d.relation? name = some (.index t) ∧ d'.relation? name = some (.index t') ∧
        t ∈ d.tables ∧ R t t') ∨
      ∃ t t' p, d.relation? name = some (.part t p) ∧ d'.relation? name = some (.part t' p) ∧
        R t t' := by
  unfold relation?
  obtain ⟨hnone, hnone'⟩ | ⟨t, t', ht, ht', hsame⟩ := h.table?_cases (fun t t' ht => (hR t t' ht).name) name
  · rw [hnone, hnone']
    obtain ⟨hpart, hpart'⟩ | ⟨t, t', p, hpart, hpart', hsame⟩ := h.partAt?_cases hR name
    · exact .inl ⟨by rw [hpart]; rfl, by rw [hpart']; rfl⟩
    · exact .inr (.inr ⟨t, t', p, by rw [hpart]; rfl, by rw [hpart']; rfl, hsame⟩)
  · rw [ht, ht']
    exact .inr (.inl ⟨t, t', rfl, rfl, List.mem_of_find?_eq_some ht, hsame⟩)

/-- Queries are answered alike, whatever tables are in use. -/
lemma matching_eq (h : Retabled R d d') (hR : ∀ t t', R t t' → Idle t t') (table text : String) :
    d'.matching table text = d.matching table text := by
  unfold matching
  refine bind_congr fun n => ?_
  have hnode := node?_congr h.nodes
  obtain ⟨h₁, h₂⟩ | ⟨t, t', h₁, h₂, _, hsame⟩ | ⟨_, _, _, h₁, h₂, _⟩ := h.relation?_cases hR n.table
  · rw [h₁, h₂]
  · obtain ⟨b, rfl⟩ := hR t t' hsame
    have hsearch : IndexTable.search { t with inUse := b } text = t.search text := rfl
    simp only [h₁, h₂, hsearch, hnode]
  · rw [h₁, h₂]

/-- The number of rows is the same if it is for each table. -/
lemma rowCount_eq (h : Retabled R d d') (hR : ∀ t t', R t t' → Idle t t')
    (hsize : ∀ t ∈ d.tables, ∀ t', R t t' → t'.size = t.size) (table : String) :
    d'.rowCount table = d.rowCount table := by
  unfold rowCount
  obtain ⟨h₁, h₂⟩ | ⟨t, t', h₁, h₂, hmem, hsame⟩ | ⟨t, t', p, h₁, h₂, hsame⟩ :=
    h.relation?_cases hR table
  · rw [h₁, h₂]
  · simp only [h₁, h₂, hsize t hmem t' hsame]
  · rw [h₁, h₂]
    obtain ⟨b, rfl⟩ := hR t t' hsame
    cases p <;> rfl

end Retabled

/-! ## Databases -/

/-- Two databases have whole tables that differ in their use alone, and are the same otherwise. -/
structure Alike (d d' : Database) : Prop where
  /-- What differs is the use of tables. -/
  idle : Retabled Idle d d'
  /-- The tables are whole. -/
  whole : ∀ t ∈ d.tables, t.lost = []

namespace Alike

variable {d d' : Database}

/-- A database is alike to itself. -/
lemma refl (h : ∀ t ∈ d.tables, t.lost = []) : Alike d d :=
  ⟨.refl Idle.refl d, h⟩

/-- A database stays alike if tables are taken into use or out of it. -/
lemma trans_idle {d'' : Database} (h : Alike d d') (h' : Retabled Idle d' d'') : Alike d d'' :=
  ⟨h.idle.trans (fun a b c (hab : Idle a b) (hbc : Idle b c) => hab.trans hbc) h', h.whole⟩

/-- Both databases find a table under a name, or none. -/
lemma table?_cases (h : Alike d d') (name : String) :
    d.table? name = none ∧ d'.table? name = none ∨
      ∃ t t', d.table? name = some t ∧ d'.table? name = some t' ∧ Idle t t' :=
  h.idle.table?_cases (fun _ _ ht => ht.name) name

/-- The same kind of thing stands under a name in both databases. -/
lemma relation?_cases (h : Alike d d') (name : String) :
    d.relation? name = none ∧ d'.relation? name = none ∨
      (∃ t t', d.relation? name = some (.index t) ∧ d'.relation? name = some (.index t') ∧
        t ∈ d.tables ∧ Idle t t') ∨
      ∃ t t' p, d.relation? name = some (.part t p) ∧ d'.relation? name = some (.part t' p) ∧
        Idle t t' :=
  h.idle.relation?_cases (fun _ _ => id) name

/-- Something stands under a name in both databases, or in none. -/
lemma isSome_relation? (h : Alike d d') (name : String) :
    (d'.relation? name).isSome = (d.relation? name).isSome := by
  obtain ⟨h₁, h₂⟩ | ⟨_, _, h₁, h₂, _⟩ | ⟨_, _, _, h₁, h₂, _⟩ := h.relation?_cases name
  all_goals simp only [h₁, h₂, Option.isSome_none, Option.isSome_some]

/-- Both databases have a table, or none has. -/
lemma hasTable_eq (h : Alike d d') (name : String) : d'.hasTable name = d.hasTable name := by
  unfold hasTable
  obtain ⟨h₁, h₂⟩ | ⟨_, _, h₁, h₂, _⟩ := h.table?_cases name
  all_goals rw [h₁, h₂]
  all_goals rfl

/-- Other nodes and triggers do not matter. -/
lemma of_tables {e e' : Database} (h : Alike d d') (htables : e.tables = d.tables)
    (htables' : e'.tables = d'.tables) (hnodes : e'.nodes = e.nodes) (hlast : e'.lastId = e.lastId)
    (htriggers : e'.triggers = e.triggers) (hr : e'.isReadOnly = e.isReadOnly) : Alike e e' where
  idle := ⟨hnodes, hlast, htriggers, hr, by rw [htables, htables']; exact h.idle.tables⟩
  whole := by
    rw [htables]
    exact h.whole

/-! ## Statements on tables -/

/-- A change of a table that does not depend on use has the same outcome. -/
lemma changeTable (h : Alike d d') (name : String)
    {f : IndexTable → Except DatabaseFault IndexTable}
    (hf : ∀ t t', Idle t t' → t.lost = [] → SameOutcome Idle (f t) (f t'))
    (hlost : ∀ t t', f t = .ok t' → t'.lost = t.lost) :
    SameOutcome Alike (d.changeTable name f) (d'.changeTable name f) := by
  have hstep : ∀ t t', Idle t t' ∧ t.lost = [] →
      SameOutcome (fun t t' => Idle t t' ∧ t.lost = [])
        (if t.name = name then f t else .ok t) (if t'.name = name then f t' else .ok t') := by
    rintro t _ ⟨⟨b, rfl⟩, hl⟩
    simp only
    split_ifs
    · exact (hf t _ ⟨b, rfl⟩ hl).mono fun u u' hu _ hidle => ⟨hidle, (hlost t u hu).trans hl⟩
    · exact .ok ⟨⟨b, rfl⟩, hl⟩
  have hall : List.Forall₂ (fun t t' => Idle t t' ∧ t.lost = []) d.tables d'.tables := by
    have hw := h.whole
    have hi := h.idle.tables
    generalize d.tables = l at hi hw
    generalize d'.tables = l' at hi
    induction hi with
    | nil => exact .nil
    | cons ht _ ih => exact .cons ⟨ht, hw _ (.head _)⟩ (ih fun t ht => hw t (.tail _ ht))
  refine (SameOutcome.mapM hstep hall).bind fun l l' hl => ?_
  have hr : Retabled (fun t t' => Idle t t' ∧ t.lost = []) { d with tables := l }
      { d' with tables := l' } :=
    ⟨h.idle.nodes, h.idle.lastId, h.idle.triggers, h.idle.isReadOnly, hl⟩
  refine .ok ⟨hr.mono fun _ _ ht => ht.1, fun t ht => ?_⟩
  obtain ⟨_, _, _, hlost⟩ := hr.image ht
  exact hlost

/-- A table is taken into use with the same outcome. -/
lemma useTable (h : Alike d d') (name : String) :
    SameOutcome Alike (d.useTable name) (d'.useTable name) :=
  h.changeTable name (fun _ _ hidle hlost => IndexTable.use_alike hidle hlost) fun t t' ht => by
    obtain ⟨_, rfl⟩ := IndexTable.use_ok ht
    rfl

/-- A table is created with the same outcome. -/
lemma createTable (h : Alike d d') (name : String) (columns : List String) (tokenizer : String) :
    SameOutcome Alike (createTable name columns tokenizer d)
      (createTable name columns tokenizer d') := by
  refine .bind_left fun n _ => ?_
  rw [h.isSome_relation?]
  have hparts : ∀ name, checkParts name d' = checkParts name d := by
    intro name
    simp only [checkParts, h.isSome_relation?]
  split_ifs
  · exact .ok h
  · exact .error _
  · rw [hparts]
    refine .bind_left fun _ _ => .bind_left fun _ _ => .ok ⟨⟨h.idle.nodes, h.idle.lastId,
      h.idle.triggers, h.idle.isReadOnly, ?_⟩, fun t ht => ?_⟩
    · exact List.rel_append h.idle.tables (.cons (Idle.refl _) .nil)
    · rcases List.mem_append.mp ht with ht | ht
      · exact h.whole t ht
      · rw [List.mem_singleton.mp ht]
        rfl
  · rw [hparts]
    exact .bind_left fun _ _ => .bind_left fun _ _ => .error _

/-- A table is dropped with the same outcome, if no table has it for a part. -/
lemma dropTable (h : Alike d d') {name : String}
    (hfree : ∀ n, TableName.alone name = .ok n → ∀ t p, d.relation? n.table ≠ some (.part t p)) :
    SameOutcome Alike (dropTable name d) (dropTable name d') := by
  refine .bind_left fun n hn => .bind_left fun _ _ => ?_
  obtain ⟨h₁, h₂⟩ | ⟨t, t', h₁, h₂, hmem, hidle⟩ | ⟨_, _, _, h₁, _⟩ := h.relation?_cases n.table
  · rw [h₁, h₂]
    exact .ok h
  · rw [h₁, h₂]
    refine (IndexTable.use_alike hidle (h.whole t hmem)).bind fun _ _ _ => .ok ⟨⟨h.idle.nodes,
      h.idle.lastId, h.idle.triggers, h.idle.isReadOnly, ?_⟩, fun t ht => ?_⟩
    · refine List.rel_filter (fun t t' ht => ?_) h.idle.tables
      obtain ⟨_, rfl⟩ := ht
      exact Iff.rfl
    · exact h.whole t (List.mem_of_mem_filter ht)
  · exact absurd h₁ (hfree n hn _ _)

/-- A table is cleared with the same outcome. -/
lemma clearTable (h : Alike d d') (name : String) :
    SameOutcome Alike (clearTable name d) (clearTable name d') := by
  refine .bind_left fun n _ => ?_
  rw [h.hasTable_eq]
  split_ifs
  · exact h.changeTable _ (fun _ _ hidle _ => IndexTable.clear_alike hidle) fun t t' ht => by
      obtain ⟨_, rfl⟩ := IndexTable.clear_ok ht
      rfl
  · exact .error _

/-- A table is filled with the same outcome. -/
lemma fillTable (h : Alike d d') (name entity : String) (columns : List String) :
    SameOutcome Alike (fillTable name entity columns d) (fillTable name entity columns d') := by
  refine .bind_left fun n _ => .bind_left fun _ _ => ?_
  have hnodes : d'.nodesOf entity = d.nodesOf entity := by rw [nodesOf, nodesOf, h.idle.nodes]
  rw [h.hasTable_eq, hnodes]
  split_ifs
  · refine .bind_left fun rows _ => h.changeTable _
      (fun _ _ hidle _ => IndexTable.putAll_alike rows hidle) fun t t' ht => ?_
    obtain ⟨_, rfl⟩ := IndexTable.putAll_ok ht
    rfl
  · exact .error _

/-! ## Statements on triggers -/

/-- A trigger is created with the same outcome. -/
lemma createTrigger (h : Alike d d') (t : Trigger) :
    SameOutcome Alike (createTrigger t d) (createTrigger t d') := by
  refine .bind_left fun n _ => ?_
  have hhas : d'.hasTrigger n.table t.event = d.hasTrigger n.table t.event := by
    rw [hasTrigger, hasTrigger, trigger?, trigger?, h.idle.triggers]
  rw [hhas]
  split_ifs
  · exact .error _
  · exact .bind_left fun _ _ => .ok h
  · exact .bind_left fun _ _ => .ok (h.of_tables rfl rfl h.idle.nodes h.idle.lastId
      (by simp only [h.idle.triggers]) h.idle.isReadOnly)

/-- A trigger is dropped with the same outcome. -/
lemma dropTrigger (h : Alike d d') (table : String) (event : NodeEvent) :
    SameOutcome Alike (dropTrigger table event d) (dropTrigger table event d') :=
  .bind_left fun _ _ => .ok (h.of_tables rfl rfl h.idle.nodes h.idle.lastId
    (by simp only [h.idle.triggers]) h.idle.isReadOnly)

/-! ## Statements on nodes -/

/-- A trigger is made ready with the same outcome. -/
lemma readyTrigger (h : Alike d d') (t : Trigger) :
    SameOutcome Alike (readyTrigger d t) (readyTrigger d' t) := by
  unfold Database.readyTrigger
  obtain ⟨h₁, h₂⟩ | ⟨u, u', h₁, h₂, _, b, rfl⟩ | ⟨u, u', p, h₁, h₂, b, rfl⟩ :=
    h.relation?_cases t.table
  · rw [h₁, h₂]
    exact .error _
  · rw [h₁, h₂]
    exact (h.useTable t.table).bind fun _ _ hd => .bind_left (x := checkFilled u t) fun _ _ => .ok hd
  · rw [h₁, h₂]
    exact .bind_left (x := checkPart u p t) fun _ _ => .ok h

/-- All triggers are made ready with the same outcome. -/
lemma ready (h : Alike d d') (event : NodeEvent) :
    SameOutcome Alike (d.ready event) (d'.ready event) := by
  unfold Database.ready
  rw [h.idle.triggers]
  exact .foldlM (fun t _ _ _ hd => hd.readyTrigger t) h

/-- A trigger fires with the same outcome. -/
lemma fire (h : Alike d d') (n : StoredNode) (t : Trigger) :
    SameOutcome Alike (fire n d t) (fire n d' t) := by
  unfold Database.fire
  cases t.event with
  | insert =>
    refine .bind_left fun row _ => h.changeTable _ (fun u u' hidle _ => ?_) fun u u' hu => ?_
    · rw [hidle.arrange_eq]
      exact IndexTable.putAll_alike _ hidle
    · obtain ⟨_, rfl⟩ := IndexTable.put_ok hu
      rfl
  | update =>
    refine .bind_left fun row _ => h.changeTable _ (fun u u' hidle _ => ?_) fun u u' hu => ?_
    · rw [hidle.arrange_eq]
      exact IndexTable.replace_alike _ hidle
    · obtain ⟨_, rfl⟩ := IndexTable.replace_ok hu
      rfl
  | delete =>
    refine h.changeTable _ (fun u u' hidle _ => IndexTable.erase_alike _ hidle) fun u u' hu => ?_
    obtain ⟨_, rfl⟩ := IndexTable.erase_ok hu
    rfl

/-- All triggers fire with the same outcome. -/
lemma fireAll (h : Alike d d') (event : NodeEvent) (n : StoredNode) :
    SameOutcome Alike (d.fireAll event n) (d'.fireAll event n) := by
  unfold Database.fireAll
  rw [h.idle.triggers]
  exact .foldlM (fun t _ _ _ hd => hd.fire n t) h

/-- Two answers are the same, and the databases that they leave are alike. -/
def Answered {α : Type} (x x' : α × Database) : Prop :=
  x'.1 = x.1 ∧ Alike x.2 x'.2

/-- A node is stored with the same outcome. -/
lemma insertNode (h : Alike d d') (entity document : String) :
    SameOutcome Answered (insertNode entity document d) (insertNode entity document d') := by
  refine (h.ready .insert).bind fun d₁ d₁' h₁ => ?_
  simp only [h₁.idle.lastId]
  have hstored : Alike
      { d₁ with nodes := d₁.nodes ++ [⟨(d₁.lastId + 1 : Nat), entity, document⟩],
                lastId := d₁.lastId + 1 }
      { d₁' with nodes := d₁'.nodes ++ [⟨(d₁.lastId + 1 : Nat), entity, document⟩],
                 lastId := d₁.lastId + 1 } :=
    h₁.of_tables rfl rfl (by simp only [h₁.idle.nodes]) rfl h₁.idle.triggers h₁.idle.isReadOnly
  exact (hstored.fireAll .insert _).bind fun _ _ h₂ => .ok ⟨rfl, h₂⟩

/-- A node is stored on behalf of another program with the same outcome. -/
lemma insertForeignNode (h : Alike d d') (entity document : String) :
    SameOutcome Answered (insertForeignNode entity document d)
      (insertForeignNode entity document d') := by
  have hrest : ∀ t ∈ d.atRest.tables, t.lost = [] := by
    intro t ht
    obtain ⟨t₀, ht₀, rfl⟩ := List.mem_map.mp ht
    exact h.whole t₀ ht₀
  have hinsert := (refl hrest).insertNode entity document
  unfold Database.insertForeignNode
  rw [h.idle.atRest_eq]
  refine hinsert.bind fun x x' hx => ?_
  obtain ⟨id, e⟩ := x
  obtain ⟨id', e'⟩ := x'
  obtain ⟨rfl, he⟩ := hx
  refine .ok ⟨rfl, ⟨he.idle.nodes, he.idle.lastId, he.idle.triggers, he.idle.isReadOnly, ?_⟩,
    fun t ht => ?_⟩
  · refine List.rel_map (fun t t' ht => ?_) he.idle.tables
    obtain ⟨_, rfl⟩ := ht
    exact ⟨_, rfl⟩
  · obtain ⟨t₀, ht₀, rfl⟩ := List.mem_map.mp ht
    exact he.whole t₀ ht₀

/-- A node gets another document with the same outcome. -/
lemma updateNode (h : Alike d d') (id : Int) (entity document : String) :
    SameOutcome Answered (updateNode id entity document d) (updateNode id entity document d') := by
  refine (h.ready .update).bind fun d₁ d₁' h₁ => ?_
  rw [node?_congr h₁.idle.nodes]
  cases d₁.node? id with
  | none => exact .ok ⟨rfl, h₁⟩
  | some n =>
    simp only
    split_ifs
    · refine SameOutcome.bind (fireAll ?_ .update _) fun _ _ h₂ => .ok ⟨rfl, h₂⟩
      exact h₁.of_tables rfl rfl (by simp only [h₁.idle.nodes]) h₁.idle.lastId h₁.idle.triggers
        h₁.idle.isReadOnly
    · exact .ok ⟨rfl, h₁⟩

/-- A node is deleted with the same outcome. -/
lemma deleteNode (h : Alike d d') (id : Int) :
    SameOutcome Answered (deleteNode id d) (deleteNode id d') := by
  refine (h.ready .delete).bind fun d₁ d₁' h₁ => ?_
  rw [node?_congr h₁.idle.nodes]
  cases d₁.node? id with
  | none => exact .ok ⟨rfl, h₁⟩
  | some n =>
    refine SameOutcome.bind (fireAll ?_ .delete _) fun _ _ h₂ => .ok ⟨rfl, h₂⟩
    exact h₁.of_tables rfl rfl (by simp only [h₁.idle.nodes]) h₁.idle.lastId h₁.idle.triggers
      h₁.idle.isReadOnly

/-! ## Answers -/

/-- A query of a table finds the same. -/
lemma matching_eq (h : Alike d d') (table text : String) :
    d'.matching table text = d.matching table text :=
  h.idle.matching_eq (fun _ _ => id) table text

/-- The number of rows is the same. -/
lemma rowCount_eq (h : Alike d d') (table : String) : d'.rowCount table = d.rowCount table := by
  refine h.idle.rowCount_eq (fun _ _ => id) (fun t ht t' hidle => ?_) table
  obtain ⟨b, rfl⟩ := hidle
  rw [IndexTable.size_eq (h.whole t ht), @IndexTable.size_eq { t with inUse := b } (h.whole t ht)]

end Alike

end Database

end EntityFinder
