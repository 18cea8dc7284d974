import EntityFinder.Proofs.Synchrony.Basic

set_option autoImplicit false

/-!
# Setting tables up in step

A table is up to date once it has its triggers together with a row for every node of its entity. A
setup fills the table before it creates the triggers, and a setup from scratch does so afterwards; if
the nodes can be read then this makes no difference.

## Main definitions

* `EntityFinder.Database.Refilled`: a table with other rows.

## Main results

* `EntityFinder.Database.Current.filled`: a table with its triggers and the rows of its nodes.
* `EntityFinder.Database.Current.guards_table`: the triggers and rows of such a table.
* `EntityFinder.IndexPlan.ends_populate_of_ok`: filling a whole table does not fail.
* `EntityFinder.IndexPlan.ends_rebuild_current`, `EntityFinder.IndexPlan.ends_ensure_current`: a setup
  makes a table current, unless it leaves the table blocked.
* `EntityFinder.IndexPlan.ends_rebuild_inStep`, `EntityFinder.IndexPlan.ends_ensure_inStep`: a setup
  keeps all tables in step, however it ends.
-/

namespace EntityFinder

open EntityFinder.Action (Ends)

namespace Database

open IndexTable (RowsSorted)

variable {config : IndexConfig} {entities watched : String → Prop} {d d' : Database} {e : String}

/-! ## Filling a table anew -/

/-- A table with other rows. -/
def Refilled (rows : List IndexRow) (t t' : IndexTable) : Prop :=
  ∃ k, t' = { t with rows, segments := k }

/-- A table that is cleared and then filled has the rows that it is filled with. -/
lemma retabled_refilled {name : String} {rows : List IndexRow} {d₁ d₂ : Database}
    (hsorted : RowsSorted rows)
    (h₁ : Retabled (At name fun t t' => t.clear = .ok t') d d₁)
    (h₂ : Retabled (At name fun t t' => t.putAll rows = .ok t') d₁ d₂) :
    Retabled (At name (Refilled rows)) d d₂ := by
  refine Retabled.trans (fun a b c hab hbc => ?_) h₁ h₂
  refine At.trans (fun hab => ?_) (fun hab hbc => ?_) hab hbc
  · obtain ⟨_, rfl⟩ := IndexTable.clear_ok hab
    rfl
  · obtain ⟨_, rfl⟩ := IndexTable.clear_ok hab
    obtain ⟨k, rfl⟩ := IndexTable.putAll_ok hbc
    refine ⟨k, ?_⟩
    rw [@IndexTable.insertRows_eq [] _ hsorted, List.nil_append]

/-- The table that was created under a new name is the only one of this name. -/
lemma columns_eq_of_mem_created {name tokenizer : String} {columns : List String} {t : IndexTable}
    (hgone : ∀ t ∈ d.tables, t.name ≠ name)
    (ht : t ∈ d.tables ++ [.created name columns tokenizer]) (hname : t.name = name) :
    t.columns = columns := by
  rcases List.mem_append.mp ht with ht | ht
  · exact absurd hname (hgone t ht)
  · rw [List.mem_singleton.mp ht]
    rfl

/-- A table that is filled with the rows of its nodes mirrors them. -/
lemma exists_mirrors_of_refilled {name : String} {columns : List String} {rows : List IndexRow}
    {t : IndexTable} (ht : t ∈ d.tables) (hname : t.name = name) (hcolumns : t.columns = columns)
    (hrows : indexRows columns (d.nodesOf e) = .ok rows)
    (hr : Retabled (At name (Refilled rows)) d d') :
    ∃ t' ∈ d'.tables, t'.name = name ∧ t'.columns = columns ∧ Mirrors d'.nodes e t' := by
  obtain ⟨t', ht', hat⟩ := hr.image ht
  rw [At, if_pos hname] at hat
  obtain ⟨_, rfl⟩ := hat
  refine ⟨_, ht', hname, hcolumns, fun r => ?_⟩
  rw [hr.nodes, hcolumns, mem_indexRows hrows]
  simp [nodesOf, and_assoc]

/-- A table exists if one of the tables has its name. -/
lemma hasTable_iff {name : String} : d.hasTable name = true ↔ ∃ t ∈ d.tables, t.name = name := by
  simp [hasTable, table?, List.find?_isSome]

section

variable (hpre : Text.isIdentifier config.tablePrefix = true) (he : IsEntityName e)

include hpre he

/-- A table that has lost nothing can be cleared, and is still there with all of its parts. -/
lemma exists_clearTable (hlost : ∀ t ∈ d.tables, t.name = config.tableName e → t.lost = [])
    (hhas : d.hasTable (config.tableName e) = true) :
    ∃ d', clearTable (config.tableName e) d = .ok d' ∧
      (∀ t ∈ d'.tables, t.name = config.tableName e → t.lost = []) ∧
      d'.hasTable (config.tableName e) = true := by
  obtain ⟨d', hd'⟩ := @exists_changeTable d (config.tableName e)
    IndexTable.clear fun t ht hname => IndexTable.exists_clear (hlost t ht hname)
  have hcleared : clearTable (config.tableName e) d = .ok d' := by
    simpa [clearTable, IndexConfig.alone_tableName hpre he, bind, Except.bind, hhas] using hd'
  have hr := (clearTable_ok hpre he hcleared).2
  refine ⟨d', hcleared, fun t' ht' hname' => ?_, ?_⟩
  · obtain ⟨t, ht, hat⟩ := hr.origin ht'
    obtain ⟨hname, hsame⟩ : t'.name = t.name ∧ t'.lost = t.lost := by
      refine hat.elim (S := fun t t' => t'.name = t.name ∧ t'.lost = t.lost)
        (fun _ => ⟨rfl, rfl⟩) fun t t' hclear => ?_
      obtain ⟨_, rfl⟩ := IndexTable.clear_ok hclear
      exact ⟨rfl, rfl⟩
    exact hsame.trans (hlost t ht (hname.symm.trans hname'))
  · obtain ⟨t, ht, hname⟩ := hasTable_iff.mp hhas
    obtain ⟨t', ht', hat⟩ := hr.image ht
    refine hasTable_iff.mpr ⟨t', ht', ?_⟩
    rw [At, if_pos hname] at hat
    obtain ⟨_, rfl⟩ := IndexTable.clear_ok hat
    exact hname

/-- A table that has lost nothing can be filled from nodes that it can read. -/
lemma exists_fillTable {columns : List String}
    (hlost : ∀ t ∈ d.tables, t.name = config.tableName e → t.lost = [])
    (hhas : d.hasTable (config.tableName e) = true)
    (hreadable : ∀ n ∈ d.nodesOf e, ∃ row, n.indexRow columns = .ok row)
    (hcolumns : checkColumnNames columns = .ok ()) :
    ∃ d', fillTable (config.tableName e) e columns d = .ok d' := by
  obtain ⟨rows, hrows⟩ := exists_indexRows_of_readable hreadable
  obtain ⟨d', hd'⟩ := @exists_changeTable d (config.tableName e)
    (·.putAll rows) fun t ht hname => IndexTable.exists_change (hlost t ht hname) [] rows
  refine ⟨d', ?_⟩
  simpa [fillTable, IndexConfig.alone_tableName hpre he, bind, Except.bind, hhas, hcolumns,
    hrows] using hd'

end

namespace Current

/-! ## Tables that come and go -/

/-- What stands under the name of a table is no part of another one. -/
lemma relation?_ne_part (h : Current config entities watched d) (hapart : config.Apart entities)
    (hentity : entities e) (he : IsEntityName e) (owner : IndexTable) (p : Part) :
    d.relation? (config.tableName e) ≠ some (.part owner p) :=
  Database.relation?_ne_part hapart (fun t ht => (h.tables t ht).named) hentity he owner p

/-- A new table without rows keeps the others current. -/
lemma createTable {columns : List String} {tokenizer : String} (h : Current config entities watched d)
    (hpre : Text.isIdentifier config.tablePrefix = true) (hentity : entities e)
    (he : IsEntityName e)
    (hd : createTable (config.tableName e) columns tokenizer d = .ok d') :
    Current config entities watched d' := by
  obtain ⟨_, rfl⟩ | ⟨_, hcolumns, rfl⟩ := createTable_ok hpre he hd
  · exact h
  refine ⟨fun t ht => ?_, fun t ht hwatched => ?_, h.readable⟩
  · rcases List.mem_append.mp ht with ht | ht
    · exact h.tables t ht
    · rw [List.mem_singleton.mp ht]
      exact ⟨⟨e, hentity, he, rfl⟩, rfl, hcolumns⟩
  · obtain ⟨table, htable, hrest⟩ := h.triggers t ht hwatched
    exact ⟨table, List.mem_append_left _ htable, hrest⟩

/-- Without a table and its triggers the others are current, and so is this one. -/
lemma dropTable (h : Current config entities (fun a => watched a ∧ a ≠ e) d)
    (hkept : TriggersKept config d.triggers) (hapart : config.Apart entities)
    (hpre : Text.isIdentifier config.tablePrefix = true) (hentity : entities e)
    (he : IsEntityName e) (hd : dropTable (config.tableName e) d = .ok d') :
    Current config entities watched (d'.withoutTriggers (config.tableName e)) := by
  have hothers : ∀ t ∈ (d.withoutTriggers (config.tableName e)).triggers,
      t ∈ d.triggers ∧ t.table ≠ config.tableName e ∧ t.entity ≠ e := by
    intro t ht
    obtain ⟨ht, hne⟩ := List.mem_filter.mp ht
    have hne : t.table ≠ config.tableName e := by simpa using hne
    refine ⟨ht, hne, fun hsame => hne ?_⟩
    rw [(hkept.named t ht).2, hsame]
  have hreadable : ∀ t ∈ (d.withoutTriggers (config.tableName e)).triggers, watched t.entity →
      ∀ n ∈ d.nodes, n.entity = t.entity → ∃ row, n.indexRow t.columns = .ok row := by
    intro t ht hwatched
    obtain ⟨ht, _, hother⟩ := hothers t ht
    exact h.readable t ht ⟨hwatched, hother⟩
  obtain ⟨_, rfl⟩ | ⟨_, _, rfl⟩ | ⟨owner, p, hpart, _⟩ := dropTable_ok hpre he hd
  · refine ⟨h.tables, fun t ht hwatched => ?_, hreadable⟩
    obtain ⟨ht, _, hother⟩ := hothers t ht
    exact h.triggers t ht ⟨hwatched, hother⟩
  · refine ⟨fun t ht => h.tables t (List.mem_of_mem_filter ht), fun t ht hwatched => ?_, hreadable⟩
    obtain ⟨ht, hne, hother⟩ := hothers t ht
    obtain ⟨table, htable, hname, hrest⟩ := h.triggers t ht ⟨hwatched, hother⟩
    refine ⟨table, List.mem_filter.mpr ⟨htable, ?_⟩, hname, hrest⟩
    -- the table of another entity is not among the parts that are dropped as well
    obtain ⟨a, ha, hvalid, hnamed⟩ := (h.tables table htable).named
    have hpart : ∀ p : Part, table.name ≠ p.tableName (config.tableName e) := by
      intro p
      rw [hnamed]
      exact hapart e a hentity ha he hvalid p
    simp only [Bool.and_eq_true, bne_iff_ne, ne_eq, Bool.not_eq_true', List.any_eq_false,
      beq_iff_eq]
    exact ⟨hname ▸ hne, fun p _ => hpart p⟩
  · exact absurd hpart (h.relation?_ne_part hapart hentity he owner p)

/-- A table with its triggers is current when it has been filled. -/
theorem filled {p : IndexPlan} {rows : List IndexRow} (h : Current config entities watched d)
    (hkept : TriggersKept config d.triggers) (hp : p.IsPlain config)
    (hexists : ∃ t ∈ d.tables, t.name = p.table)
    (hcolumns : ∀ t ∈ d.tables, t.name = p.table → t.columns = p.columns)
    (hrows : indexRows p.columns (d.nodesOf p.entity) = .ok rows)
    (hr : Retabled (At p.table (Refilled rows)) (p.withTriggers d) d') :
    Current config entities watched d' := by
  have hmirrors : ∀ t ∈ d.tables, t.name = p.table → ∃ t' ∈ d'.tables, t'.name = p.table ∧
      t'.columns = p.columns ∧ Mirrors d'.nodes p.entity t' := by
    intro t ht hname
    refine exists_mirrors_of_refilled (by simpa using ht) hname (hcolumns t ht hname) ?_ hr
    rwa [nodesOf, IndexPlan.nodes_withTriggers]
  refine ⟨fun t' ht' => ?_, fun t ht hwatched => ?_, fun t ht hwatched n hn hentity => ?_⟩
  · obtain ⟨t, ht, hat⟩ := hr.origin ht'
    rw [IndexPlan.tables_withTriggers] at ht
    exact (h.tables t ht).of_at hat fun _ _ hrefilled => ⟨rows, hrefilled⟩
  · rw [hr.triggers] at ht
    rcases IndexPlan.eq_or_mem_of_mem_withTriggers ht with ⟨event, rfl⟩ | ht
    · obtain ⟨table, htable, hname⟩ := hexists
      exact hmirrors table htable hname
    -- an old trigger is one of this table as well, or its table was not touched
    · obtain ⟨table, htable, hname, hcol, hold⟩ := h.triggers t ht hwatched
      by_cases hsame : table.name = p.table
      · have hentity : t.entity = p.entity :=
          hkept.entity_eq ht hp.entity ((hname.symm.trans hsame).trans hp.table)
        rw [hentity, ← hname, ← hcol, hcolumns table htable hsame, hsame]
        exact hmirrors table htable hsame
      · obtain ⟨table', htable', hat⟩ := hr.image (by simpa using htable)
        rw [At, if_neg hsame] at hat
        subst hat
        rw [hr.nodes, IndexPlan.nodes_withTriggers]
        exact ⟨table', htable', hname, hcol, hold⟩
  · rw [hr.triggers] at ht
    rw [hr.nodes, IndexPlan.nodes_withTriggers] at hn
    rcases IndexPlan.eq_or_mem_of_mem_withTriggers ht with ⟨event, rfl⟩ | ht
    · exact exists_indexRow_of_mem hrows (List.mem_filter.mpr ⟨hn, beq_iff_eq.mpr hentity⟩)
    · exact h.readable t ht hwatched n hn hentity

/-- The table of an entity that is watched has triggers with its own columns, if it has any, and the
rows that the nodes of the entity fill it with. -/
theorem guards_table (h : Current config entities watched d) (hkept : WellKept config d)
    (hwatched : watched e) (he : IsEntityName e) {t : IndexTable}
    (ht : d.table? (config.tableName e) = some t)
    (htrigger : d.hasTrigger (config.tableName e) .insert = true) :
    (∀ event, d.trigger? (config.tableName e) event =
        some ⟨config.tableName e, event, e, t.columns⟩) ∧
      indexRows t.columns (d.nodesOf e) = .ok t.rows := by
  obtain ⟨htable, hname⟩ := mem_and_name_of_table? ht
  -- the trigger leads to the table again
  obtain ⟨t₀, ht₀, htable₀, _⟩ := hasTrigger_iff.mp htrigger
  have hown : t₀.entity = e := hkept.triggers.entity_eq ht₀ he htable₀
  obtain ⟨table, hmem, hnamed, hcolumns, hmirrors⟩ := h.triggers t₀ ht₀ (hown ▸ hwatched)
  obtain rfl : table = t :=
    hkept.table_eq hmem htable ((hnamed.trans htable₀).trans hname.symm)
  rw [hown] at hmirrors
  refine ⟨fun event => ?_, indexRows_eq_rows_of_readable hmirrors (hkept.rows_sorted table htable)
    hkept.nodes_sorted fun n hn => ?_⟩
  · obtain ⟨t₁, ht₁⟩ := Option.isSome_iff_exists.mp (hkept.triggers.hasTrigger ht₀ event)
    have hmem₁ := List.mem_of_find?_eq_some ht₁
    have hfound := List.find?_some ht₁
    simp only [Bool.and_eq_true, beq_iff_eq] at hfound
    obtain ⟨htable₁, hevent₁⟩ := hfound
    rw [← htable₀, ht₁, hcolumns, ← hkept.triggers.columns_eq ht₀ hmem₁ htable₁, ← htable₁,
      ← hevent₁, ← hkept.triggers.entity_eq hmem₁ he (htable₁.trans htable₀)]
  · obtain ⟨hmem, hnentity⟩ := List.mem_filter.mp hn
    rw [hcolumns]
    exact h.readable t₀ ht₀ (hown ▸ hwatched) n hmem ((beq_iff_eq.mp hnentity).trans hown.symm)

end Current

end Database

namespace IndexPlan

open Database

variable {config : IndexConfig} {entities watched : String → Prop} {p : IndexPlan} {d : Database}

/-! ## Filling -/

variable (hp : p.IsPlain config)

include hp

/-- Filling a table of a database that can be changed does not fail, if nothing is amiss. -/
theorem ends_populate_of_ok {Q : Unit → Database → Prop} {E : Database → Prop}
    (hlost : ∀ t ∈ d.tables, t.name = p.table → t.lost = [])
    (hexists : ∃ t ∈ d.tables, t.name = p.table)
    (hnodes : d.nodes.Pairwise fun a b => a.id < b.id)
    (hreadable : ∀ n ∈ d.nodesOf p.entity, ∃ row, n.indexRow p.columns = .ok row)
    (hcolumns : checkColumnNames p.columns = .ok ()) (hr : d.isReadOnly = false)
    (hQ : ∀ rows d', indexRows p.columns (d.nodesOf p.entity) = .ok rows →
      Retabled (At p.table (Refilled rows)) d d' → Q () d') : Ends p.populate d Q E := by
  have hhas : d.hasTable p.table = true := hasTable_iff.mpr hexists
  rw [hp.table] at hhas hlost
  obtain ⟨d₁, h₁, hlost₁, hhas₁⟩ := exists_clearTable hp.isIdentifier hp.entity hlost hhas
  have hcleared := (clearTable_ok hp.isIdentifier hp.entity h₁).2
  have hreadable₁ : ∀ n ∈ d₁.nodesOf p.entity, ∃ row, n.indexRow p.columns = .ok row := by
    rw [nodesOf, hcleared.nodes]
    exact hreadable
  obtain ⟨d₂, h₂⟩ :=
    exists_fillTable hp.isIdentifier hp.entity hlost₁ hhas₁ hreadable₁ hcolumns
  obtain ⟨_, _, rows, hrows, hfilled⟩ := fillTable_ok hp.isIdentifier hp.entity h₂
  rw [nodesOf, hcleared.nodes] at hrows
  have hrefilled := retabled_refilled (rowsSorted_of_indexRows (hnodes.filter _) hrows) hcleared
    hfilled
  rw [← hp.table] at h₁ h₂ hrefilled
  refine Action.ends_bind (ends_run_of_ok h₁ hr ?_)
  exact ends_run_of_ok h₂ (hcleared.isReadOnly.trans hr) (hQ rows d₂ hrows hrefilled)

/-- A table that is filled gets the rows of its nodes. If this fails, nothing has happened or the table
has no rows any more. -/
theorem ends_populate (hnodes : d.nodes.Pairwise fun a b => a.id < b.id) :
    Ends p.populate d
      (fun _ d' => d.hasTable p.table = true ∧
        ∃ rows, indexRows p.columns (d.nodesOf p.entity) = .ok rows ∧
          Retabled (At p.table (Refilled rows)) d d')
      fun d' => d' = d ∨ Retabled (At p.table (Refilled [])) d d' := by
  refine Action.ends_bind (ends_run (.inl rfl) fun d₁ h₁ _ => ?_)
  rw [hp.table] at h₁
  obtain ⟨hhas, hcleared⟩ := clearTable_ok hp.isIdentifier hp.entity h₁
  rw [← hp.table] at hhas hcleared
  have hemptied := hcleared.mono fun _ _ hat => hat.mono (S := Refilled []) IndexTable.clear_ok
  refine ends_run (.inr hemptied) fun d₂ h₂ _ => ?_
  rw [hp.table] at h₂
  obtain ⟨_, _, rows, hrows, hfilled⟩ := fillTable_ok hp.isIdentifier hp.entity h₂
  rw [← hp.table] at hfilled
  rw [nodesOf, hcleared.nodes] at hrows
  exact ⟨hhas, rows, hrows,
    retabled_refilled (rowsSorted_of_indexRows (hnodes.filter _) hrows) hcleared hfilled⟩

/-- Filling a table and then creating its triggers keeps the tables current, however this ends. -/
lemma ends_fill_current (hkept : WellKept config d) (hd : Current config entities watched d)
    (hcolumns : ∀ t ∈ d.tables, t.name = p.table → t.columns = p.columns)
    (hnone : ∀ t ∈ d.triggers, watched t.entity → t.table ≠ p.table) :
    Ends (p.populate >>= fun _ => p.createTriggers) d (fun _ => Current config entities watched)
      (Current config entities watched) := by
  have hrefilled : ∀ {rows : List IndexRow} {d' : Database},
      Retabled (At p.table (Refilled rows)) d d' → Current config entities watched d' :=
    fun {rows} _ hr => hd.retabled_of_forall_ne hr (fun _ _ ht => ⟨rows, ht⟩) hnone
  refine Action.ends_bind ((ends_populate hp hkept.nodes_sorted).mono (fun _ d₁ h₁ => ?_) ?_)
  · obtain ⟨hhas, rows, hrows, hr⟩ := h₁
    refine ends_createTriggers hp (hrefilled hr) fun _ => ?_
    exact hd.filled hkept.triggers hp (hasTable_iff.mp hhas) hcolumns hrows
      (withTriggers_retabled hr)
  · rintro d₁ (rfl | hr)
    · exact hd
    · exact hrefilled hr

/-- A table that has got its triggers first is blocked if it cannot be filled. This matters only to
those who watch its entity. -/
lemma ends_populate_blocked (hkept : WellKept config d) (hd : Current config entities watched d)
    (hnone : ∀ t ∈ d.triggers, t.table ≠ p.table)
    (hunreadable : ∃ n ∈ d.nodesOf p.entity, ¬∃ row, n.indexRow p.columns = .ok row) :
    Ends p.populate (p.withTriggers d) (fun _ _ => False) fun d' =>
      (watched p.entity → ¬d'.IsBlocked p.entity) → Current config entities watched d' := by
  have hnodes : (p.withTriggers d).nodes = d.nodes := by rw [withTriggers_eq]
  have hblocked : ∀ {d' : Database}, d'.nodes = d.nodes →
      d'.triggers = (p.withTriggers d).triggers → d'.IsBlocked p.entity := by
    intro d' hsame htriggers
    refine ⟨p.trigger .insert, ?_, rfl, ?_⟩
    · rw [htriggers, withTriggers_of_forall_ne hnone]
      exact .tail _ (.tail _ (.head _))
    · rwa [nodesOf, hsame]
  have hwith : ¬watched p.entity → Current config entities watched (p.withTriggers d) := by
    intro hunwatched
    have hold : ∀ t ∈ (p.withTriggers d).triggers, watched t.entity → t ∈ d.triggers := by
      intro t ht hwatched
      rcases eq_or_mem_of_mem_withTriggers ht with ⟨event, rfl⟩ | ht
      · exact absurd hwatched hunwatched
      · exact ht
    rw [withTriggers_eq]
    exact ⟨hd.tables, fun t ht hw => hd.triggers t (hold t ht hw) hw,
      fun t ht hw => hd.readable t (hold t ht hw) hw⟩
  have hsorted : (p.withTriggers d).nodes.Pairwise fun a b => a.id < b.id :=
    hnodes ▸ hkept.nodes_sorted
  refine (ends_populate hp hsorted).mono (fun _ d' h => ?_) fun d' h hnot => ?_
  · obtain ⟨_, rows, hrows, _⟩ := h
    obtain ⟨n, hn, hunreadable⟩ := hunreadable
    refine hunreadable (exists_indexRow_of_mem hrows ?_)
    rwa [nodesOf, hnodes]
  · obtain rfl | hr := h
    · exact hwith fun hw => hnot hw (hblocked hnodes rfl)
    · have hunwatched : ¬watched p.entity :=
        fun hw => hnot hw (hblocked (hr.nodes.trans hnodes) hr.triggers)
      refine (hwith hunwatched).retabled_of_forall_ne hr (fun _ _ ht => ⟨[], ht⟩)
        fun t ht hwatched => ?_
      rcases eq_or_mem_of_mem_withTriggers ht with ⟨event, rfl⟩ | ht
      · exact absurd hwatched hunwatched
      · exact hnone t ht

variable (hapart : config.Apart entities) (hentity : entities p.entity)

include hapart hentity

/-- A table that is created where none was, and gets its triggers before it is filled, is current
unless this leaves it blocked. -/
lemma ends_recreate_current (hkept : WellKept config d) (hd : Current config entities watched d)
    (hgone : ∀ t ∈ d.tables, t.name ≠ p.table) (hnone : ∀ t ∈ d.triggers, t.table ≠ p.table) :
    Ends (p.createTable >>= fun _ => p.createTriggers >>= fun _ => p.populate) d
      (fun _ => Current config entities watched) fun d' =>
        (watched p.entity → ¬d'.IsBlocked p.entity) → Current config entities watched d' := by
  have hrelation : d.relation? p.table = none := by
    refine relation?_eq_none_of_ne hgone ?_
    rw [hp.table]
    exact hd.relation?_ne_part hapart hentity hp.entity
  refine Action.ends_bind (ends_createTable hp hrelation (fun _ => hd) fun hcreated hr => ?_)
  rw [hp.table] at hcreated
  have hkept₁ := hkept.createTable hp.isIdentifier hp.entity hcreated
  have hd₁ := hd.createTable hp.isIdentifier hentity hp.entity hcreated
  rw [← hp.table] at hkept₁ hd₁
  refine Action.ends_bind (ends_createTriggers hp (fun _ => hd₁) fun hcheck => ?_)
  -- the database can be changed, so only the nodes can be in the way of the rows
  by_cases hreadable : ∀ n ∈ d.nodesOf p.entity, ∃ row, n.indexRow p.columns = .ok row
  · have hexists : ∃ t ∈ d.tables ++ [.created p.table p.columns p.tokenizer], t.name = p.table :=
      ⟨_, List.mem_append_right _ (.head _), rfl⟩
    rw [withTriggers_eq]
    refine ends_populate_of_ok hp (fun t ht _ => (hd₁.tables t ht).lost) hexists
      hkept.nodes_sorted hreadable hcheck hr fun rows d' hrows hr' => ?_
    rw [← withTriggers_eq] at hr'
    exact hd₁.filled hkept₁.triggers hp hexists
      (fun t ht hname => columns_eq_of_mem_created hgone ht hname) hrows hr'
  · have hunreadable : ∃ n ∈ d.nodesOf p.entity, ¬∃ row, n.indexRow p.columns = .ok row := by
      simpa only [not_forall, exists_prop] using hreadable
    exact (ends_populate_blocked hp hkept₁ hd₁ hnone hunreadable).mono (fun _ _ h => h.elim)
      fun _ h => h

/-- Setting a table up anew makes it current, whatever it has been before, unless this leaves it
blocked. If it fails before the table is gone then nothing has happened.

**Proof sketch.** Once the table is gone with its triggers, a new one is in step with nothing. It
could be created, so the database can be changed, and thus the rows follow the triggers for sure if
the nodes can be read. -/
theorem ends_rebuild_current (hkept : WellKept config d)
    (hd : Current config entities (fun a => watched a ∧ a ≠ p.entity) d) :
    Ends p.rebuild d (fun _ => Current config entities watched) fun d' =>
      d' = d ∨ ((watched p.entity → ¬d'.IsBlocked p.entity) → Current config entities watched d') := by
  refine Action.ends_bind (ends_drop hp (.inl rfl) fun d₁ h₁ _ => ?_)
  rw [hp.table] at h₁
  have hgone := name_ne_of_dropTable hp.isIdentifier hp.entity h₁
  have hkept₂ := (hkept.dropTable hp.isIdentifier hp.entity h₁).withoutTriggers hgone
  have hd₂ := hd.dropTable hkept.triggers hapart hp.isIdentifier hentity hp.entity h₁
  rw [← hp.table] at hgone hkept₂ hd₂
  have hnone : ∀ t ∈ (d₁.withoutTriggers p.table).triggers, t.table ≠ p.table := by
    intro t ht
    simpa using (List.mem_filter.mp ht).2
  split_ifs
  · exact (ends_recreate_current hp hapart hentity hkept₂ hd₂ hgone hnone).mono (fun _ _ h => h)
      fun _ h => .inr h
  · exact hd₂

/-- Setting a table up keeps the tables current, unless this leaves its table blocked. -/
theorem ends_ensure_current (hkept : WellKept config d) (hd : Current config entities watched d) :
    Ends p.ensure d (fun _ => Current config entities watched) fun d' =>
      (watched p.entity → ¬d'.IsBlocked p.entity) → Current config entities watched d' := by
  refine ends_ensure (fun _ => hd) (fun _ => hd) ?create ?replace ?change ?fill ?guard
  case create =>
    intro hrelation
    have hgone := @name_ne_of_relation? d p.table (by simp [hrelation])
    refine Action.ends_bind (ends_createTable hp hrelation (fun _ => hd) fun hcreated _ => ?_)
    rw [hp.table] at hcreated
    have hkept₁ := hkept.createTable hp.isIdentifier hp.entity hcreated
    have hd₁ := hd.createTable hp.isIdentifier hentity hp.entity hcreated
    rw [← hp.table] at hkept₁ hd₁
    refine (ends_fill_current hp hkept₁ hd₁
      (fun t ht hname => columns_eq_of_mem_created hgone ht hname)
      fun t ht hwatched htable => ?_).mono (fun _ _ h => h) fun _ h _ => h
    -- a trigger that is watched has its table
    obtain ⟨table, hmem, hname, _⟩ := hd.triggers t ht hwatched
    exact hgone table hmem (hname.trans htable)
  case replace =>
    intro owner part hrelation
    rw [hp.table] at hrelation
    exact absurd hrelation (hd.relation?_ne_part hapart hentity hp.entity owner part)
  case change =>
    intro _ _ _ d₁ hr
    have hd₁ := hd.idle hr
    refine (ends_rebuild_current hp hapart hentity (hkept.idle hr)
      (hd₁.mono fun _ h => h.1)).mono (fun _ _ h => h) fun d' h => ?_
    obtain rfl | h := h
    · exact fun _ => hd₁
    · exact h
  case fill =>
    intro table hrelation hcolumns d₁ hr htrigger
    have hkept₁ := hkept.idle hr
    refine (ends_fill_current hp hkept₁ (hd.idle hr) (fun t' ht' hname => ?_)
      fun t ht _ htable => ?_).mono (fun _ _ h => h) fun _ h _ => h
    · obtain ⟨t, ht, _, rfl⟩ := hr.origin ht'
      obtain ⟨hmem, hname'⟩ := mem_and_name_of_table? (relation?_eq_index.mp hrelation)
      rw [← hcolumns, ← hkept.table_eq ht hmem (hname.trans hname'.symm)]
    · have hhas := hkept₁.triggers.hasTrigger ht .insert
      rw [htable, htrigger] at hhas
      cases hhas
  case guard =>
    intro _ _ _ d₁ hr htrigger
    refine ends_createTriggers hp (fun _ => hd.idle hr) fun _ => ?_
    obtain ⟨t, ht, htable, _⟩ := hasTrigger_iff.mp htrigger
    -- with one trigger the table has all of them, and none is created
    rw [withTriggers_of_mem (hkept.idle hr).triggers ht htable]
    exact hd.idle hr

/-- Setting a table up anew keeps the tables in step, however this ends. -/
theorem ends_rebuild_inStep (hkept : WellKept config d) (hd : InStep config entities d) :
    Ends p.rebuild d (fun _ => InStep config entities) (InStep config entities) := by
  refine ((@ends_rebuild_current _ _ (fun _ => True) _ _ hp hapart hentity hkept hd.current).and
    (ends_rebuild_contents (.refl d))).mono (fun _ d' h => ?_) fun d' h => ?_
  · exact .of_current h.1 (h.2.nodes ▸ hd.documents)
  · have hdocuments : ∀ n ∈ d'.nodes, ∃ p : Properties, n.document = p.document :=
      h.2.nodes ▸ hd.documents
    obtain rfl | hcurrent := h.1
    · exact hd
    · exact .of_current (hcurrent fun _ => not_isBlocked hdocuments) hdocuments

/-- Setting a table up keeps the tables in step, however this ends. -/
theorem ends_ensure_inStep (hkept : WellKept config d) (hd : InStep config entities d) :
    Ends p.ensure d (fun _ => InStep config entities) (InStep config entities) := by
  refine ((@ends_ensure_current _ _ (fun _ => True) _ _ hp hapart hentity hkept hd.current).and
    (ends_ensure_contents (.refl d))).mono (fun _ d' h => ?_) fun d' h => ?_
  · exact .of_current h.1 (h.2.nodes ▸ hd.documents)
  · have hdocuments : ∀ n ∈ d'.nodes, ∃ p : Properties, n.document = p.document :=
      h.2.nodes ▸ hd.documents
    exact .of_current (h.1 fun _ => not_isBlocked hdocuments) hdocuments

end IndexPlan

end EntityFinder
