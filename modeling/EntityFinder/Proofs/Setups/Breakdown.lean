import EntityFinder.Proofs.Refusals
import EntityFinder.Proofs.Setups.Parts

set_option autoImplicit false

/-!
# When a table cannot be set up anew

A table that is to be set up anew is dropped first, and each statement after that takes effect for
itself. Nothing brings the old table back when one of them fails, so what is left is no table at all,
one without triggers, or one that has its triggers but no rows.

## Main definitions

* `EntityFinder.IndexPlan.Remains`: what is left of a table, and what has stopped its setup.

## Main results

* `EntityFinder.IndexPlan.fails_rebuild`: nothing has happened yet, or this is what remains.
* `EntityFinder.StoreRun.left_by_rebuild`: so it is after every run.
* `EntityFinder.StoreRun.exists_table_lost`: a table that answered a query, and is gone.
-/

namespace EntityFinder

open EntityFinder.Action (Ends Fails)
open Database (SameContents Separate WellKept)

namespace IndexPlan

open Database

/-- What is left of a table that was to be set up anew, and the failure that has stopped this. -/
inductive Remains (p : IndexPlan) (e : FinderError) (d : Database) : Prop
  /-- The table is gone with its triggers: it cannot be created. -/
  | nothing : d.relation? p.table = none → (∀ event, d.trigger? p.table event = none) →
      p.createTable.perform d = (.error e, d) → Remains p e d
  /-- There is a new table without rows: its triggers cannot be created. -/
  | unguarded (t : IndexTable) : d.table? p.table = some t → t.columns = p.columns → t.rows = [] →
      (∀ event, d.trigger? p.table event = none) →
      p.createTriggers.perform d = (.error e, d) → Remains p e d
  /-- There is a new table with its triggers, but it has no rows: a node cannot be read. -/
  | unfilled (t : IndexTable) : d.table? p.table = some t → t.columns = p.columns → t.rows = [] →
      (∀ event, d.trigger? p.table event = some (p.trigger event)) →
      e.IsDueTo p.columns (d.nodesOf p.entity) → Remains p e d

variable {config : IndexConfig} {p : IndexPlan} {d : Database}

/-! ## New tables and their triggers -/

/-- A table that was created where none was is found. -/
lemma table?_created (hgone : ∀ t ∈ d.tables, t.name ≠ p.table) :
    ({ d with tables := d.tables ++ [.created p.table p.columns p.tokenizer] } :
      Database).table? p.table = some (.created p.table p.columns p.tokenizer) := by
  have hold : d.tables.find? (·.name == p.table) = none := by simpa using hgone
  simp [table?, List.find?_append, hold, IndexTable.created]

/-- A table without triggers has none for a change. -/
lemma trigger?_eq_none (hnone : ∀ t ∈ d.triggers, t.table ≠ p.table) (event : NodeEvent) :
    d.trigger? p.table event = none :=
  List.find?_eq_none.mpr fun t ht => by simp [hnone t ht]

/-- A table that had no triggers gets those of the plan. -/
lemma trigger?_withTriggers (hnone : ∀ t ∈ d.triggers, t.table ≠ p.table) (event : NodeEvent) :
    (p.withTriggers d).trigger? p.table event = some (p.trigger event) := by
  rw [trigger?, withTriggers_of_forall_ne hnone]
  cases event <;> simp [trigger]

/-! ## Setting up anew -/

/-- If a new table that has its triggers cannot be filled then it stays without rows. -/
lemma fails_populate_created {t : IndexTable} (hp : p.IsPlain config)
    (hcolumns : checkColumnNames p.columns = .ok ()) (hr : d.isReadOnly = false)
    (hsorted : d.nodes.Pairwise fun a b => a.id < b.id) (ht : d.table? p.table = some t)
    (htcolumns : t.columns = p.columns) (htrows : t.rows = [])
    (hlost : ∀ t ∈ d.tables, t.name = p.table → t.lost = [])
    (hnone : ∀ t ∈ d.triggers, t.table ≠ p.table) :
    Fails p.populate (p.withTriggers d) p.Remains := by
  intro e d' h
  have hwith := withTriggers_eq p d
  have htriggers := trigger?_withTriggers (p := p) hnone
  have ht' : (p.withTriggers d).table? p.table = some t := by rw [hwith]; exact ht
  have hhas : (p.withTriggers d).hasTable p.table = true := by rw [hasTable, ht']; rfl
  have hdue : e.IsDueTo p.columns ((p.withTriggers d).nodesOf p.entity) :=
    not_not.mp (avoids_populate hp hcolumns (by rw [hwith]; exact hr) (by rw [hwith]; exact hlost)
      hhas e d' h)
  have hsorted' : (p.withTriggers d).nodes.Pairwise fun a b => a.id < b.id := by
    rw [hwith]
    exact hsorted
  obtain rfl | hr := (ends_populate hp hsorted').of_error h
  · exact .unfilled t ht' htcolumns htrows htriggers hdue
  have hnames : ∀ t t', At p.table (Refilled []) t t' → t'.name = t.name := by
    intro t t' hat
    refine hat.name fun t t' ht => ?_
    obtain ⟨_, rfl⟩ := ht
    rfl
  obtain ⟨t', hfound, hat⟩ := hr.table?_eq_some hnames ht'
  rw [At, if_pos (mem_and_name_of_table? ht').2] at hat
  obtain ⟨_, rfl⟩ := hat
  refine .unfilled _ hfound htcolumns rfl (fun event => ?_) ?_
  · rw [trigger?, hr.triggers]
    exact htriggers event
  · rw [nodesOf, hr.nodes]
    exact hdue

/-- If a table cannot be set up where none stands, what remains of it is less than a table.

**Proof sketch.** A table that was created is whole, and the database can be changed; so the table
gets all of its triggers or none, and only a node can keep it from being filled. -/
lemma fails_setup (hp : p.IsPlain config) (hrelation : d.relation? p.table = none)
    (hnone : ∀ t ∈ d.triggers, t.table ≠ p.table)
    (hsorted : d.nodes.Pairwise fun a b => a.id < b.id) :
    Fails (p.createTable >>= fun _ => p.createTriggers >>= fun _ => p.populate) d p.Remains := by
  have hgone := (relation?_eq_none_iff.mp hrelation).1
  have hcreate : Ends p.createTable d
      (fun _ d' => d'.isReadOnly = false ∧ d' =
        { d with tables := d.tables ++ [.created p.table p.columns p.tokenizer] })
      (· = d) :=
    ends_createTable hp hrelation rfl fun _ hr => ⟨hr, rfl⟩
  refine Action.fails_bind (fun e d' h => ?_) fun _ d₁ h₁ => ?_
  · obtain rfl := hcreate.of_error h
    exact .nothing hrelation (trigger?_eq_none hnone) h
  obtain ⟨hr, hd₁⟩ := hcreate.of_perform h₁
  have htable : d₁.table? p.table = some (.created p.table p.columns p.tokenizer) := by
    rw [hd₁]
    exact table?_created hgone
  have hnone₁ : ∀ t ∈ d₁.triggers, t.table ≠ p.table := by
    rw [hd₁]
    exact hnone
  have hlost : ∀ t ∈ d₁.tables, t.name = p.table → t.lost = [] := by
    rw [hd₁]
    intro t ht hname
    rcases List.mem_append.mp ht with ht | ht
    · exact absurd hname (hgone t ht)
    · rw [List.mem_singleton.mp ht]
      rfl
  have hsorted₁ : d₁.nodes.Pairwise fun a b => a.id < b.id := by
    rw [hd₁]
    exact hsorted
  have hguard : Ends p.createTriggers d₁
      (fun _ d' => checkColumnNames p.columns = .ok () ∧ d' = p.withTriggers d₁) (· = d₁) :=
    ends_createTriggers hp rfl fun hcheck => ⟨hcheck, rfl⟩
  refine Action.fails_bind (fun e d' h => ?_) fun _ d₂ h₂ => ?_
  · obtain rfl := hguard.of_error h
    exact .unguarded _ htable rfl rfl (trigger?_eq_none hnone₁) h
  obtain ⟨hcheck, rfl⟩ := hguard.of_perform h₂
  exact fails_populate_created hp hcheck hr hsorted₁ htable rfl rfl hlost hnone₁

/-- If a table cannot be set up anew then it cannot be dropped, and nothing has happened, or nothing
stands where it has stood, and less than a table takes its place. -/
theorem fails_rebuild (hp : p.IsPlain config) (hkept : WellKept config d) (hd : Separate d) :
    Fails p.rebuild d fun e d' =>
      d' = d ∧ p.drop.perform d = (.error e, d) ∨ p.Remains e d' := by
  have hdrop : Ends p.drop d (fun _ d' => ∃ d₁, dropTable p.table d = .ok d₁ ∧
      d' = d₁.withoutTriggers p.table) (· = d) := ends_drop hp rfl fun d₁ h₁ _ => ⟨d₁, h₁, rfl⟩
  refine Action.fails_bind (fun e d' h => ?_) fun _ d₂ h₂ => ?_
  · obtain rfl := hdrop.of_error h
    exact .inl ⟨rfl, h⟩
  obtain ⟨d₁, h₁, hd₂⟩ := hdrop.of_perform h₂
  have hrelation : d₂.relation? p.table = none := by
    rw [hp.table] at h₁
    have hfree := hd.relation?_of_dropTable hp.isIdentifier hp.entity h₁
    rwa [hd₂, hp.table]
  have hnone : ∀ t ∈ d₂.triggers, t.table ≠ p.table := by
    rw [hd₂]
    intro t ht
    simpa using (List.mem_filter.mp ht).2
  have hsorted : d₂.nodes.Pairwise fun a b => a.id < b.id :=
    ((ends_drop_contents (.refl d)).of_perform h₂).nodes ▸ hkept.nodes_sorted
  split_ifs
  · exact fun e d' h => .inr (fails_setup hp hrelation hnone hsorted e d' h)
  · intro e d' h
    cases h

end IndexPlan

/-! ## Runs -/

/-- If the table of an entity cannot be set up anew, then everything is as before, or the table is
gone. It is as before if the names in the metadata are refused or the old table cannot be dropped.
Otherwise no node is touched, and there is no table now, or a new one without rows and triggers, or
one that has its triggers and no rows; in this case a node of the entity cannot be read. -/
theorem StoreRun.left_by_rebuild {config : IndexConfig} {events : List StoreEvent}
    {s s' : NodeStore} {m : EntityMetadata} {e : FinderError}
    (hpre : Text.isIdentifier config.tablePrefix = true) (hrun : StoreRun config events s)
    (h : (NodeStore.rebuild m).perform s = (.error e, s')) :
    (s' = s ∧ (IndexPlan.ofMetadata config m = .error e ∨ ∃ p, IndexPlan.ofMetadata config m = .ok p ∧
      p.drop.perform s.database = (.error e, s.database))) ∨
    ∃ p, IndexPlan.ofMetadata config m = .ok p ∧ s'.config = s.config ∧ s'.prepared = s.prepared ∧
      SameContents s.database s'.database ∧ p.Remains e s'.database := by
  obtain ⟨hconfig, hkept⟩ := hrun.wellKept hpre
  have hplan : (NodeStore.plan m).perform s = (IndexPlan.ofMetadata config m, s) := by
    rw [← hconfig]
    rfl
  rw [NodeStore.rebuild, Action.perform_bind, hplan] at h
  cases hp : IndexPlan.ofMetadata config m with
  | error f =>
    rw [hp] at h
    cases h
    exact .inl ⟨rfl, .inl rfl⟩
  | ok p =>
    simp only [hp, Action.perform_bind, NodeStore.onDatabase, Action.onPart,
      Action.perform_ofFunction] at h
    rcases hrebuild : p.rebuild.perform s.database with ⟨f | _, d'⟩
    · rw [hrebuild] at h
      cases h
      have hplain := (IndexPlan.isPlain_of_ofMetadata hpre hp).1
      have hcontents := (IndexPlan.ends_rebuild_contents (.refl s.database)).of_error hrebuild
      obtain ⟨rfl, hdrop⟩ | hremains :=
        IndexPlan.fails_rebuild hplain hkept (hrun.separate hpre) e d' hrebuild
      · exact .inl ⟨rfl, .inr ⟨p, rfl, hdrop⟩⟩
      · exact .inr ⟨p, rfl, rfl, rfl, hcontents, hremains⟩
    · rw [hrebuild] at h
      cases h

/-- A film is stored. -/
def filmStored : List StoreEvent :=
  [.call (.insert (.searchable "Film" ["title"]) (.ofList [("title", "Metropolis")]))]

/-- A store gets to hold a film. -/
lemma StoreRun.after_filmStored :
    StoreRun .standard filmStored (NodeStore.after .standard filmStored) :=
  .of_own .standard (by simp [filmStored, StoreEvent.IsOwn])

/-- The table of the films is not set up anew with two columns that cannot be told apart. -/
lemma NodeStore.rebuild_filmStored :
    ((NodeStore.rebuild (.searchable "Film" ["title", "Title"])).perform
      (NodeStore.after .standard filmStored)).1 =
        .error (DatabaseFault.tableRefused "node_index__film").toError := by
  decide +kernel

/-- The table of the films is gone after it was to get two columns that cannot be told apart. -/
theorem StoreRun.left_by_rebuild_films : ∃ s s' p,
    StoreRun .standard filmStored s ∧
      (NodeStore.rebuild (.searchable "Film" ["title", "Title"])).perform s =
        (.error (DatabaseFault.tableRefused "node_index__film").toError, s') ∧
      IndexPlan.ofMetadata .standard (.searchable "Film" ["title", "Title"]) = .ok p ∧
      p.Remains (DatabaseFault.tableRefused "node_index__film").toError s'.database := by
  have hrun := StoreRun.after_filmStored
  have hfails := NodeStore.rebuild_filmStored
  have hchanged : ((NodeStore.rebuild (.searchable "Film" ["title", "Title"])).perform
      (NodeStore.after .standard filmStored)).2 ≠ NodeStore.after .standard filmStored := by
    decide +kernel
  -- the store need not be looked at any more
  generalize NodeStore.after .standard filmStored = s at hrun hfails hchanged
  obtain ⟨s', hperform⟩ : ∃ s', (NodeStore.rebuild (.searchable "Film" ["title", "Title"])).perform s =
      (.error (DatabaseFault.tableRefused "node_index__film").toError, s') :=
    ⟨_, Prod.ext hfails rfl⟩
  rw [hperform] at hchanged
  obtain ⟨hsame, _⟩ | ⟨p, hp, _, _, _, hremains⟩ := StoreRun.left_by_rebuild (by decide) hrun hperform
  · exact absurd hsame hchanged
  · exact ⟨s, s', p, hrun, hperform, hp, hremains⟩

/-- A query of the films is answered before their table was to be set up anew, and refused after this
has failed: the table is gone. -/
theorem StoreRun.exists_table_lost : ∃ (s s' : NodeStore) (index : NodeIndex) (record : Record)
    (e f : FinderError), StoreRun .standard filmStored s ∧
      (NodeStore.rebuild (.searchable "Film" ["title", "Title"])).perform s = (.error e, s') ∧
      (s.database.table? "node_index__film").isSome ∧
      s'.database.table? "node_index__film" = none ∧
      (index.query "title:metropolis").perform s = (.ok [record], s) ∧
      (index.query "title:metropolis").perform s' = (.error f, s') := by
  have hrun := StoreRun.after_filmStored
  have hfails := NodeStore.rebuild_filmStored
  have htables : ((NodeStore.after .standard filmStored).database.table? "node_index__film").isSome ∧
      ((NodeStore.rebuild (.searchable "Film" ["title", "Title"])).perform
        (NodeStore.after .standard filmStored)).2.database.table? "node_index__film" = none := by
    decide +kernel
  have hanswered : (((⟨"Film", some "node_index__film"⟩ : NodeIndex).query
      "title:metropolis").perform (NodeStore.after .standard filmStored)).1 =
        .ok [⟨1, "Film", .ofList [("title", "Metropolis")]⟩] := by decide +kernel
  have hrefused : (((⟨"Film", some "node_index__film"⟩ : NodeIndex).query
      "title:metropolis").perform ((NodeStore.rebuild (.searchable "Film" ["title", "Title"])).perform
        (NodeStore.after .standard filmStored)).2).1 =
        .error (DatabaseFault.noSuchTable "node_index__film").toError := by decide +kernel
  generalize NodeStore.after .standard filmStored = s at hrun hfails htables hanswered hrefused
  obtain ⟨s', hperform⟩ : ∃ s', (NodeStore.rebuild (.searchable "Film" ["title", "Title"])).perform s =
      (.error (DatabaseFault.tableRefused "node_index__film").toError, s') :=
    ⟨_, Prod.ext hfails rfl⟩
  rw [hperform] at htables hrefused
  exact ⟨s, s', _, _, _, _, hrun, hperform, htables.1, htables.2, Prod.ext hanswered rfl,
    Prod.ext hrefused rfl⟩

end EntityFinder
