import EntityFinder.NodeStore.IndexSetup
import EntityFinder.Proofs.Statements

set_option autoImplicit false

/-!
# Setting a table up and taking it down

The statements that create the triggers of a table succeed together or not at all, and so do those
that drop a table with its triggers.

## Main definitions

* `EntityFinder.IndexPlan.IsPlain`: the table of a plan is that of its entity.
* `EntityFinder.IndexPlan.withTriggers`, `EntityFinder.Database.withoutTriggers`: a database with
  the triggers of a table, and without them.

## Main results

* `EntityFinder.IndexPlan.ends_ensure`: the ways in which a table is set up.
* `EntityFinder.IndexPlan.ends_createTable`: a table that is created where nothing stands.
* `EntityFinder.IndexPlan.ends_createTriggers`, `EntityFinder.IndexPlan.ends_drop`: all or nothing.
* `EntityFinder.IndexPlan.isPlain_of_ofMetadata`: the plans that metadata asks for are plain.
-/

namespace EntityFinder

open EntityFinder.Action (Ends)

/-! ## Plans -/

/-- The table of a plan is that of its entity, and both can be named in statements. -/
structure IndexPlan.IsPlain (config : IndexConfig) (p : IndexPlan) : Prop where
  /-- The prefix of the tables is an identifier. -/
  isIdentifier : Text.isIdentifier config.tablePrefix = true
  /-- The entity can have a table. -/
  entity : IsEntityName p.entity
  /-- That is the table. -/
  table : p.table = config.tableName p.entity

/-- The plans that metadata asks for are plain. -/
lemma IndexPlan.isPlain_of_ofMetadata {config : IndexConfig} {m : EntityMetadata} {p : IndexPlan}
    (hpre : Text.isIdentifier config.tablePrefix = true)
    (h : IndexPlan.ofMetadata config m = .ok p) :
    p.IsPlain config ∧ p.entity = m.entityName ∧ p.columns = m.indexedNames := by
  obtain ⟨_, hentity, h⟩ := bind_eq_ok.mp h
  obtain ⟨_, _, h⟩ := bind_eq_ok.mp h
  cases h
  exact ⟨⟨hpre, hentity, rfl⟩, rfl, rfl⟩

/-- The plan that metadata asks for is told by the metadata and the configuration. -/
lemma IndexPlan.eq_of_ofMetadata {config : IndexConfig} {m : EntityMetadata} {p : IndexPlan}
    (h : IndexPlan.ofMetadata config m = .ok p) :
    p = ⟨config.tableName m.entityName, m.entityName, m.indexedNames, config.tokenizer⟩ := by
  obtain ⟨_, _, h⟩ := bind_eq_ok.mp h
  obtain ⟨_, _, h⟩ := bind_eq_ok.mp h
  cases h
  rfl

/-! ## Triggers of a table -/

namespace Database

/-- The database without the triggers of a table. -/
def withoutTriggers (table : String) (d : Database) : Database :=
  { d with triggers := d.triggers.filter fun t => t.table != table }

variable {d : Database} {t t' : Trigger} {table : String} {event : NodeEvent}

/-- The triggers of a table go one by one. -/
lemma withoutTrigger_withoutTrigger (table : String) (d : Database) :
    ((d.withoutTrigger table .insert).withoutTrigger table .update).withoutTrigger table .delete =
      d.withoutTriggers table := by
  simp only [withoutTrigger, withoutTriggers, List.filter_filter, mk.injEq, true_and, and_true]
  refine List.filter_congr fun t _ => ?_
  cases t.event <;> cases ht : t.table == table <;> simp [bne, ht]

/-- A database has a trigger if one of its triggers is of the table and for the change. -/
lemma hasTrigger_iff :
    d.hasTrigger table event = true ↔ ∃ t ∈ d.triggers, t.table = table ∧ t.event = event := by
  simp [hasTrigger, trigger?, List.find?_isSome]

/-- A trigger that is added is there, or one like it. -/
lemma hasTrigger_addTrigger (t : Trigger) (d : Database) :
    (d.addTrigger t).hasTrigger t.table t.event = true := by
  unfold addTrigger
  split_ifs with h
  · exact h
  · exact hasTrigger_iff.mpr ⟨t, .head _, rfl, rfl⟩

/-- Triggers stay when one is added. -/
lemma mem_addTrigger_of_mem (h : t' ∈ d.triggers) : t' ∈ (d.addTrigger t).triggers := by
  unfold addTrigger
  split_ifs
  · exact h
  · exact .tail _ h

/-- A trigger that is there after one was added is that or an old one. -/
lemma eq_or_mem_of_mem_addTrigger (h : t' ∈ (d.addTrigger t).triggers) :
    t' = t ∨ t' ∈ d.triggers := by
  unfold addTrigger at h
  split_ifs at h
  · exact .inr h
  · exact List.mem_cons.mp h

/-- A trigger that is added changes nothing but the triggers. -/
lemma addTrigger_eq (t : Trigger) (d : Database) :
    d.addTrigger t = { d with triggers := (d.addTrigger t).triggers } := by
  unfold addTrigger
  split_ifs <;> rfl

end Database

namespace IndexPlan

open Database

variable {config : IndexConfig} {p : IndexPlan} {d : Database}
variable {Q : Unit → Database → Prop} {E : Database → Prop}

/-- The database with the triggers of the table that it lacks. -/
def withTriggers (p : IndexPlan) (d : Database) : Database :=
  ((d.addTrigger (p.trigger .insert)).addTrigger (p.trigger .update)).addTrigger
    (p.trigger .delete)

/-- The missing triggers change nothing else. -/
lemma withTriggers_eq (p : IndexPlan) (d : Database) :
    p.withTriggers d = { d with triggers := (p.withTriggers d).triggers } := by
  unfold withTriggers
  rw [addTrigger_eq, addTrigger_eq _ (d.addTrigger _), addTrigger_eq _ d]

/-- The missing triggers leave the tables alone. -/
@[simp]
lemma tables_withTriggers (p : IndexPlan) (d : Database) :
    (p.withTriggers d).tables = d.tables := by
  rw [withTriggers_eq]

/-- The missing triggers leave the nodes alone. -/
@[simp]
lemma nodes_withTriggers (p : IndexPlan) (d : Database) : (p.withTriggers d).nodes = d.nodes := by
  rw [withTriggers_eq]

/-- The table has all of its triggers after the missing ones were added. -/
lemma hasTrigger_withTriggers (p : IndexPlan) (d : Database) (event : NodeEvent) :
    (p.withTriggers d).hasTrigger p.table event = true := by
  unfold withTriggers
  have hkeep : ∀ (d : Database) (t : Trigger), d.hasTrigger p.table event = true →
      (d.addTrigger t).hasTrigger p.table event = true := by
    intro d t h
    obtain ⟨t', ht', h⟩ := hasTrigger_iff.mp h
    exact hasTrigger_iff.mpr ⟨t', mem_addTrigger_of_mem ht', h⟩
  cases event with
  | insert => exact hkeep _ _ (hkeep _ _ (hasTrigger_addTrigger (p.trigger .insert) d))
  | update => exact hkeep _ _ (hasTrigger_addTrigger (p.trigger .update) _)
  | delete => exact hasTrigger_addTrigger (p.trigger .delete) _

/-- No trigger is missing from a table that has one for each change. -/
lemma withTriggers_of_guarded (h : ∀ event, d.hasTrigger p.table event = true) :
    p.withTriggers d = d := by
  have hadd : ∀ event, d.addTrigger (p.trigger event) = d := fun event => if_pos (h event)
  rw [withTriggers, hadd, hadd, hadd]

/-- Triggers stay when the missing ones are added. -/
lemma mem_withTriggers_of_mem {t : Trigger} (h : t ∈ d.triggers) :
    t ∈ (p.withTriggers d).triggers :=
  mem_addTrigger_of_mem (mem_addTrigger_of_mem (mem_addTrigger_of_mem h))

/-- Every trigger is one of the plan or an old one. -/
lemma eq_or_mem_of_mem_withTriggers {t : Trigger} (h : t ∈ (p.withTriggers d).triggers) :
    (∃ event, t = p.trigger event) ∨ t ∈ d.triggers := by
  unfold withTriggers at h
  rcases eq_or_mem_of_mem_addTrigger h with rfl | h
  · exact .inl ⟨_, rfl⟩
  rcases eq_or_mem_of_mem_addTrigger h with rfl | h
  · exact .inl ⟨_, rfl⟩
  rcases eq_or_mem_of_mem_addTrigger h with rfl | h
  · exact .inl ⟨_, rfl⟩
  · exact .inr h

/-- Adding triggers does not change whether a database can only be read. -/
lemma isReadOnly_addTrigger (t : Trigger) (d : Database) :
    (d.addTrigger t).isReadOnly = d.isReadOnly := by
  rw [addTrigger_eq]

/-! ## Ways to set a table up -/

/-- A setup ends as the way does that it takes. What is known of the database once the table has
been opened is left open here. -/
theorem ends_ensure_of_open {R : Database → Prop} (idle : p.hasColumns = false → Q () d)
    (create : d.relation? p.table = none →
      Ends (p.createTable >>= fun _ => p.populate >>= fun _ => p.createTriggers) d Q E)
    (replace : ∀ owner part, d.relation? p.table = some (.part owner part) →
      Ends p.rebuild d Q E)
    (opened : ∀ t, d.relation? p.table = some (.index t) →
      Ends (openTable p.table) d (fun _ => R) E)
    (change : ∀ t, d.relation? p.table = some (.index t) → t.columns ≠ p.columns →
      ∀ d₁, R d₁ → Ends p.rebuild d₁ Q E)
    (fill : ∀ t, d.relation? p.table = some (.index t) → t.columns = p.columns →
      ∀ d₁, R d₁ → d₁.hasTrigger p.table .insert = false →
      Ends (p.populate >>= fun _ => p.createTriggers) d₁ Q E)
    (guard : ∀ t, d.relation? p.table = some (.index t) → t.columns = p.columns →
      ∀ d₁, R d₁ → d₁.hasTrigger p.table .insert = true → Ends p.createTriggers d₁ Q E) :
    Ends p.ensure d Q E := by
  unfold ensure
  split_ifs with hcolumns
  · refine Action.ends_bind (Action.ends_get ?_)
    split
    · next hrelation => exact create hrelation
    · next owner part hrelation => exact replace owner part hrelation
    · next t hrelation =>
      refine Action.ends_bind ((opened t hrelation).mono (fun _ d₁ h₁ => ?_) fun _ h => h)
      split_ifs with hdiffer
      · exact change t hrelation hdiffer d₁ h₁
      · refine Action.ends_bind (Action.ends_get ?_)
        cases htrigger : d₁.hasTrigger p.table .insert with
        | false => exact fill t hrelation (not_not.mp hdiffer) d₁ h₁ htrigger
        | true => exact guard t hrelation (not_not.mp hdiffer) d₁ h₁ htrigger
  · exact idle (Bool.eq_false_iff.mpr hcolumns)

/-- A setup ends as the way does that it takes. A table that is not there is created and filled, and
then gets its triggers. A part of another table makes way for it. A table that is there is taken
into use; if it has other columns then it is set up anew, and if it has no trigger for new nodes
then it is filled again before it gets what it lacks. -/
theorem ends_ensure (idle : p.hasColumns = false → Q () d) (closed : E d)
    (create : d.relation? p.table = none →
      Ends (p.createTable >>= fun _ => p.populate >>= fun _ => p.createTriggers) d Q E)
    (replace : ∀ owner part, d.relation? p.table = some (.part owner part) →
      Ends p.rebuild d Q E)
    (change : ∀ t, d.relation? p.table = some (.index t) → t.columns ≠ p.columns →
      ∀ d₁, Retabled Idle d d₁ → Ends p.rebuild d₁ Q E)
    (fill : ∀ t, d.relation? p.table = some (.index t) → t.columns = p.columns →
      ∀ d₁, Retabled Idle d d₁ → d₁.hasTrigger p.table .insert = false →
      Ends (p.populate >>= fun _ => p.createTriggers) d₁ Q E)
    (guard : ∀ t, d.relation? p.table = some (.index t) → t.columns = p.columns →
      ∀ d₁, Retabled Idle d d₁ → d₁.hasTrigger p.table .insert = true →
      Ends p.createTriggers d₁ Q E) : Ends p.ensure d Q E :=
  ends_ensure_of_open idle create replace (fun _ _ => ends_openTable closed fun _ h => h) change
    fill guard

variable (hp : p.IsPlain config)

include hp

/-! ## Creating a table -/

/-- Where nothing stands, the table is created at the end of the list, or nothing happens. Only a
database that can be changed gets it. -/
theorem ends_createTable (hnone : d.relation? p.table = none) (hE : E d)
    (hQ : Database.createTable p.table p.columns p.tokenizer d = .ok
        { d with tables := d.tables ++ [.created p.table p.columns p.tokenizer] } →
      d.isReadOnly = false →
      Q () { d with tables := d.tables ++ [.created p.table p.columns p.tokenizer] }) :
    Ends p.createTable d Q E := by
  refine ends_run hE fun d₁ h₁ hro => ?_
  rw [hp.table] at h₁ hnone hQ
  obtain ⟨hsome, _⟩ | ⟨_, _, rfl⟩ := createTable_ok hp.isIdentifier hp.entity h₁
  · simp [hnone] at hsome
  · refine hQ h₁ (Bool.eq_false_iff.mpr fun hr => ?_)
    have htables := congrArg (List.length ∘ Database.tables) (hro hr)
    simp at htables

/-! ## Creating triggers -/

/-- A trigger of a plan is created if its columns can be named. -/
lemma createTrigger_eq (event : NodeEvent) (h : checkColumnNames p.columns = .ok ()) (d : Database) :
    createTrigger (p.trigger event) d = .ok (d.addTrigger (p.trigger event)) := by
  rw [Database.createTrigger_eq (t := p.trigger event) hp.isIdentifier hp.entity hp.table]
  have hnamed : checkColumnNames (p.trigger event).namedColumns = .ok () := by
    cases event with
    | insert => exact h
    | update => exact h
    | delete => rfl
  rw [hnamed]

/-- All triggers are created in a database that can be changed. -/
lemma ends_createTriggers_of_ok (h : checkColumnNames p.columns = .ok ())
    (hr : d.isReadOnly = false) (hQ : Q () (p.withTriggers d)) : Ends p.createTriggers d Q E := by
  refine Action.ends_bind (ends_run_of_ok (createTrigger_eq hp .insert h d) hr ?_)
  refine Action.ends_bind (ends_run_of_ok (createTrigger_eq hp .update h _) ?_ ?_)
  · rw [isReadOnly_addTrigger, hr]
  refine ends_run_of_ok (createTrigger_eq hp .delete h _) ?_ hQ
  rw [isReadOnly_addTrigger, isReadOnly_addTrigger, hr]

/-- The triggers are created together or not at all. -/
theorem ends_createTriggers (hE : E d)
    (hQ : checkColumnNames p.columns = .ok () → Q () (p.withTriggers d)) :
    Ends p.createTriggers d Q E := by
  cases hc : checkColumnNames p.columns with
  | error f =>
    refine Action.ends_bind (ends_run hE fun d₁ h₁ _ => ?_)
    rw [Database.createTrigger_eq (t := p.trigger .insert) hp.isIdentifier hp.entity hp.table] at h₁
    have hc' : checkColumnNames (p.trigger .insert).namedColumns = .error f := hc
    rw [hc'] at h₁
    cases h₁
  | ok u =>
    cases hr : d.isReadOnly with
    | false => exact ends_createTriggers_of_ok hp hc hr (hQ hc)
    | true =>
      -- nothing can change, so each statement fails or has nothing to do
      have hstep : ∀ event {Q : Unit → Database → Prop},
          (d.addTrigger (p.trigger event) = d → Q () d) →
          Ends (Database.run (createTrigger (p.trigger event))) d Q E := by
        intro event Q hnext
        refine ends_run hE fun d₁ h₁ hro => ?_
        rw [createTrigger_eq hp event hc] at h₁
        cases h₁
        rw [hro hr]
        exact hnext (hro hr)
      refine Action.ends_bind (hstep .insert fun h₁ => ?_)
      refine Action.ends_bind (hstep .update fun h₂ => ?_)
      refine hstep .delete fun h₃ => ?_
      have hall : p.withTriggers d = d := by rw [withTriggers, h₁, h₂, h₃]
      rw [← hall]
      exact hQ hc

/-! ## Dropping -/

/-- A table that can be dropped from a database that can be changed goes with its triggers. -/
lemma ends_drop_of_ok {d₁ : Database} (h : dropTable p.table d = .ok d₁)
    (hr : d.isReadOnly = false) (hQ : Q () (d₁.withoutTriggers p.table)) : Ends p.drop d Q E := by
  have heq : ∀ event (d : Database),
      dropTrigger p.table event d = .ok (d.withoutTrigger p.table event) := by
    intro event d
    rw [hp.table, Database.dropTrigger_eq hp.isIdentifier hp.entity]
  have hr₁ : d₁.isReadOnly = false := by
    rw [hp.table] at h
    obtain ⟨_, rfl⟩ | ⟨_, _, rfl⟩ | ⟨_, _, _, h⟩ := dropTable_ok hp.isIdentifier hp.entity h
    · exact hr
    · exact hr
    · exact h.isReadOnly.trans hr
  refine Action.ends_bind (ends_run_of_ok h hr ?_)
  refine Action.ends_bind (ends_run_of_ok (heq .insert d₁) hr₁ ?_)
  refine Action.ends_bind (ends_run_of_ok (heq .update _) hr₁ ?_)
  refine ends_run_of_ok (heq .delete _) hr₁ ?_
  rw [withoutTrigger_withoutTrigger]
  exact hQ

/-- The triggers are dropped together or not at all. A database that can only be read has none if
this succeeds. -/
theorem ends_drop (hE : E d)
    (hQ : ∀ d₁, dropTable p.table d = .ok d₁ →
      (d.isReadOnly = true → d₁.withoutTriggers p.table = d) →
      Q () (d₁.withoutTriggers p.table)) :
    Ends p.drop d Q E := by
  cases hr : d.isReadOnly with
  | false =>
    cases h : dropTable p.table d with
    | error f => exact Action.ends_bind (ends_run hE fun d₁ h₁ _ => by rw [h] at h₁; cases h₁)
    | ok d₁ =>
      exact ends_drop_of_ok hp h hr (hQ d₁ h fun hro => by rw [hr] at hro; cases hro)
  | true =>
    refine Action.ends_bind (ends_run hE fun d₁ h₁ hro₁ => ?_)
    obtain rfl := hro₁ hr
    -- nothing can change, so each statement fails or has nothing to do
    have hstep : ∀ event {Q : Unit → Database → Prop},
        (d₁.withoutTrigger p.table event = d₁ → Q () d₁) →
        Ends (Database.run (dropTrigger p.table event)) d₁ Q E := by
      intro event Q hnext
      refine ends_run hE fun d₂ h₂ hro => ?_
      rw [hp.table, Database.dropTrigger_eq hp.isIdentifier hp.entity, ← hp.table] at h₂
      cases h₂
      rw [hro hr]
      exact hnext (hro hr)
    refine Action.ends_bind (hstep .insert fun h₂ => ?_)
    refine Action.ends_bind (hstep .update fun h₃ => ?_)
    refine hstep .delete fun h₄ => ?_
    have hkept : d₁.withoutTriggers p.table = d₁ := by
      rw [← withoutTrigger_withoutTrigger, h₂, h₃, h₄]
    have := hQ d₁ h₁ fun _ => hkept
    rwa [hkept] at this

end IndexPlan

end EntityFinder
