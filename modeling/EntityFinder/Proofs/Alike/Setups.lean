import EntityFinder.Proofs.Alike.Basic
import EntityFinder.Proofs.Columns.Runs

set_option autoImplicit false

/-!
# Setting tables up once more

A setup does the same to two databases that differ in the use of tables alone. To a table that is
set up already it does nothing, so it makes no difference whether an entity is prepared once or
again after its store was opened anew.

## Main definitions

* `EntityFinder.Action.Matches`: two calls come out alike.

## Main results

* `EntityFinder.IndexPlan.matches_rebuild`, `EntityFinder.IndexPlan.matches_ensure`: setups of two
  databases that are alike.
* `EntityFinder.IndexPlan.ends_ensure_again`: a setup with nothing to do.
-/

namespace EntityFinder

open EntityFinder.Action (Ends)

/-! ## Calls that come out alike -/

namespace Action

variable {σ τ α β : Type} {R : σ → σ → Prop} {s s' : σ}

/-- Two calls have the same outcome, and leave related states. -/
def Matches (R : σ → σ → Prop) (a : Action σ α) (s : σ) (a' : Action σ α) (s' : σ) : Prop :=
  (a'.perform s').1 = (a.perform s).1 ∧ R (a.perform s).2 (a'.perform s').2

/-- Composed calls come out alike if their halves do. -/
lemma matches_bind {a a' : Action σ α} {f f' : α → Action σ β} (h : Matches R a s a' s')
    (hf : ∀ x s₁ s₁', a.perform s = (.ok x, s₁) → R s₁ s₁' → Matches R (f x) s₁ (f' x) s₁') :
    Matches R (a >>= f) s (a' >>= f') s' := by
  unfold Matches at h ⊢
  rw [perform_bind, perform_bind]
  rcases hp : a.perform s with ⟨e | x, s₁⟩ <;> rcases hp' : a'.perform s' with ⟨e' | x', s₁'⟩ <;>
    rw [hp, hp'] at h
  · obtain ⟨he, hs⟩ := h
    cases he
    exact ⟨rfl, hs⟩
  · cases h.1
  · cases h.1
  · obtain ⟨hx, hs⟩ := h
    cases hx
    exact hf x s₁ s₁' hp hs

/-- Answers that are the same leave related states related. -/
lemma matches_pure {x : α} (h : R s s') : Matches R (pure x) s (pure x) s' :=
  ⟨rfl, h⟩

/-- An answer that costs nothing is the same as one for which something has still to be done. -/
lemma matches_of_ends {a : Action σ Unit} {a' : Action σ Unit} (h : a.perform s = (.ok (), s))
    (h' : Ends a' s' (fun _ s₁' => R s s₁') fun _ => False) : Matches R a s a' s' := by
  unfold Ends at h'
  unfold Matches
  rcases hp : a'.perform s' with ⟨e | y, s₁'⟩ <;> rw [hp] at h'
  · exact h'.elim
  · rw [h]
    exact ⟨rfl, h'⟩

/-- Calls that look at the state come out alike if they do with what they see. -/
lemma matches_get {f f' : σ → Action σ β} (h : Matches R (f s) s (f' s') s') :
    Matches R (get >>= f) s (get >>= f') s' :=
  h

end Action

namespace Database

/-- Two databases are alike and can be changed. -/
def Twins (d d' : Database) : Prop :=
  Alike d d' ∧ d.isReadOnly = false

variable {d d' : Database}

namespace Twins

/-- A statement comes out alike on two databases if its outcome is the same. -/
lemma run (h : Twins d d') {statement : Database → Except DatabaseFault Database}
    (hsame : SameOutcome Alike (statement d) (statement d'))
    (hcontents : ∀ {d₁}, statement d = .ok d₁ → SameContents d d₁) :
    (Database.run statement).Matches Twins d (Database.run statement) d' := by
  have hr' : d'.isReadOnly = false := h.1.idle.isReadOnly.trans h.2
  unfold Action.Matches
  generalize hx : statement d = x at hsame hcontents
  generalize hx' : statement d' = x' at hsame
  cases hsame with
  | ok halike =>
    rw [perform_run_of_ok hx h.2, perform_run_of_ok hx' hr']
    exact ⟨rfl, halike, (hcontents rfl).isReadOnly.trans h.2⟩
  | error f =>
    rw [perform_run_of_error hx h.2, perform_run_of_error hx' hr']
    exact ⟨rfl, h⟩

/-- A statement with an answer comes out alike on two databases if its outcome is the same. -/
lemma execute (h : Twins d d') {α : Type}
    {statement : Database → Except DatabaseFault (α × Database)}
    (hsame : SameOutcome Alike.Answered (statement d) (statement d'))
    (hr : ∀ {x d₁}, statement d = .ok (x, d₁) → d₁.isReadOnly = d.isReadOnly) :
    (Database.execute statement).Matches Twins d (Database.execute statement) d' := by
  have hr' : d'.isReadOnly = false := h.1.idle.isReadOnly.trans h.2
  unfold Action.Matches
  generalize hx : statement d = y at hsame hr
  generalize hx' : statement d' = y' at hsame
  cases hsame with
  | @ok y y' hanswered =>
    obtain ⟨x, d₁⟩ := y
    obtain ⟨x', d₁'⟩ := y'
    obtain ⟨rfl, halike⟩ := hanswered
    rw [perform_execute_of_ok hx h.2, perform_execute_of_ok hx' hr']
    exact ⟨rfl, halike, (hr rfl).trans h.2⟩
  | error f =>
    rw [perform_execute_of_error hx h.2, perform_execute_of_error hx' hr']
    exact ⟨rfl, h⟩

/-- A table is taken into use alike. -/
lemma openTable (h : Twins d d') (name : String) :
    (openTable name).Matches Twins d (openTable name) d' := by
  have hsame := h.1.useTable name
  unfold Action.Matches
  simp only [Database.openTable, Action.atomic, Action.perform_ofFunction]
  generalize hx : d.useTable name = x at hsame
  generalize hx' : d'.useTable name = x' at hsame
  cases hsame with
  | ok halike =>
    exact ⟨rfl, halike, (useTable_ok hx).isReadOnly.trans h.2⟩
  | error f => exact ⟨rfl, h⟩

end Twins

end Database

/-! ## Setups -/

namespace IndexPlan

open Database

variable {config : IndexConfig} {entities : String → Prop} {p : IndexPlan} {d d' : Database}

/-- The triggers are created alike. -/
lemma matches_createTriggers (h : Twins d d') :
    p.createTriggers.Matches Twins d p.createTriggers d' := by
  have hstep : ∀ event {d d'}, Twins d d' →
      (Database.run (createTrigger (p.trigger event))).Matches Twins d
        (Database.run (createTrigger (p.trigger event))) d' :=
    fun event _ _ h => h.run (h.1.createTrigger _) .createTrigger
  refine Action.matches_bind (hstep .insert h) fun _ _ _ _ h₁ => ?_
  exact Action.matches_bind (hstep .update h₁) fun _ _ _ _ h₂ => hstep .delete h₂

/-- The table is filled alike. -/
lemma matches_populate (h : Twins d d') : p.populate.Matches Twins d p.populate d' := by
  refine Action.matches_bind (h.run (h.1.clearTable _) .clearTable) fun _ _ _ _ h₁ => ?_
  exact h₁.run (h₁.1.fillTable _ _ _) .fillTable

variable (hp : p.IsPlain config)

include hp

/-- The table is dropped with its triggers alike, unless another table has it for a part. -/
lemma matches_drop (h : Twins d d') (hfree : ∀ t q, d.relation? p.table ≠ some (.part t q)) :
    p.drop.Matches Twins d p.drop d' := by
  have hstep : ∀ event {d d'}, Twins d d' →
      (Database.run (dropTrigger p.table event)).Matches Twins d
        (Database.run (dropTrigger p.table event)) d' :=
    fun event _ _ h => h.run (h.1.dropTrigger _ _) .dropTrigger
  have hdrop : SameOutcome Alike (Database.dropTable p.table d) (Database.dropTable p.table d') := by
    refine h.1.dropTable fun n hn => ?_
    rw [hp.table, IndexConfig.alone_tableName hp.isIdentifier hp.entity] at hn
    cases hn
    rw [← hp.table]
    exact hfree
  refine Action.matches_bind (h.run hdrop .dropTable) fun _ _ _ _ h₁ => ?_
  refine Action.matches_bind (hstep .insert h₁) fun _ _ _ _ h₂ => ?_
  exact Action.matches_bind (hstep .update h₂) fun _ _ _ _ h₃ => hstep .delete h₃

/-- The table is set up anew alike, unless another table has it for a part. -/
theorem matches_rebuild (h : Twins d d') (hfree : ∀ t q, d.relation? p.table ≠ some (.part t q)) :
    p.rebuild.Matches Twins d p.rebuild d' := by
  refine Action.matches_bind (matches_drop hp h hfree) fun _ _ _ _ h₁ => ?_
  split_ifs
  · refine Action.matches_bind (h₁.run (h₁.1.createTable _ _ _) .createTable) fun _ _ _ _ h₂ => ?_
    exact Action.matches_bind (matches_createTriggers h₂) fun _ _ _ _ h₃ => matches_populate h₃
  · exact Action.matches_pure h₁

/-- The table is set up alike, unless another table has it for a part. -/
theorem matches_ensure (h : Twins d d') (hfree : ∀ t q, d.relation? p.table ≠ some (.part t q)) :
    p.ensure.Matches Twins d p.ensure d' := by
  have hfill : ∀ {d d'}, Twins d d' → (p.populate >>= fun _ => p.createTriggers).Matches Twins d
      (p.populate >>= fun _ => p.createTriggers) d' := fun h =>
    Action.matches_bind (matches_populate h) fun _ _ _ _ h₁ => matches_createTriggers h₁
  unfold ensure
  split_ifs
  · refine Action.matches_get ?_
    obtain ⟨h₁, h₂⟩ | ⟨t, t', h₁, h₂, hmem, b, rfl⟩ | ⟨_, _, _, h₁, _⟩ := h.1.relation?_cases p.table
    · rw [h₁, h₂]
      exact Action.matches_bind (h.run (h.1.createTable _ _ _) .createTable)
        fun _ _ _ _ h₁ => hfill h₁
    · rw [h₁, h₂]
      refine Action.matches_bind (h.openTable p.table) fun _ d₁ d₁' hopen hd₁ => ?_
      simp only
      split_ifs
      · refine matches_rebuild hp hd₁ fun u q hpart => ?_
        -- what stands under the name is still the table that was opened, and no part
        have hends : Ends (openTable p.table) d (fun _ => Retabled Idle d) fun _ => True :=
          ends_openTable trivial fun _ hr => hr
        have hidle := hends.of_perform hopen
        obtain ⟨h₃, _⟩ | ⟨_, _, _, h₃, _⟩ | ⟨_, _, _, h₃, _⟩ :=
          (⟨hidle, h.1.whole⟩ : Alike d d₁).relation?_cases p.table
        · rw [h₁] at h₃
          cases h₃
        · rw [hpart] at h₃
          cases h₃
        · rw [h₁] at h₃
          cases h₃
      · refine Action.matches_get ?_
        have hhas : d₁'.hasTrigger p.table .insert = d₁.hasTrigger p.table .insert := by
          rw [hasTrigger, hasTrigger, trigger?, trigger?, hd₁.1.idle.triggers]
        rw [hhas]
        split_ifs
        · exact hfill hd₁
        · exact matches_createTriggers hd₁
    · exact absurd h₁ (hfree _ _)
  · exact Action.matches_pure h

/-- Setting a table up that is set up already takes it into use, and that is all. -/
theorem ends_ensure_again (hkept : WellKept config d) (hd : Intact config entities d)
    (hr : d.isReadOnly = false)
    (h : p.columns ≠ [] → IsSetUp config p.entity p.columns d) :
    Ends p.ensure d (fun _ => Retabled Idle d) fun _ => False := by
  obtain ⟨d₁, h₁⟩ := exists_useTable (fun t ht => (hd.tables t ht).lost) p.table
  have hidle := useTable_ok h₁
  refine ends_ensure_of_opened hp h (.refl Idle.refl d)
    (ends_openTable_of_ok h₁ ⟨hidle, hidle.triggers⟩) fun hne d₁ hidle hall => ?_
  refine ends_createTriggers_of_ok hp ((h hne).can_be_created hkept hd).1
    (hidle.isReadOnly.trans hr) ?_
  rwa [hall]

end IndexPlan

end EntityFinder
