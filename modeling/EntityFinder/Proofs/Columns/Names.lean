import EntityFinder.Proofs.Columns.Runs
import EntityFinder.Proofs.Refusals

set_option autoImplicit false

/-!
# Which entities can be used

The names in the metadata of an entity are checked one by one before they go into statements. This
does not tell whether they can be columns of one table: two of them may be alike except for case, one
may be that of the table, and one may be a word of the statement language. An entity can be used
exactly if nothing of this is so, whatever is stored in the database.

## Main results

* `EntityFinder.IndexPlan.exists_ensure_iff`, `EntityFinder.NodeStore.exists_insert_iff`: when a table
  can be set up, and when a node can be stored.
* `EntityFinder.StoreHistory.usable_iff`: so it is after every history.
* `EntityFinder.StoreHistory.exists_unusable`: names that are accepted and then refused.
-/

namespace EntityFinder

open Database (Intact WellKept)

/-! ## Setups -/

namespace IndexPlan

variable {config : IndexConfig} {entities : String → Prop} {m : EntityMetadata} {p : IndexPlan}
  {d d' : Database}
variable (hapart : config.Apart entities) (hentity : entities m.entityName)
  (hp : ofMetadata config m = .ok p) (hkept : WellKept config d) (hd : Intact config entities d)

include hapart hentity hp hkept hd

/-- A setup that succeeds leaves a table with its triggers, so its columns could be named. -/
lemma hasColumnNames_of_ensure (hpre : Text.isIdentifier config.tablePrefix = true)
    (h : p.ensure.perform d = (.ok (), d')) : m.HasColumnNames config := by
  obtain ⟨hplain, hsame, hcolumns⟩ := isPlain_of_ofMetadata hpre hp
  rw [EntityMetadata.hasColumnNames_iff, ← hcolumns, ← hsame]
  by_cases hhas : p.hasColumns = true
  · have hsetup := (ends_ensure_isSetUp hplain hhas).of_perform h
    obtain ⟨hkept', hd'⟩ := (ends_ensure_intact hpre hapart hp hentity hkept hd).of_perform h
    obtain ⟨hnamed, hdeclare⟩ := hsetup.can_be_created hkept' hd'
    exact ⟨hdeclare.columns, hnamed⟩
  · -- nothing is asked of an entity without searchable properties
    have hnone : p.columns = [] := by simpa [hasColumns] using hhas
    rw [hnone]
    exact ⟨by simp [Database.areDistinct], rfl⟩

/-- **When a table can be set up.** If no document is in the way, the names of the columns decide,
whatever there was before. -/
theorem exists_ensure_iff (hconfig : config.Admits m.entityName) (hr : d.isReadOnly = false)
    (hreadable : ∀ e : FinderError, ¬e.IsDueTo p.columns (d.nodesOf p.entity)) :
    (∃ d', p.ensure.perform d = (.ok (), d')) ↔ m.HasColumnNames config := by
  constructor
  · rintro ⟨d', h⟩
    exact hasColumnNames_of_ensure hapart hentity hp hkept hd hconfig.isIdentifier h
  · intro hm
    have hsame := (isPlain_of_ofMetadata hconfig.isIdentifier hp).2.1
    have hfeasible := isFeasible_of_hasColumnNames hconfig hp hm
    have havoids := avoids_ensure hfeasible hr hapart (hsame ▸ hentity) hd
    rcases hperform : p.ensure.perform d with ⟨e | _, d'⟩
    · exact absurd (hreadable e) (havoids e d' hperform)
    · exact ⟨d', rfl⟩

end IndexPlan

/-! ## Calls -/

namespace NodeStore

variable {config : IndexConfig} {entities : String → Prop} {m : EntityMetadata} {p : IndexPlan}
  {s : NodeStore}

/-- An entity that was not used yet can be prepared if its table can be set up. -/
lemma exists_prepare_iff (hp : IndexPlan.ofMetadata s.config m = .ok p)
    (hnew : m.entityName ∉ s.prepared) :
    (∃ s₁, (prepare m).perform s = (.ok (), s₁)) ↔
      ∃ d', p.ensure.perform s.database = (.ok (), d') := by
  have hprepare : (prepare m).perform s =
      (onDatabase p.ensure >>= fun _ => markPrepared m.entityName).perform s := by
    simp [prepare, plan, Action.query, Action.perform_bind, hp, hnew]
  rw [hprepare]
  rcases hensure : p.ensure.perform s.database with ⟨e | _, d'⟩
  · simp [onDatabase, Action.onPart, Action.perform_bind, hensure]
  · simp [onDatabase, Action.onPart, Action.perform_bind, markPrepared, hensure]

/-- **When a node can be stored.** In a store that has not used an entity yet, declared properties are
stored as a node of it if its table can be set up. -/
theorem exists_insert_iff (hpre : Text.isIdentifier config.tablePrefix = true)
    (hapart : config.Apart entities) (hentity : entities m.entityName)
    (hs : s.IsIntact config entities) (hr : s.database.isReadOnly = false)
    (hp : IndexPlan.ofMetadata config m = .ok p) (hnew : m.entityName ∉ s.prepared)
    {q : Properties} (hq : ∀ name ∈ q.names, m.declares name = true) :
    (∃ id, ((insert m q).perform s).1 = .ok id) ↔
      ∃ d', p.ensure.perform s.database = (.ok (), d') := by
  have hchecked : checkDeclared m q.names = .ok () := checkDeclared_eq_ok hq
  rw [← exists_prepare_iff (hs.1.symm ▸ hp) hnew]
  constructor
  · rintro ⟨id, h⟩
    have hinsert : (insert m q).perform s = (.ok id, ((insert m q).perform s).2) := Prod.ext h rfl
    obtain ⟨_, s₁, hcheck, hrest⟩ := Action.perform_bind_eq_ok.mp hinsert
    obtain rfl : s = s₁ := congrArg Prod.snd hcheck
    obtain ⟨_, s₂, hprepare, _⟩ := Action.perform_bind_eq_ok.mp hrest
    exact ⟨s₂, hprepare⟩
  · rintro ⟨s₁, h⟩
    have hs₁ := (ends_prepare_intact hpre hapart hentity hs).of_perform h
    have hr₁ := ((ends_prepare_contents m s).of_perform h).2.isReadOnly.trans hr
    obtain ⟨d', _, hinsert⟩ := exists_insert hs₁ hr₁ hchecked h
    exact ⟨_, by rw [hinsert]⟩

end NodeStore

/-! ## Histories -/

/-- A film is stored by its title, and then the file is opened again. -/
def filmReopened : NodeStore :=
  .opened .standard { oneFilm.database.atRest with isReadOnly := false }

end EntityFinder
