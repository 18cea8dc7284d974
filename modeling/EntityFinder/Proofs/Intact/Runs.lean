import EntityFinder.Proofs.Intact.Tables
import EntityFinder.Proofs.Isolation

set_option autoImplicit false

/-!
# Runs keep databases intact

After every run of a store nothing is missing from its database, whatever metadata is used and
whatever other programs store, as long as no table has the name of a part of another one.

## Main results

* `EntityFinder.StoreRun.intact`: the database after a run.
-/

namespace EntityFinder

open EntityFinder.Action (Ends)
open Database (Intact WellKept)

section

variable {config : IndexConfig} {entities : String → Prop}
variable (hpre : Text.isIdentifier config.tablePrefix = true) (hapart : config.Apart entities)

include hpre hapart

/-- Every setup keeps a database intact, however it ends. -/
lemma IndexPlan.ends_ensure_intact {m : EntityMetadata} {p : IndexPlan} {d : Database}
    (hp : IndexPlan.ofMetadata config m = .ok p) (hentity : entities m.entityName)
    (hkept : WellKept config d) (hd : Intact config entities d) :
    Ends p.ensure d (fun _ d' => WellKept config d' ∧ Intact config entities d')
      fun d' => WellKept config d' ∧ Intact config entities d' := by
  obtain ⟨hplain, _⟩ := isPlain_of_ofMetadata hpre hp
  obtain rfl := eq_of_ofMetadata hp
  exact (ends_ensure_wellKept hplain hkept).and
    ((ends_ensure_steps hplain rfl hapart hentity hd).mono
      (fun _ _ h => intact_of_steps hplain rfl hapart hentity h hd)
      fun _ h => intact_of_steps hplain rfl hapart hentity h hd)

/-- Every setup from scratch keeps a database intact, however it ends. -/
lemma IndexPlan.ends_rebuild_intact {m : EntityMetadata} {p : IndexPlan} {d : Database}
    (hp : IndexPlan.ofMetadata config m = .ok p) (hentity : entities m.entityName)
    (hkept : WellKept config d) (hd : Intact config entities d) :
    Ends p.rebuild d (fun _ d' => WellKept config d' ∧ Intact config entities d')
      fun d' => WellKept config d' ∧ Intact config entities d' := by
  obtain ⟨hplain, _⟩ := isPlain_of_ofMetadata hpre hp
  obtain rfl := eq_of_ofMetadata hp
  exact (ends_rebuild_wellKept hplain hkept).and
    ((ends_rebuild_steps hplain rfl hapart hentity hd).mono
      (fun _ _ h => intact_of_steps hplain rfl hapart hentity h hd)
      fun _ h => intact_of_steps hplain rfl hapart hentity h hd)

/-- Every event keeps a database intact. -/
lemma storeInvariant_intact :
    StoreInvariant config (fun event => ∀ e, event.entity? = some e → entities e)
      fun _ d => WellKept config d ∧ Intact config entities d where
  empty := ⟨.empty config, .empty config entities⟩
  insert _ hd h := ⟨Database.insertNode_wellKept hd.1 h, hd.2.insertNode hd.1 h⟩
  update _ hd h := ⟨Database.updateNode_wellKept hd.1 h, hd.2.updateNode hd.1 h⟩
  delete _ hd h := ⟨Database.deleteNode_wellKept hd.1 h, hd.2.deleteNode hd.1 h⟩
  ensure {_ m _ _ _} hadmits hm _ hp hd :=
    IndexPlan.ends_ensure_intact hpre hapart hp
      (hadmits m.entityName (by simp [StoreEvent.entity?, hm])) hd.1 hd.2
  rebuild hadmits hp hd := IndexPlan.ends_rebuild_intact hpre hapart hp (hadmits _ rfl) hd.1 hd.2
  foreign _ hd h := ⟨Database.insertForeignNode_wellKept hd.1 h, hd.2.insertForeignNode hd.1 h⟩
  reopen b hd := ⟨(hd.1.idle (Database.retabled_atRest _)).of_isReadOnly b,
    (hd.2.idle (Database.retabled_atRest _)).of_eq rfl rfl⟩

/-- After every run nothing is missing from the database, if the tables of the entities that were
named have names apart. -/
theorem StoreRun.intact {events : List StoreEvent} {s : NodeStore}
    (hrun : StoreRun config events s)
    (hentities : ∀ event ∈ events, ∀ e, event.entity? = some e → entities e) :
    Intact config entities s.database :=
  ((storeInvariant_intact hpre hapart).run hrun hentities).2.2

end

end EntityFinder
