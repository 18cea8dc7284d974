import EntityFinder.Proofs.Reopening

set_option autoImplicit false

/-!
# Histories of a database

A history tells what was asked of a store and how each call came out. The store may be closed in
between, and its file opened again.

## Main definitions

* `EntityFinder.StoreCall.Answer`, `EntityFinder.StoreCall.action`: calls with their answers.
* `EntityFinder.LoggedCall`: a call and how it came out.
* `EntityFinder.StoreHistory`: the calls on a database from its beginning on.

## Main results

* `EntityFinder.StoreInvariant.history`: what every statement and setup keeps, a store has after
  every history.
-/

namespace EntityFinder

/-! ## Calls and their answers -/

namespace StoreCall

/-- What a call answers. -/
def Answer : StoreCall → Type
  | insert .. => Int
  | update .. => Bool
  | get _ => Option Record
  | delete _ => Bool
  | rebuild _ => Unit
  | index _ => NodeIndex
  | stats _ => IndexStats
  | query .. => List Record
  | findOne .. => Option Record

/-- What a call does. -/
def action : (c : StoreCall) → Action NodeStore c.Answer
  | insert m p => NodeStore.insert m p
  | update m id p => NodeStore.update m id p
  | get id => NodeStore.get id
  | delete id => NodeStore.delete id
  | rebuild m => NodeStore.rebuild m
  | index m => NodeStore.index m
  | stats m => NodeStore.stats m
  | query i text => i.query text
  | findOne i property value => i.findOne property value

/-- How a call comes out. -/
def outcome (c : StoreCall) (s : NodeStore) : Except FinderError c.Answer :=
  (c.action.perform s).1

/-- The state in which a call leaves a store is that in which its action does. -/
lemma leave_eq (c : StoreCall) (s : NodeStore) : c.leave s = (c.action.perform s).2 := by
  cases c <;> rfl

end StoreCall

/-- A call and how it came out. -/
structure LoggedCall where
  /-- The call. -/
  call : StoreCall
  /-- Its answer, or its failure. -/
  outcome : Except FinderError call.Answer

/-- A call with the way it comes out. -/
def StoreCall.logged (c : StoreCall) (s : NodeStore) : LoggedCall :=
  ⟨c, c.outcome s⟩

/-- The number that a call has given out, if it has stored a node. -/
def LoggedCall.given? : LoggedCall → Option Int
  | ⟨.insert .., .ok id⟩ => some id
  | _ => none

/-! ## Histories -/

/-- The calls on a database through stores with some configurations, the latest one in front. -/
inductive StoreHistory (configs : IndexConfig → Prop) : List LoggedCall → NodeStore → Prop
  /-- The database is new. -/
  | start {config : IndexConfig} :
    configs config → StoreHistory configs [] (NodeStore.opened config .empty)
  /-- One more call. -/
  | call {log : List LoggedCall} {s : NodeStore} (c : StoreCall) :
    StoreHistory configs log s → StoreHistory configs (c.logged s :: log) (c.leave s)
  /-- The store is closed, and its file is opened again. -/
  | reopen {log : List LoggedCall} {s s' : NodeStore} {config : IndexConfig} :
    configs config → s.ReopensFile config s' → StoreHistory configs log s →
      StoreHistory configs log s'

/-- A history stays one if more configurations may be used. -/
lemma StoreHistory.mono {configs configs' : IndexConfig → Prop} {log : List LoggedCall}
    {s : NodeStore} (h : StoreHistory configs log s) (hsub : ∀ k, configs k → configs' k) :
    StoreHistory configs' log s := by
  induction h with
  | start hconfig => exact .start (hsub _ hconfig)
  | call c _ ih => exact .call c ih
  | reopen hconfig hreopens _ ih => exact .reopen (hsub _ hconfig) hreopens ih

/-- What every statement and setup keeps, a store has after every history with its configuration. -/
theorem StoreInvariant.history {config : IndexConfig} {admits : StoreEvent → Prop}
    {I : List String → Database → Prop} (hI : StoreInvariant config admits I)
    {log : List LoggedCall} {s : NodeStore} (h : StoreHistory (· = config) log s)
    (hadmits : ∀ entry ∈ log, admits (.call entry.call)) : CallInvariant.Holds config I s := by
  induction h with
  | start hconfig =>
    cases hconfig
    exact ⟨rfl, hI.empty⟩
  | call c _ ih => exact hI.leave c (hadmits _ (.head _)) (ih fun e he => hadmits e (.tail _ he))
  | reopen hconfig hreopens _ ih =>
    cases hconfig
    obtain ⟨b, rfl⟩ := hreopens.exists_eq
    exact ⟨rfl, hI.reopen b (ih hadmits).2⟩

end EntityFinder
