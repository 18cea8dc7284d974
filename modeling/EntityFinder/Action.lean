import EntityFinder.Error

set_option autoImplicit false

/-!
# Actions on a state

A call that reads and changes a state and may fail on the way. What it did before it failed stays
done, so a run ends in an outcome *and* a state.

## Main definitions

* `EntityFinder.Action`: calls on a state of type `σ` with answers of type `α`.
* `EntityFinder.Action.perform`: the outcome of a call and the state it leaves.
* `EntityFinder.Action.ofExcept`: a call that leaves the state alone.
* `EntityFinder.Action.atomic`: a step that changes the state only if it succeeds.
* `EntityFinder.Action.attempt`: a step that may fail for reasons of its own.
* `EntityFinder.Action.onFirst`, `EntityFinder.Action.onSecond`: a call on one half of a pair.
-/

namespace EntityFinder

/-- A call on a state of type `σ`. -/
abbrev Action (σ α : Type) := ExceptT FinderError (StateM σ) α

namespace Action

variable {σ τ α : Type}

/-- Carries a call out: its outcome, and the state it leaves behind. -/
def perform (a : Action σ α) (s : σ) : Except FinderError α × σ :=
  a.run.run s

/-- A call from its outcome and the state it leaves. -/
def ofFunction (f : σ → Except FinderError α × σ) : Action σ α :=
  ExceptT.mk fun s => f s

/-- A call that answers without looking at the state. -/
def ofExcept (r : Except FinderError α) : Action σ α :=
  ofFunction fun s => (r, s)

/-- A call that answers from the state and leaves it alone. -/
def query (f : σ → Except FinderError α) : Action σ α :=
  ofFunction fun s => (f s, s)

/-- One step that either succeeds or changes nothing. -/
def atomic (f : σ → Except FinderError (α × σ)) : Action σ α :=
  ofFunction fun s =>
    match f s with
    | .ok (a, s') => (.ok a, s')
    | .error e => (.error e, s)

/-- One step that may fail for reasons of its own, and the failure that they make. What it did
before it failed stays done. -/
def attempt {ε : Type} (f : σ → Except ε α × σ) (failure : ε → FinderError) : Action σ α :=
  ofFunction fun s =>
    let (r, s') := f s
    (r.mapError failure, s')

/-- A call on a part of a larger state. -/
def onPart (part : τ → σ) (replace : τ → σ → τ) (a : Action σ α) : Action τ α :=
  ofFunction fun t =>
    let (r, s) := a.perform (part t)
    (r, replace t s)

/-- A call on the first half of a pair of states. -/
def onFirst (a : Action σ α) : Action (σ × τ) α :=
  a.onPart Prod.fst fun p s => (s, p.2)

/-- A call on the second half of a pair of states. -/
def onSecond (a : Action τ α) : Action (σ × τ) α :=
  a.onPart Prod.snd fun p t => (p.1, t)

/-! ## Carrying out composed calls -/

@[simp] theorem perform_ofFunction (f : σ → Except FinderError α × σ) (s : σ) :
    (ofFunction f).perform s = f s := rfl

@[simp] theorem perform_pure (a : α) (s : σ) :
    (pure a : Action σ α).perform s = (.ok a, s) := rfl

@[simp] theorem perform_throw (e : FinderError) (s : σ) :
    (throw e : Action σ α).perform s = (.error e, s) := rfl

@[simp] theorem perform_get (s : σ) : (get : Action σ σ).perform s = (.ok s, s) := rfl

@[simp] theorem perform_set (s t : σ) :
    (set t : Action σ PUnit).perform s = (.ok ⟨⟩, t) := rfl

@[simp] theorem perform_modify (f : σ → σ) (s : σ) :
    (modify f : Action σ PUnit).perform s = (.ok ⟨⟩, f s) := rfl

/-- A composed call stops at the first failure and keeps what was done until then. -/
theorem perform_bind {β : Type} (a : Action σ α) (f : α → Action σ β) (s : σ) :
    (a >>= f).perform s =
      match a.perform s with
      | (.ok x, s') => (f x).perform s'
      | (.error e, s') => (.error e, s') := by
  simp only [perform, ExceptT.run_bind, StateT.run_bind]
  rcases (a.run.run s : Except FinderError α × σ) with ⟨r, s'⟩
  cases r <;> rfl

end Action

end EntityFinder
