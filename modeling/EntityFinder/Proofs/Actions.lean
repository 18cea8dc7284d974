import EntityFinder.Action
import Mathlib.Tactic

set_option autoImplicit false

/-!
# How calls end

A call ends well or badly, and leaves a state either way. What it does is described by what holds
of the answer and the state after a success and of the state after a failure.

## Main definitions

* `EntityFinder.Action.Ends`: what holds when a call has ended.
* `EntityFinder.Action.outcome`: the answer or the failure of a call, without the state.
* `EntityFinder.Action.Avoids`: the ways in which a call does not fail.
* `EntityFinder.Action.Fails`: what a failure is, together with the state that it leaves.

## Main results

* `EntityFinder.bind_eq_ok`: a composed answer exists if both halves do.
* `EntityFinder.Action.ends_bind`: a composed call ends as its second half does, or fails early.
* `EntityFinder.Action.Ends.of_perform`: reads the description off an outcome.
-/

namespace EntityFinder

/-! ## Answers -/

section

variable {ε α β : Type}

/-- A composed answer exists if both halves do. -/
lemma bind_eq_ok {x : Except ε α} {f : α → Except ε β} {b : β} :
    (x >>= f) = .ok b ↔ ∃ a, x = .ok a ∧ f a = .ok b := by
  cases x with
  | ok a => exact ⟨fun h => ⟨a, rfl, h⟩, fun ⟨_, ha, h⟩ => by cases ha; exact h⟩
  | error e => exact ⟨fun h => (by cases h), fun ⟨_, ha, _⟩ => (by cases ha)⟩

/-- An answer is changed if there is one. -/
lemma map_eq_ok {x : Except ε α} {f : α → β} {b : β} :
    x.map f = .ok b ↔ ∃ a, x = .ok a ∧ f a = b := by
  cases x with
  | ok a => simp [Except.map]
  | error e => simp [Except.map]

/-- Answers for all members of a list are answers for each. -/
lemma mapM_eq_ok {f : α → Except ε β} : ∀ {l : List α} {l' : List β},
    l.mapM f = .ok l' ↔ List.Forall₂ (fun a b => f a = .ok b) l l'
  | [], l' => by
    simp only [List.mapM_nil, List.forall₂_nil_left_iff]
    exact ⟨fun h => by cases h; rfl, fun h => by rw [h]; rfl⟩
  | a :: l, l' => by
    simp only [List.mapM_cons, bind_eq_ok, mapM_eq_ok (l := l), List.forall₂_cons_left_iff]
    constructor
    · rintro ⟨b, hb, bs, hbs, h⟩
      cases h
      exact ⟨b, bs, hb, hbs, rfl⟩
    · rintro ⟨b, bs, hb, hbs, rfl⟩
      exact ⟨b, hb, bs, hbs, rfl⟩

/-- The first member of a list that fails makes the whole list fail, whatever comes after it. -/
lemma mapM_append_error {f : α → Except ε β} (before : List α) {after : List α}
    {a : α} {e : ε} (hbefore : ∀ b ∈ before, ∃ y, f b = .ok y) (ha : f a = .error e) :
    (before ++ a :: after).mapM f = .error e := by
  induction before with
  | nil =>
    rw [List.nil_append, List.mapM_cons, ha]
    rfl
  | cons b before ih =>
    obtain ⟨y, hy⟩ := hbefore b (.head _)
    rw [List.cons_append, List.mapM_cons, hy, ih fun c hc => hbefore c (.tail _ hc)]
    rfl

/-- A list fails as one of its members does. -/
lemma exists_of_mapM_error {f : α → Except ε β} {l : List α} {e : ε}
    (h : l.mapM f = .error e) : ∃ a ∈ l, f a = .error e := by
  induction l with
  | nil => cases h
  | cons a l ih =>
    rw [List.mapM_cons] at h
    cases ha : f a with
    | error e' =>
      rw [ha] at h
      cases h
      exact ⟨a, .head _, ha⟩
    | ok y =>
      rw [ha] at h
      cases hl : l.mapM f with
      | error e' =>
        rw [hl] at h
        cases h
        obtain ⟨b, hb, hfb⟩ := ih hl
        exact ⟨b, .tail _ hb, hfb⟩
      | ok ys =>
        rw [hl] at h
        cases h

/-- A change of the failures changes no answer. -/
lemma mapError_eq_ok {φ : Type} {x : Except ε α} {g : ε → φ} {a : α} :
    x.mapError g = .ok a ↔ x = .ok a := by
  cases x with
  | ok b => exact ⟨fun h => (by cases h; rfl), fun h => (by cases h; rfl)⟩
  | error e => exact ⟨fun h => (by cases h), fun h => (by cases h)⟩

end

/-! ## Calls -/

namespace Action

variable {σ τ α β : Type}

/-- How a call comes out, whatever it leaves behind. -/
def outcome (a : Action σ α) (s : σ) : Except FinderError α :=
  (a.perform s).1

/-- What follows a call starts where the call has ended. -/
lemma outcome_bind (a : Action σ α) (f : α → Action σ β) (s : σ) :
    (a >>= f).outcome s = a.outcome s >>= fun x => (f x).outcome (a.perform s).2 := by
  rw [outcome, perform_bind, outcome]
  rcases a.perform s with ⟨_ | x, s'⟩ <;> rfl

/-- What follows an answer that needs no state starts where it did. -/
lemma outcome_ofExcept_bind (r : Except FinderError α) (f : α → Action σ β) (s : σ) :
    (ofExcept r >>= f).outcome s = r >>= fun x => (f x).outcome s :=
  outcome_bind (ofExcept r) f s

/-- A call ends in an answer and a state of `Q`, or fails in a state of `E`. -/
def Ends (a : Action σ α) (s : σ) (Q : α → σ → Prop) (E : σ → Prop) : Prop :=
  match a.perform s with
  | (.ok x, s') => Q x s'
  | (.error _, s') => E s'

variable {s : σ} {Q R : α → σ → Prop} {E F : σ → Prop}

/-- What is described of a call holds of its outcome. -/
lemma Ends.of_perform {a : Action σ α} {x : α} {s' : σ} (h : Ends a s Q E)
    (ha : a.perform s = (.ok x, s')) : Q x s' := by
  simpa only [Ends, ha] using h

/-- What is described of a call holds of the state in which it has failed. -/
lemma Ends.of_error {a : Action σ α} {e : FinderError} {s' : σ} (h : Ends a s Q E)
    (ha : a.perform s = (.error e, s')) : E s' := by
  simpa only [Ends, ha] using h

/-- What holds however a call ends, holds of the state that it leaves. -/
lemma Ends.after {a : Action σ α} (h : Ends a s (fun _ => E) E) : E (a.perform s).2 := by
  unfold Ends at h
  rcases hp : a.perform s with ⟨_ | _, s'⟩ <;> rw [hp] at h <;> exact h

/-- A description may be weakened. -/
lemma Ends.mono {a : Action σ α} (h : Ends a s Q E) (hQ : ∀ x s', Q x s' → R x s')
    (hE : ∀ s', E s' → F s') : Ends a s R F := by
  unfold Ends at h ⊢
  rcases hp : a.perform s with ⟨_ | x, s'⟩ <;> rw [hp] at h
  · exact hE s' h
  · exact hQ x s' h

/-- Every call ends somehow. -/
lemma ends_true {a : Action σ α} : Ends a s (fun _ _ => True) fun _ => True := by
  unfold Ends
  rcases a.perform s with ⟨_ | _, _⟩ <;> trivial

/-- Two descriptions hold together. -/
lemma Ends.and {a : Action σ α} (h : Ends a s Q E) (h' : Ends a s R F) :
    Ends a s (fun x s' => Q x s' ∧ R x s') (fun s' => E s' ∧ F s') := by
  unfold Ends at h h' ⊢
  rcases hp : a.perform s with ⟨_ | x, s'⟩ <;> rw [hp] at h h' <;> exact ⟨h, h'⟩

/-- A composed call ends as its second half does, unless the first fails. -/
theorem ends_bind {a : Action σ α} {f : α → Action σ β} {Q : β → σ → Prop}
    (h : Ends a s (fun x s' => Ends (f x) s' Q E) E) : Ends (a >>= f) s Q E := by
  unfold Ends at h
  rw [Ends, perform_bind]
  rcases hp : a.perform s with ⟨_ | x, s'⟩ <;> rw [hp] at h <;> exact h

/-- A composed call succeeds if both halves do. -/
lemma perform_bind_eq_ok {a : Action σ α} {f : α → Action σ β} {y : β} {s'' : σ} :
    (a >>= f).perform s = (.ok y, s'') ↔
      ∃ x s', a.perform s = (.ok x, s') ∧ (f x).perform s' = (.ok y, s'') := by
  rw [perform_bind]
  rcases a.perform s with ⟨_ | x, s'⟩
  · simp
  · simp

/-- An answer that costs nothing. -/
lemma ends_pure {x : α} (h : Q x s) : Ends (pure x) s Q E := h

/-- The state is looked at. -/
lemma ends_get {Q : σ → σ → Prop} (h : Q s s) : Ends (get : Action σ σ) s Q E := h

/-- The state is changed. -/
lemma ends_modify {Q : PUnit → σ → Prop} {f : σ → σ} (h : Q ⟨⟩ (f s)) :
    Ends (modify f : Action σ PUnit) s Q E := h

/-- An answer that does not depend on the state, or a refusal. -/
lemma ends_ofExcept {r : Except FinderError α} (hQ : ∀ x, r = .ok x → Q x s) (hE : E s) :
    Ends (ofExcept r) s Q E := by
  cases r with
  | ok x => exact hQ x rfl
  | error e => exact hE

/-- An answer from the state, or a refusal. -/
lemma ends_query {f : σ → Except FinderError α} (hQ : ∀ x, f s = .ok x → Q x s) (hE : E s) :
    Ends (query f) s Q E := by
  simp only [Ends, query, perform_ofFunction]
  cases hf : f s with
  | ok x => exact hQ x hf
  | error e => exact hE

/-- An answer from the state that is not refused. -/
lemma ends_query_of_ok {f : σ → Except FinderError α} {x : α} (h : f s = .ok x) (hQ : Q x s) :
    Ends (query f) s Q E := by
  simpa only [Ends, query, perform_ofFunction, h] using hQ

/-- A step that succeeds or changes nothing. -/
lemma ends_atomic {f : σ → Except FinderError (α × σ)}
    (hQ : ∀ x s', f s = .ok (x, s') → Q x s') (hE : E s) : Ends (atomic f) s Q E := by
  simp only [Ends, atomic, perform_ofFunction]
  rcases hf : f s with e | ⟨x, s'⟩
  · exact hE
  · exact hQ x s' hf

/-- A step that fails for reasons of its own, and leaves what it has done. -/
lemma perform_attempt {ε : Type} (f : σ → Except ε α × σ) (failure : ε → FinderError) (s : σ) :
    (attempt f failure).perform s = ((f s).1.mapError failure, (f s).2) := rfl

/-- Such a step leaves the same state whether it succeeds or not. -/
lemma ends_attempt {ε : Type} {f : σ → Except ε α × σ} {failure : ε → FinderError}
    (hQ : ∀ x, (f s).1 = .ok x → Q x (f s).2) (hE : E (f s).2) : Ends (attempt f failure) s Q E := by
  unfold Ends
  rw [perform_attempt]
  cases hf : (f s).1 with
  | ok x => exact hQ x hf
  | error e => exact hE

/-- A call on a part of a larger state. -/
lemma ends_onPart {part : τ → σ} {replace : τ → σ → τ} {a : Action σ α} {t : τ}
    {Q : α → τ → Prop} {E : τ → Prop}
    (h : Ends a (part t) (fun x s' => Q x (replace t s')) fun s' => E (replace t s')) :
    Ends (a.onPart part replace) t Q E := by
  unfold Ends at h
  simp only [Ends, onPart, perform_ofFunction]
  rcases hp : a.perform (part t) with ⟨_ | x, s'⟩ <;> rw [hp] at h <;> exact h

/-! ## Failures -/

/-- A call does not fail in some ways. -/
def Avoids (bad : FinderError → Prop) (a : Action σ α) (s : σ) : Prop :=
  ∀ e s', a.perform s = (.error e, s') → ¬bad e

variable {bad : FinderError → Prop}

/-- A call that succeeds does not fail. -/
lemma avoids_of_ok {a : Action σ α} {x : α} {s' : σ} (h : a.perform s = (.ok x, s')) :
    Avoids bad a s := by
  intro e s'' he
  rw [h] at he
  cases he

/-- A call that cannot fail at all does not fail. -/
lemma avoids_of_ends {a : Action σ α} (h : Ends a s Q fun _ => False) : Avoids bad a s := by
  intro e s' he
  rw [Ends, he] at h
  exact h.elim

/-- A composed call fails as one of its halves does. -/
lemma avoids_bind {a : Action σ α} {f : α → Action σ β} (h : Avoids bad a s)
    (hf : ∀ x s', a.perform s = (.ok x, s') → Avoids bad (f x) s') : Avoids bad (a >>= f) s := by
  intro e s'' he
  rw [perform_bind] at he
  rcases hp : a.perform s with ⟨e' | x, s'⟩
  · rw [hp] at he
    cases he
    exact h e s'' hp
  · rw [hp] at he
    exact hf x s' hp e s'' he

/-- A composed call whose first half cannot fail fails as the second half does. -/
lemma avoids_bind_of_ends {a : Action σ α} {f : α → Action σ β}
    (h : Ends a s (fun x s' => Avoids bad (f x) s') fun _ => False) : Avoids bad (a >>= f) s :=
  avoids_bind (avoids_of_ends h) fun _ _ hp => h.of_perform hp

/-- A call that answers without looking at the state fails as its answer does. -/
lemma avoids_ofExcept {r : Except FinderError α} (h : ∀ e, r = .error e → ¬bad e) :
    Avoids bad (ofExcept r) s := by
  intro e s' he
  rw [ofExcept, perform_ofFunction] at he
  exact h e (congrArg Prod.fst he)

/-- A call on a part of a larger state fails as it does on the part. -/
lemma avoids_onPart {part : τ → σ} {replace : τ → σ → τ} {a : Action σ α} {t : τ}
    (h : Avoids bad a (part t)) : Avoids bad (a.onPart part replace) t := by
  intro e t' he
  simp only [onPart, perform_ofFunction] at he
  rcases hp : a.perform (part t) with ⟨e' | x, s'⟩
  · rw [hp] at he
    cases he
    exact h e s' hp
  · rw [hp] at he
    cases he

/-- If a call fails then its failure and the state that it leaves are of a kind. -/
def Fails (a : Action σ α) (s : σ) (F : FinderError → σ → Prop) : Prop :=
  ∀ e s', a.perform s = (.error e, s') → F e s'

/-- A composed call fails as one of its halves does. -/
lemma fails_bind {a : Action σ α} {f : α → Action σ β} {F : FinderError → σ → Prop}
    (h : Fails a s F) (hf : ∀ x s', a.perform s = (.ok x, s') → Fails (f x) s' F) :
    Fails (a >>= f) s F := by
  intro e s'' he
  rw [perform_bind] at he
  rcases hp : a.perform s with ⟨e' | x, s'⟩
  · rw [hp] at he
    cases he
    exact h e s'' hp
  · rw [hp] at he
    exact hf x s' hp e s'' he

end Action

end EntityFinder
