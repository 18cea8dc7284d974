import EntityFinder.Proofs.Finders.Agreement

set_option autoImplicit false

/-!
# Method names

The names of finders are written by a grammar: one of two openings, and a token that is not empty. A
name is read in one way at most, and any other text is refused as it is. A call is refused as no call
of a finder for its name or for the number of its arguments, and for nothing else: whatever fails
behind these two checks is a refusal of criteria, an object that does not fit, or a failure of the
index or of the loader.

## Main definitions

* `EntityFinder.FinderCall.IsWritten`: the grammar.
* `EntityFinder.FinderCall.ReadsGrammar`: how a text is read.
* `EntityFinder.Repository.Raises`: the failures behind the checks of a call.
* `EntityFinder.Repository.SparesDispatch`: index and loader do not refuse calls.

## Main results

* `EntityFinder.FinderCall.parse_eq_ok`: what is read is what is written.
* `EntityFinder.Repository.fails_findBy`, `EntityFinder.Repository.fails_findOneBy`: where the
  failures of finders come from.
* `EntityFinder.Repository.invalid_call_iff`: the calls that are refused as no calls.
-/

namespace EntityFinder

/-! ## The grammar -/

namespace FinderCall

/-- A text is the method name of a call: the opening of its kind, and a token that is not empty. -/
def IsWritten (call : FinderCall) (method : String) : Prop :=
  call.token ≠ "" ∧ method = call.kind.opening ++ call.token

/-- What is left behind an opening. -/
lemma dropStart?_eq_some {start cs rest : List Char} :
    dropStart? start cs = some rest ↔ cs = start ++ rest := by
  constructor
  · intro h
    induction start generalizing cs with
    | nil => exact Option.some.inj h
    | cons c start ih =>
      cases cs with
      | nil => cases h
      | cons d cs =>
        rw [dropStart?] at h
        split_ifs at h with hcd
        rw [hcd, ih h, List.cons_append]
  · rintro rfl
    exact dropStart?_append start rest

/-- What is read as a call of a kind is written as one. -/
lemma isWritten_of_parseAs? {kind : FinderKind} {method : String} {call : FinderCall}
    (h : parseAs? kind method = some call) : call.IsWritten method := by
  unfold parseAs? at h
  split at h
  · next c cs hrest =>
    cases h
    refine ⟨fun hempty => ?_, ?_⟩
    · rw [String.ofList_eq_empty_iff] at hempty
      cases hempty
    · rw [← String.toList_inj, String.toList_append, String.toList_ofList]
      exact dropStart?_eq_some.mp hrest
  · cases h

/-- **What is read is what is written**: a text is read as a call exactly if it is the method name of
this call. -/
theorem parse_eq_ok {method : String} {call : FinderCall} :
    parse method = .ok call ↔ call.IsWritten method := by
  constructor
  · intro h
    unfold parse at h
    split at h
    · next found hfound =>
      cases h
      cases hone : parseAs? .one method with
      | some one =>
        rw [hone] at hfound
        cases hfound
        exact isWritten_of_parseAs? hone
      | none =>
        rw [hone] at hfound
        exact isWritten_of_parseAs? hfound
    · cases h
  · rintro ⟨htoken, rfl⟩
    exact parse_methodName call htoken

/-- How a text is read as a method name. -/
structure ReadsGrammar (method : String) : Prop where
  /-- It is read as the call whose method name it is. -/
  accepted : ∀ call, parse method = .ok call ↔ call.IsWritten method
  /-- It is the method name of one call at most. -/
  unambiguous : ∀ call call' : FinderCall, call.IsWritten method → call'.IsWritten method →
    call = call'
  /-- What is read gives the text back when it is written down. -/
  printed : ∀ call, parse method = .ok call → call.methodName = method
  /-- A text that is no method name is reported as it is. -/
  refused : (∀ call : FinderCall, ¬call.IsWritten method) →
    parse method = .error (.invalidDispatch method)

/-- Every text is read by the grammar. -/
theorem readsGrammar (method : String) : ReadsGrammar method where
  accepted _ := parse_eq_ok
  unambiguous _ _ h h' :=
    Except.ok.inj ((parse_eq_ok.mpr h).symm.trans (parse_eq_ok.mpr h'))
  printed _ h := (parse_eq_ok.mp h).2.symm
  refused h := Repository.parse_eq_error fun call hcall => h call (parse_eq_ok.mp hcall)

end FinderCall

/-! ## Where failures come from -/

open EntityFinder.Action (Fails)

namespace Repository

variable {σ : Type}

/-- The failures of finders: refusals of criteria, objects that do not fit, and what the index or the
loader raises. -/
inductive Raises (r : Repository σ) : FinderError → Prop
  /-- The criteria are refused. -/
  | refusal {e : FinderError} : e.IsRefusal → r.Raises e
  /-- An object is of another entity or of another kind. -/
  | mismatch (expected found : String) : r.Raises (.entityTypeMismatch expected found)
  /-- The index fails. -/
  | index {text : String} {s s' : σ} {e : FinderError} :
    (r.index.query text).perform s = (.error e, s') → r.Raises e
  /-- The loader fails. -/
  | loader {record : Record} {s s' : σ} {e : FinderError} :
    (r.loader.load record).perform s = (.error e, s') → r.Raises e

section

variable {r : Repository σ} {c : Criteria} {e : FinderError}

/-- Properties are refused that are not indexed. -/
lemma isRefusal_of_checkProperties {m : EntityMetadata} {names : List String}
    (h : checkProperties m names = .error e) : e.IsRefusal := by
  induction names with
  | nil => cases h
  | cons name names ih =>
    rw [checkProperties] at h
    split_ifs at h
    · exact ih h
    · cases h
      exact .inr ⟨_, _, _, rfl⟩

/-- Criteria are refused that are empty or name a property that is not indexed. -/
lemma isRefusal_of_checkedQuery (h : r.checkedQuery c = .error e) : e.IsRefusal := by
  unfold checkedQuery at h
  cases hproperties : checkProperties r.metadata c.properties with
  | error e' =>
    rw [hproperties] at h
    cases h
    exact isRefusal_of_checkProperties hproperties
  | ok _ =>
    rw [hproperties] at h
    change c.compile = .error e at h
    unfold Criteria.compile at h
    split_ifs at h
    cases h
    exact .inl rfl

/-- A token is refused that means no indexed property. -/
lemma isRefusal_of_tokenCriteria {token value : String}
    (h : r.tokenCriteria token value = .error e) : e.IsRefusal := by
  unfold tokenCriteria at h
  cases hresolve : r.singularizer.resolve r.metadata token with
  | ok property =>
    rw [hresolve] at h
    cases h
  | error e' =>
    rw [hresolve] at h
    cases h
    unfold Singularizer.resolve at hresolve
    simp only at hresolve
    split_ifs at hresolve
    · cases hresolve
      exact .inr ⟨_, _, _, rfl⟩
    · split at hresolve
      · cases hresolve
      · cases hresolve
        exact .inr ⟨_, _, _, rfl⟩

end

variable (r : Repository σ)

/-- What follows a check fails as it does by itself, or as the check does. -/
lemma fails_check {α β : Type} {check : Except FinderError β} {f : β → Action σ α} {s : σ}
    (hcheck : ∀ e, check = .error e → e.IsRefusal)
    (hf : ∀ x, Fails (f x) s fun e _ => r.Raises e) :
    Fails (Action.ofExcept check >>= f) s fun e _ => r.Raises e := by
  intro e s' h
  cases check with
  | error e' =>
    cases h
    exact .refusal (hcheck e rfl)
  | ok x => exact hf x e s' h

/-- An object that is made of a record is refused if it does not fit. -/
lemma fails_hydrate (record : Record) (s : σ) :
    Fails (r.hydrate record) s fun e _ => r.Raises e := by
  refine Action.fails_bind (fun e s' h => .loader h) fun x s' _ e s'' h => ?_
  have hcheck : r.checkObject record x = .error e := congrArg Prod.fst h
  unfold checkObject at hcheck
  split_ifs at hcheck <;> cases hcheck <;> exact .mismatch _ _

/-- Objects that are made of records are refused if one of them does not fit. -/
lemma fails_hydrateAll (records : List Record) (s : σ) :
    Fails (r.hydrateAll records) s fun e _ => r.Raises e := by
  induction records generalizing s with
  | nil =>
    intro e s' h
    cases h
  | cons record records ih =>
    refine Action.fails_bind (r.fails_hydrate record s) fun x s' _ => ?_
    refine Action.fails_bind (ih s') fun es s'' _ e s₃ h => ?_
    cases h

/-- Finding by criteria fails for one of these reasons. -/
theorem fails_findBy (c : Criteria) (s : σ) : Fails (r.findBy c) s fun e _ => r.Raises e :=
  r.fails_check (fun _ => isRefusal_of_checkedQuery) fun _ =>
    Action.fails_bind (fun _ _ => .index) fun records s' _ => r.fails_hydrateAll records s'

/-- Finding one by criteria fails for one of these reasons. -/
theorem fails_findOneBy (c : Criteria) (s : σ) :
    Fails (r.findOneBy c) s fun e _ => r.Raises e := by
  rw [findOneBy_eq, hits, bind_assoc]
  refine r.fails_check (fun _ => isRefusal_of_checkedQuery) fun _ =>
    Action.fails_bind (fun _ _ => .index) fun records s' _ => ?_
  cases records with
  | nil =>
    intro e s'' h
    cases h
  | cons record records =>
    refine Action.fails_bind (r.fails_hydrate record s') fun x s'' _ e s₃ h => ?_
    cases h

/-- Finding by a token fails for one of these reasons. -/
lemma fails_findByProperty (token value : String) (s : σ) :
    Fails (r.findByProperty token value) s fun e _ => r.Raises e :=
  r.fails_check (fun _ => isRefusal_of_tokenCriteria) fun c => r.fails_findBy c s

/-- Finding one by a token fails for one of these reasons. -/
lemma fails_findOneByProperty (token value : String) (s : σ) :
    Fails (r.findOneByProperty token value) s fun e _ => r.Raises e :=
  r.fails_check (fun _ => isRefusal_of_tokenCriteria) fun c => r.fails_findOneBy c s

/-- A call by a method name with one argument fails for one of these reasons. -/
lemma fails_call {call : FinderCall} {method : String} (h : call.IsWritten method)
    (value : String) (s : σ) : Fails (r.call method [value]) s fun e _ => r.Raises e := by
  obtain ⟨htoken, rfl⟩ := h
  obtain ⟨kind, token⟩ := call
  cases kind with
  | one =>
    rw [FinderKind.opening, (call_eq token value htoken).2]
    refine Action.fails_bind (r.fails_findOneByProperty token value s) fun x s' _ e s'' h => ?_
    cases h
  | many =>
    rw [FinderKind.opening, (call_eq token value htoken).1]
    refine Action.fails_bind (r.fails_findByProperty token value s) fun x s' _ e s'' h => ?_
    cases h

/-! ## Refused calls -/

/-- Neither the index nor the loader refuses anything as no call of a finder. -/
structure SparesDispatch : Prop where
  /-- The index raises other failures only. -/
  index : ∀ text s call, (r.index.query text).outcome s ≠ .error (.invalidDispatch call)
  /-- The loader raises other failures only. -/
  loader : ∀ record s call, (r.loader.load record).outcome s ≠ .error (.invalidDispatch call)

/-- What is raised behind the checks of a call is no refusal of the call. -/
lemma SparesDispatch.not_raises {r : Repository σ} (h : r.SparesDispatch) (text : String) :
    ¬r.Raises (.invalidDispatch text) := by
  intro hraises
  cases hraises with
  | refusal hrefusal => rcases hrefusal with hrefusal | ⟨_, _, _, hrefusal⟩ <;> cases hrefusal
  | index hindex => exact h.index _ _ _ (congrArg Prod.fst hindex)
  | loader hloader => exact h.loader _ _ _ (congrArg Prod.fst hloader)

/-- A call is refused for its name. -/
lemma outcome_call_of_misnamed {method : String} (args : List String) (s : σ)
    (h : ∀ call : FinderCall, ¬call.IsWritten method) :
    (r.call method args).outcome s = .error (.invalidDispatch method) := by
  rw [call, Action.outcome_ofExcept_bind, (FinderCall.readsGrammar method).refused h]
  rfl

/-- A call is refused for the number of its arguments. -/
lemma outcome_call_of_miscounted {call : FinderCall} {method : String} {args : List String} (s : σ)
    (h : call.IsWritten method) (hargs : args.length ≠ 1) :
    (r.call method args).outcome s =
      .error (.invalidDispatch (method ++ "(" ++ toString args.length ++ " arguments)")) := by
  rw [Repository.call, Action.outcome_ofExcept_bind, FinderCall.parse_eq_ok.mpr h,
    onlyArgument_of_length hargs]
  rfl

/-- **When a call is refused as no call.** A text is read as a method name by the grammar and in
one way at most. Where index and loader do not refuse calls, a call is refused exactly if its name is
not written by the grammar or it has another number of arguments than one. -/
theorem invalid_call_iff :
    (∀ method, FinderCall.ReadsGrammar method) ∧
    ∀ (σ : Type) (r : Repository σ), r.SparesDispatch → ∀ method args s,
      (∃ text, (r.call method args).outcome s = .error (.invalidDispatch text)) ↔
        (∀ call : FinderCall, ¬call.IsWritten method) ∨ args.length ≠ 1 := by
  refine ⟨FinderCall.readsGrammar, fun σ r hspares method args s => ?_⟩
  constructor
  · rintro ⟨text, htext⟩
    by_contra hcall
    rw [not_or, not_forall, not_ne_iff] at hcall
    obtain ⟨⟨call, hwritten⟩, hargs⟩ := hcall
    obtain ⟨value, rfl⟩ := List.length_eq_one_iff.mp hargs
    exact hspares.not_raises text
      (r.fails_call (not_not.mp hwritten) value s _ _ (Prod.ext htext rfl))
  · rintro (hname | hargs)
    · exact ⟨method, r.outcome_call_of_misnamed args s hname⟩
    · by_cases hname : ∃ call : FinderCall, call.IsWritten method
      · obtain ⟨call, hwritten⟩ := hname
        exact ⟨_, r.outcome_call_of_miscounted s hwritten hargs⟩
      · exact ⟨method, r.outcome_call_of_misnamed args s (not_exists.mp hname)⟩

/-- Films refuse a call by another name and one with two arguments as no calls, and do not refuse as
such a token that itself begins as a method name does. -/
theorem invalid_call_iff_films :
    titledFilms.SparesDispatch ∧
      (∃ text, (titledFilms.call "findSomething" ["lost"]).outcome () =
        .error (.invalidDispatch text)) ∧
      (∃ text, (titledFilms.call "findByTitle" ["lost", "world"]).outcome () =
        .error (.invalidDispatch text)) ∧
      ¬∃ text, (titledFilms.call "findByfindByTitle" ["lost"]).outcome () =
        .error (.invalidDispatch text) := by
  have hspares : titledFilms.SparesDispatch :=
    ⟨fun text s call h => (by cases h), fun record s call h => (by cases h)⟩
  have hcall := invalid_call_iff.2 Unit titledFilms hspares
  have hother : FinderCall.parse "findSomething" = .error (.invalidDispatch "findSomething") := by
    decide
  refine ⟨hspares, (hcall _ _ ()).mpr (.inl fun call hwritten => ?_),
    (hcall _ _ ()).mpr (.inr (by decide)), fun h => ?_⟩
  · rw [FinderCall.parse_eq_ok.mpr hwritten] at hother
    cases hother
  · rcases (hcall _ _ ()).mp h with hname | hargs
    · exact hname ⟨.many, "findByTitle"⟩ ⟨by decide, by decide⟩
    · exact hargs rfl

end Repository

end EntityFinder
