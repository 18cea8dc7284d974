import EntityFinder.Proofs.Asking

set_option autoImplicit false

/-!
# One object and many

Each finder comes in two forms: one gives every object, the other the first alone. Both may be
given criteria, the token of a property, or the name of a method. Where a loader makes objects of
records alone, what the two forms answer in a state is told by the hits: the records that the
index finds there for the query of the criteria.

## Main definitions

* `EntityFinder.EntityLoader.Makes`: what a loader makes of a record depends on the record alone.
* `EntityFinder.Repository.hits`: the records that are found for criteria.
* `EntityFinder.Repository.FindersAgree`: how the forms of a finder depend on each other.

## Main results

* `EntityFinder.FinderCall.parse_methodName`: a call is read back from its method name.
* `EntityFinder.Repository.outcome_findBy`, `EntityFinder.Repository.outcome_findOneBy`: the two
  forms, given what becomes of the hits.
* `EntityFinder.Repository.findersAgree`: the forms agree on results, order and failures.
* `EntityFinder.Repository.exists_shortened`: the one-object form does not give all objects.
-/

namespace EntityFinder

/-! ## Method names -/

namespace FinderCall

/-- What follows the opening of a name is found by dropping the opening. -/
lemma dropStart?_append (start rest : List Char) :
    dropStart? start (start ++ rest) = some rest := by
  induction start with
  | nil => rfl
  | cons c start ih => rw [List.cons_append, dropStart?, if_pos rfl, ih]

/-- A name of the one kind is read as one of this kind. -/
lemma parseAs?_methodName (call : FinderCall) (h : call.token ≠ "") :
    parseAs? call.kind call.methodName = some call := by
  obtain ⟨kind, token⟩ := call
  rw [parseAs?, methodName, String.toList_append, dropStart?_append]
  cases htoken : token.toList with
  | nil => exact absurd (String.toList_eq_nil_iff.mp htoken) h
  | cons c cs =>
    change some (⟨kind, String.ofList (c :: cs)⟩ : FinderCall) = _
    rw [← htoken, String.ofList_toList]

/-- The name of a finder of many objects is none of a finder of one. -/
lemma parseAs?_one_many (token : String) : parseAs? .one ("findBy" ++ token) = none := by
  rw [parseAs?, String.toList_append]
  rfl

/-- A call is read back from its method name, if it names a property at all. -/
theorem parse_methodName (call : FinderCall) (h : call.token ≠ "") :
    parse call.methodName = .ok call := by
  have hself := call.parseAs?_methodName h
  obtain ⟨kind, token⟩ := call
  cases kind with
  | one =>
    rw [parse, hself]
    rfl
  | many =>
    have hone : parseAs? .one (methodName ⟨.many, token⟩) = none := parseAs?_one_many token
    rw [parse, hone, hself]
    rfl

end FinderCall

/-! ## Objects of records alone -/

/-- A loader makes objects, or refuses to, by the record alone, whatever the state is. -/
def EntityLoader.Makes {σ : Type} (loader : EntityLoader σ)
    (made : Record → Except FinderError Entity) : Prop :=
  ∀ record s, (loader.load record).outcome s = made record

/-- A refusal of the criteria themselves. -/
def FinderError.IsRefusal (e : FinderError) : Prop :=
  e = .emptyCriteria ∨ ∃ entity property declared, e = .unindexedProperty entity property declared

namespace Repository

variable {σ : Type} (r : Repository σ)

/-- The records that are found for criteria. -/
def hits (c : Criteria) : Action σ (List Record) := do
  let query ← Action.ofExcept (r.checkedQuery c)
  r.index.query query

/-- Finding by criteria turns all hits into objects. -/
lemma findBy_eq (c : Criteria) : r.findBy c = r.hits c >>= r.hydrateAll := by
  rw [hits, bind_assoc]
  rfl

/-- Finding one by criteria turns the first hit into an object. -/
lemma findOneBy_eq (c : Criteria) : r.findOneBy c = r.hits c >>= fun records =>
    match records.head? with
    | none => pure none
    | some record => r.hydrate record >>= fun e => pure (some e) := by
  rw [hits, bind_assoc, findOneBy]
  refine bind_congr fun query => ?_
  exact bind_assoc (r.index.query query) (fun records => pure records.head?) _

/-- What becomes of a record of which a loader makes `made`: an object that is checked. -/
def objectOf (made : Record → Except FinderError Entity) (record : Record) :
    Except FinderError Entity :=
  made record >>= r.checkObject record

/-- What becomes of the first of some records. -/
def firstObject (made : Record → Except FinderError Entity) :
    List Record → Except FinderError (Option Entity)
  | [] => .ok none
  | record :: _ => (r.objectOf made record).map some

section

variable {r} {made : Record → Except FinderError Entity} (hmade : r.loader.Makes made)
  {s : σ} {c : Criteria}

include hmade

/-- A record becomes what is made of it. -/
lemma outcome_hydrate (record : Record) (s : σ) :
    (r.hydrate record).outcome s = r.objectOf made record := by
  rw [hydrate, Action.outcome_bind, hmade record s]
  rfl

/-- Records become what is made of each. -/
lemma outcome_hydrateAll (records : List Record) (s : σ) :
    (r.hydrateAll records).outcome s = records.mapM (r.objectOf made) := by
  induction records generalizing s with
  | nil => rfl
  | cons record records ih =>
    rw [hydrateAll, Action.outcome_bind, outcome_hydrate hmade, List.mapM_cons]
    refine bind_congr fun e => ?_
    rw [Action.outcome_bind, ih]
    rfl

/-- Finding by criteria gives what is made of every hit. -/
theorem outcome_findBy (c : Criteria) (s : σ) : (r.findBy c).outcome s =
    (r.hits c).outcome s >>= fun records => records.mapM (r.objectOf made) := by
  rw [findBy_eq, Action.outcome_bind]
  exact bind_congr fun records => outcome_hydrateAll hmade records _

/-- Finding one by criteria gives what is made of the first hit, whatever the others are. -/
theorem outcome_findOneBy (c : Criteria) (s : σ) :
    (r.findOneBy c).outcome s = (r.hits c).outcome s >>= r.firstObject made := by
  rw [findOneBy_eq, Action.outcome_bind]
  refine bind_congr fun records => ?_
  cases records with
  | nil => rfl
  | cons record records =>
    change (r.hydrate record >>= fun e => pure (some e)).outcome _ = _
    rw [Action.outcome_bind, outcome_hydrate hmade, firstObject]
    cases r.objectOf made record <;> rfl

/-- If every object is found, there is one for each hit, and the first of them is found alone. -/
theorem findOneBy_of_findBy {es : List Entity} (h : (r.findBy c).outcome s = .ok es) :
    ∃ records, (r.hits c).outcome s = .ok records ∧
      List.Forall₂ (fun record e => r.objectOf made record = .ok e) records es ∧
      (r.findOneBy c).outcome s = .ok es.head? := by
  rw [outcome_findBy hmade] at h
  obtain ⟨records, hhits, hall⟩ := bind_eq_ok.mp h
  have hobjects := mapM_eq_ok.mp hall
  refine ⟨records, hhits, hobjects, ?_⟩
  rw [outcome_findOneBy hmade, hhits]
  cases hobjects with
  | nil => rfl
  | cons hfirst _ => exact map_eq_ok.mpr ⟨_, hfirst, rfl⟩

/-- Without hits both forms fail, and in the same way. -/
theorem outcome_of_no_hits {e : FinderError} (h : (r.hits c).outcome s = .error e) :
    (r.findBy c).outcome s = .error e ∧ (r.findOneBy c).outcome s = .error e := by
  rw [outcome_findBy hmade, outcome_findOneBy hmade, h]
  exact ⟨rfl, rfl⟩

/-- If the first hit becomes no object, both forms fail as it does. -/
theorem outcome_of_first_spoiled {record : Record} {after : List Record} {e : FinderError}
    (hhits : (r.hits c).outcome s = .ok (record :: after))
    (hrecord : r.objectOf made record = .error e) :
    (r.findBy c).outcome s = .error e ∧ (r.findOneBy c).outcome s = .error e := by
  rw [outcome_findBy hmade, outcome_findOneBy hmade, hhits]
  refine ⟨mapM_append_error [] (fun b hb => (by cases hb)) hrecord, ?_⟩
  change (r.objectOf made record).map some = _
  rw [hrecord]
  rfl

/-- If a later hit is the first that becomes no object, the object of the first hit is still found
alone. -/
theorem outcome_of_later_spoiled {first record : Record} {before after : List Record} {x : Entity}
    {e : FinderError}
    (hhits : (r.hits c).outcome s = .ok (first :: (before ++ record :: after)))
    (hfirst : r.objectOf made first = .ok x)
    (hbefore : ∀ b ∈ before, ∃ y, r.objectOf made b = .ok y)
    (hrecord : r.objectOf made record = .error e) :
    (r.findBy c).outcome s = .error e ∧ (r.findOneBy c).outcome s = .ok (some x) := by
  rw [outcome_findBy hmade, outcome_findOneBy hmade, hhits]
  refine ⟨mapM_append_error (first :: before) (fun b hb => ?_) hrecord,
    map_eq_ok.mpr ⟨x, hfirst, rfl⟩⟩
  rcases List.mem_cons.mp hb with rfl | hb
  · exact ⟨x, hfirst⟩
  · exact hbefore b hb

end

section

variable {r} {made : Record → Except FinderError Entity} {s : σ} {c : Criteria}
  {query token value property : String} {e : FinderError}

/-- Criteria that are refused have no hits. -/
lemma hits_of_refused (h : r.checkedQuery c = .error e) : (r.hits c).outcome s = .error e := by
  rw [hits, Action.outcome_ofExcept_bind, h]
  rfl

/-- The hits for criteria that pass are the answer of the index. -/
lemma hits_of_checked (h : r.checkedQuery c = .ok query) :
    (r.hits c).outcome s = (r.index.query query).outcome s := by
  rw [hits, Action.outcome_ofExcept_bind, h]
  rfl

/-! ## Tokens -/

/-- A token stands for the property that it means. -/
lemma findByProperty_eq (h : r.singularizer.resolve r.metadata token = .ok property) :
    r.findByProperty token value = r.findBy (.single property value) ∧
      r.findOneByProperty token value = r.findOneBy (.single property value) := by
  rw [findByProperty, findOneByProperty, tokenCriteria, h]
  exact ⟨rfl, rfl⟩

/-- A token that means no property is refused by both forms. -/
lemma findByProperty_of_unresolved (h : r.singularizer.resolve r.metadata token = .error e) :
    (r.findByProperty token value).perform s = (.error e, s) ∧
      (r.findOneByProperty token value).perform s = (.error e, s) := by
  rw [findByProperty, findOneByProperty, tokenCriteria, h]
  exact ⟨rfl, rfl⟩

/-- The check of an object does not refuse criteria. -/
lemma made_of_refusal {record : Record} (he : e.IsRefusal)
    (h : r.objectOf made record = .error e) : made record = .error e := by
  rw [objectOf] at h
  cases hmade : made record with
  | error e' =>
    rw [hmade] at h
    exact h
  | ok x =>
    rw [hmade] at h
    change r.checkObject record x = .error e at h
    unfold checkObject at h
    -- both refusals of the check are about the object
    split_ifs at h <;> cases h <;> rcases he with h | ⟨_, _, _, h⟩ <;> cases h

/-- The first object is refused as a record is. -/
lemma exists_of_firstObject_error {records : List Record}
    (h : r.firstObject made records = .error e) :
    ∃ record ∈ records, r.objectOf made record = .error e := by
  cases records with
  | nil => cases h
  | cons record records =>
    refine ⟨record, .head _, ?_⟩
    change (r.objectOf made record).map some = .error e at h
    cases hobject : r.objectOf made record with
    | ok x =>
      rw [hobject] at h
      cases h
    | error e' =>
      rw [hobject] at h
      cases h
      rfl

/-- With a token that means a property, a refusal of criteria comes from the index or the loader. -/
theorem refusal_of_token (hmade : r.loader.Makes made)
    (hresolve : r.singularizer.resolve r.metadata token = .ok property) (he : e.IsRefusal)
    (h : (r.findByProperty token value).outcome s = .error e ∨
      (r.findOneByProperty token value).outcome s = .error e) :
    ∃ query, (Criteria.single property value).compile = .ok query ∧
      ((r.index.query query).outcome s = .error e ∨
        ∃ records, (r.index.query query).outcome s = .ok records ∧
          ∃ record ∈ records, made record = .error e) := by
  obtain ⟨query, hquery⟩ := exists_compile_single property value
  have hchecked : r.checkedQuery (.single property value) = .ok query := by
    rw [← hquery]
    exact checkedQuery_of_indexed fun p hp => by
      rw [List.mem_singleton.mp hp]
      exact indexes_of_resolve hresolve
  refine ⟨query, hquery, ?_⟩
  rw [(findByProperty_eq hresolve).1, (findByProperty_eq hresolve).2, outcome_findBy hmade,
    outcome_findOneBy hmade, hits_of_checked hchecked] at h
  cases hrecords : (r.index.query query).outcome s with
  | error e' =>
    rw [hrecords] at h
    have hsame : e' = e :=
      h.elim (fun hmany => Except.error.inj hmany) fun hone => Except.error.inj hone
    exact .inl (congrArg _ hsame)
  | ok records =>
    rw [hrecords] at h
    obtain ⟨record, hrecord, hobject⟩ := h.elim exists_of_mapM_error exists_of_firstObject_error
    exact .inr ⟨records, rfl, record, hrecord, made_of_refusal he hobject⟩

/-! ## Calls by name -/

/-- A call of a finder by its name, with one argument, is a call of the finder. -/
lemma call_eq (token value : String) (h : token ≠ "") :
    r.call ("findBy" ++ token) [value] =
        (r.findByProperty token value >>= fun es => pure (.many es)) ∧
      r.call ("findOneBy" ++ token) [value] =
        (r.findOneByProperty token value >>= fun e => pure (.one e)) := by
  have hmany : FinderCall.parse ("findBy" ++ token) = .ok ⟨.many, token⟩ :=
    FinderCall.parse_methodName ⟨.many, token⟩ h
  have hone : FinderCall.parse ("findOneBy" ++ token) = .ok ⟨.one, token⟩ :=
    FinderCall.parse_methodName ⟨.one, token⟩ h
  rw [call, call, hmany, hone]
  exact ⟨rfl, rfl⟩

/-- If a token finds every object, the first of them is found alone. -/
lemma findOneByProperty_of_findByProperty (hmade : r.loader.Makes made) {es : List Entity}
    (h : (r.findByProperty token value).outcome s = .ok es) :
    (r.findOneByProperty token value).outcome s = .ok es.head? := by
  cases hresolve : r.singularizer.resolve r.metadata token with
  | error e =>
    rw [Action.outcome, (findByProperty_of_unresolved hresolve).1] at h
    cases h
  | ok property =>
    rw [(findByProperty_eq hresolve).1] at h
    rw [(findByProperty_eq hresolve).2]
    obtain ⟨_, _, _, hone⟩ := findOneBy_of_findBy hmade h
    exact hone

/-- If a call for every object succeeds, the call for one gives the first of them. -/
theorem call_one_of_many (hmade : r.loader.Makes made) (htoken : token ≠ "") {output : FinderOutput}
    (h : (r.call ("findBy" ++ token) [value]).outcome s = .ok output) :
    ∃ output', (r.call ("findOneBy" ++ token) [value]).outcome s = .ok output' ∧
      output'.intoOne = output.intoOne ∧ output'.intoMany = output.intoMany.take 1 := by
  rw [(call_eq token value htoken).1, Action.outcome_bind] at h
  obtain ⟨es, hes, houtput⟩ := bind_eq_ok.mp h
  cases houtput
  have hone := findOneByProperty_of_findByProperty hmade hes
  refine ⟨.one es.head?, ?_, rfl, ?_⟩
  · rw [(call_eq token value htoken).2, Action.outcome_bind, hone]
    rfl
  · cases es <;> rfl

end

/-! ## Agreement -/

variable (r : Repository σ)

/-- How the forms of a finder depend on each other when they are asked in the same state `s`, where
the loader makes `made` of records. -/
structure FindersAgree (made : Record → Except FinderError Entity) (s : σ) : Prop where
  /-- If all objects are found, there is one for each hit, in the order of the hits, and the first
  of them, if any, is found alone. -/
  found : ∀ c es, (r.findBy c).outcome s = .ok es →
    ∃ records, (r.hits c).outcome s = .ok records ∧
      List.Forall₂ (fun record e => r.objectOf made record = .ok e) records es ∧
      (r.findOneBy c).outcome s = .ok es.head?
  /-- Criteria that do not pass are refused by both forms in the same way. -/
  refused : ∀ c e, r.checkedQuery c = .error e →
    (r.findBy c).outcome s = .error e ∧ (r.findOneBy c).outcome s = .error e
  /-- If the index fails, both forms fail as it does. -/
  unanswered : ∀ c query e, r.checkedQuery c = .ok query →
    (r.index.query query).outcome s = .error e →
    (r.findBy c).outcome s = .error e ∧ (r.findOneBy c).outcome s = .error e
  /-- If the first hit becomes no object, both forms fail as it does. -/
  firstSpoiled : ∀ c record after e, (r.hits c).outcome s = .ok (record :: after) →
    r.objectOf made record = .error e →
    (r.findBy c).outcome s = .error e ∧ (r.findOneBy c).outcome s = .error e
  /-- If a later hit is the first that becomes no object, all objects together are refused as it is,
  and the object of the first hit is found alone. -/
  laterSpoiled : ∀ c first before record after x e,
    (r.hits c).outcome s = .ok (first :: (before ++ record :: after)) →
    r.objectOf made first = .ok x → (∀ b ∈ before, ∃ y, r.objectOf made b = .ok y) →
    r.objectOf made record = .error e →
    (r.findBy c).outcome s = .error e ∧ (r.findOneBy c).outcome s = .ok (some x)
  /-- A token stands for the property that it means. -/
  token : ∀ token value property, r.singularizer.resolve r.metadata token = .ok property →
    r.findByProperty token value = r.findBy (.single property value) ∧
    r.findOneByProperty token value = r.findOneBy (.single property value)
  /-- If a token that means a property is answered by a refusal of criteria, it is the index or the
  loader that has refused. -/
  accepted : ∀ token value property e, r.singularizer.resolve r.metadata token = .ok property →
    e.IsRefusal →
    (r.findByProperty token value).outcome s = .error e ∨
      (r.findOneByProperty token value).outcome s = .error e →
    ∃ query, (Criteria.single property value).compile = .ok query ∧
      ((r.index.query query).outcome s = .error e ∨
        ∃ records, (r.index.query query).outcome s = .ok records ∧
          ∃ record ∈ records, made record = .error e)
  /-- A call by name is a call of the finder. -/
  named : ∀ token value, token ≠ "" →
    r.call ("findBy" ++ token) [value] =
      (r.findByProperty token value >>= fun es => pure (.many es)) ∧
    r.call ("findOneBy" ++ token) [value] =
      (r.findOneByProperty token value >>= fun e => pure (.one e))
  /-- If a call for every object succeeds, so does the call for one. It gives the same object where
  one is wanted, and a list of this object alone where all are. -/
  converted : ∀ token value output, token ≠ "" →
    (r.call ("findBy" ++ token) [value]).outcome s = .ok output →
    ∃ output', (r.call ("findOneBy" ++ token) [value]).outcome s = .ok output' ∧
      output'.intoOne = output.intoOne ∧ output'.intoMany = output.intoMany.take 1

/-- **The forms of a finder agree**, if objects are made of records alone. -/
theorem findersAgree {made : Record → Except FinderError Entity} (hmade : r.loader.Makes made)
    (s : σ) : r.FindersAgree made s where
  found c es h := findOneBy_of_findBy hmade h
  refused c e h := outcome_of_no_hits hmade (hits_of_refused h)
  unanswered c query e hquery h := outcome_of_no_hits hmade (by rw [hits_of_checked hquery, h])
  firstSpoiled c record after e hhits h := outcome_of_first_spoiled hmade hhits h
  laterSpoiled c first before record after x e hhits hfirst hbefore h :=
    outcome_of_later_spoiled hmade hhits hfirst hbefore h
  token token value property h := findByProperty_eq h
  accepted token value property e hresolve he h := refusal_of_token hmade hresolve he h
  named token value h := call_eq token value h
  converted token value output htoken h := call_one_of_many hmade htoken h

/-! ### Lost films -/

/-- The record of a film with a title. -/
def titled (id : Int) (title : String) : Record :=
  ⟨id, "Film", .ofList [("title", title)]⟩

/-- The general object of a record; without a title there is none. -/
def ofTitled (record : Record) : Except FinderError Entity :=
  match record.properties.get? "title" with
  | some _ => .ok ⟨.node, .ofRecord record⟩
  | none => .error (.other "untitled")

/-- Films in an index with a single answer, whatever it is asked. -/
def filmsOf (answer : Except FinderError (List Record)) : Repository Unit where
  metadata := .ofDeclarations ⟨.node, "Film"⟩ [⟨"title", true⟩]
  index := ⟨fun _ => Action.ofExcept answer⟩
  loader := ⟨fun record => Action.ofExcept (ofTitled record), fun _ => pure none⟩
  singularizer := .suffix

/-- A film without a title spoils the list behind it and not the film in front of it. -/
theorem findersAgree_untitled :
    ((filmsOf (.ok [titled 1 "lost", ⟨2, "Film", .empty⟩])).findBy (.single "title" "lost")).outcome
        () = .error (.other "untitled") ∧
      ((filmsOf (.ok [titled 1 "lost", ⟨2, "Film", .empty⟩])).findOneBy
        (.single "title" "lost")).outcome () =
          .ok (some ⟨.node, ⟨1, "Film", .ofList [("title", "lost")]⟩⟩) :=
  (@findersAgree Unit _ ofTitled (fun _ _ => rfl) ()).laterSpoiled _ (titled 1 "lost") []
    ⟨2, "Film", .empty⟩ [] _ _ (by decide) (by decide) (by simp) (by decide)

/-- The list of one object is not that of all, and an index may refuse the criteria itself. -/
theorem exists_shortened :
    (∃ many one,
      ((filmsOf (.ok [titled 1 "lost", titled 2 "lost"])).call "findByTitle" ["lost"]).outcome () =
        .ok many ∧
      ((filmsOf (.ok [titled 1 "lost", titled 2 "lost"])).call "findOneByTitle" ["lost"]).outcome
        () = .ok one ∧
      one.intoMany ≠ many.intoMany) ∧
    (filmsOf (.error .emptyCriteria)).singularizer.resolve
        (filmsOf (.error .emptyCriteria)).metadata "Title" = .ok "title" ∧
      ((filmsOf (.error .emptyCriteria)).findByProperty "Title" "lost").outcome () =
        .error .emptyCriteria :=
  ⟨⟨.many [⟨.node, .ofRecord (titled 1 "lost")⟩, ⟨.node, .ofRecord (titled 2 "lost")⟩],
    .one (some ⟨.node, .ofRecord (titled 1 "lost")⟩), by decide +kernel, by decide +kernel,
    by decide⟩, by decide +kernel, by decide +kernel⟩

end Repository

end EntityFinder
