import EntityFinder.Proofs.Actions
import EntityFinder.Repository.Basic

set_option autoImplicit false

/-!
# What a repository asks of its index

A finder checks everything that it is given before the index hears of it: the name of the method,
the number of arguments, the property that a token means, and whether the properties of the
criteria are indexed. What passes is sent as one query, and nothing else is ever sent.

## Main definitions

* `EntityFinder.Action.Writes`: a call does what another one does, and writes into a log.
* `EntityFinder.Action.Asks`: a call asks for the text that a check gives, or fails as it does.
* `EntityFinder.Repository.logged`: the same repository, over an index that writes its queries down.
* `EntityFinder.Repository.AsksOnce`: what each of the finders asks for.

## Main results

* `EntityFinder.Action.asks_bind`: checks before a call are checks of the call.
* `EntityFinder.Repository.asks_findBy`, `EntityFinder.Repository.asks_call`: the finders ask for
  what their checks give.
* `EntityFinder.Repository.asksOnce`: every repository asks once, or refuses and does not ask.
-/

namespace EntityFinder

/-! ## Calls that write into a log -/

namespace Action

variable {σ α β : Type} {lines : List String} {a : Action σ α} {b : Action (σ × List String) α}

/-- On a state with a log, a call does what another one does on the state alone, and appends some
lines to the log. -/
def Writes (a : Action σ α) (b : Action (σ × List String) α) (lines : List String) : Prop :=
  ∀ s log, b.perform (s, log) = ((a.perform s).1, (a.perform s).2, log ++ lines)

/-- An answer that needs no state writes nothing. -/
lemma writes_ofExcept (r : Except FinderError α) :
    Writes (ofExcept r : Action σ α) (ofExcept r) [] := by
  intro s log
  rw [List.append_nil]
  rfl

/-- A call on the state alone writes nothing. -/
lemma writes_onFirst (a : Action σ α) : a.Writes a.onFirst [] := by
  intro s log
  rw [List.append_nil]
  rfl

/-- What follows a call and writes nothing leaves what the call has written. -/
lemma Writes.bind (h : a.Writes b lines) {f : α → Action σ β}
    {g : α → Action (σ × List String) β} (hnext : ∀ x, (f x).Writes (g x) []) :
    (a >>= f).Writes (b >>= g) lines := by
  intro s log
  rw [perform_bind, perform_bind, h s log]
  rcases a.perform s with ⟨_ | x, s'⟩
  · rfl
  · have hrest := hnext x s' (log ++ lines)
    rwa [List.append_nil] at hrest

/-- Whether the queries of an index are written down changes neither its answer nor its state. -/
lemma writes_query (index : SearchIndex σ) (text : String) :
    (index.query text).Writes (index.logged.query text) [text] :=
  fun _ _ => rfl

/-- A call asks for the text that a check gives: it writes this text alone. If the check fails, the
call fails likewise, writes nothing and leaves the state alone. -/
def Asks (a : Action σ α) (b : Action (σ × List String) α) : Except FinderError String → Prop
  | .ok text => a.Writes b [text]
  | .error e => a.Writes b [] ∧ ∀ s, a.perform s = (.error e, s)

/-- What is checked before a call is part of its check. -/
lemma asks_bind {check : Except FinderError β} {f : β → Action σ α}
    {g : β → Action (σ × List String) α} {next : β → Except FinderError String}
    (h : ∀ x, (f x).Asks (g x) (next x)) :
    (ofExcept check >>= f).Asks (ofExcept check >>= g) (check >>= next) := by
  cases check with
  | ok x => exact h x
  | error e => exact ⟨writes_ofExcept (.error e), fun _ => rfl⟩

/-- Another form of the answer asks for nothing more. -/
lemma Asks.map {check : Except FinderError String} (h : a.Asks b check) (f : α → β) :
    Asks (a >>= fun x => pure (f x)) (b >>= fun x => pure (f x)) check := by
  have hpure : ∀ x, Writes (pure (f x) : Action σ β) (pure (f x)) [] := fun x =>
    writes_ofExcept (.ok (f x))
  cases check with
  | ok text => exact Writes.bind h hpure
  | error e => exact ⟨Writes.bind h.1 hpure, fun s => by rw [perform_bind, h.2 s]⟩

end Action

namespace Repository

variable {σ : Type} (r : Repository σ)

/-- The same repository, over an index that writes down the queries that it gets. -/
def logged : Repository (σ × List String) where
  metadata := r.metadata
  index := r.index.logged
  loader := ⟨fun record => (r.loader.load record).onFirst, fun id => (r.loader.findById id).onFirst⟩
  singularizer := r.singularizer

/-! ## Finders ask for what their checks give -/

/-- Turning a record into an object asks for nothing. -/
lemma writes_hydrate (record : Record) : (r.hydrate record).Writes (r.logged.hydrate record) [] :=
  (Action.writes_onFirst (r.loader.load record)).bind fun e =>
    Action.writes_ofExcept (r.checkObject record e)

/-- Turning records into objects asks for nothing. -/
lemma writes_hydrateAll (records : List Record) :
    (r.hydrateAll records).Writes (r.logged.hydrateAll records) [] := by
  induction records with
  | nil => exact Action.writes_ofExcept (.ok [])
  | cons record records ih =>
    exact (r.writes_hydrate record).bind fun e =>
      ih.bind fun es => Action.writes_ofExcept (.ok (e :: es))

/-- Finding by criteria asks for their query. -/
theorem asks_findBy (c : Criteria) :
    (r.findBy c).Asks (r.logged.findBy c) (r.checkedQuery c) := by
  rw [← bind_pure (r.checkedQuery c)]
  exact Action.asks_bind fun text =>
    (Action.writes_query r.index text).bind fun records => r.writes_hydrateAll records

/-- Finding one by criteria asks for their query. -/
theorem asks_findOneBy (c : Criteria) :
    (r.findOneBy c).Asks (r.logged.findOneBy c) (r.checkedQuery c) := by
  rw [← bind_pure (r.checkedQuery c)]
  refine Action.asks_bind fun text => Action.Writes.bind
    ((Action.writes_query r.index text).bind fun records =>
      Action.writes_ofExcept (.ok records.head?)) fun found => ?_
  cases found with
  | none => exact Action.writes_ofExcept (.ok none)
  | some record =>
    exact (r.writes_hydrate record).bind fun e => Action.writes_ofExcept (.ok (some e))

/-- The query for the value of the property that a token means. -/
def tokenQuery (token value : String) : Except FinderError String :=
  r.tokenCriteria token value >>= r.checkedQuery

/-- Finding by a token asks for the property that it means. -/
lemma asks_findByProperty (token value : String) :
    (r.findByProperty token value).Asks (r.logged.findByProperty token value)
      (r.tokenQuery token value) :=
  Action.asks_bind r.asks_findBy

/-- Finding one by a token asks for the property that it means. -/
lemma asks_findOneByProperty (token value : String) :
    (r.findOneByProperty token value).Asks (r.logged.findOneByProperty token value)
      (r.tokenQuery token value) :=
  Action.asks_bind r.asks_findOneBy

/-- A finder that is called by name asks for the property that its token means, behind a check of
the name and one of the arguments. -/
theorem asks_call (method : String) (args : List String) :
    (r.call method args).Asks (r.logged.call method args) (do
      let finder ← FinderCall.parse method
      let value ← onlyArgument method args
      r.tokenQuery finder.token value) := by
  refine Action.asks_bind fun finder => Action.asks_bind fun value => ?_
  obtain ⟨kind, token⟩ := finder
  cases kind with
  | one => exact (r.asks_findOneByProperty token value).map FinderOutput.one
  | many => exact (r.asks_findByProperty token value).map FinderOutput.many

/-- With a name and one argument that pass, the property is all that is left to be checked. -/
lemma asks_call_single {method : String} {finder : FinderCall}
    (hparse : FinderCall.parse method = .ok finder) (value : String) :
    (r.call method [value]).Asks (r.logged.call method [value])
      (r.tokenQuery finder.token value) := by
  have hcall := r.asks_call method [value]
  rw [hparse] at hcall
  exact hcall

/-! ## Checks -/

section

variable {r} {m : EntityMetadata} {before after names : List String}
  {property token value method : String} {c : Criteria} {e : FinderError}

/-- Properties pass that are all indexed. -/
lemma checkProperties_of_indexed (h : ∀ p ∈ names, m.indexes p = true) :
    checkProperties m names = .ok () := by
  induction names with
  | nil => rfl
  | cons p names ih =>
    rw [checkProperties, if_pos (h p (.head _))]
    exact ih fun q hq => h q (.tail _ hq)

/-- The first property that is not indexed is reported, whatever comes after it. -/
lemma checkProperties_unindexed (hbefore : ∀ p ∈ before, m.indexes p = true)
    (hproperty : m.indexes property = false) : checkProperties m (before ++ property :: after) =
      .error (.unindexedProperty m.entityName property (m.declares property)) := by
  induction before with
  | nil => exact if_neg (Bool.eq_false_iff.mp hproperty)
  | cons p before ih =>
    rw [List.cons_append, checkProperties, if_pos (hbefore p (.head _))]
    exact ih fun q hq => hbefore q (.tail _ hq)

/-- Criteria whose properties are all indexed have the query that they stand for. -/
theorem checkedQuery_of_indexed (h : ∀ p ∈ c.properties, r.metadata.indexes p = true) :
    r.checkedQuery c = c.compile := by
  rw [checkedQuery, checkProperties_of_indexed h]
  rfl

/-- Criteria are refused for the first property that is not indexed. -/
theorem checkedQuery_unindexed (hc : c.properties = before ++ property :: after)
    (hbefore : ∀ p ∈ before, r.metadata.indexes p = true)
    (hproperty : r.metadata.indexes property = false) : r.checkedQuery c =
      .error (.unindexedProperty r.entityName property (r.metadata.declares property)) := by
  rw [checkedQuery, hc, checkProperties_unindexed hbefore hproperty]
  rfl

/-- The properties that can be searched for are the columns of the index. -/
lemma indexes_iff : m.indexes property = true ↔ property ∈ m.indexedNames := by
  simp only [EntityMetadata.indexes, EntityMetadata.indexedNames, List.any_eq_true, List.mem_map,
    beq_iff_eq]

/-- The properties that are declared are those of the declarations. -/
lemma declares_eq (m : EntityMetadata) (property : String) :
    m.declares property = decide (property ∈ m.properties.map (·.name)) := by
  rw [Bool.eq_iff_iff, decide_eq_true_eq]
  simp only [EntityMetadata.declares, EntityMetadata.property?, List.find?_isSome, List.mem_map,
    beq_iff_eq]

/-- A token means an indexed property, if any. -/
lemma indexes_of_resolve {singularizer : Singularizer}
    (h : singularizer.resolve m token = .ok property) : m.indexes property = true := by
  unfold Singularizer.resolve at h
  simp only at h
  split_ifs at h
  split at h
  · next p hp =>
    obtain rfl := Except.ok.inj h
    exact List.any_eq_true.mpr ⟨p, List.mem_of_find?_eq_some hp, beq_self_eq_true _⟩
  · cases h

/-- The query for a token is the one for the property that it means. -/
lemma tokenQuery_of_resolve (h : r.singularizer.resolve r.metadata token = .ok property) :
    r.tokenQuery token value = (Criteria.single property value).compile := by
  rw [tokenQuery, tokenCriteria, h]
  refine checkedQuery_of_indexed fun p hp => ?_
  rw [List.mem_singleton.mp hp]
  exact indexes_of_resolve h

/-- A token that means no property has no query. -/
lemma tokenQuery_of_unresolved (h : r.singularizer.resolve r.metadata token = .error e) :
    r.tokenQuery token value = .error e := by
  rw [tokenQuery, tokenCriteria, h]
  rfl

/-- Lists of arguments with any other number than one are refused. -/
lemma onlyArgument_of_length {args : List String} (h : args.length ≠ 1) :
    onlyArgument method args =
      .error (.invalidDispatch (method ++ "(" ++ toString args.length ++ " arguments)")) := by
  unfold onlyArgument
  split
  · exact absurd rfl h
  · rfl

/-- A method name that is no finder call is reported as it is. -/
lemma parse_eq_error (h : ∀ finder, FinderCall.parse method ≠ .ok finder) :
    FinderCall.parse method = .error (.invalidDispatch method) := by
  unfold FinderCall.parse at h ⊢
  split
  · next finder hfinder => exact absurd (by rw [hfinder]) (h finder)
  · rfl

end

/-! ## What each finder asks for -/

/-- What a repository asks of its index: one query if all is well, and nothing otherwise. -/
structure AsksOnce : Prop where
  /-- Criteria on indexed properties are sent as the one query that they stand for. -/
  accepted : ∀ c : Criteria, c.entries ≠ [] → (∀ p ∈ c.properties, p ∈ r.metadata.indexedNames) →
    ∃ query, c.compile = .ok query ∧ r.createQuery c = .ok query ∧
      (r.findBy c).Asks (r.logged.findBy c) (.ok query) ∧
      (r.findOneBy c).Asks (r.logged.findOneBy c) (.ok query)
  /-- The first property that is not indexed is reported, and whether it is declared. -/
  unindexed : ∀ (c : Criteria) before property after, c.properties = before ++ property :: after →
    (∀ p ∈ before, p ∈ r.metadata.indexedNames) → property ∉ r.metadata.indexedNames →
    ∀ e, e = .unindexedProperty r.metadata.entityName property
        (decide (property ∈ r.metadata.properties.map (·.name))) →
      (r.findBy c).Asks (r.logged.findBy c) (.error e) ∧
      (r.findOneBy c).Asks (r.logged.findOneBy c) (.error e)
  /-- Empty criteria are refused. -/
  empty : ∀ c : Criteria, c.entries = [] →
    (r.findBy c).Asks (r.logged.findBy c) (.error .emptyCriteria) ∧
    (r.findOneBy c).Asks (r.logged.findOneBy c) (.error .emptyCriteria)
  /-- A token that means a property is sent as the query for this property. -/
  resolved : ∀ token value property, r.singularizer.resolve r.metadata token = .ok property →
    ∃ query, (Criteria.single property value).compile = .ok query ∧
      (r.findByProperty token value).Asks (r.logged.findByProperty token value) (.ok query) ∧
      (r.findOneByProperty token value).Asks (r.logged.findOneByProperty token value) (.ok query)
  /-- A token that means no property is refused. -/
  unresolved : ∀ token value e, r.singularizer.resolve r.metadata token = .error e →
    (r.findByProperty token value).Asks (r.logged.findByProperty token value) (.error e) ∧
    (r.findOneByProperty token value).Asks (r.logged.findOneByProperty token value) (.error e)
  /-- A finder that is called by name, with one argument and a token that means a property, sends
  the query for this property. -/
  called : ∀ method value finder property, FinderCall.parse method = .ok finder →
    r.singularizer.resolve r.metadata finder.token = .ok property →
    ∃ query, (Criteria.single property value).compile = .ok query ∧
      (r.call method [value]).Asks (r.logged.call method [value]) (.ok query)
  /-- A name that is none of a finder is refused, whatever the arguments are. -/
  misnamed : ∀ method args, (∀ finder, FinderCall.parse method ≠ .ok finder) →
    (r.call method args).Asks (r.logged.call method args) (.error (.invalidDispatch method))
  /-- Any other number of arguments than one is refused, whatever the token means. -/
  miscounted : ∀ method finder args, FinderCall.parse method = .ok finder → args.length ≠ 1 →
    (r.call method args).Asks (r.logged.call method args) (.error
      (.invalidDispatch (method ++ "(" ++ toString args.length ++ " arguments)")))
  /-- A token that means no property is refused in a call as well. -/
  unknown : ∀ method value finder e, FinderCall.parse method = .ok finder →
    r.singularizer.resolve r.metadata finder.token = .error e →
    (r.call method [value]).Asks (r.logged.call method [value]) (.error e)

/-- Criteria for one value always have a query. -/
lemma exists_compile_single (property value : String) :
    ∃ query, (Criteria.single property value).compile = .ok query :=
  ⟨_, if_neg Bool.false_ne_true⟩

/-- **Every repository asks once, or refuses and does not ask.** -/
theorem asksOnce : r.AsksOnce where
  accepted c hc hindexed := by
    have hcompile : ∃ query, c.compile = .ok query :=
      ⟨_, if_neg fun hempty => hc (List.isEmpty_iff.mp hempty)⟩
    obtain ⟨query, hquery⟩ := hcompile
    have hchecked : r.checkedQuery c = .ok query := by
      rw [checkedQuery_of_indexed fun p hp => indexes_iff.mpr (hindexed p hp), hquery]
    exact ⟨query, hquery, hquery, hchecked ▸ r.asks_findBy c, hchecked ▸ r.asks_findOneBy c⟩
  unindexed c before property after hc hbefore hproperty e he := by
    have hchecked : r.checkedQuery c = .error e := by
      rw [checkedQuery_unindexed hc (fun p hp => indexes_iff.mpr (hbefore p hp))
        (Bool.eq_false_iff.mpr fun h => hproperty (indexes_iff.mp h)), he, declares_eq]
      rfl
    exact ⟨hchecked ▸ r.asks_findBy c, hchecked ▸ r.asks_findOneBy c⟩
  empty c hc := by
    have hchecked : r.checkedQuery c = .error .emptyCriteria := by
      obtain ⟨entries⟩ := c
      obtain rfl : entries = [] := hc
      rfl
    exact ⟨hchecked ▸ r.asks_findBy c, hchecked ▸ r.asks_findOneBy c⟩
  resolved token value property hresolve := by
    obtain ⟨query, hquery⟩ := exists_compile_single property value
    have hchecked : r.tokenQuery token value = .ok query := by
      rw [tokenQuery_of_resolve hresolve, hquery]
    exact ⟨query, hquery, hchecked ▸ r.asks_findByProperty token value,
      hchecked ▸ r.asks_findOneByProperty token value⟩
  unresolved token value e hresolve := by
    have hchecked : r.tokenQuery token value = .error e := tokenQuery_of_unresolved hresolve
    exact ⟨hchecked ▸ r.asks_findByProperty token value,
      hchecked ▸ r.asks_findOneByProperty token value⟩
  called method value finder property hparse hresolve := by
    obtain ⟨query, hquery⟩ := exists_compile_single property value
    have hcall := r.asks_call_single hparse value
    rw [tokenQuery_of_resolve hresolve, hquery] at hcall
    exact ⟨query, hquery, hcall⟩
  misnamed method args hparse := by
    have hcall := r.asks_call method args
    rw [parse_eq_error hparse] at hcall
    exact hcall
  miscounted method finder args hparse hlength := by
    have hcall := r.asks_call method args
    rw [hparse, onlyArgument_of_length hlength] at hcall
    exact hcall
  unknown method value finder e hparse hresolve := by
    have hcall := r.asks_call_single hparse value
    rw [tokenQuery_of_unresolved hresolve] at hcall
    exact hcall

/-- Films that are searched by their titles and not by their budgets, in an index that finds
nothing. -/
def titledFilms : Repository Unit where
  metadata := .ofDeclarations ⟨.node, "Film"⟩ [⟨"title", true⟩, ⟨"budget", false⟩]
  index := ⟨fun _ => pure []⟩
  loader := ⟨fun record => pure ⟨.node, .ofRecord record⟩, fun _ => pure none⟩
  singularizer := .suffix

/-- Films are not searched by their budgets, and the plural of their titles is understood. -/
theorem asksOnce_titledFilms :
    (titledFilms.findBy (.ofList [("title", "lost"), ("budget", "9"), ("cast", "lang")])).Asks
      (titledFilms.logged.findBy (.ofList [("title", "lost"), ("budget", "9"), ("cast", "lang")]))
      (.error (.unindexedProperty "Film" "budget" true)) ∧
    (titledFilms.call "findByTitles" ["lost world"]).Asks
      (titledFilms.logged.call "findByTitles" ["lost world"]) (.ok "title:\"lost world\"") := by
  refine ⟨(titledFilms.asksOnce.unindexed _ ["title"] "budget" ["cast"] (by decide)
    (by decide) (by decide) _ (by decide)).1, ?_⟩
  obtain ⟨query, hquery, hasks⟩ := titledFilms.asksOnce.called "findByTitles" "lost world"
    ⟨.many, "Titles"⟩ "title" (by decide) (by decide +kernel)
  have hcompile : (Criteria.single "title" "lost world").compile = .ok "title:\"lost world\"" := by
    decide
  rw [hcompile] at hquery
  cases hquery
  exact hasks

end Repository

end EntityFinder
