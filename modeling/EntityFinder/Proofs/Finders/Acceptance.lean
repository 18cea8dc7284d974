import EntityFinder.Proofs.Finders.Agreement

set_option autoImplicit false

/-!
# Objects that may be returned

A loader may make an object of any kind and of any entity out of a record. A repository returns
those of its own kind and entity alone. Where a single object is looked up by its number, another
one counts as missing. Where objects are made of hits, another one makes the finder fail: no hit is
passed over, and the first one that does not fit is reported.

## Main definitions

* `EntityFinder.Action.Gives`: what holds of every answer of a call.
* `EntityFinder.EntityLoader.loadAll`: the objects that a loader makes of records, one by one.
* `EntityFinder.Repository.Owns`: objects of a kind that belong to the entity of a repository.
* `EntityFinder.Repository.mismatch`: how an object that does not fit is reported.
* `EntityFinder.Repository.MakesAll`: a finder makes objects of all hits, or fails.
* `EntityFinder.Repository.Guards`: what a repository returns, and what it does with other objects.

## Main results

* `EntityFinder.Repository.perform_hydrateAll_eq_ok`: records become the objects that are made of
  them, if all of these fit.
* `EntityFinder.Repository.hydrateAll_of_mismatch`: the first object that does not fit is reported.
* `EntityFinder.Repository.guards_of_bind`: every repository that can be built guards its objects.
-/

namespace EntityFinder

variable {σ : Type}

/-! ## What answers are like -/

namespace Action

variable {α β : Type} {a : Action σ α} {P : α → Prop} {Q : β → Prop}

/-- Whatever a call answers, in any state, is of some kind. -/
def Gives (a : Action σ α) (P : α → Prop) : Prop :=
  ∀ s x s', a.perform s = (.ok x, s') → P x

/-- An answer that costs nothing is given. -/
lemma gives_pure {x : α} (h : P x) : (pure x : Action σ α).Gives P := by
  intro s y s' hy
  cases hy
  exact h

/-- A composed call answers as its second half does. -/
lemma gives_bind {f : α → Action σ β} (h : ∀ x, (f x).Gives Q) : (a >>= f).Gives Q := by
  intro s y s' hy
  obtain ⟨x, s₁, _, hx⟩ := perform_bind_eq_ok.mp hy
  exact h x s₁ y s' hx

/-- An answer may be put into another form. -/
lemma Gives.map {f : α → β} (h : a.Gives P) (hf : ∀ x, P x → Q (f x)) :
    (a >>= fun x => pure (f x)).Gives Q := by
  intro s y s' hy
  obtain ⟨x, s₁, hx, hpure⟩ := perform_bind_eq_ok.mp hy
  cases hpure
  exact hf x (h s x s' hx)

end Action

/-! ## Loading -/

/-- The objects that a loader makes of records, one after the other. -/
def EntityLoader.loadAll (loader : EntityLoader σ) : List Record → Action σ (List Entity)
  | [] => pure []
  | record :: records => do
    let e ← loader.load record
    let es ← loader.loadAll records
    return e :: es

/-- There is one object for each record. -/
lemma EntityLoader.length_of_loadAll {loader : EntityLoader σ} {records : List Record}
    {es : List Entity} {s s' : σ} (h : (loader.loadAll records).perform s = (.ok es, s')) :
    es.length = records.length := by
  induction records generalizing es s with
  | nil =>
    cases h
    rfl
  | cons record records ih =>
    obtain ⟨e, s₁, _, h⟩ := Action.perform_bind_eq_ok.mp h
    obtain ⟨es', s₂, hrest, h⟩ := Action.perform_bind_eq_ok.mp h
    cases h
    rw [List.length_cons, List.length_cons, ih hrest]

namespace Repository

/-! ## Objects that fit -/

section

variable (r : Repository σ)

/-- An object is of some kind and belongs to the entity of the repository. -/
def Owns (kind : ObjectKind) (e : Entity) : Prop :=
  e.kind = kind ∧ e.entityName = r.entityName

instance (kind : ObjectKind) (e : Entity) : Decidable (r.Owns kind e) :=
  inferInstanceAs (Decidable (_ ∧ _))

/-- How an object is reported that does not fit: by its entity, or else by its kind. -/
def mismatch (record : Record) (e : Entity) : FinderError :=
  if e.entityName ≠ r.entityName then .entityTypeMismatch r.entityName e.entityName
  else .entityTypeMismatch r.kind.typeName record.entity

end

variable {r : Repository σ} {record : Record} {records : List Record} {e : Entity}
  {es : List Entity} {s s' : σ}

/-- The objects that may be returned are those of the own kind and entity. -/
lemma accepts_iff : r.accepts e = true ↔ r.Owns r.kind e := by
  rw [accepts, Bool.and_eq_true, beq_iff_eq, beq_iff_eq, Owns, and_comm]

/-- An object that fits passes the check. -/
lemma checkObject_of_owns (h : r.Owns r.kind e) : r.checkObject record e = .ok e := by
  rw [checkObject, if_neg (not_not_intro h.2), if_neg (not_not_intro h.1)]

/-- An object that does not fit is reported by the check. -/
lemma checkObject_of_not_owns (h : ¬r.Owns r.kind e) :
    r.checkObject record e = .error (r.mismatch record e) := by
  rw [checkObject, mismatch]
  split_ifs with hname hkind
  · rfl
  · rfl
  · exact absurd ⟨not_not.mp hkind, not_not.mp hname⟩ h

/-- A record becomes the object that is made of it, if this fits. -/
lemma perform_hydrate_eq_ok : (r.hydrate record).perform s = (.ok e, s') ↔
    (r.loader.load record).perform s = (.ok e, s') ∧ r.Owns r.kind e := by
  rw [hydrate, Action.perform_bind_eq_ok]
  constructor
  · rintro ⟨e', s₁, hload, h⟩
    obtain ⟨hcheck, rfl⟩ := Prod.mk.inj h
    by_cases howns : r.Owns r.kind e'
    · rw [checkObject_of_owns howns] at hcheck
      cases hcheck
      exact ⟨hload, howns⟩
    · rw [checkObject_of_not_owns howns] at hcheck
      cases hcheck
  · rintro ⟨hload, howns⟩
    refine ⟨e, s', hload, ?_⟩
    rw [checkObject_of_owns howns]
    rfl

/-- Records become the objects that are made of them, if all of these fit. -/
theorem perform_hydrateAll_eq_ok : (r.hydrateAll records).perform s = (.ok es, s') ↔
    (r.loader.loadAll records).perform s = (.ok es, s') ∧ ∀ e ∈ es, r.Owns r.kind e := by
  induction records generalizing s es with
  | nil =>
    refine ⟨fun h => ⟨h, ?_⟩, fun h => h.1⟩
    cases h
    exact fun e he => (by cases he)
  | cons record records ih =>
    rw [hydrateAll, EntityLoader.loadAll, Action.perform_bind_eq_ok, Action.perform_bind_eq_ok]
    constructor
    · rintro ⟨e, s₁, hone, h⟩
      obtain ⟨es', s₂, hrest, h⟩ := Action.perform_bind_eq_ok.mp h
      cases h
      obtain ⟨hload, howns⟩ := perform_hydrate_eq_ok.mp hone
      obtain ⟨hloads, hall⟩ := ih.mp hrest
      exact ⟨⟨e, s₁, hload, Action.perform_bind_eq_ok.mpr ⟨es', s', hloads, rfl⟩⟩,
        List.forall_mem_cons.mpr ⟨howns, hall⟩⟩
    · rintro ⟨⟨e, s₁, hload, h⟩, hall⟩
      obtain ⟨es', s₂, hloads, h⟩ := Action.perform_bind_eq_ok.mp h
      cases h
      obtain ⟨howns, hall⟩ := List.forall_mem_cons.mp hall
      exact ⟨e, s₁, perform_hydrate_eq_ok.mpr ⟨hload, howns⟩,
        Action.perform_bind_eq_ok.mpr ⟨es', s', ih.mpr ⟨hloads, hall⟩, rfl⟩⟩

/-- An object that does not fit is not returned. -/
lemma outcome_hydrate_of_mismatch (hload : (r.loader.load record).perform s = (.ok e, s'))
    (h : ¬r.Owns r.kind e) : (r.hydrate record).outcome s = .error (r.mismatch record e) := by
  rw [hydrate, Action.outcome_bind, Action.outcome, hload]
  exact checkObject_of_not_owns h

/-- Of the objects that are made of records, the first one that does not fit is reported. -/
theorem hydrateAll_of_mismatch {before after : List (Record × Entity)}
    (hloads : (r.loader.loadAll records).perform s = (.ok es, s'))
    (hsplit : records.zip es = before ++ (record, e) :: after)
    (hbefore : ∀ hit ∈ before, r.Owns r.kind hit.2) (h : ¬r.Owns r.kind e) :
    (r.hydrateAll records).outcome s = .error (r.mismatch record e) := by
  induction records generalizing s es before with
  | nil => cases before <;> cases hsplit
  | cons first records ih =>
    obtain ⟨x, s₁, hload, hmore⟩ := Action.perform_bind_eq_ok.mp hloads
    obtain ⟨es', s₂, hrest, hpure⟩ := Action.perform_bind_eq_ok.mp hmore
    cases hpure
    rw [List.zip_cons_cons] at hsplit
    cases before with
    | nil =>
      obtain ⟨hfirst, -⟩ := List.cons.inj hsplit
      cases hfirst
      rw [hydrateAll, Action.outcome_bind, outcome_hydrate_of_mismatch hload h]
      rfl
    | cons hit before =>
      rw [List.cons_append] at hsplit
      obtain ⟨rfl, htail⟩ := List.cons.inj hsplit
      obtain ⟨howns, hbefore⟩ := List.forall_mem_cons.mp hbefore
      have hone := perform_hydrate_eq_ok.mpr ⟨hload, howns⟩
      rw [hydrateAll, Action.outcome_bind, Action.outcome, hone]
      change (r.hydrateAll records >>= fun es => pure (x :: es)).outcome s₁ = _
      rw [Action.outcome_bind, ih hrest htail hbefore]
      rfl

/-! ## Finders of many objects -/

/-- If an object does not fit, there is a first one that does not, and its record. -/
lemma exists_first_mismatch {kind : ObjectKind} (hlength : es.length = records.length)
    (h : ∃ e ∈ es, ¬r.Owns kind e) : ∃ before record e after,
      records.zip es = before ++ (record, e) :: after ∧
        (∀ hit ∈ before, r.Owns kind hit.2) ∧ ¬r.Owns kind e := by
  induction es generalizing records with
  | nil =>
    obtain ⟨e, he, _⟩ := h
    cases he
  | cons x es ih =>
    obtain _ | ⟨record, records⟩ := records
    · cases hlength
    rw [List.zip_cons_cons]
    by_cases hx : r.Owns kind x
    · obtain ⟨e, he, hnot⟩ := h
      have hrest : ∃ e ∈ es, ¬r.Owns kind e := by
        rcases List.mem_cons.mp he with rfl | he
        · exact absurd hx hnot
        · exact ⟨e, he, hnot⟩
      obtain ⟨before, record', e', after, hsplit, hbefore, hfirst⟩ :=
        ih (Nat.succ.inj hlength) hrest
      refine ⟨(record, x) :: before, record', e', after, ?_, ?_, hfirst⟩
      · rw [hsplit, List.cons_append]
      · exact List.forall_mem_cons.mpr ⟨hx, hbefore⟩
    · exact ⟨[], record, x, _, rfl, fun hit hhit => (by cases hhit), hx⟩

/-- A finder makes objects of all hits, or fails. -/
structure MakesAll (r : Repository σ) (kind : ObjectKind) (hits : Action σ (List Record))
    (finder : Action σ (List Entity)) : Prop where
  /-- What is answered are the objects that the loader has made of the hits, none left out. -/
  complete : ∀ s es s', finder.perform s = (.ok es, s') → ∃ records s₁,
    hits.perform s = (.ok records, s₁) ∧ (r.loader.loadAll records).perform s₁ = (.ok es, s')
  /-- If they all fit, they are answered. -/
  granted : ∀ s records s₁ es s', hits.perform s = (.ok records, s₁) →
    (r.loader.loadAll records).perform s₁ = (.ok es, s') → (∀ e ∈ es, r.Owns kind e) →
    finder.perform s = (.ok es, s')
  /-- If some do not fit, the first of these is reported. -/
  reported : ∀ s records s₁ es s', hits.perform s = (.ok records, s₁) →
    (r.loader.loadAll records).perform s₁ = (.ok es, s') → (∃ e ∈ es, ¬r.Owns kind e) →
    ∃ before record e after, records.zip es = before ++ (record, e) :: after ∧
      (∀ hit ∈ before, r.Owns kind hit.2) ∧ ¬r.Owns kind e ∧
        finder.outcome s = .error (r.mismatch record e)

/-- Turning hits into objects turns all of them into objects. -/
theorem makesAll_hydrateAll (r : Repository σ) (hits : Action σ (List Record)) :
    r.MakesAll r.kind hits (hits >>= r.hydrateAll) where
  complete s es s' h := by
    obtain ⟨records, s₁, hhits, hall⟩ := Action.perform_bind_eq_ok.mp h
    exact ⟨records, s₁, hhits, (perform_hydrateAll_eq_ok.mp hall).1⟩
  granted s records s₁ es s' hhits hloads hall :=
    Action.perform_bind_eq_ok.mpr
      ⟨records, s₁, hhits, perform_hydrateAll_eq_ok.mpr ⟨hloads, hall⟩⟩
  reported s records s₁ es s' hhits hloads hsome := by
    obtain ⟨before, record, e, after, hsplit, hbefore, hfirst⟩ :=
      exists_first_mismatch (EntityLoader.length_of_loadAll hloads) hsome
    refine ⟨before, record, e, after, hsplit, hbefore, hfirst, ?_⟩
    rw [Action.outcome_bind, Action.outcome, hhits]
    exact hydrateAll_of_mismatch hloads hsplit hbefore hfirst

/-! ## What is returned -/

section

variable (r)

/-- Records become objects that fit. -/
lemma gives_hydrateAll (records : List Record) :
    (r.hydrateAll records).Gives fun es => ∀ e ∈ es, r.Owns r.kind e := by
  intro s es s' h
  exact (perform_hydrateAll_eq_ok.mp h).2

/-- What is found by criteria fits. -/
lemma gives_findBy (c : Criteria) :
    (r.findBy c).Gives fun es => ∀ e ∈ es, r.Owns r.kind e := by
  rw [findBy_eq]
  exact Action.gives_bind r.gives_hydrateAll

/-- What is found first by criteria fits. -/
lemma gives_findOneBy (c : Criteria) :
    (r.findOneBy c).Gives fun found => ∀ e ∈ found, r.Owns r.kind e := by
  rw [findOneBy_eq]
  apply Action.gives_bind
  intro records
  cases records with
  | nil => exact Action.gives_pure fun e he => (by cases he)
  | cons record records =>
    have hone : (r.hydrate record).Gives (r.Owns r.kind) := by
      intro s e s' h
      exact (perform_hydrate_eq_ok.mp h).2
    refine hone.map fun e he e' he' => ?_
    cases he'
    exact he

/-- What is found by a token fits. -/
lemma gives_findByProperty (token value : String) :
    (r.findByProperty token value).Gives fun es => ∀ e ∈ es, r.Owns r.kind e :=
  Action.gives_bind r.gives_findBy

/-- What is found first by a token fits. -/
lemma gives_findOneByProperty (token value : String) :
    (r.findOneByProperty token value).Gives fun found => ∀ e ∈ found, r.Owns r.kind e :=
  Action.gives_bind r.gives_findOneBy

/-- What is found by a method name fits. -/
lemma gives_call (method : String) (args : List String) :
    (r.call method args).Gives fun output => ∀ e ∈ output.intoMany, r.Owns r.kind e := by
  apply Action.gives_bind
  intro finder
  apply Action.gives_bind
  intro value
  obtain ⟨kind, token⟩ := finder
  cases kind with
  | one =>
    refine (r.gives_findOneByProperty token value).map fun found hfound e he => ?_
    exact hfound e (Option.mem_toList.mp he)
  | many => exact (r.gives_findByProperty token value).map fun es hes => hes

/-! ## Objects by number -/

/-- Looking up an object ends as the loader does; an object that does not fit is left out. -/
lemma perform_find (id : Int) (s : σ) : (r.find id).perform s =
    (((r.loader.findById id).outcome s).map fun found => found.filter r.accepts,
      ((r.loader.findById id).perform s).2) := by
  rw [find, Action.perform_bind, Action.outcome]
  rcases (r.loader.findById id).perform s with ⟨_ | found, s'⟩ <;> rfl

/-- Looking up an object fails if the loader does. -/
lemma perform_find_eq_error {id : Int} {e : FinderError} :
    (r.find id).perform s = (.error e, s') ↔
      (r.loader.findById id).perform s = (.error e, s') := by
  rw [perform_find, Action.outcome]
  rcases (r.loader.findById id).perform s with ⟨e' | found, s₁⟩
  · exact Iff.rfl
  · constructor <;> intro h <;> cases h

end

/-! ## Guarding -/

/-- What a repository for objects of some kind returns, and what it does with other objects. -/
structure Guards (r : Repository σ) (kind : ObjectKind) : Prop where
  /-- What is looked up by its number fits. -/
  found : ∀ id, (r.find id).Gives fun found => ∀ e ∈ found, r.Owns kind e
  /-- All objects that are returned together fit. -/
  all : r.findAll.Gives fun es => ∀ e ∈ es, r.Owns kind e
  /-- What is found by criteria fits. -/
  many : ∀ c, (r.findBy c).Gives fun es => ∀ e ∈ es, r.Owns kind e
  /-- What is found first by criteria fits. -/
  one : ∀ c, (r.findOneBy c).Gives fun found => ∀ e ∈ found, r.Owns kind e
  /-- What is found by a token fits. -/
  manyByToken : ∀ token value,
    (r.findByProperty token value).Gives fun es => ∀ e ∈ es, r.Owns kind e
  /-- What is found first by a token fits. -/
  oneByToken : ∀ token value,
    (r.findOneByProperty token value).Gives fun found => ∀ e ∈ found, r.Owns kind e
  /-- What is found by a method name fits. -/
  called : ∀ method args,
    (r.call method args).Gives fun output => ∀ e ∈ output.intoMany, r.Owns kind e
  /-- An object that fits is found by its number. -/
  own : ∀ id s e s', (r.loader.findById id).perform s = (.ok (some e), s') → r.Owns kind e →
    (r.find id).perform s = (.ok (some e), s')
  /-- An object that does not fit counts as missing. -/
  other : ∀ id s e s', (r.loader.findById id).perform s = (.ok (some e), s') → ¬r.Owns kind e →
    (r.find id).perform s = (.ok none, s')
  /-- Where the loader finds nothing, nothing is found. -/
  missing : ∀ id s s', (r.loader.findById id).perform s = (.ok none, s') →
    (r.find id).perform s = (.ok none, s')
  /-- Looking up an object fails as the loader does, and in no other way. -/
  failing : ∀ id s e s', (r.find id).perform s = (.error e, s') ↔
    (r.loader.findById id).perform s = (.error e, s')
  /-- Finding all objects makes objects of all hits. -/
  allHits : r.MakesAll kind (r.index.query Criteria.matchAllQuery) r.findAll
  /-- Finding by criteria makes objects of all hits. -/
  manyHits : ∀ c, r.MakesAll kind (r.hits c) (r.findBy c)
  /-- Finding one by criteria does not pass over the first hit. -/
  firstHit : ∀ c s record after s₁ e s', (r.hits c).perform s = (.ok (record :: after), s₁) →
    (r.loader.load record).perform s₁ = (.ok e, s') → ¬r.Owns kind e →
    (r.findOneBy c).outcome s = .error (r.mismatch record e)

/-- **Every repository that can be built guards its objects**, whatever its index and its loader
do. -/
theorem guards_of_bind {m : EntityMetadata} {index : SearchIndex σ} {loader : EntityLoader σ}
    {singularizer : Singularizer} {kind : ObjectKind}
    (h : bind m index loader singularizer kind = .ok r) : r.Guards kind := by
  obtain rfl : r.kind = kind := by
    unfold bind at h
    split_ifs at h with hkind
    cases h
    exact hkind
  exact {
    found := fun id => (Action.gives_bind fun found => Action.gives_pure fun e he =>
      accepts_iff.mp (Option.mem_filter_iff.mp he).2)
    all := Action.gives_bind r.gives_hydrateAll
    many := r.gives_findBy
    one := r.gives_findOneBy
    manyByToken := r.gives_findByProperty
    oneByToken := r.gives_findOneByProperty
    called := r.gives_call
    own := by
      intro id s e s' hfound howns
      rw [perform_find, Action.outcome, hfound, Except.map, Option.filter_some,
        if_pos (accepts_iff.mpr howns)]
    other := by
      intro id s e s' hfound howns
      rw [perform_find, Action.outcome, hfound, Except.map, Option.filter_some,
        if_neg fun haccepts => howns (accepts_iff.mp haccepts)]
    missing := by
      intro id s s' hmissing
      rw [perform_find, Action.outcome, hmissing]
      rfl
    failing := fun id s e s' => r.perform_find_eq_error
    allHits := r.makesAll_hydrateAll _
    manyHits := fun c => by
      rw [findBy_eq]
      exact r.makesAll_hydrateAll _
    firstHit := by
      intro c s record after s₁ e s' hhits hload howns
      rw [findOneBy_eq, Action.outcome_bind, Action.outcome, hhits]
      change (r.hydrate record >>= fun e => pure (some e)).outcome s₁ = _
      rw [Action.outcome_bind, outcome_hydrate_of_mismatch hload howns]
      rfl }

/-! ### Films among cities -/

/-- The kind of objects for cities. -/
def cityKind : ObjectKind := ⟨"City"⟩

/-- Films, of which the first becomes a general object and all others become cities. -/
def filmedCities : Repository Unit where
  metadata := .ofDeclarations ⟨.node, "Film"⟩ [⟨"title", true⟩]
  index := ⟨fun _ => pure [titled 1 "metropolis", titled 2 "metropolis", titled 3 "rome"]⟩
  loader := ⟨fun record => pure ⟨if record.id = 1 then .node else cityKind, .ofRecord record⟩,
    fun id => pure (some ⟨cityKind, .ofRecord (titled id "metropolis")⟩)⟩
  singularizer := .suffix

/-- A city is not found among the films, and the first one makes the list of all films fail. -/
theorem guards_filmedCities :
    (filmedCities.find 2).perform () = (.ok none, ()) ∧
      filmedCities.findAll.outcome () =
        .error (.entityTypeMismatch "nodemap::entity::Node" "Film") := by
  have hguards : filmedCities.Guards .node := guards_of_bind (m := filmedCities.metadata) rfl
  refine ⟨hguards.other 2 () _ () rfl (by decide), ?_⟩
  obtain ⟨before, record, e, after, hsplit, hbefore, hnot, hreported⟩ :=
    hguards.allHits.reported () _ () _ () rfl rfl ⟨_, .tail _ (.head _), by decide⟩
  rw [hreported]
  obtain _ | ⟨first, _ | ⟨second, before⟩⟩ := before
  · cases hsplit
    exact absurd (by decide) hnot
  · cases hsplit
    rfl
  · have hsecond : some (titled 2 "metropolis",
        (⟨cityKind, .ofRecord (titled 2 "metropolis")⟩ : Entity)) = some second :=
      congrArg (·[1]?) hsplit
    cases hsecond
    exact absurd (hbefore _ (.tail _ (.head _))) (by decide)

end Repository

end EntityFinder
