import EntityFinder.Metadata.Registry
import EntityFinder.Proofs.Actions

set_option autoImplicit false

/-!
# What is remembered of metadata

Types are resolved one after the other, while the source of declarations may come to answer
otherwise at any time: declarations are registered or replaced, files are written and read again.
The first resolution of a type that succeeds decides all later ones. Until then every resolution
asks the source once, and what fails leaves nothing behind.

## Main definitions

* `EntityFinder.Resolution`: a resolution, what the source would have listed for it, and how it
  came out.
* `EntityFinder.ResolutionHistory`: the resolutions through one cache, from the empty one on.
* `EntityFinder.Remembers`: how resolutions depend on earlier ones, and what the cache tells of
  them.

## Main results

* `EntityFinder.MetadataCache.perform_resolve_known`,
  `EntityFinder.MetadataCache.perform_resolve_new`: the two ways in which a type is resolved.
* `EntityFinder.ResolutionHistory.reflects`: the cache keeps what has been resolved, and nothing
  else.
* `EntityFinder.ResolutionHistory.remembers`: the first success of a type decides all later
  resolutions of it.
-/

namespace EntityFinder

variable {σ : Type}

/-! ## One resolution -/

/-- Counting the questions changes nothing but the count. -/
lemma MetadataSource.perform_counted (source : MetadataSource σ) (type : EntityType) (s : σ)
    (n : Nat) : (source.counted.introspect type).perform (s, n) =
      ((source.introspect type).outcome s, ((source.introspect type).perform s).2, n + 1) := rfl

namespace MetadataCache

/-- A cache after a resolution of a type that it did not have: metadata is kept, failures are not. -/
def learn (cache : MetadataCache) : Except FinderError EntityMetadata → MetadataCache
  | .ok m => cache.keep m
  | .error _ => cache

variable {cache : MetadataCache} {source : MetadataSource σ} {type : EntityType}
  {m : EntityMetadata}

/-- A type that has been resolved is answered without the source. -/
theorem perform_resolve_known (h : cache.find? type = some m) (s : σ) :
    (resolve source type).perform (cache, s) = (.ok m, cache, s) := by
  rw [resolve, Action.perform_bind, Action.perform_get]
  simp only [h]
  rfl

/-- A type that has not been resolved is built from what the source lists. -/
theorem perform_resolve_new (h : cache.find? type = none) (s : σ) :
    (resolve source type).perform (cache, s) =
      ((source.introspect type).outcome s >>= build type,
        cache.learn ((source.introspect type).outcome s >>= build type),
        ((source.introspect type).perform s).2) := by
  rw [resolve, Action.perform_bind, Action.perform_get, Action.outcome]
  simp only [h, Action.perform_bind, Action.onSecond, Action.onPart, Action.perform_ofFunction]
  rcases (source.introspect type).perform s with ⟨e | declarations, s'⟩
  · rfl
  · have hmade : (Except.ok declarations >>= build type) = build type declarations := rfl
    simp only [hmade]
    cases build type declarations <;> rfl

/-- Metadata is built from declarations, of which there is one at least. -/
lemma build_eq_ok {declarations : List PropertyDeclaration} :
    build type declarations = .ok m ↔
      declarations ≠ [] ∧ m = .ofDeclarations type declarations := by
  rw [build]
  cases declarations with
  | nil => simp
  | cons d declarations => simp [eq_comm]

/-- Nothing is built if nothing is declared. -/
lemma build_eq_error {declarations : List PropertyDeclaration} {e : FinderError} :
    build type declarations = .error e ↔
      declarations = [] ∧ e = .metadata type.name "introspection yielded no properties" := by
  rw [build]
  cases declarations with
  | nil => simp [eq_comm]
  | cons d declarations => simp

/-- What is found for a type is metadata of this type that is kept. -/
lemma of_find? (h : cache.find? type = some m) : m ∈ cache.entries ∧ m.entityType = type := by
  rw [find?] at h
  exact ⟨List.mem_of_find?_eq_some h, by simpa using List.find?_some h⟩

/-- Nothing is found for a type if none of the metadata that is kept is of this type. -/
lemma find?_eq_none : cache.find? type = none ↔ ∀ m ∈ cache.entries, m.entityType ≠ type := by
  rw [find?, List.find?_eq_none]
  simp

end MetadataCache

/-! ## Histories -/

/-- A resolution and how it came out. -/
structure Resolution where
  /-- The type that was resolved. -/
  type : EntityType
  /-- What the source would list for the type at that moment, asked or not. -/
  listed : Except FinderError (List PropertyDeclaration)
  /-- The metadata, or why there was none. -/
  outcome : Except FinderError EntityMetadata
  /-- How often the source was asked. -/
  asked : Nat
  /-- What had been resolved before. -/
  before : MetadataCache
  /-- What has been resolved afterwards. -/
  after : MetadataCache

/-- The resolution of a type by a cache with a source in some state, which has been asked some
number of times. -/
def MetadataSource.resolution (source : MetadataSource σ) (type : EntityType) :
    MetadataCache × σ × Nat → Resolution
  | (cache, s, n) =>
    let (outcome, cache', _, n') :=
      (MetadataCache.resolve source.counted type).perform (cache, s, n)
    ⟨type, (source.introspect type).outcome s, outcome, n' - n, cache, cache'⟩

/-- The resolutions through one cache, the latest in front, and what they lead to. The source may be
changed in any way between them. -/
inductive ResolutionHistory (source : MetadataSource σ) :
    List Resolution → MetadataCache × σ × Nat → Prop
  /-- Nothing has been resolved. -/
  | start (s : σ) : ResolutionHistory source [] (.empty, s, 0)
  /-- The source comes to answer otherwise. -/
  | change {log : List Resolution} {cache : MetadataCache} {s : σ} {n : Nat} (s' : σ) :
    ResolutionHistory source log (cache, s, n) → ResolutionHistory source log (cache, s', n)
  /-- One more type is resolved. -/
  | resolve {log : List Resolution} {state : MetadataCache × σ × Nat} (type : EntityType) :
    ResolutionHistory source log state →
      ResolutionHistory source (source.resolution type state :: log)
        ((MetadataCache.resolve source.counted type).perform state).2

/-! ## What the cache tells of the resolutions -/

/-- The cache has the metadata of the types that have been resolved, each once. -/
structure Reflects (log : List Resolution) (cache : MetadataCache) : Prop where
  /-- No type is kept twice. -/
  nodup : (cache.entries.map (·.entityType)).Nodup
  /-- What is kept are the successes. -/
  mem_iff : ∀ m, m ∈ cache.entries ↔ ∃ entry ∈ log, entry.outcome = .ok m
  /-- Metadata is of the type that was resolved. -/
  typed : ∀ entry ∈ log, ∀ m, entry.outcome = .ok m → m.entityType = entry.type

namespace Reflects

variable {log : List Resolution} {cache : MetadataCache} {type : EntityType} {m : EntityMetadata}

/-- Metadata is found for a type if the type has been resolved to it. -/
lemma find?_eq_some (h : Reflects log cache) :
    cache.find? type = some m ↔ ∃ entry ∈ log, entry.type = type ∧ entry.outcome = .ok m := by
  constructor
  · intro hm
    obtain ⟨hmem, htype⟩ := MetadataCache.of_find? hm
    obtain ⟨entry, hentry, hok⟩ := (h.mem_iff m).mp hmem
    exact ⟨entry, hentry, (h.typed entry hentry m hok).symm.trans htype, hok⟩
  · rintro ⟨entry, hentry, rfl, hok⟩
    have hmem := (h.mem_iff m).mpr ⟨entry, hentry, hok⟩
    have htype := h.typed entry hentry m hok
    cases hfind : cache.find? entry.type with
    | none => exact absurd htype (MetadataCache.find?_eq_none.mp hfind m hmem)
    | some m' =>
      obtain ⟨hmem', htype'⟩ := MetadataCache.of_find? hfind
      rw [List.inj_on_of_nodup_map h.nodup hmem' hmem (htype'.trans htype.symm)]

/-- Nothing is found for a type if every resolution of it has failed. -/
lemma find?_eq_none (h : Reflects log cache) : cache.find? type = none ↔
    ∀ entry ∈ log, entry.type = type → ∀ m, entry.outcome ≠ .ok m := by
  rw [Option.eq_none_iff_forall_ne_some]
  constructor
  · intro hnone entry hentry htype m hok
    exact hnone m (h.find?_eq_some.mpr ⟨entry, hentry, htype, hok⟩)
  · intro hfailed m hsome
    obtain ⟨entry, hentry, htype, hok⟩ := h.find?_eq_some.mp hsome
    exact hfailed entry hentry htype m hok

/-- A resolution that fails, or comes to what is kept, changes nothing. -/
lemma unchanged (h : Reflects log cache) {entry : Resolution}
    (hok : ∀ m, entry.outcome = .ok m → m ∈ cache.entries ∧ m.entityType = entry.type) :
    Reflects (entry :: log) cache where
  nodup := h.nodup
  mem_iff m := by
    rw [h.mem_iff]
    constructor
    · rintro ⟨entry', hentry', hok'⟩
      exact ⟨entry', .tail _ hentry', hok'⟩
    · rintro ⟨entry', hentry', hok'⟩
      rcases List.mem_cons.mp hentry' with rfl | hentry'
      · exact (h.mem_iff m).mp (hok m hok').1
      · exact ⟨entry', hentry', hok'⟩
  typed := List.forall_mem_cons.mpr ⟨fun m hm => (hok m hm).2, h.typed⟩

/-- A first success is kept. -/
lemma learned (h : Reflects log cache) {entry : Resolution} (hfind : cache.find? entry.type = none)
    (hok : entry.outcome = .ok m) (htype : m.entityType = entry.type) :
    Reflects (entry :: log) (cache.keep m) where
  nodup := by
    rw [MetadataCache.keep, List.map_append, List.nodup_append]
    refine ⟨h.nodup, List.nodup_singleton _, ?_⟩
    intro a ha b hb
    obtain ⟨m', hm', rfl⟩ := List.mem_map.mp ha
    obtain rfl : b = m.entityType := List.mem_singleton.mp hb
    rw [htype]
    exact MetadataCache.find?_eq_none.mp hfind m' hm'
  mem_iff m' := by
    rw [MetadataCache.keep, List.mem_append, List.mem_singleton, h.mem_iff]
    constructor
    · rintro (⟨entry', hentry', hok'⟩ | rfl)
      · exact ⟨entry', .tail _ hentry', hok'⟩
      · exact ⟨entry, .head _, hok⟩
    · rintro ⟨entry', hentry', hok'⟩
      rcases List.mem_cons.mp hentry' with rfl | hentry'
      · cases hok.symm.trans hok'
        exact .inr rfl
      · exact .inl ⟨entry', hentry', hok'⟩
  typed := List.forall_mem_cons.mpr ⟨fun m' hok' => by
    cases hok.symm.trans hok'
    exact htype, h.typed⟩

end Reflects

/-! ## Steps -/

section

variable {source : MetadataSource σ} {cache : MetadataCache} {type : EntityType}
  {m : EntityMetadata} {log : List Resolution}

/-- A type that is known is resolved without the source. -/
lemma MetadataSource.resolution_known (h : cache.find? type = some m) (s : σ) (n : Nat) :
    source.resolution type (cache, s, n) =
      ⟨type, (source.introspect type).outcome s, .ok m, 0, cache, cache⟩ := by
  rw [resolution, MetadataCache.perform_resolve_known h]
  simp only [Nat.sub_self]

/-- A type that is not known is resolved with one question. -/
lemma MetadataSource.resolution_new (h : cache.find? type = none) (s : σ) (n : Nat) :
    source.resolution type (cache, s, n) =
      ⟨type, (source.introspect type).outcome s,
        (source.introspect type).outcome s >>= MetadataCache.build type, 1, cache,
        cache.learn ((source.introspect type).outcome s >>= MetadataCache.build type)⟩ := by
  rw [resolution, MetadataCache.perform_resolve_new h, Action.outcome,
    MetadataSource.perform_counted]
  simp only [Nat.add_sub_cancel_left]

/-- How a resolution comes out after those before it. -/
structure Resolution.Follows (entry : Resolution) (earlier : List Resolution) : Prop where
  /-- What the type has been resolved to before is what it is resolved to now, and the source is not
  asked. -/
  again : ∀ e ∈ earlier, e.type = entry.type → ∀ m, e.outcome = .ok m →
    entry.outcome = .ok m ∧ entry.asked = 0
  /-- A first success is the metadata of what the source lists, which is asked once. -/
  first : (∀ e ∈ earlier, e.type = entry.type → ∀ m, e.outcome ≠ .ok m) →
    ∀ m, entry.outcome = .ok m → entry.asked = 1 ∧ ∃ declarations,
      entry.listed = .ok declarations ∧ declarations ≠ [] ∧
        m = .ofDeclarations entry.type declarations
  /-- A failure is that of the source, or there is nothing in what the source lists. The source is
  asked once, and nothing is kept. -/
  failed : ∀ e, entry.outcome = .error e → entry.asked = 1 ∧ entry.after = entry.before ∧
    (entry.listed = .error e ∨ entry.listed = .ok [] ∧
      e = .metadata entry.type.name "introspection yielded no properties")
  /-- What is kept for other types stays as it is. -/
  others : ∀ type, type ≠ entry.type → entry.after.find? type = entry.before.find? type

/-- The metadata of one type is not found for another. -/
lemma MetadataCache.find?_keep_of_ne {type' : EntityType} (h : m.entityType = type)
    (hne : type' ≠ type) : (cache.keep m).find? type' = cache.find? type' := by
  have hm : (m.entityType == type') = false := beq_false_of_ne (by rw [h]; exact hne.symm)
  rw [keep, find?, List.find?_append, List.find?_singleton, hm]
  exact Option.or_none

/-- One more resolution comes out as it has to after those that the cache tells of. -/
theorem Reflects.follows (h : Reflects log cache) (source : MetadataSource σ) (type : EntityType)
    (s : σ) (n : Nat) : (source.resolution type (cache, s, n)).Follows log := by
  cases hfind : cache.find? type with
  | some m =>
    rw [MetadataSource.resolution_known hfind]
    refine ⟨fun e he htype m' hm' => ?_, fun hnone => ?_, fun e he => (by cases he),
      fun _ _ => rfl⟩
    · have hfind' := h.find?_eq_some.mpr ⟨e, he, htype, hm'⟩
      cases hfind.symm.trans hfind'
      exact ⟨rfl, rfl⟩
    · cases hfind.symm.trans (h.find?_eq_none.mpr hnone)
  | none =>
    rw [MetadataSource.resolution_new hfind]
    refine ⟨fun e he htype m' hm' => ?_, fun _ m hm => ?_, fun e he => ?_, fun type' hne => ?_⟩
    · exact absurd hm' (h.find?_eq_none.mp hfind e he htype m')
    · obtain ⟨declarations, hlisted, hbuild⟩ := bind_eq_ok.mp hm
      exact ⟨rfl, declarations, hlisted, MetadataCache.build_eq_ok.mp hbuild⟩
    · dsimp only at he ⊢
      refine ⟨rfl, by rw [he]; rfl, ?_⟩
      cases hlisted : (source.introspect type).outcome s with
      | error e' =>
        rw [hlisted] at he
        cases he
        exact .inl rfl
      | ok declarations =>
        rw [hlisted] at he
        obtain ⟨rfl, hempty⟩ := MetadataCache.build_eq_error.mp he
        exact .inr ⟨rfl, hempty⟩
    · change (cache.learn _).find? type' = cache.find? type'
      cases hmade : (source.introspect type).outcome s >>= MetadataCache.build type with
      | error e => rfl
      | ok m =>
        obtain ⟨declarations, _, hbuild⟩ := bind_eq_ok.mp hmade
        have htype : m.entityType = type := by
          rw [(MetadataCache.build_eq_ok.mp hbuild).2]
          rfl
        exact MetadataCache.find?_keep_of_ne htype hne

end

/-! ## Runs -/

namespace ResolutionHistory

variable {source : MetadataSource σ} {log : List Resolution} {state : MetadataCache × σ × Nat}

/-- The cache keeps what has been resolved, and nothing else. -/
theorem reflects (h : ResolutionHistory source log state) : Reflects log state.1 := by
  induction h with
  | start s => exact ⟨List.nodup_nil, by simp [MetadataCache.empty], by simp⟩
  | change s' _ ih => exact ih
  | @resolve log state type _ ih =>
    obtain ⟨cache, s, n⟩ := state
    change Reflects (source.resolution type (cache, s, n) :: log)
      (source.resolution type (cache, s, n)).after
    cases hfind : cache.find? type with
    | some m =>
      rw [MetadataSource.resolution_known hfind]
      apply ih.unchanged
      intro m' hm'
      cases hm'
      exact MetadataCache.of_find? hfind
    | none =>
      rw [MetadataSource.resolution_new hfind]
      cases hmade : (source.introspect type).outcome s >>= MetadataCache.build type with
      | error e =>
        apply ih.unchanged
        intro m hm
        cases hm
      | ok m =>
        obtain ⟨declarations, _, hbuild⟩ := bind_eq_ok.mp hmade
        refine ih.learned hfind rfl ?_
        rw [(MetadataCache.build_eq_ok.mp hbuild).2]
        rfl

/-- Every resolution comes out as it has to after those before it. -/
theorem follows (h : ResolutionHistory source log state) {later earlier : List Resolution}
    {entry : Resolution} (hsplit : log = later ++ entry :: earlier) : entry.Follows earlier := by
  induction h generalizing later with
  | start s => cases later <;> cases hsplit
  | change s' _ ih => exact ih hsplit
  | resolve type hbefore ih =>
    cases later with
    | nil =>
      cases hsplit
      exact hbefore.reflects.follows source type _ _
    | cons e later =>
      cases hsplit
      exact ih rfl

end ResolutionHistory

/-! ## Remembering -/

/-- The type of a resolution that has succeeded. -/
def Resolution.resolved? (entry : Resolution) : Option EntityType :=
  match entry.outcome with
  | .ok _ => some entry.type
  | .error _ => none

/-- How resolutions depend on each other, and what the cache tells of them. -/
structure Remembers (log : List Resolution) (cache : MetadataCache) : Prop where
  /-- Each resolution depends on those before it. -/
  follows : ∀ later entry earlier, log = later ++ entry :: earlier → entry.Follows earlier
  /-- The types that are cached are those that have been resolved. -/
  cached : ∀ type, cache.isCached type = true ↔
    ∃ entry ∈ log, entry.type = type ∧ ∃ m, entry.outcome = .ok m
  /-- There is one entry for each of them. -/
  size : cache.size = (log.filterMap Resolution.resolved?).toFinset.card
  /-- Types that differ in their names or in their kinds have no entry in common. -/
  apart : ∀ type type' m, cache.find? type = some m → cache.find? type' = some m → type = type'

/-- The types that are kept are those that have been resolved. -/
lemma Reflects.toFinset_types {log : List Resolution} {cache : MetadataCache}
    (h : Reflects log cache) : (cache.entries.map (·.entityType)).toFinset =
      (log.filterMap Resolution.resolved?).toFinset := by
  ext type
  simp only [List.mem_toFinset, List.mem_map, List.mem_filterMap, h.mem_iff]
  constructor
  · rintro ⟨m, ⟨entry, hentry, hok⟩, rfl⟩
    refine ⟨entry, hentry, ?_⟩
    rw [Resolution.resolved?, hok, h.typed entry hentry m hok]
  · rintro ⟨entry, hentry, hresolved⟩
    cases hok : entry.outcome with
    | error e => simp [Resolution.resolved?, hok] at hresolved
    | ok m =>
      refine ⟨m, ⟨entry, hentry, hok⟩, ?_⟩
      simpa [Resolution.resolved?, hok, h.typed entry hentry m hok] using hresolved

/-- **The first success of a type decides all later resolutions of it**, whatever the source comes
to answer. -/
theorem ResolutionHistory.remembers {source : MetadataSource σ} {log : List Resolution}
    {state : MetadataCache × σ × Nat} (h : ResolutionHistory source log state) :
    Remembers log state.1 where
  follows later entry earlier hsplit := h.follows hsplit
  cached type := by
    rw [MetadataCache.isCached, Option.isSome_iff_exists]
    constructor
    · rintro ⟨m, hm⟩
      obtain ⟨entry, hentry, htype, hok⟩ := h.reflects.find?_eq_some.mp hm
      exact ⟨entry, hentry, htype, m, hok⟩
    · rintro ⟨entry, hentry, htype, m, hok⟩
      exact ⟨m, h.reflects.find?_eq_some.mpr ⟨entry, hentry, htype, hok⟩⟩
  size := by
    rw [← h.reflects.toFinset_types, List.toFinset_card_of_nodup h.reflects.nodup, List.length_map]
    rfl
  apart type type' m hm hm' :=
    (MetadataCache.of_find? hm).2.symm.trans (MetadataCache.of_find? hm').2

/-- The general objects of films. -/
def filmType : EntityType := ⟨.node, "Film"⟩

/-- Films that are registered with a title after a first attempt, and later with a year instead. -/
lemma ResolutionHistory.films : ∃ third second first state,
    ResolutionHistory Registry.source [third, second, first] state ∧
      third.type = filmType ∧ third.listed = .ok [⟨"year", true⟩] ∧
      second.type = filmType ∧ second.outcome = .ok (.ofDeclarations filmType [⟨"title", true⟩]) ∧
      first.outcome = .error (.metadata "Film" "entity type is not registered") :=
  let titled := Registry.empty.register filmType [⟨"title", true⟩]
  let dated := titled.register filmType [⟨"year", true⟩]
  ⟨_, _, _, _, .resolve filmType (.change dated (.resolve filmType (.change titled
    (.resolve filmType (.start .empty))))), rfl, rfl, rfl, rfl, rfl⟩

/-- Films keep their titles, though the source has come to list their years. -/
theorem ResolutionHistory.remembers_films : ∃ third second first state,
    ResolutionHistory Registry.source [third, second, first] state ∧
      third.listed = .ok [⟨"year", true⟩] ∧
      third.outcome = .ok (.ofDeclarations filmType [⟨"title", true⟩]) ∧ third.asked = 0 ∧
      state.1.isCached filmType = true := by
  obtain ⟨third, second, first, state, h, htype, hlisted, htype', hok, _⟩ := films
  obtain ⟨hkept, hasked⟩ := (h.remembers.follows [] third _ rfl).again second (.head _)
    (htype'.trans htype.symm) _ hok
  exact ⟨third, second, first, state, h, hlisted, hkept, hasked,
    (h.remembers.cached filmType).mpr ⟨third, .head _, htype, _, hkept⟩⟩

end EntityFinder
