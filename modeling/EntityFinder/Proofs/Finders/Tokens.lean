import EntityFinder.Proofs.Declarations
import EntityFinder.Proofs.Finders.Agreement
import EntityFinder.Proofs.Queries.Unambiguous

set_option autoImplicit false

/-!
# What tokens mean

A token means the first indexed property that has its form. Whatever stands in front of the token in
a method name, and however the token is padded, capitalised or put into the plural, a property is out
of reach if another one of the same form is declared before it, or if nothing is left of its name in
its form. All other indexed properties are reached by their own names.

## Main definitions

* `EntityFinder.Singularizer.IsFirstOfForm`: the first of some properties that has a form.
* `EntityFinder.EntityMetadata.CallsFor`: a method name whose token means a property.
* `EntityFinder.EntityMetadata.ReachesFirst`: the properties that method names call for.

## Main results

* `EntityFinder.Singularizer.resolve_eq_ok`: what a token means, by any rule for names.
* `EntityFinder.EntityMetadata.reachesFirst_ofDeclarations`: a property is called for by some method
  name exactly if it is the first one of its form, and then by its own name.
-/

namespace EntityFinder

namespace Singularizer

variable {s : Singularizer} {m : EntityMetadata} {token form name : String}
  {properties : List PropertyDeclaration} {p : PropertyDeclaration}

/-! ## The first property of a form -/

/-- A property is the first one that has a form. -/
def IsFirstOfForm (s : Singularizer) (form : String) (properties : List PropertyDeclaration)
    (p : PropertyDeclaration) : Prop :=
  ∃ before after, properties = before ++ p :: after ∧ s.singular p.name = form ∧
    ∀ b ∈ before, s.singular b.name ≠ form

/-- The property that is found for a form is the first one that has it. -/
lemma firstOfForm?_eq_some :
    s.firstOfForm? form properties = some p ↔ s.IsFirstOfForm form properties p := by
  rw [firstOfForm?, List.find?_eq_some_iff_append, IsFirstOfForm]
  simp only [beq_iff_eq, Bool.not_eq_true', beq_eq_false_iff_ne]
  constructor
  · rintro ⟨hform, before, after, hsplit, hbefore⟩
    exact ⟨before, after, hsplit, hform, hbefore⟩
  · rintro ⟨before, after, hsplit, hform, hbefore⟩
    exact ⟨hform, before, after, hsplit, hbefore⟩

/-- No property is found for a form if none has it. -/
lemma firstOfForm?_eq_none :
    s.firstOfForm? form properties = none ↔ ∀ p ∈ properties, s.singular p.name ≠ form := by
  rw [firstOfForm?, List.find?_eq_none]
  simp only [beq_iff_eq, ne_eq]

/-! ## Resolution -/

/-- A token of which nothing is left in its form is refused, and counts as not declared. -/
lemma resolve_of_empty (h : s.singular (Text.trim token) = "") :
    s.resolve m token = .error (.unindexedProperty m.entityName token false) := by
  rw [resolve]
  exact if_pos h

/-- A token means the first indexed property that has its form. -/
lemma resolve_of_first (hform : s.singular (Text.trim token) ≠ "")
    (h : s.IsFirstOfForm (s.singular (Text.trim token)) m.indexedProperties p) :
    s.resolve m token = .ok p.name := by
  rw [resolve]
  simp only [if_neg hform, firstOfForm?_eq_some.mpr h]

/-- If the form of a token is that of properties none of which is indexed, the token is refused and
counts as declared. -/
lemma resolve_of_plain (hform : s.singular (Text.trim token) ≠ "")
    (h : ∀ q ∈ m.indexedProperties, s.singular q.name ≠ s.singular (Text.trim token))
    (hp : p ∈ m.properties) (hsame : s.singular p.name = s.singular (Text.trim token)) :
    s.resolve m token =
      .error (.unindexedProperty m.entityName (s.singular (Text.trim token)) true) := by
  have hdeclared : (s.firstOfForm? (s.singular (Text.trim token)) m.properties).isSome = true := by
    rw [Option.isSome_iff_ne_none]
    exact fun hnone => firstOfForm?_eq_none.mp hnone p hp hsame
  rw [resolve]
  simp only [if_neg hform, firstOfForm?_eq_none.mpr h, hdeclared]

/-- **What a token means**: the first indexed property that has its form, unless the form is
empty. -/
theorem resolve_eq_ok : s.resolve m token = .ok name ↔
    s.singular (Text.trim token) ≠ "" ∧
      ∃ p, s.IsFirstOfForm (s.singular (Text.trim token)) m.indexedProperties p ∧
        p.name = name := by
  constructor
  · intro h
    by_cases hform : s.singular (Text.trim token) = ""
    · rw [resolve_of_empty hform] at h
      cases h
    · refine ⟨hform, ?_⟩
      rw [resolve] at h
      simp only [if_neg hform] at h
      split at h
      · next p hp => exact ⟨p, firstOfForm?_eq_some.mp hp, Except.ok.inj h⟩
      · cases h
  · rintro ⟨hform, p, hp, rfl⟩
    exact resolve_of_first hform hp

end Singularizer

/-! ## Names as tokens -/

namespace Text

/-- A text without blanks is not trimmed. -/
lemma trim_eq_self {s : String} (h : ∀ c ∈ s.toList, isBlank c = false) : trim s = s := by
  have hkept : ∀ cs : List Char, (∀ c ∈ cs, isBlank c = false) → cs.dropWhile isBlank = cs := by
    intro cs hcs
    cases cs with
    | nil => rfl
    | cons c cs => exact List.dropWhile_cons_of_neg (by rw [hcs c (.head _)]; decide)
  rw [trim, trimChars, hkept _ h, trimRight, hkept _ fun c hc => h c (List.mem_reverse.mp hc),
    List.reverse_reverse, String.ofList_toList]

/-- An identifier is not trimmed. -/
lemma trim_of_isIdentifier {s : String} (h : isIdentifier s = true) : trim s = s :=
  trim_eq_self fun c hc => isBlank_of_isIdentifierPart (all_isIdentifierPart h c hc)

/-- An identifier is not empty. -/
lemma ne_empty_of_isIdentifier {s : String} (h : isIdentifier s = true) : s ≠ "" := by
  rintro rfl
  cases h

end Text

/-! ## Properties within reach -/

namespace EntityMetadata

/-- A method name of some kind calls for a property: it is read as a call with a token that means
the property. -/
def CallsFor (m : EntityMetadata) (kind : FinderKind) (method : String)
    (p : PropertyDeclaration) : Prop :=
  ∃ token, FinderCall.parse method = .ok ⟨kind, token⟩ ∧
    Singularizer.suffix.resolve m token = .ok p.name

/-- The properties that method names call for are the first ones of their forms. -/
structure ReachesFirst (m : EntityMetadata) : Prop where
  /-- Some method name calls for an indexed property exactly if its form is not empty and no indexed
  property that is declared before it has the same form. -/
  called_iff : ∀ kind before p after, m.indexedProperties = before ++ p :: after →
    ((∃ method, m.CallsFor kind method p) ↔
      Singularizer.suffix.singular p.name ≠ "" ∧
        ∀ q ∈ before, Singularizer.suffix.singular q.name ≠ Singularizer.suffix.singular p.name)
  /-- Then its own name behind the opening is such a method name. -/
  called_by_name : ∀ kind before p after, m.indexedProperties = before ++ p :: after →
    Singularizer.suffix.singular p.name ≠ "" →
    (∀ q ∈ before, Singularizer.suffix.singular q.name ≠ Singularizer.suffix.singular p.name) →
    m.CallsFor kind (kind.opening ++ p.name) p
  /-- What a token means is the name of an indexed property, and of no other one. -/
  indexed : ∀ token name, Singularizer.suffix.resolve m token = .ok name →
    m.property? name = some ⟨name, true⟩

variable {m : EntityMetadata} {before after : List PropertyDeclaration} {p : PropertyDeclaration}

/-- An indexed property is one of the properties. -/
lemma mem_of_indexed (h : m.indexedProperties = before ++ p :: after) :
    p ∈ m.properties ∧ p.indexed = true := by
  have hmem : p ∈ m.indexedProperties := by
    rw [h]
    exact List.mem_append_right _ (.head _)
  exact List.mem_filter.mp hmem

/-- A property that is the first one of its form is called for by its name. -/
lemma callsFor_name (hname : Text.isIdentifier p.name = true) (kind : FinderKind)
    (hp : m.indexedProperties = before ++ p :: after)
    (hform : Singularizer.suffix.singular p.name ≠ "")
    (hbefore : ∀ q ∈ before,
      Singularizer.suffix.singular q.name ≠ Singularizer.suffix.singular p.name) :
    m.CallsFor kind (kind.opening ++ p.name) p := by
  refine ⟨p.name, FinderCall.parse_methodName ⟨kind, p.name⟩ (Text.ne_empty_of_isIdentifier hname),
    Singularizer.resolve_of_first ?_ ?_⟩
  · rwa [Text.trim_of_isIdentifier hname]
  · rw [Text.trim_of_isIdentifier hname]
    exact ⟨before, after, hp, rfl, hbefore⟩

/-- Where names are distinct, a token means an indexed property only if this is the first one of its
form, and the form is not empty. -/
lemma first_of_resolve (hnodup : (m.properties.map (·.name)).Nodup) {token : String}
    (hp : m.indexedProperties = before ++ p :: after)
    (h : Singularizer.suffix.resolve m token = .ok p.name) :
    Singularizer.suffix.singular p.name ≠ "" ∧
      ∀ b ∈ before, Singularizer.suffix.singular b.name ≠ Singularizer.suffix.singular p.name := by
  obtain ⟨hform, q, hq, hname⟩ := Singularizer.resolve_eq_ok.mp h
  have hsame : Singularizer.suffix.singular p.name =
      Singularizer.suffix.singular (Text.trim token) := by
    obtain ⟨_, _, _, hsame, _⟩ := hq
    rw [← hname, hsame]
  rw [hsame]
  refine ⟨hform, fun b hb hbform => ?_⟩
  -- otherwise the property that is found would stand before the one that has its name
  have hbefore : (Singularizer.suffix.firstOfForm?
      (Singularizer.suffix.singular (Text.trim token)) before).isSome = true := by
    rw [Option.isSome_iff_ne_none]
    exact fun hnone => Singularizer.firstOfForm?_eq_none.mp hnone b hb hbform
  have hfound := Singularizer.firstOfForm?_eq_some.mpr hq
  rw [hp, Singularizer.firstOfForm?, List.find?_append, ← Singularizer.firstOfForm?,
    Option.or_of_isSome hbefore] at hfound
  have hindexed : (m.indexedProperties.map (·.name)).Nodup :=
    hnodup.sublist (List.filter_sublist.map _)
  rw [hp, List.map_append, List.nodup_append] at hindexed
  exact hindexed.2.2 q.name (List.mem_map_of_mem (List.mem_of_find?_eq_some hfound)) p.name
    (.head _) hname

/-- **A property is called for by some method name exactly if it is the first one of its form**, and
then by its own name. No token means a property that is not indexed. -/
theorem reachesFirst_ofDeclarations (type : EntityType) (declarations : List PropertyDeclaration)
    (hnames : ∀ p ∈ (ofDeclarations type declarations).properties,
      Text.isIdentifier p.name = true) : (ofDeclarations type declarations).ReachesFirst where
  called_iff kind before p after hp := by
    constructor
    · rintro ⟨method, token, -, hresolve⟩
      exact first_of_resolve (nodup_ofDeclarations type declarations) hp hresolve
    · rintro ⟨hform, hbefore⟩
      exact ⟨_, callsFor_name (hnames p (mem_of_indexed hp).1) kind hp hform hbefore⟩
  called_by_name kind before p after hp hform hbefore :=
    callsFor_name (hnames p (mem_of_indexed hp).1) kind hp hform hbefore
  indexed token name h := by
    obtain ⟨-, p, ⟨before, after, hp, -⟩, rfl⟩ := Singularizer.resolve_eq_ok.mp h
    obtain ⟨hmem, hindexed⟩ := mem_of_indexed hp
    rw [property?_eq_some_of_mem (nodup_ofDeclarations type declarations) hmem, ← hindexed]

/-- Films with a title, another property of the same form, and one of which nothing is left. -/
def manyTitled : EntityMetadata :=
  .ofDeclarations ⟨.node, "Film"⟩ [⟨"title", true⟩, ⟨"titles", true⟩, ⟨"s", true⟩]

/-- Films are found by their title, and no method name finds them by the other two properties. -/
theorem reachesFirst_manyTitled :
    manyTitled.CallsFor .many "findBytitle" ⟨"title", true⟩ ∧
      (¬∃ method, manyTitled.CallsFor .many method ⟨"titles", true⟩) ∧
      ¬∃ method, manyTitled.CallsFor .one method ⟨"s", true⟩ := by
  have hreaches : manyTitled.ReachesFirst := reachesFirst_ofDeclarations _ _ (by decide)
  refine ⟨?_, ?_, ?_⟩
  · exact hreaches.called_by_name .many [] ⟨"title", true⟩ _ rfl (by decide +kernel) (by decide)
  · rw [hreaches.called_iff .many [⟨"title", true⟩] ⟨"titles", true⟩ _ rfl]
    decide +kernel
  · rw [hreaches.called_iff .one [⟨"title", true⟩, ⟨"titles", true⟩] ⟨"s", true⟩ _ rfl]
    decide +kernel

end EntityMetadata

end EntityFinder
