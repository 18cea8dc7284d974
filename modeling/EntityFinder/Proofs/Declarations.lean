import EntityFinder.Metadata.Basic
import Mathlib.Data.List.Induction
import Mathlib.Data.List.Nodup

set_option autoImplicit false

/-!
# What metadata keeps of declarations

Declarations are taken up one after the other, and one of a name that is known already is dropped.
So the metadata that they amount to can be read off their list: it has the declarations that are the
first ones of their names, in the order of the list. What a later declaration says of a name is lost
everywhere.

## Main definitions

* `EntityFinder.EntityMetadata.firstPositions`: where a list declares a name for the first time.
* `EntityFinder.EntityMetadata.KeepsFirst`: metadata has the first declaration of each name.

## Main results

* `EntityFinder.EntityMetadata.find?_foldl_declare`: a dropped declaration would not be found anyway.
* `EntityFinder.EntityMetadata.ofDeclarations_of_nodup`: of declarations with different names none
  is dropped.
* `EntityFinder.EntityMetadata.keepsFirst_ofDeclarations`: metadata of declarations.
-/

namespace EntityFinder.EntityMetadata

variable {type : EntityType} {known declarations : List PropertyDeclaration}
  {d : PropertyDeclaration} {name : String}

/-! ## One declaration -/

/-- A declaration of a known name is dropped. -/
lemma declare_of_mem (h : d.name ∈ known.map (·.name)) : declare known d = known := by
  obtain ⟨p, hp, hname⟩ := List.mem_map.mp h
  have hknown : known.any (·.name == d.name) = true :=
    List.any_eq_true.mpr ⟨p, hp, by rwa [beq_iff_eq]⟩
  rw [declare, if_pos hknown]

/-- A declaration of a new name goes to the end. -/
lemma declare_of_notMem (h : d.name ∉ known.map (·.name)) : declare known d = known ++ [d] := by
  have hknown : ¬known.any (·.name == d.name) = true := by
    intro hany
    obtain ⟨p, hp, hname⟩ := List.any_eq_true.mp hany
    exact h (List.mem_map.mpr ⟨p, hp, by rwa [beq_iff_eq] at hname⟩)
  rw [declare, if_neg hknown]

/-- Whether a declaration is dropped or not, its name is known afterwards. -/
lemma mem_names_declare : name ∈ (declare known d).map (·.name) ↔
    name ∈ (known ++ [d]).map (·.name) := by
  by_cases h : d.name ∈ known.map (·.name)
  · rw [declare_of_mem h, List.map_append, List.mem_append, List.map_singleton,
      List.mem_singleton]
    exact (or_iff_left_of_imp fun hname => hname ▸ h).symm
  · rw [declare_of_notMem h]

/-- Names stay distinct. -/
lemma nodup_declare (h : (known.map (·.name)).Nodup) :
    ((declare known d).map (·.name)).Nodup := by
  by_cases hmem : d.name ∈ known.map (·.name)
  · rwa [declare_of_mem hmem]
  · rw [declare_of_notMem hmem, List.map_append]
    refine List.nodup_append.mpr ⟨h, List.nodup_singleton _, ?_⟩
    intro p hp q hq hsame
    obtain rfl : q = d.name := List.mem_singleton.mp hq
    exact hmem (hsame ▸ hp)

/-- A declaration that is dropped would not be found anyway. -/
lemma find?_declare : (declare known d).find? (·.name == name) =
    (known ++ [d]).find? (·.name == name) := by
  by_cases h : d.name ∈ known.map (·.name)
  · obtain ⟨p, hp, hname⟩ := List.mem_map.mp h
    rw [declare_of_mem h, List.find?_append, List.find?_singleton]
    split_ifs with hd
    · -- the known declaration of the name stands in front of this one
      have hfound : (known.find? (·.name == name)).isSome := by
        rw [List.find?_isSome]
        exact ⟨p, hp, by rwa [hname]⟩
      exact (Option.or_of_isSome hfound).symm
    · exact Option.or_none.symm
  · rw [declare_of_notMem h]

/-! ## All declarations -/

/-- The names that are known in the end are those that were known or are declared. -/
lemma mem_names_foldl_declare : name ∈ (declarations.foldl declare known).map (·.name) ↔
    name ∈ (known ++ declarations).map (·.name) := by
  induction declarations generalizing known with
  | nil => rw [List.foldl_nil, List.append_nil]
  | cons d declarations ih =>
    rw [List.foldl_cons, ih, List.map_append, List.mem_append, mem_names_declare,
      ← List.mem_append, ← List.map_append, List.append_assoc, List.singleton_append]

/-- Names stay distinct through all declarations. -/
lemma nodup_foldl_declare (h : (known.map (·.name)).Nodup) :
    ((declarations.foldl declare known).map (·.name)).Nodup := by
  induction declarations generalizing known with
  | nil => exact h
  | cons d declarations ih => exact ih (nodup_declare h)

/-- What is found for a name is its first declaration. -/
lemma find?_foldl_declare : (declarations.foldl declare known).find? (·.name == name) =
    (known ++ declarations).find? (·.name == name) := by
  induction declarations generalizing known with
  | nil => rw [List.foldl_nil, List.append_nil]
  | cons d declarations ih =>
    rw [List.foldl_cons, ih, List.find?_append, find?_declare, ← List.find?_append,
      List.append_assoc, List.singleton_append]

/-- Of declarations with different names none is dropped. -/
lemma foldl_declare (h : ((known ++ declarations).map (·.name)).Nodup) :
    declarations.foldl declare known = known ++ declarations := by
  induction declarations generalizing known with
  | nil => rw [List.foldl_nil, List.append_nil]
  | cons d declarations ih =>
    have hnew : d.name ∉ known.map (·.name) := by
      rw [List.map_append, List.nodup_append] at h
      exact fun hmem => h.2.2 d.name hmem d.name (.head _) rfl
    rw [List.foldl_cons, declare_of_notMem hnew, ih (by simpa using h), List.append_assoc,
      List.singleton_append]

/-- Declarations with different names are the properties of their metadata. -/
lemma ofDeclarations_of_nodup (type : EntityType) (h : (declarations.map (·.name)).Nodup) :
    ofDeclarations type declarations = ⟨type, declarations⟩ := by
  rw [ofDeclarations, foldl_declare (by rwa [List.nil_append]), List.nil_append]

/-! ## First declarations -/

/-- The positions of a list of declarations at which a name is declared for the first time. -/
def firstPositions (declarations : List PropertyDeclaration) : List Nat :=
  (List.range declarations.length).filter fun i =>
    decide (∀ j < i, (declarations[j]?).map (·.name) ≠ (declarations[i]?).map (·.name))

/-- The declarations that are the first ones of their names, in order. -/
def firstDeclarations (declarations : List PropertyDeclaration) : List PropertyDeclaration :=
  (firstPositions declarations).filterMap (declarations[·]?)

/-- A list does not declare a name if none of its positions has it. -/
lemma notMem_names_iff : name ∉ declarations.map (·.name) ↔
    ∀ j < declarations.length, (declarations[j]?).map (·.name) ≠ some name := by
  rw [List.mem_iff_getElem?, not_exists]
  constructor
  · intro h j _ hname
    exact h j (by rw [List.getElem?_map, hname])
  · intro h j hname
    rw [List.getElem?_map] at hname
    obtain ⟨e, he, -⟩ := Option.map_eq_some_iff.mp hname
    exact h j (List.getElem?_eq_some_iff.mp he).1 hname

/-- At the end of a list a name is declared for the first time if the list does not declare it. -/
lemma firstPositions_concat (declarations : List PropertyDeclaration) (d : PropertyDeclaration) :
    firstPositions (declarations ++ [d]) = firstPositions declarations ++
      if d.name ∈ declarations.map (·.name) then [] else [declarations.length] := by
  have hbefore : ∀ j < declarations.length, (declarations ++ [d])[j]? = declarations[j]? :=
    fun j hj => List.getElem?_append_left hj
  have hlast : (declarations ++ [d])[declarations.length]? = some d := List.getElem?_concat_length
  rw [firstPositions, firstPositions, List.length_append, List.length_singleton, List.range_succ,
    List.filter_append]
  congr 1
  · apply List.filter_congr
    intro i hi
    have hi : i < declarations.length := List.mem_range.mp hi
    rw [hbefore i hi]
    refine decide_eq_decide.mpr (forall₂_congr fun j hj => ?_)
    rw [hbefore j (Nat.lt_trans hj hi)]
  · have hnew : (∀ j < declarations.length,
        ((declarations ++ [d])[j]?).map (·.name) ≠
          ((declarations ++ [d])[declarations.length]?).map (·.name)) ↔
          d.name ∉ declarations.map (·.name) := by
      rw [hlast, Option.map_some, notMem_names_iff]
      exact forall₂_congr fun j hj => by rw [hbefore j hj]
    rw [List.filter_singleton, decide_eq_decide.mpr hnew]
    by_cases h : d.name ∈ declarations.map (·.name)
    · rw [if_pos h, decide_eq_false (not_not_intro h), cond_false]
    · rw [if_neg h, decide_eq_true h, cond_true]

/-- One more declaration is one of the first ones if its name is new. -/
lemma firstDeclarations_concat (declarations : List PropertyDeclaration)
    (d : PropertyDeclaration) : firstDeclarations (declarations ++ [d]) =
      firstDeclarations declarations ++
        if d.name ∈ declarations.map (·.name) then [] else [d] := by
  rw [firstDeclarations, firstPositions_concat, List.filterMap_append, firstDeclarations]
  congr 1
  · apply List.filterMap_congr
    intro i hi
    exact List.getElem?_append_left (List.mem_range.mp (List.mem_of_mem_filter hi))
  · split_ifs
    · rfl
    · exact List.filterMap_cons_some List.getElem?_concat_length

/-- Metadata has the declarations that are the first ones of their names. -/
lemma properties_ofDeclarations (type : EntityType) (declarations : List PropertyDeclaration) :
    (ofDeclarations type declarations).properties = firstDeclarations declarations := by
  rw [ofDeclarations]
  induction declarations using List.reverseRecOn with
  | nil => rfl
  | append_singleton declarations d ih =>
    dsimp only at ih ⊢
    rw [List.foldl_append, firstDeclarations_concat, ← ih, List.foldl_cons, List.foldl_nil]
    have hknown : d.name ∈ (declarations.foldl declare []).map (·.name) ↔
        d.name ∈ declarations.map (·.name) := mem_names_foldl_declare
    split_ifs with h
    · rw [declare_of_mem (hknown.mpr h), List.append_nil]
    · rw [declare_of_notMem (mt hknown.mp h)]

/-- The names of properties are distinct. -/
lemma nodup_ofDeclarations (type : EntityType) (declarations : List PropertyDeclaration) :
    ((ofDeclarations type declarations).properties.map (·.name)).Nodup :=
  nodup_foldl_declare List.nodup_nil

/-- The property of a name is the first declaration of this name. -/
lemma property?_ofDeclarations (type : EntityType) (declarations : List PropertyDeclaration)
    (name : String) : (ofDeclarations type declarations).property? name =
      declarations.find? (·.name == name) :=
  find?_foldl_declare

/-! ## Metadata -/

/-- Where names are distinct, a property is what is found for its name. -/
lemma property?_eq_some_of_mem {m : EntityMetadata} (h : (m.properties.map (·.name)).Nodup)
    (hd : d ∈ m.properties) : m.property? d.name = some d := by
  obtain ⟨before, after, hsplit⟩ := List.append_of_mem hd
  refine List.find?_eq_some_iff_append.mpr ⟨beq_self_eq_true _, before, after, hsplit, ?_⟩
  intro b hb
  rw [hsplit, List.map_append, List.nodup_append] at h
  rw [Bool.not_eq_true', beq_eq_false_iff_ne]
  exact h.2.2 b.name (List.mem_map_of_mem hb) d.name (.head _)

/-- A declaration is the first one of its name in a list. -/
def IsFirstOf (declarations : List PropertyDeclaration) (d : PropertyDeclaration) : Prop :=
  ∃ before after, declarations = before ++ d :: after ∧ ∀ b ∈ before, b.name ≠ d.name

/-- The first declaration of a name is what is found for the name. -/
lemma find?_eq_some_iff : declarations.find? (·.name == name) = some d ↔
    IsFirstOf declarations d ∧ d.name = name := by
  rw [List.find?_eq_some_iff_append, beq_iff_eq, and_comm, IsFirstOf]
  refine and_congr_left fun hname => exists₂_congr fun before after => and_congr_right fun _ => ?_
  simp only [Bool.not_eq_true', beq_eq_false_iff_ne, hname]

/-- The properties of metadata are the first declarations of their names. -/
lemma mem_properties_iff :
    d ∈ (ofDeclarations type declarations).properties ↔ IsFirstOf declarations d := by
  constructor
  · intro hd
    have hname := property?_eq_some_of_mem (nodup_ofDeclarations type declarations) hd
    rw [property?_ofDeclarations] at hname
    exact (find?_eq_some_iff.mp hname).1
  · intro hd
    have hname := find?_eq_some_iff.mpr ⟨hd, rfl⟩
    rw [← property?_ofDeclarations type] at hname
    exact List.mem_of_find?_eq_some hname

/-- Metadata has the first declaration of each name in a list, and nothing of the other ones. -/
structure KeepsFirst (type : EntityType) (declarations : List PropertyDeclaration)
    (m : EntityMetadata) : Prop where
  /-- It describes the type. -/
  entityType_eq : m.entityType = type
  /-- Its properties are the declarations that are the first ones of their names, in order. -/
  properties_eq : m.properties = firstDeclarations declarations
  /-- No two properties have the same name. -/
  nodup : (m.properties.map (·.name)).Nodup
  /-- The property of a name is the first declaration of the name, whatever the others say. -/
  property?_eq_some : ∀ name d, m.property? name = some d ↔
    IsFirstOf declarations d ∧ d.name = name
  /-- There is a property for each name that is declared, and for no other one. -/
  declares_iff : ∀ name, m.declares name = true ↔ name ∈ declarations.map (·.name)
  /-- The indexed properties stand in the order of all properties. -/
  indexed_sublist : m.indexedProperties.Sublist m.properties
  /-- They are the first declarations of their names that say so. -/
  mem_indexed_iff : ∀ d, d ∈ m.indexedProperties ↔
    IsFirstOf declarations d ∧ d.indexed = true
  /-- The properties declare the same metadata again. -/
  rebuilt : ofDeclarations type m.properties = m

/-- **Metadata has the first declaration of each name**, in the order of the declarations. -/
theorem keepsFirst_ofDeclarations (type : EntityType) (declarations : List PropertyDeclaration) :
    KeepsFirst type declarations (ofDeclarations type declarations) where
  entityType_eq := rfl
  properties_eq := properties_ofDeclarations type declarations
  nodup := nodup_ofDeclarations type declarations
  property?_eq_some name d := by rw [property?_ofDeclarations, find?_eq_some_iff]
  declares_iff name := by
    rw [declares, property?_ofDeclarations, List.find?_isSome]
    simp only [List.mem_map, beq_iff_eq]
  indexed_sublist := List.filter_sublist
  mem_indexed_iff d := by rw [indexedProperties, List.mem_filter, mem_properties_iff]
  rebuilt := ofDeclarations_of_nodup type (nodup_ofDeclarations type declarations)

/-- A budget that is declared again as indexed is not indexed. -/
example : (ofDeclarations ⟨.node, "Film"⟩
    [⟨"budget", false⟩, ⟨"title", true⟩, ⟨"budget", true⟩, ⟨"title", false⟩]).properties =
      [⟨"budget", false⟩, ⟨"title", true⟩] := by decide

end EntityFinder.EntityMetadata
