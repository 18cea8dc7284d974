import EntityFinder.Proofs.JointSearch

set_option autoImplicit false

/-!
# The entries of criteria

Criteria that are collected from a list of pairs can be read off the list: each property stands
once, where the list first names it, with the value that the list gives it last. Their query has a
term for each of these entries, in this order. So a further pair either adds a term at the end of
the query or changes one where it stands.

## Main definitions

* `EntityFinder.Criteria.Collects`: what criteria have of a list of pairs.
* `EntityFinder.Criteria.AddsTerm`, `EntityFinder.Criteria.ReplacesTerm`: what a new entry does to
  a query.

## Main results

* `EntityFinder.Criteria.collects_in_order`: criteria of a list, and their queries.
-/

namespace EntityFinder.Criteria

variable {c : Criteria} {property value : String}

/-! ## One insertion -/

/-- A new property goes to the end. -/
lemma insertEntry_of_notMem {entries : List (String × String)}
    (h : property ∉ entries.map Prod.fst) :
    insertEntry property value entries = entries ++ [(property, value)] := by
  induction entries with
  | nil => rfl
  | cons entry rest ih =>
    obtain ⟨hne, hrest⟩ := List.ne_and_not_mem_of_not_mem_cons h
    rw [insertEntry, if_neg hne.symm, ih hrest, List.cons_append]

/-- The first entry of a known property gets the new value. -/
lemma insertEntry_append_cons {before : List (String × String)} (old : String)
    (after : List (String × String)) (h : property ∉ before.map Prod.fst) :
    insertEntry property value (before ++ (property, old) :: after) =
      before ++ (property, value) :: after := by
  induction before with
  | nil => exact if_pos rfl
  | cons entry rest ih =>
    obtain ⟨hne, hrest⟩ := List.ne_and_not_mem_of_not_mem_cons h
    rw [List.cons_append, insertEntry, if_neg hne.symm, ih hrest, List.cons_append]

/-- A known property has a first entry, and the criteria are those before it, it, and the rest. -/
lemma exists_first_entry (h : property ∈ c.properties) : ∃ before old after,
    c.entries = before ++ (property, old) :: after ∧ property ∉ before.map Prod.fst := by
  obtain ⟨names, more, hnames, hfirst⟩ := List.eq_append_cons_of_mem h
  obtain ⟨before, rest, hentries, rfl, hrest⟩ := List.map_eq_append_iff.mp hnames
  obtain ⟨⟨_, old⟩, after, rfl, rfl, rfl⟩ := List.map_eq_cons_iff.mp hrest
  exact ⟨before, old, after, hentries, hfirst⟩

/-- Inserting a new property puts its entry at the end. -/
lemma entries_insert_of_notMem (h : property ∉ c.properties) :
    (c.insert property value).entries = c.entries ++ [(property, value)] :=
  insertEntry_of_notMem h

/-- Inserting a known property changes its first entry where it stands. -/
lemma entries_insert_of_mem {before after : List (String × String)} {old : String}
    (hentries : c.entries = before ++ (property, old) :: after)
    (hfirst : property ∉ before.map Prod.fst) :
    (c.insert property value).entries = before ++ (property, value) :: after := by
  rw [insert, hentries]
  exact insertEntry_append_cons old after hfirst

/-- An insertion adds at most one property, at the end. -/
lemma properties_insert (c : Criteria) (property value : String) :
    (c.insert property value).properties =
      if property ∈ c.properties then c.properties else c.properties ++ [property] := by
  split_ifs with h
  · obtain ⟨before, old, after, hentries, hfirst⟩ := exists_first_entry h
    rw [properties, properties, entries_insert_of_mem hentries hfirst, hentries, List.map_append,
      List.map_append, List.map_cons, List.map_cons]
  · rw [properties, entries_insert_of_notMem h, List.map_append]
    rfl

/-- What a list of entries does not name has no value in it. -/
lemma lookup_eq_none_of_notMem {entries : List (String × String)}
    (h : property ∉ entries.map Prod.fst) : entries.lookup property = none :=
  List.lookup_eq_none_iff.mpr fun _ hentry =>
    bne_iff_ne.mpr fun he => h (he ▸ List.mem_map_of_mem hentry)

/-- An insertion gives its property the value, and leaves the other values. -/
lemma get?_insert (c : Criteria) (property value p : String) :
    (c.insert property value).get? p = if p = property then some value else c.get? p := by
  by_cases h : property ∈ c.properties
  · obtain ⟨before, old, after, hentries, hfirst⟩ := exists_first_entry h
    rw [get?, get?, entries_insert_of_mem hentries hfirst, hentries, List.lookup_append,
      List.lookup_append, List.lookup_cons, List.lookup_cons]
    split_ifs with hp
    · rw [hp, lookup_eq_none_of_notMem hfirst, beq_self_eq_true]
      rfl
    · rw [beq_eq_false_iff_ne.mpr hp]
  · rw [get?, get?, entries_insert_of_notMem h, List.lookup_append, List.lookup_cons]
    split_ifs with hp
    · rw [hp, lookup_eq_none_of_notMem h, beq_self_eq_true]
      rfl
    · rw [beq_eq_false_iff_ne.mpr hp]
      exact Option.or_none

/-- Properties stay distinct. -/
lemma nodup_insert (h : c.properties.Nodup) : (c.insert property value).properties.Nodup := by
  rw [properties_insert]
  split_ifs with hmem
  · exact h
  · exact List.nodup_append.mpr ⟨h, List.nodup_singleton _, by
      rintro p hp q hq rfl
      exact hmem (List.mem_singleton.mp hq ▸ hp)⟩

/-! ## Distinct properties -/

/-- Where the properties are distinct, the entries are the properties with their values. -/
lemma mem_entries_iff (h : c.properties.Nodup) {entry : String × String} :
    entry ∈ c.entries ↔ c.get? entry.1 = some entry.2 := by
  obtain ⟨entries⟩ := c
  induction entries with
  | nil => simp [get?]
  | cons first rest ih =>
    obtain ⟨hfirst, hrest⟩ := List.nodup_cons.mp h
    have ih : entry ∈ rest ↔ rest.lookup entry.1 = some entry.2 := ih hrest
    rw [List.mem_cons, ih, get?, List.lookup_cons]
    by_cases hsame : entry.1 = first.1
    · have hnone : rest.lookup entry.1 = none := lookup_eq_none_of_notMem (hsame ▸ hfirst)
      rw [beq_iff_eq.mpr hsame, hnone, Option.some_inj, Prod.ext_iff]
      simp only [hsame, true_and, reduceCtorEq, or_false]
      exact eq_comm
    · rw [beq_eq_false_iff_ne.mpr hsame]
      exact or_iff_right fun he => hsame (congrArg Prod.fst he)

/-- Where the properties are distinct, the entries can be read off properties and values. -/
lemma entries_eq_filterMap (h : c.properties.Nodup) :
    c.entries = c.properties.filterMap fun p => (c.get? p).map (p, ·) := by
  have hvalue : ∀ entry ∈ c.entries, (c.get? entry.1).map (entry.1, ·) = some entry :=
    fun entry hentry => by rw [(mem_entries_iff h).mp hentry]; rfl
  rw [properties, List.filterMap_map]
  exact ((List.filterMap_congr hvalue).trans (List.filterMap_some)).symm

/-! ## Lists of pairs -/

/-- A further pair is one more insertion. -/
lemma ofList_concat (given : List (String × String)) (property value : String) :
    ofList (given ++ [(property, value)]) = (ofList given).insert property value := by
  rw [ofList, List.foldl_append]
  rfl

/-- The properties of a list are there in the order of their first occurrences. -/
lemma properties_ofList (given : List (String × String)) :
    (ofList given).properties = (given.map Prod.fst).eraseDups := by
  induction given using List.reverseRecOn with
  | nil => rfl
  | append_singleton given pair ih =>
    rw [ofList_concat, properties_insert, ih, List.map_append, List.eraseDups_append]
    simp only [List.mem_eraseDups]
    split_ifs with hmem
    · simp [List.removeAll, hmem]
    · simp [List.removeAll, hmem, List.eraseDups_cons]

/-- The properties of a list are distinct. -/
lemma nodup_ofList (given : List (String × String)) : (ofList given).properties.Nodup := by
  induction given using List.reverseRecOn with
  | nil => exact List.nodup_nil
  | append_singleton given pair ih =>
    rw [ofList_concat]
    exact nodup_insert ih

/-- Each property of a list has the value that the list gives it last. -/
lemma get?_ofList (given : List (String × String)) (p : String) :
    (ofList given).get? p = given.reverse.lookup p := by
  induction given using List.reverseRecOn with
  | nil => rfl
  | append_singleton given pair ih =>
    rw [ofList_concat, get?_insert, ih, List.reverse_concat, List.lookup_cons]
    split_ifs with hp
    · rw [beq_iff_eq.mpr hp]
    · rw [beq_eq_false_iff_ne.mpr hp]

/-- What criteria have of a list of pairs. -/
structure Collects (given : List (String × String)) (c : Criteria) : Prop where
  /-- The entries are the properties that the list names, each with its last value. -/
  entries_eq : c.entries = (given.map Prod.fst).eraseDups.filterMap fun p =>
    (given.reverse.lookup p).map (p, ·)
  /-- The properties stand in the order of their first occurrences. -/
  properties_eq : c.properties = (given.map Prod.fst).eraseDups
  /-- No property stands twice. -/
  nodup : c.properties.Nodup
  /-- The value of a property is the last one that the list gives it. -/
  get?_eq : ∀ p, c.get? p = given.reverse.lookup p
  /-- The entries are the properties with the values that are found for them. -/
  mem_iff : ∀ entry, entry ∈ c.entries ↔ c.get? entry.1 = some entry.2
  /-- There is an entry for each property. -/
  size_eq : c.size = (given.map Prod.fst).eraseDups.length
  /-- The query has the term of each entry, in their order. -/
  compile_eq : given ≠ [] → c.compile = .ok (termSeparator.intercalate
    ((given.map Prod.fst).eraseDups.filterMap fun p => (given.reverse.lookup p).map (term p)))

/-- Criteria of a list that is not empty are not empty. -/
lemma entries_ofList_ne_nil {given : List (String × String)} (h : given ≠ []) :
    (ofList given).entries ≠ [] := by
  obtain ⟨pair, rest, rfl⟩ := List.exists_cons_of_ne_nil h
  refine fun hnil => List.not_mem_nil (a := pair.1) ?_
  have hproperties := properties_ofList (pair :: rest)
  rw [properties, hnil, List.map_nil] at hproperties
  rw [hproperties, List.mem_eraseDups]
  exact List.mem_cons_self

/-- Criteria that are collected from a list have what the list says. -/
lemma collects_ofList (given : List (String × String)) : (ofList given).Collects given where
  entries_eq := by
    rw [entries_eq_filterMap (nodup_ofList given), properties_ofList]
    simp only [get?_ofList]
  properties_eq := properties_ofList given
  nodup := nodup_ofList given
  get?_eq := get?_ofList given
  mem_iff _ := mem_entries_iff (nodup_ofList given)
  size_eq := by rw [← properties_ofList, properties, size, List.length_map]
  compile_eq hgiven := by
    rw [Criteria.compile_eq (entries_ofList_ne_nil hgiven), terms,
      entries_eq_filterMap (nodup_ofList given), properties_ofList, List.map_filterMap]
    simp only [get?_ofList, Option.map_map]
    rfl

/-! ## Queries that grow -/

/-- The query of `c'` is that of `c` with the term of one more entry at its end. -/
def AddsTerm (c c' : Criteria) (property value : String) : Prop :=
  ∃ query, c.compile = .ok query ∧
    c'.compile = .ok (query ++ termSeparator ++ term property value)

/-- The entries and the query of `c'` are those of `c`, but for the value of the first entry of a
property. -/
def ReplacesTerm (c c' : Criteria) (property value : String) : Prop :=
  ∃ before old after, property ∉ before.map Prod.fst ∧
    c.entries = before ++ (property, old) :: after ∧
    c'.entries = before ++ (property, value) :: after ∧
    c.compile = .ok (termSeparator.intercalate
      ((Criteria.mk before).terms ++ term property old :: (Criteria.mk after).terms)) ∧
    c'.compile = .ok (termSeparator.intercalate
      ((Criteria.mk before).terms ++ term property value :: (Criteria.mk after).terms))

/-- A new property adds its term to the query. -/
lemma addsTerm_insert (hentries : c.entries ≠ []) (hnew : property ∉ c.properties) :
    AddsTerm c (c.insert property value) property value := by
  refine ⟨_, compile_eq hentries, ?_⟩
  have happend : (c.insert property value).entries = c.entries ++ [(property, value)] :=
    entries_insert_of_notMem hnew
  have hterms : c.terms ≠ [] := fun h => hentries (List.map_eq_nil_iff.mp h)
  rw [compile_eq (by simp [happend]), terms, happend, List.map_append]
  refine congrArg Except.ok ((String.intercalate_append_of_ne_nil hterms ?_).trans ?_)
  · exact List.cons_ne_nil _ _
  · rw [List.map_singleton, String.intercalate_singleton]
    rfl

/-- The query of criteria, one of whose entries is set apart. -/
lemma compile_eq_of_append {before after : List (String × String)}
    (h : c.entries = before ++ (property, value) :: after) :
    c.compile = .ok (termSeparator.intercalate
      ((Criteria.mk before).terms ++ term property value :: (Criteria.mk after).terms)) := by
  rw [compile_eq (by simp [h]), terms, h, List.map_append]
  rfl

/-- A known property changes the term of its first entry. -/
lemma replacesTerm_insert (hknown : property ∈ c.properties) :
    ReplacesTerm c (c.insert property value) property value := by
  obtain ⟨before, old, after, hentries, hfirst⟩ := exists_first_entry hknown
  have hinsert : (c.insert property value).entries = before ++ (property, value) :: after :=
    entries_insert_of_mem hentries hfirst
  exact ⟨before, old, after, hfirst, hentries, hinsert, compile_eq_of_append hentries,
    compile_eq_of_append hinsert⟩

/-- **Criteria keep the order of insertion.** Criteria that are collected from a list of pairs have
each of its properties once, in the order of first occurrences and with the last value, and their
query has the terms of these entries in this order. Any further entry either adds its term at the
end of the query or changes the term of its property, where it stands. -/
theorem collects_in_order (given : List (String × String)) (c : Criteria)
    (property value : String) :
    (ofList given).Collects given ∧
    (c.isEmpty = false → property ∉ c.properties →
      AddsTerm c (c.insert property value) property value) ∧
    (property ∈ c.properties →
      ReplacesTerm c (c.insert property value) property value) :=
  ⟨collects_ofList given, fun hc => addsTerm_insert (List.isEmpty_eq_false_iff.mp hc),
    replacesTerm_insert⟩

/-- The order of a film whose title is given twice, with a new entry and with a known one. -/
theorem collects_in_order_film :
    let given := [("title", "Faust"), ("year", "1926"), ("title", "Lost Film")]
    let film := ofList given
    film.compile = .ok "title:\"Lost Film\" AND year:1926" ∧
    AddsTerm film (film.insert "kind" "silent") "kind" "silent" ∧
    ReplacesTerm film (film.insert "title" "Sunrise") "title" "Sunrise" := by
  intro given film
  obtain ⟨hcollects, hadds, -⟩ := collects_in_order given film "kind" "silent"
  obtain ⟨-, -, hreplaces⟩ := collects_in_order given film "title" "Sunrise"
  refine ⟨(hcollects.compile_eq (by decide)).trans (by decide +kernel), ?_, ?_⟩
  · exact hadds (by decide) (by decide)
  · exact hreplaces (by decide)

end EntityFinder.Criteria
