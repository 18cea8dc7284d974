import EntityFinder.NodeStore.NodeIndex
import EntityFinder.Proofs.Queries.Unambiguous

set_option autoImplicit false

/-!
# Criteria that ask for every node

The query that lists every node is a text like any other, and an index knows it by comparing texts
once the blanks around them are gone. So criteria may happen to stand for this query. They do in one
case only: a single entry asks for a star in a property named `id`. A star with blanks behind it
stands for the same, one with blanks in front does not, and neither does any value that is quoted.
Further entries leave blanks inside the query.

## Main results

* `EntityFinder.NodeIndex.isMatchAll_iff`: the query that lists every node is the only one that does
  so in every store.
* `EntityFinder.Criteria.isMatchAll_term_iff`: the entries whose term is this query.
* `EntityFinder.Criteria.asksForAll_iff`: the criteria that ask for every node.
-/

namespace EntityFinder

/-! ## Trimming -/

namespace Text

/-- What is trimmed at its end is followed by what has been taken away. -/
lemma trimRight_prefix (cs : List Char) : trimRight cs <+: cs := by
  have hsuffix := List.dropWhile_suffix (l := cs.reverse) isBlank
  rw [trimRight, ← List.reverse_suffix, List.reverse_reverse]
  exact hsuffix

/-- Nothing is taken away up to a character that is no blank. -/
lemma trimRight_append_cons {c : Char} (hc : isBlank c = false) (first second : List Char) :
    trimRight (first ++ c :: second) = first ++ c :: trimRight second := by
  have hkept : (c :: first.reverse).dropWhile isBlank = c :: first.reverse := by simp [hc]
  have hdropped : (second.reverse ++ c :: first.reverse).dropWhile isBlank =
      second.reverse.dropWhile isBlank ++ c :: first.reverse := by
    rw [List.dropWhile_append, hkept]
    split_ifs with hblank
    · rw [List.isEmpty_iff.mp hblank, List.nil_append]
    · rfl
  rw [trimRight, List.reverse_append, List.reverse_cons, List.append_assoc,
    List.singleton_append, hdropped, trimRight]
  simp

/-- Nothing is taken away in front of a character that is no blank. -/
lemma trimChars_cons {c : Char} (hc : isBlank c = false) (cs : List Char) :
    trimChars (c :: cs) = trimRight (c :: cs) := by
  rw [trimChars, List.dropWhile_cons_of_neg (by simp [hc])]

/-- What begins with a character that is no blank once its end is trimmed begins with it anyway. -/
lemma trimChars_eq_of_trimRight {c : Char} (hc : isBlank c = false) {cs rest : List Char}
    (h : trimRight cs = c :: rest) : trimChars cs = c :: rest := by
  obtain ⟨blanks, hcs⟩ := trimRight_prefix cs
  rw [h] at hcs
  subst hcs
  rw [List.cons_append] at h ⊢
  rw [trimChars_cons hc, h]

end Text

/-! ## Queries -/

namespace NodeIndex

/-- **The query that lists every node is the only one that does so in every store.** Any other query
goes to the table, and an entity without a table has an index that finds nothing. -/
theorem isMatchAll_iff {text : String} : isMatchAll text = true ↔
    ∀ (index : NodeIndex) (s : NodeStore),
      (index.query text).perform s = (.ok (s.database.recordsOf index.entity), s) := by
  constructor
  · exact fun hall index s => index.perform_query_all hall s
  · intro hall
    by_contra hother
    -- a store with a node, and an index without a table
    have hone := hall ⟨"Film", none⟩
      (.opened .standard ⟨[⟨1, "Film", "\x7b\x7d"⟩], 1, [], [], false⟩)
    rw [perform_query, if_neg hother] at hone
    have hnone := Except.ok.inj (congrArg Prod.fst hone)
    revert hnone
    decide +kernel

end NodeIndex

namespace Criteria

open NodeIndex (isMatchAll)
open Text

/-- A value is a star in a term if it is a star itself: a value in quotes is none. -/
lemma trimRight_termValue_eq_star {value : List Char} :
    trimRight (termValue value) = ['*'] ↔ trimRight value = ['*'] := by
  rw [termValue]
  split_ifs with hquotes
  · constructor
    · intro h
      have hquote : trimRight ('"' :: (value ++ ['"'])) = '"' :: trimRight (value ++ ['"']) :=
        trimRight_append_cons (by decide) [] _
      rw [List.cons_append, hquote] at h
      exact absurd (List.cons.inj h).1 (by decide)
    · intro h
      rw [needsQuotes, trimChars_eq_of_trimRight (by decide) h] at hquotes
      cases hquotes
  · rfl

/-- The term of an entry is the query that lists every node if the entry asks for a star in the
property `id`. -/
lemma isMatchAll_term_iff {property value : String} (h : isIdentifier property = true) :
    isMatchAll (term property value) = true ↔ property = "id" ∧ trimEnd value = "*" := by
  obtain ⟨c, cs, hproperty, hc⟩ := exists_cons_of_isIdentifier h
  have htrim : trimChars (term property value).toList =
      property.toList ++ ':' :: trimRight (termValue value.toList) := by
    rw [toList_term, ← trimRight_append_cons (by decide), hproperty, List.cons_append,
      trimChars_cons (isBlank_of_isIdentifierPart hc)]
  have hstar : trimEnd value = "*" ↔ trimRight (termValue value.toList) = ['*'] := by
    rw [trimRight_termValue_eq_star, trimEnd, ← String.toList_inj, String.toList_ofList]
    rfl
  rw [isMatchAll, beq_iff_eq, trim, htrim, hstar, ← String.toList_inj, String.toList_ofList,
    ← String.toList_inj]
  constructor
  · intro hsame
    have hcolon : ':' ∉ "id".toList := by decide
    have hsame : property.toList ++ ':' :: trimRight (termValue value.toList) =
      "id".toList ++ ':' :: ['*'] := hsame
    obtain ⟨hid, -, hvalue⟩ :=
      append_cons_inj hcolon (notMem_of_isIdentifier h (by decide)) hsame
    exact ⟨hid, hvalue⟩
  · rintro ⟨hid, hvalue⟩
    rw [hid, hvalue]
    rfl

/-- There are blanks inside a query of several terms. -/
lemma not_isMatchAll_of_terms (entry next : String × String) (entries : List (String × String)) :
    isMatchAll (termSeparator.intercalate
      ((entry :: next :: entries).map fun e => term e.1 e.2)) = false := by
  have hblank : ' ' ∈ trimChars (termSeparator.intercalate
      ((entry :: next :: entries).map fun e => term e.1 e.2)).toList := by
    have hcolon : ':' ∈ (term entry.1 entry.2).toList := by simp [toList_term]
    rw [toList_intercalate_term, moreTerms, List.flatMap_cons, List.append_assoc,
      toList_termSeparator_append]
    exact mem_trimChars_of_between hcolon (by decide) (.head _) (by decide)
  rw [isMatchAll, beq_eq_false_iff_ne, trim]
  intro hall
  rw [← String.toList_ofList (l := trimChars _), hall] at hblank
  exact absurd hblank (by decide)

/-- Criteria stand for the query that lists every node if they have one entry, which asks for a
star in the property `id`. -/
lemma isMatchAll_compile_iff {c : Criteria}
    (h : ∀ property ∈ c.properties, isIdentifier property = true) :
    (∃ query, c.compile = .ok query ∧ isMatchAll query = true) ↔
      ∃ value, c.entries = [("id", value)] ∧ trimEnd value = "*" := by
  obtain ⟨entries⟩ := c
  match entries with
  | [] => simp [compile, isEmpty]
  | [(property, value)] =>
    have hterm : compile ⟨[(property, value)]⟩ = .ok (term property value) := by
      simp [compile, isEmpty]
    have hproperty : isIdentifier property = true := h property (.head _)
    rw [hterm]
    constructor
    · rintro ⟨query, hquery, hall⟩
      cases hquery
      obtain ⟨rfl, hvalue⟩ := (isMatchAll_term_iff hproperty).mp hall
      exact ⟨value, rfl, hvalue⟩
    · rintro ⟨value', hentry, hvalue⟩
      cases hentry
      exact ⟨_, rfl, (isMatchAll_term_iff hproperty).mpr ⟨rfl, hvalue⟩⟩
  | entry :: next :: entries =>
    constructor
    · rintro ⟨query, hquery, hall⟩
      cases hquery
      rw [not_isMatchAll_of_terms] at hall
      cases hall
    · rintro ⟨value, hentries, -⟩
      cases hentries

/-- **The criteria that ask for every node** have a single entry, which asks for a star in the
property `id`, with or without blanks behind the star. Only their query is taken for the one that
lists every node, and only theirs does so in every store. -/
theorem asksForAll_iff {c : Criteria}
    (h : ∀ property ∈ c.properties, isIdentifier property = true) :
    ((∃ query, c.compile = .ok query ∧ isMatchAll query = true) ↔
      ∃ value, c.entries = [("id", value)] ∧ trimEnd value = "*") ∧
    ((∃ query, c.compile = .ok query ∧ ∀ (index : NodeIndex) (s : NodeStore),
        (index.query query).perform s = (.ok (s.database.recordsOf index.entity), s)) ↔
      ∃ value, c.entries = [("id", value)] ∧ trimEnd value = "*") := by
  refine ⟨isMatchAll_compile_iff h, ?_⟩
  simp only [← NodeIndex.isMatchAll_iff]
  exact isMatchAll_compile_iff h

/-- A star with two blanks behind it lists every film. -/
theorem asksForAll_star : ∃ query, (single "id" "*\t\u3000").compile = .ok query ∧
    ∀ (index : NodeIndex) (s : NodeStore),
      (index.query query).perform s = (.ok (s.database.recordsOf index.entity), s) :=
  (asksForAll_iff (c := single "id" "*\t\u3000") (by decide +kernel)).2.mpr
    ⟨"*\t\u3000", rfl, by decide +kernel⟩

/-- A star with a blank in front does not. -/
example : (single "id" " *").compile = .ok "id: *" ∧ isMatchAll "id: *" = false := by
  decide +kernel

end Criteria

end EntityFinder
