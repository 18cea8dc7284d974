import EntityFinder.Criteria.Query
import EntityFinder.Proofs.TableNames

set_option autoImplicit false

/-!
# Criteria are told by their queries

A value may hold the separator of terms, colons and blanks, and it may begin or end in blanks. Even
so no value forges another entry: two sets of criteria with the same query are the same, as long as
their properties are identifiers and their values have no quotes and are no groups with blanks
inside. A value with blanks inside stands in quotes, and a value without them cannot run over the
separator, which has a blank between two letters.

## Main definitions

* `EntityFinder.Criteria.IsTransparent`: entries that can be read off their terms.
* `EntityFinder.Criteria.moreTerms`: what stands behind the first term of a query.

## Main results

* `EntityFinder.Criteria.term_append_inj`: a term is told from what stands behind it.
* `EntityFinder.Criteria.compile_injective`: criteria are told by their queries.
-/

namespace EntityFinder

namespace Text

/-- A blank between two characters that are none stays when the text is trimmed. -/
lemma mem_trimChars_of_between {first second : List Char} {blank c d : Char} (hc : c ∈ first)
    (hcblank : isBlank c = false) (hd : d ∈ second) (hdblank : isBlank d = false) :
    blank ∈ trimChars (first ++ blank :: second) := by
  have hkept : ∀ {cs : List Char} {x : Char}, x ∈ cs → isBlank x = false →
      (cs.dropWhile isBlank).isEmpty = false := by
    intro cs x hx hblank
    rw [List.isEmpty_eq_false_iff]
    intro hnil
    rw [List.dropWhile_eq_nil_iff.mp hnil x hx] at hblank
    cases hblank
  have hfront : (first ++ blank :: second).dropWhile isBlank =
      first.dropWhile isBlank ++ blank :: second := by
    rw [List.dropWhile_append, hkept hc hcblank, if_neg Bool.false_ne_true]
  have hback : (second.reverse ++ blank :: (first.dropWhile isBlank).reverse).dropWhile isBlank =
      second.reverse.dropWhile isBlank ++ blank :: (first.dropWhile isBlank).reverse := by
    rw [List.dropWhile_append, hkept (List.mem_reverse.mpr hd) hdblank, if_neg Bool.false_ne_true]
  rw [trimChars, hfront, trimRight, List.mem_reverse, List.reverse_append, List.reverse_cons,
    List.append_assoc, List.singleton_append, hback]
  exact List.mem_append_right _ (.head _)

/-- A character that is part of no identifier is not found in one. -/
lemma notMem_of_isIdentifier {s : String} (h : isIdentifier s = true) {c : Char}
    (hc : isIdentifierPart c = false) : c ∉ s.toList := by
  intro hmem
  rw [all_isIdentifierPart h c hmem] at hc
  cases hc

/-- The characters of identifiers are no blanks. -/
lemma isBlank_of_isIdentifierPart {c : Char} (h : isIdentifierPart c = true) :
    isBlank c = false :=
  forall_ascii (p := fun c => isIdentifierPart c = true → isBlank c = false) (by decide)
    (toNat_lt_of_isIdentifierPart h) h

/-- An identifier begins with a character of identifiers. -/
lemma exists_cons_of_isIdentifier {s : String} (h : isIdentifier s = true) :
    ∃ c cs, s.toList = c :: cs ∧ isIdentifierPart c = true := by
  cases hs : s.toList with
  | nil =>
    rw [isIdentifier, hs] at h
    cases h
  | cons c cs => exact ⟨c, cs, rfl, all_isIdentifierPart h c (hs ▸ .head _)⟩

/-- Two texts that are cut at the first place where one of them has a mark are cut alike. -/
lemma append_cons_inj {first first' second second' : List Char} {c d : Char} (hc : c ∉ first')
    (hd : d ∉ first) (h : first ++ c :: second = first' ++ d :: second') :
    first = first' ∧ c = d ∧ second = second' := by
  induction first generalizing first' with
  | nil =>
    cases first' with
    | nil => exact ⟨rfl, List.cons.inj h⟩
    | cons x xs => exact absurd (List.cons.inj h).1 (List.ne_of_not_mem_cons hc)
  | cons x xs ih =>
    cases first' with
    | nil => exact absurd (List.cons.inj h).1.symm (List.ne_of_not_mem_cons hd)
    | cons y ys =>
      obtain ⟨rfl, htail⟩ := List.cons.inj h
      obtain ⟨rfl, hrest⟩ := ih (List.not_mem_of_not_mem_cons hc)
        (List.not_mem_of_not_mem_cons hd) htail
      exact ⟨rfl, hrest⟩

end Text

namespace Criteria

open Text

/-- An entry that can be read off its term. -/
structure IsTransparent (entry : String × String) : Prop where
  /-- The property is an identifier. -/
  property : isIdentifier entry.1 = true
  /-- The value has no quote that could end a phrase. -/
  unquoted : '"' ∉ entry.2.toList
  /-- A value that is written as a group has no blanks inside. -/
  ungrouped : isGroup entry.2.toList = true → (trimChars entry.2.toList).any isBlank = false

instance (entry : String × String) : Decidable (IsTransparent entry) :=
  decidable_of_iff (isIdentifier entry.1 = true ∧ '"' ∉ entry.2.toList ∧
      (isGroup entry.2.toList = true → (trimChars entry.2.toList).any isBlank = false))
    ⟨fun h => ⟨h.1, h.2.1, h.2.2⟩, fun h => ⟨h.property, h.unquoted, h.ungrouped⟩⟩

/-- What stands in a query behind its first term, when these entries follow. -/
def moreTerms (entries : List (String × String)) : List Char :=
  entries.flatMap fun entry => termSeparator.toList ++ (term entry.1 entry.2).toList

/-- The term of an entry is its property, a colon, and its value. -/
lemma toList_term (property value : String) :
    (term property value).toList = property.toList ++ ':' :: termValue value.toList := by
  simp [term]

/-- A query is its first term and what stands behind it. -/
lemma toList_intercalate_term (entry : String × String) (entries : List (String × String)) :
    (termSeparator.intercalate ((entry :: entries).map fun e => term e.1 e.2)).toList =
      (term entry.1 entry.2).toList ++ moreTerms entries := by
  induction entries generalizing entry with
  | nil => simp [moreTerms]
  | cons next entries ih =>
    rw [List.map_cons, List.map_cons, String.intercalate_cons_cons, String.toList_append,
      String.toList_append, ← List.map_cons (f := fun e : String × String => term e.1 e.2), ih]
    simp only [moreTerms, List.flatMap_cons, List.append_assoc]

/-! ## Values that stand as they are -/

/-- The separator in front of a property: its blanks stand around letters. -/
lemma toList_termSeparator_append (text : List Char) :
    termSeparator.toList ++ text = ' ' :: ("AND".toList ++ ' ' :: text) := rfl

/-- What can stand behind a value: nothing, or the separator and another term. -/
def IsBehindValue (rest : List Char) : Prop :=
  rest = [] ∨ ∃ property more, isIdentifier property = true ∧
    rest = termSeparator.toList ++ (property.toList ++ ':' :: more)

/-- The further terms of a query stand behind the value of the first one. -/
lemma isBehindValue_moreTerms {entries : List (String × String)}
    (h : ∀ entry ∈ entries, IsTransparent entry) : IsBehindValue (moreTerms entries) := by
  cases entries with
  | nil => exact .inl rfl
  | cons entry entries =>
    refine .inr ⟨entry.1, termValue entry.2.toList ++ moreTerms entries,
      (h entry (.head _)).property, ?_⟩
    rw [moreTerms, List.flatMap_cons, toList_term]
    simp only [List.append_assoc, List.cons_append, moreTerms]

/-- A value without blanks inside does not reach over the separator. -/
lemma any_isBlank_of_separator {value more : List Char} {c : Char} (hc : isBlank c = false) :
    (trimChars (value ++ ' ' :: ("AND".toList ++ ' ' :: (c :: more)))).any isBlank = true := by
  have hsplit : value ++ ' ' :: ("AND".toList ++ ' ' :: (c :: more)) =
      (value ++ ' ' :: "AND".toList) ++ ' ' :: (c :: more) := by
    simp only [List.append_assoc, List.cons_append]
  have hletter : 'A' ∈ value ++ ' ' :: "AND".toList := List.mem_append_right _ (by decide)
  rw [hsplit, List.any_eq_true]
  exact ⟨' ', mem_trimChars_of_between hletter (by decide) (.head _) hc, by decide⟩

/-- No value without blanks inside goes on where another one has ended. -/
lemma eq_nil_of_isBehindValue {value more rest : List Char}
    (h : (trimChars (value ++ more)).any isBlank = false) (hrest : IsBehindValue rest)
    (hmore : IsBehindValue (more ++ rest)) : more = [] := by
  obtain hnil | ⟨property, after, hproperty, hmore⟩ := hmore
  · exact (List.append_eq_nil_iff.mp hnil).1
  obtain ⟨c, cs, hc, hpart⟩ := exists_cons_of_isIdentifier hproperty
  have hover : ∀ {further : List Char},
      more ≠ ' ' :: ("AND".toList ++ ' ' :: (c :: further)) := by
    rintro further rfl
    rw [any_isBlank_of_separator (isBlank_of_isIdentifierPart hpart)] at h
    cases h
  rw [toList_termSeparator_append] at hmore
  obtain rfl | ⟨property', after', -, rfl⟩ := hrest
  · rw [List.append_nil, hc] at hmore
    exact absurd hmore hover
  cases more with
  | nil => rfl
  | cons x xs =>
    -- the second blank of one separator is the first one of the other, or it is part of the value
    rw [toList_termSeparator_append, List.cons_append] at hmore
    obtain ⟨rfl, htail⟩ := List.cons.inj hmore
    by_cases hmem : ' ' ∈ xs
    · obtain ⟨letters, further, rfl, hletters⟩ := List.eq_append_cons_of_mem hmem
      rw [List.append_assoc, List.cons_append] at htail
      obtain ⟨rfl, -, hproperty'⟩ := append_cons_inj (by decide) hletters htail
      rw [hc, List.cons_append] at hproperty'
      cases further with
      | nil =>
        rw [← (List.cons.inj hproperty').1] at hpart
        exact absurd hpart (by decide)
      | cons y ys =>
        obtain ⟨rfl, -⟩ := List.cons.inj hproperty'
        exact absurd rfl hover
    · obtain ⟨-, -, hafter⟩ := append_cons_inj (by decide) hmem htail
      have hcut := append_cons_inj (notMem_of_isIdentifier hproperty (by decide)) (by decide) hafter
      exact absurd hcut.2.1 (by decide)

/-- A value that stands as it is has no blanks inside. -/
lemma IsTransparent.any_isBlank {entry : String × String} (h : IsTransparent entry)
    (hplain : needsQuotes entry.2.toList = false) :
    (trimChars entry.2.toList).any isBlank = false := by
  rw [needsQuotes, Bool.and_eq_false_iff, Bool.not_eq_false'] at hplain
  exact hplain.elim id h.ungrouped

/-- A value in quotes is no beginning of a value without them, nor of what stands behind one. -/
lemma quote_cons_ne {value rest : List Char} (hvalue : '"' ∉ value) (hrest : IsBehindValue rest)
    (more : List Char) : '"' :: more ≠ value ++ rest := by
  intro h
  cases value with
  | nil =>
    obtain rfl | ⟨property, after, -, rfl⟩ := hrest
    · cases h
    · exact absurd (List.cons.inj h).1 (by decide)
  | cons x xs =>
    obtain ⟨rfl, -⟩ := List.cons.inj h
    exact hvalue (.head _)

/-! ## Terms -/

/-- What is written for a value tells it from what stands behind it. -/
lemma termValue_append_inj {entry entry' : String × String} {rest rest' : List Char}
    (he : IsTransparent entry) (he' : IsTransparent entry') (hrest : IsBehindValue rest)
    (hrest' : IsBehindValue rest')
    (h : termValue entry.2.toList ++ rest = termValue entry'.2.toList ++ rest') :
    entry.2.toList = entry'.2.toList ∧ rest = rest' := by
  unfold termValue at h
  split_ifs at h with hquotes hquotes' hquotes'
  · rw [List.cons_append, List.cons_append, List.append_assoc, List.append_assoc] at h
    obtain ⟨hvalue, -, hrests⟩ :=
      append_cons_inj he'.unquoted he.unquoted (List.cons.inj h).2
    exact ⟨hvalue, hrests⟩
  · exact (quote_cons_ne he'.unquoted hrest' _ h).elim
  · exact (quote_cons_ne he.unquoted hrest _ h.symm).elim
  · have hplain := he.any_isBlank (Bool.eq_false_iff.mpr hquotes)
    have hplain' := he'.any_isBlank (Bool.eq_false_iff.mpr hquotes')
    obtain ⟨more, hvalue, hrests⟩ | ⟨more, hvalue, hrests⟩ := List.append_eq_append_iff.mp h
    · rw [hvalue] at hplain'
      rw [hrests] at hrest
      obtain rfl := eq_nil_of_isBehindValue hplain' hrest' hrest
      exact ⟨by rw [hvalue, List.append_nil], hrests⟩
    · rw [hvalue] at hplain
      rw [hrests] at hrest'
      obtain rfl := eq_nil_of_isBehindValue hplain hrest hrest'
      exact ⟨by rw [hvalue, List.append_nil], hrests.symm⟩

/-- **A term is told from what stands behind it.** -/
theorem term_append_inj {entry entry' : String × String} {rest rest' : List Char}
    (he : IsTransparent entry) (he' : IsTransparent entry') (hrest : IsBehindValue rest)
    (hrest' : IsBehindValue rest')
    (h : (term entry.1 entry.2).toList ++ rest = (term entry'.1 entry'.2).toList ++ rest') :
    entry = entry' ∧ rest = rest' := by
  simp only [toList_term, List.append_assoc, List.cons_append] at h
  obtain ⟨hproperty, -, hvalues⟩ :=
    append_cons_inj (notMem_of_isIdentifier he'.property (by decide))
      (notMem_of_isIdentifier he.property (by decide)) h
  obtain ⟨hvalue, hrests⟩ := termValue_append_inj he he' hrest hrest' hvalues
  exact ⟨Prod.ext (String.toList_inj.mp hproperty) (String.toList_inj.mp hvalue), hrests⟩

/-! ## Queries -/

/-- The further terms of a query tell their entries. -/
lemma moreTerms_inj {entries entries' : List (String × String)}
    (h : ∀ entry ∈ entries, IsTransparent entry) (h' : ∀ entry ∈ entries', IsTransparent entry)
    (heq : moreTerms entries = moreTerms entries') : entries = entries' := by
  induction entries generalizing entries' with
  | nil =>
    cases entries' with
    | nil => rfl
    | cons entry' entries' => cases heq
  | cons entry entries ih =>
    cases entries' with
    | nil => cases heq
    | cons entry' entries' =>
      obtain ⟨hentry, hentries⟩ := List.forall_mem_cons.mp h
      obtain ⟨hentry', hentries'⟩ := List.forall_mem_cons.mp h'
      simp only [moreTerms, List.flatMap_cons, List.append_assoc, List.append_cancel_left_eq] at heq
      obtain ⟨rfl, hrests⟩ := term_append_inj hentry hentry'
        (isBehindValue_moreTerms hentries) (isBehindValue_moreTerms hentries') heq
      rw [ih hentries hentries' hrests]

/-- **Criteria are told by their queries**: no value forges another entry, nor a part of one. -/
theorem compile_injective {c c' : Criteria} (h : ∀ entry ∈ c.entries, IsTransparent entry)
    (h' : ∀ entry ∈ c'.entries, IsTransparent entry) (heq : c.compile = c'.compile) : c = c' := by
  obtain ⟨entries⟩ := c
  obtain ⟨entries'⟩ := c'
  cases entries with
  | nil =>
    cases entries' with
    | nil => rfl
    | cons entry' entries' => cases heq
  | cons entry entries =>
    cases entries' with
    | nil => cases heq
    | cons entry' entries' =>
      obtain ⟨hentry, hentries⟩ := List.forall_mem_cons.mp h
      obtain ⟨hentry', hentries'⟩ := List.forall_mem_cons.mp h'
      have hqueries := congrArg String.toList (Except.ok.inj heq)
      rw [toList_intercalate_term, toList_intercalate_term] at hqueries
      obtain ⟨rfl, hrests⟩ := term_append_inj hentry hentry'
        (isBehindValue_moreTerms hentries) (isBehindValue_moreTerms hentries') hqueries
      rw [moreTerms_inj hentries hentries' hrests]

/-- Criteria for a film with the separator in two values, put together in two ways. -/
theorem compile_injective_films :
    ((single "title" "the lost").insert "note" " AND year:1925").insert "title" " AND " =
      ofList [("title", " AND "), ("note", " AND year:1925")] :=
  compile_injective (by decide +kernel) (by decide +kernel) (by decide +kernel)

/-- A group with blanks inside does forge entries. -/
example : (single "title" "(lost) AND note:(world)").compile =
    (ofList [("title", "(lost)"), ("note", "(world)")]).compile := by
  decide +kernel

end Criteria

end EntityFinder
