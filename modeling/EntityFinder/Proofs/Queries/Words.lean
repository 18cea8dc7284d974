import EntityFinder.Proofs.Queries.Terms
import EntityFinder.Proofs.Searching

set_option autoImplicit false

/-!
# Texts that are read as one word

The term of a text with blanks inside is a phrase in quotes, and that of a text of letters and
digits is a bare word, unless this is an operator. Under the usual tokenizer every such word has a
token that can be found.

## Main definitions

* `EntityFinder.Criteria.IsPhrase`, `EntityFinder.Criteria.IsPlainWord`: texts whose terms are read
  as one word.
* `EntityFinder.IndexConfig.tokens`: the tokens of a text under a configuration.

## Main results

* `EntityFinder.Criteria.IsPhrase.ofText_term`, `EntityFinder.Criteria.IsPlainWord.ofText_term`: the
  queries that their terms are.
* `EntityFinder.Criteria.IsPlainWord.tokens_ne_nil`: a word has a token.
-/

namespace EntityFinder

open FullText (Layout Query RunRule Sign Token Tokenizer)

/-! ## Terms -/

/-- Trimming adds nothing. -/
lemma Text.mem_of_mem_trim {c : Char} {text : String} (h : c ∈ (Text.trim text).toList) :
    c ∈ text.toList := by
  simp only [Text.trim, Text.trimChars, Text.trimRight, String.toList_ofList,
    List.mem_reverse] at h
  have hfront := (List.dropWhile_sublist _).subset h
  exact (List.dropWhile_sublist _).subset (List.mem_reverse.mp hfront)

namespace Criteria

/-- A text that stands in quotes in its term, and is what the quotes enclose. -/
structure IsPhrase (value : String) : Prop where
  /-- There is a blank inside. -/
  blank : ∃ c ∈ (Text.trim value).toList, Text.isBlank c = true
  /-- It is not written between parentheses. -/
  not_group : isGroup value.toList = false
  /-- It has no quote. -/
  unquoted : '"' ∉ value.toList
  /-- It has no null character. -/
  whole : '\x00' ∉ value.toList

/-- A text of ASCII letters and digits that is no operator. -/
structure IsPlainWord (value : String) : Prop where
  /-- It is not empty. -/
  nonempty : value ≠ ""
  /-- All characters are ASCII letters and digits. -/
  letters : ∀ c ∈ value.toList, c.isAlphanum = true
  /-- It is none of the operators. -/
  not_operator : value ∉ ["AND", "OR", "NOT"]

variable {property value : String}

/-- A phrase stands in quotes. -/
lemma IsPhrase.needsQuotes (h : IsPhrase value) : needsQuotes value.toList = true := by
  have hblank : (Text.trimChars value.toList).any Text.isBlank = true := by
    simpa only [Text.trim, String.toList_ofList, List.any_eq_true] using h.blank
  rw [Criteria.needsQuotes, hblank, h.not_group]
  rfl

/-- The term of a phrase is the query for what stands between the quotes. -/
theorem IsPhrase.ofText_term (h : IsPhrase value) {layout : Layout} {column : Nat}
    (hproperty : Text.isIdentifier property = true)
    (hword : Sign.ofBareWord? property.toList = none)
    (hcolumn : layout.column? property = some column) :
    Query.ofText layout (term property value) = .ok (.ofWord layout column ⟨value.toList, true⟩) :=
  Query.ofText_quoted hproperty hword hcolumn h.needsQuotes h.unquoted h.whole

/-- A term with a quote does not ask for every node. -/
lemma isMatchAll_of_needsQuotes (h : needsQuotes value.toList = true) :
    NodeIndex.isMatchAll (term property value) = false := by
  have hmem : '"' ∈ (term property value).toList := by
    rw [toList_term, termValue, if_pos h]
    simp
  rw [NodeIndex.isMatchAll, beq_eq_false_iff_ne]
  intro hall
  have hkept := Text.mem_trim (by decide) hmem
  rw [hall] at hkept
  revert hkept
  decide

/-- A term without an asterisk does not ask for every node. -/
lemma isMatchAll_of_notMem (h : '*' ∉ (term property value).toList) :
    NodeIndex.isMatchAll (term property value) = false := by
  rw [NodeIndex.isMatchAll, beq_eq_false_iff_ne]
  intro hall
  refine h (Text.mem_of_mem_trim ?_)
  rw [hall]
  decide

namespace IsPlainWord

variable (h : IsPlainWord value)

include h

/-- The characters of a plain word are those of identifiers. -/
lemma isIdentifierPart {c : Char} (hc : c ∈ value.toList) : Text.isIdentifierPart c = true := by
  rw [Text.isIdentifierPart, h.letters c hc, Bool.true_or]

/-- A plain word stands in its term without quotes. -/
lemma needsQuotes : Criteria.needsQuotes value.toList = false := by
  have hblank : (Text.trimChars value.toList).any Text.isBlank = false := by
    rw [List.any_eq_false]
    intro c hc
    have hmem : c ∈ (Text.trim value).toList := by rwa [Text.trim, String.toList_ofList]
    rw [Text.isBlank_of_isIdentifierPart (h.isIdentifierPart (Text.mem_of_mem_trim hmem))]
    exact Bool.false_ne_true
  rw [Criteria.needsQuotes, hblank, Bool.false_and]

/-- A plain word is not read as an operator. -/
lemma ofBareWord?_eq_none : Sign.ofBareWord? value.toList = none := by
  refine List.find?_eq_none.mpr fun sign hsign => ?_
  rw [beq_iff_eq]
  intro heq
  have hvalue : value = String.ofList sign.written := by rw [heq, String.ofList_toList]
  refine h.not_operator ?_
  simp only [List.mem_cons, List.not_mem_nil, or_false] at hsign
  obtain rfl | rfl | rfl := hsign <;> rw [hvalue] <;> decide

/-- The term of a plain word is the query for this word. -/
theorem ofText_term {layout : Layout} {column : Nat} (hproperty : Text.isIdentifier property = true)
    (hword : Sign.ofBareWord? property.toList = none)
    (hcolumn : layout.column? property = some column) :
    Query.ofText layout (term property value) =
      .ok (.ofWord layout column ⟨value.toList, false⟩) := by
  have hne : value.toList ≠ [] := fun hnil => h.nonempty (String.toList_eq_nil_iff.mp hnil)
  exact Query.ofText_bare hproperty hword hcolumn h.needsQuotes hne
    (fun c hc => FullText.isBare_of_isIdentifierPart (h.isIdentifierPart hc)) h.ofBareWord?_eq_none

/-- The term of a plain word does not ask for every node. -/
lemma isMatchAll (hproperty : Text.isIdentifier property = true) :
    NodeIndex.isMatchAll (term property value) = false := by
  refine isMatchAll_of_notMem ?_
  rw [toList_term, termValue, if_neg (Bool.eq_false_iff.mp h.needsQuotes),
    List.mem_append, List.mem_cons, not_or, not_or]
  refine ⟨Text.notMem_of_isIdentifier hproperty (by decide), by decide, fun hmem => ?_⟩
  exact absurd (h.isIdentifierPart hmem) (by decide)

end IsPlainWord

end Criteria

/-! ## Tokens -/

/-- The tokens of a text under a configuration. -/
def IndexConfig.tokens (config : IndexConfig) (text : String) : List Token :=
  match Tokenizer.ofDeclaration config.tokenizer with
  | .ok tokenizer => tokenizer.tokens text.toList
  | .error _ => []

/-- A run begins where a character may begin one. -/
lemma FullText.RunRule.tokens_ne_nil {r : RunRule} {text : List Char}
    (h : ∃ c ∈ text, r.starts c = true) : r.tokens text ≠ [] := by
  have hopen : ∀ (cs : List Char) (run : List (Option Char)), r.runsFrom (some run) cs ≠ [] := by
    intro cs
    induction cs with
    | nil => exact fun run => List.cons_ne_nil _ _
    | cons c cs ih =>
      intro run
      rw [RunRule.runsFrom]
      split_ifs
      · exact ih _
      · exact List.cons_ne_nil _ _
  have hruns : r.runsFrom none text ≠ [] := by
    induction text with
    | nil => simp at h
    | cons c cs ih =>
      rw [RunRule.runsFrom]
      split_ifs with hc
      · exact hopen _ _
      · obtain ⟨x, hx, hstarts⟩ := h
        obtain rfl | hx := List.mem_cons.mp hx
        · exact absurd hstarts hc
        · exact ih ⟨x, hx, hstarts⟩
  simpa [RunRule.tokens] using hruns

namespace FullText.Tokenizer

/-- The codes of the usual categories. -/
lemma categoriesIn?_usual : categoriesIn? usualCategories =
    some ["Ll", "Lm", "Lo", "Lt", "Lu", "LC", "Nd", "Nl", "No", "Co"] := by
  decide +kernel

/-- The characters that the usual tokenizer makes words of. -/
def isUsualChar (c : Char) : Bool :=
  isExcepted (fun c => c != '\x00' && Text.inCategories
    ["Ll", "Lm", "Lo", "Lt", "Lu", "LC", "Nd", "Nl", "No", "Co"] c) [("remove_diacritics", "1")] c

/-- ASCII letters and digits are among them. -/
lemma isUsualChar_of_isAlphanum {c : Char} (h : c.isAlphanum = true) : isUsualChar c = true := by
  have hpart : Text.isIdentifierPart c = true := by
    rw [Text.isIdentifierPart, h, Bool.true_or]
  refine Text.forall_ascii (p := fun c => c.isAlphanum = true → isUsualChar c = true) ?_
    (Text.toNat_lt_of_isIdentifierPart hpart) h
  decide +kernel

/-- The usual tokenizer has one option, which is about diacritics. -/
lemma unicodeWith_usual :
    unicodeWith [("remove_diacritics", "1")] = some (words isUsualChar .dropped) := by
  have hcategory : lastValue? "categories" [("remove_diacritics", "1")] = none := by decide
  have hdiacritics : (lastValue? "remove_diacritics" [("remove_diacritics", "1")]).bind
      diacritics? = some .dropped := by decide
  have hallowed : haveNames ["remove_diacritics", "tokenchars", "separators", "categories"]
        [("remove_diacritics", "1")] = true ∧
      allValues "remove_diacritics" (fun value => (diacritics? value).isSome)
        [("remove_diacritics", "1")] = true := by decide
  simp only [unicodeWith, hallowed, hcategory, hdiacritics, Option.getD_none, Option.getD_some,
    categoriesIn?_usual, Option.map_some, and_self, if_true]
  rfl

/-- The usual declaration. -/
lemma ofDeclaration_standard :
    ofDeclaration IndexConfig.standard.tokenizer = .ok (words isUsualChar .dropped) := by
  have hunquoted : unquoted IndexConfig.standard.tokenizer =
      .ok IndexConfig.standard.tokenizer.toList := by decide +kernel
  have harguments : arguments? IndexConfig.standard.tokenizer.toList =
      some ["unicode61", "remove_diacritics", "1"] := by decide +kernel
  have hkind : kinds.find? (fun kind => Text.sameName "unicode61" kind.1) =
      some ("unicode61", unicodeWith) := rfl
  simp only [ofDeclaration, hunquoted, harguments, bind, Except.bind]
  rw [ofArguments, if_neg (by decide), hkind]
  simp only [options?, Option.map_some, Option.bind_some, unicodeWith_usual]

end FullText.Tokenizer

/-- Under the usual tokenizer a plain word has a token. -/
lemma Criteria.IsPlainWord.tokens_ne_nil {config : IndexConfig} {value : String}
    (h : IsPlainWord value) (hconfig : config.tokenizer = IndexConfig.standard.tokenizer) :
    config.tokens value ≠ [] := by
  have hne : value.toList ≠ [] := fun hnil => h.nonempty (String.toList_eq_nil_iff.mp hnil)
  obtain ⟨c, hc⟩ := List.exists_mem_of_ne_nil _ hne
  unfold IndexConfig.tokens
  rw [hconfig, Tokenizer.ofDeclaration_standard]
  simpa [Tokenizer.tokens, Tokenizer.allTokens, Tokenizer.words] using
    RunRule.tokens_ne_nil ⟨c, hc, Tokenizer.isUsualChar_of_isAlphanum (h.letters c hc)⟩

end EntityFinder
