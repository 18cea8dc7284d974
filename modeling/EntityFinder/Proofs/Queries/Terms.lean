import EntityFinder.Proofs.Queries.Conjunction
import EntityFinder.Proofs.Queries.Unambiguous

set_option autoImplicit false

/-!
# Queries of a single term

The term of an entry is a property, a colon, and either a phrase in quotes or a bare word. It is
read as one phrase in one column, and every row is found that has the text of the phrase in this
column.

## Main definitions

* `EntityFinder.FullText.Query.ofWord`: the query for a word in one column.

## Main results

* `EntityFinder.FullText.Query.ofText_quoted`, `EntityFinder.FullText.Query.ofText_bare`: how terms
  are read.
* `EntityFinder.FullText.Query.holds_ofWord`: a word is found where the text of the column is the
  word.
-/

namespace EntityFinder.FullText

/-! ## Lexemes -/

/-- The characters of identifiers make up bare words. -/
lemma isBare_of_isIdentifierPart {c : Char} (h : Text.isIdentifierPart c = true) :
    isBare c = true := by
  simp only [Text.isIdentifierPart, Bool.or_eq_true] at h
  simp only [isBare, Bool.or_eq_true]
  exact .inl (.inl h)

/-- A bare word ends at the first character that is none of it, or at the end of the text. -/
lemma lexFrom_inWord {word rest : List Char} (hword : ∀ c ∈ word, isBare c = true)
    (hrest : ∀ c ∈ rest.head?, isBare c = false) (read : List Char) :
    lexFrom (.inWord read) (word ++ rest) = .ofBareWord (read ++ word) :: lex rest := by
  induction word generalizing read with
  | nil =>
    rw [List.nil_append, List.append_nil]
    cases rest with
    | nil => rfl
    | cons c rest =>
      have hleave : Place.leave (.inWord read) c = (some (.ofBareWord read), none) :=
        if_neg (Bool.eq_false_iff.mp (hrest c rfl))
      rw [lexFrom, hleave]
      rfl
  | cons c word ih =>
    have hleave : Place.leave (.inWord read) c = (none, some (.inWord (read ++ [c]))) :=
      if_pos (hword c (.head _))
    rw [List.cons_append, lexFrom, hleave]
    change lexFrom (.inWord (read ++ [c])) (word ++ rest) = _
    rw [ih (fun x hx => hword x (.tail _ hx)), List.append_assoc]
    rfl

/-- A text that begins with a bare word. -/
lemma lex_bareWord {word rest : List Char} (hne : word ≠ []) (hword : ∀ c ∈ word, isBare c = true)
    (hrest : ∀ c ∈ rest.head?, isBare c = false) :
    lex (word ++ rest) = .ofBareWord word :: lex rest := by
  obtain ⟨c, word, rfl⟩ := List.exists_cons_of_ne_nil hne
  have hc := hword c (.head _)
  have hmeet : Place.meet c = .ok (none, .inWord [c]) := by
    have hgap : isGap c = false := by
      rw [Bool.eq_false_iff]
      intro hgap
      simp only [isGap, Bool.or_eq_true, beq_iff_eq] at hgap
      obtain ((rfl | rfl) | rfl) | rfl := hgap <;> revert hc <;> decide
    have hquote : c ≠ '"' := by
      rintro rfl
      revert hc
      decide
    simp only [Place.meet, hgap, hquote, hc, Bool.false_eq_true, if_false, if_true]
  have hfirst : lex (c :: word ++ rest) = lexFrom (.inWord [c]) (word ++ rest) := by
    rw [lex, List.cons_append, lexFrom]
    change (none : Option Lexeme).toList ++ _ = _
    rw [hmeet]
    rfl
  rw [hfirst, lexFrom_inWord (fun x hx => hword x (.tail _ hx)) hrest]
  rfl

/-- A bare word that is no operator is a word. -/
lemma ofBareWord_eq_word {word : List Char} (h : Sign.ofBareWord? word = none) :
    Lexeme.ofBareWord word = .word ⟨word, false⟩ := by
  rw [Lexeme.ofBareWord, h]

/-! ## Reading -/

namespace Query

/-- The query for a word in one column. -/
def ofWord (layout : Layout) (column : Nat) (w : Word) : Query :=
  .cluster ((Cluster.single (Phrase.empty.addWord layout.tokenizer w false)
    layout.allColumns).restrictTo [column])

variable {layout : Layout} {column : Nat} {property value : String}

/-- A row of one cluster is this cluster, whether it asks for anything or not. -/
lemma all_singleton (c : Cluster) : all [c] = .cluster c := by
  cases h : c.isEmpty with
  | true => simp [all, h]
  | false => simp [all, h]

/-- A word behind the name of a column and a colon is the query for this word in the column. -/
lemma ofLexemes_ofWord {name w : Word}
    (h : layout.column? (String.ofList name.text) = some column) :
    ofLexemes layout [.word name, .sign .colon, .word w] = .ok (ofWord layout column w) := by
  have hcolumns : readColumns layout 0 [.word name, .sign .colon, .word w] =
      .ok (some [column], [.word w]) := by
    have hcolumn : columnOf layout name = .ok column := by
      unfold columnOf
      simp only [h]
    have hone : allow (0 + 1) = .ok () := rfl
    have htwo : allow (0 + 2) = .ok () := rfl
    simp only [readColumns, hone, hcolumn, htwo, bind, Except.bind]
  have hpart : ∀ inner, readPart layout inner 0 [.word name, .sign .colon, .word w] =
      .ok (ofWord layout column w, []) := by
    intro inner
    have hcluster : readClusterIn layout 0 (some [column]) [.word w] =
        .ok ((Cluster.single (Phrase.empty.addWord layout.tokenizer w false)
          layout.allColumns).restrictTo [column], []) := rfl
    have hmore : readMoreClusters layout (0 + 1) 0 [] = .ok ([], []) := rfl
    simp only [readPart, hcolumns, hcluster, List.length_nil, hmore, all_singleton, bind,
      Except.bind]
    rfl
  simp only [ofLexemes, readQuery, readJoined, hpart, bind, Except.bind]
  rfl

section

variable (hproperty : Text.isIdentifier property = true)
  (hword : Sign.ofBareWord? property.toList = none)
  (hcolumn : layout.column? property = some column)

include hproperty hword hcolumn

/-- The term of an entry is read as a query for what stands behind the colon, if that is a word. -/
lemma ofText_term {w : Word} (hlex : lex (Criteria.termValue value.toList) = [.word w])
    (hnull : '\x00' ∉ Criteria.termValue value.toList) :
    ofText layout (Criteria.term property value) = .ok (ofWord layout column w) := by
  have hpart := Text.all_isIdentifierPart hproperty
  have hterm := Criteria.toList_term property value
  obtain ⟨c, cs, hc, hfirst⟩ := Text.exists_cons_of_isIdentifier hproperty
  have hnone : '\x00' ∉ (Criteria.term property value).toList := by
    rw [hterm, List.mem_append, List.mem_cons, not_or, not_or]
    exact ⟨Text.notMem_of_isIdentifier hproperty (by decide), by decide, hnull⟩
  have hservice : (Criteria.term property value).toList.head? ≠ some '*' := by
    rw [hterm, hc, List.cons_append, List.head?_cons, ne_eq, Option.some.injEq]
    rintro rfl
    revert hfirst
    decide
  have hread : lex (Criteria.term property value).toList =
      [.word ⟨property.toList, false⟩, .sign .colon, .word w] := by
    rw [hterm, lex_bareWord (by simp [hc]) (fun c hc => isBare_of_isIdentifierPart (hpart c hc))
      (fun c hc => by cases hc; decide), ofBareWord_eq_word hword]
    show _ :: .sign .colon :: lex (Criteria.termValue value.toList) = _
    rw [hlex]
  rw [ofText_eq hnone hservice, hread]
  exact ofLexemes_ofWord (by simpa using hcolumn)

/-- The term of a value that stands in quotes is the query for what the quotes enclose. -/
theorem ofText_quoted (hvalue : Criteria.needsQuotes value.toList = true)
    (hquote : '"' ∉ value.toList) (hnull : '\x00' ∉ value.toList) :
    ofText layout (Criteria.term property value) =
      .ok (ofWord layout column ⟨value.toList, true⟩) := by
  have hvalue : Criteria.termValue value.toList = '"' :: (value.toList ++ ['"']) := if_pos hvalue
  refine ofText_term hproperty hword hcolumn ?_ ?_
  · rw [hvalue]
    exact lexFrom_inQuotes hquote [] []
  · rw [hvalue]
    simp [hnull]

/-- The term of a bare word that is no operator is the query for this word. -/
theorem ofText_bare (hvalue : Criteria.needsQuotes value.toList = false) (hne : value.toList ≠ [])
    (hbare : ∀ c ∈ value.toList, isBare c = true) (hplain : Sign.ofBareWord? value.toList = none) :
    ofText layout (Criteria.term property value) =
      .ok (ofWord layout column ⟨value.toList, false⟩) := by
  have hvalue : Criteria.termValue value.toList = value.toList :=
    if_neg (Bool.eq_false_iff.mp hvalue)
  refine ofText_term hproperty hword hcolumn ?_ ?_
  · have hlex : lex (value.toList ++ []) = .ofBareWord value.toList :: lex [] :=
      lex_bareWord hne hbare fun c hc => by cases hc
    rw [List.append_nil, ofBareWord_eq_word hplain] at hlex
    rw [hvalue, hlex]
    rfl
  · rw [hvalue]
    intro hmem
    exact absurd (hbare _ hmem) (by decide)

end

end Query

/-! ## Finding -/

/-- A phrase of whole tokens asks for these tokens. -/
lemma terms_addWord (tokenizer : Tokenizer) (w : Word) :
    (Phrase.empty.addWord tokenizer w false).terms =
      (tokenizer.tokens w.text).map fun token => ⟨token, false⟩ := by
  show Phrase.setStem false ([] ++ _) = _
  rw [List.nil_append]
  obtain hnil | ⟨tokens, last, hlast⟩ := List.eq_nil_or_concat (tokenizer.tokens w.text)
  · rw [hnil]
    rfl
  · rw [hlast]
    simp [Phrase.setStem]

/-- Whole tokens accept themselves. -/
lemma acceptedHere_self (tokens : List Token) :
    acceptedHere (tokens.map fun token => ⟨token, false⟩) tokens = true := by
  induction tokens with
  | nil => rfl
  | cons token tokens ih => simp [acceptedHere, Term.accepts, ih]

/-- A phrase of tokens occurs at the beginning of a column that begins with these tokens. -/
lemma zero_mem_starts {p : Phrase} {column : List Token} (hempty : p.isEmpty = false)
    (hcolumn : column ≠ []) (h : acceptedHere p.terms column = true) : 0 ∈ p.starts column := by
  have hlength : 0 < column.length := List.length_pos_iff.mpr hcolumn
  rw [Phrase.starts, if_neg (Bool.eq_false_iff.mp hempty), List.mem_filter,
    List.mem_range]
  exact ⟨hlength, by simp [Phrase.occursAt, h]⟩

/-- A phrase that is alone in a cluster is found where it occurs. -/
lemma holds_single {p : Phrase} {columns : List Nat} {d : Document} {c : Nat} (hc : c ∈ columns)
    (h : 0 ∈ p.starts (d.column c)) : (Cluster.single p columns).holds d = true := by
  have hreach : reaches Cluster.usualDistance p.terms.length 0 0 = true := by
    have hpositive : (0 : Int) ≤ p.terms.length + Cluster.usualDistance :=
      Int.add_nonneg (Int.natCast_nonneg _) (by decide)
    simp only [reaches, Bool.and_eq_true, decide_eq_true_eq]
    exact ⟨Nat.le_refl 0, by simpa using hpositive⟩
  have hmeeting : 0 ∈ meetings Cluster.usualDistance [(p.terms.length, p.starts (d.column c))] := by
    refine List.mem_filter.mpr ⟨by simpa using h, ?_⟩
    simp only [allReach, List.all_cons, List.all_nil, Bool.and_true, List.any_eq_true]
    exact ⟨0, h, hreach⟩
  refine List.any_eq_true.mpr ⟨c, hc, List.any_eq_true.mpr ⟨_, .head _, ?_⟩⟩
  rw [Bool.not_eq_true', List.isEmpty_eq_false_iff]
  exact List.ne_nil_of_mem (List.mem_filter.mpr ⟨h, List.any_eq_true.mpr ⟨0, hmeeting, hreach⟩⟩)

/-- **A word is found where the text of the column is this word**, provided that the word has
tokens at all. -/
theorem Query.holds_ofWord {layout : Layout} {column : Nat} {w : Word} {d : Document}
    (hlayout : column < layout.columns.length)
    (hd : d.column column = layout.tokenizer.tokens w.text)
    (hne : layout.tokenizer.tokens w.text ≠ []) : (ofWord layout column w).holds d = true := by
  have hterms := terms_addWord layout.tokenizer w
  have hempty : (Phrase.empty.addWord layout.tokenizer w false).isEmpty = false := by
    rw [Phrase.isEmpty, hterms]
    simpa using hne
  refine holds_single (c := column) ?_ (zero_mem_starts hempty (by rwa [hd]) ?_)
  · refine List.mem_filter.mpr ⟨List.mem_range.mpr hlayout, ?_⟩
    simp
  · rw [hterms, hd]
    exact acceptedHere_self _

end EntityFinder.FullText
