import EntityFinder.Proofs.Columns.Basic
import EntityFinder.Proofs.Queries.Lexing
import EntityFinder.Proofs.Searching

set_option autoImplicit false

/-!
# Queries on columns

A query on a column is refused if the table lacks the column. The failure says so, and no other
failure has this wording.

## Main definitions

* `EntityFinder.FinderError.IsMissing`: failures for want of a table or a column.

## Main results

* `EntityFinder.NodeIndex.avoids_missing`: queries on columns that a table has.
* `EntityFinder.NodeIndex.query_missing`: queries on a column that a table lacks.
-/

namespace EntityFinder

/-! ## Texts that name a column -/

namespace FullText

variable {layout : Layout}

/-- A layout lacks a column if none of its columns has the name. -/
lemma Layout.column?_eq_none {name : String} :
    layout.column? name = none ↔ layout.columns.any (Text.sameName name) = false := by
  simp [column?, List.findIdx?_eq_none_iff]

/-- Lexemes that begin with a column which the layout lacks are refused for it. -/
lemma Query.ofLexemes_missing {w : Word} {rest : List Lexeme}
    (h : layout.column? (String.ofList w.text) = none) :
    Query.ofLexemes layout (.word w :: .sign .colon :: rest) =
      .error (.noSuchColumn (String.ofList w.text)) := by
  have hcolumn : columnOf layout w = .error (.noSuchColumn (String.ofList w.text)) := by
    simp only [columnOf, h]
  have hallow : allow 1 = .ok () := rfl
  have hcolumns : readColumns layout 0 (.word w :: .sign .colon :: rest) =
      .error (.noSuchColumn (String.ofList w.text)) := by
    simp only [readColumns, hallow, hcolumn, bind, Except.bind]
  simp only [ofLexemes, readQuery, readJoined, readPart, hcolumns, bind, Except.bind]

/-- A query text that begins with a column in quotes which the layout lacks is refused for it. -/
lemma Query.ofText_missing {name : String} (hname : Text.isIdentifier name = true) (rest : String)
    (h : layout.column? name = none) :
    Query.ofText layout ("\"" ++ name ++ "\":" ++ rest) = .error (.noSuchColumn name) := by
  have hplain : ∀ c ∈ name.toList, c ≠ '"' ∧ c ≠ '\x00' := by
    intro c hc
    have hpart := Text.all_isIdentifierPart hname c hc
    constructor <;> rintro rfl <;> revert hpart <;> decide
  have htake : ("\"" ++ name ++ "\":" ++ rest).toList.takeWhile (· != '\x00') =
      '"' :: (name.toList ++ '"' :: ':' :: rest.toList.takeWhile (· != '\x00')) := by
    have hall : name.toList.takeWhile (· != '\x00') = name.toList :=
      List.takeWhile_eq_self_iff.mpr fun c hc => by simpa using (hplain c hc).2
    simp [List.takeWhile_append, hall]
  have hlex : lex ('"' :: (name.toList ++ '"' :: ':' :: rest.toList.takeWhile (· != '\x00'))) =
      .word ⟨name.toList, true⟩ :: .sign .colon :: lex (rest.toList.takeWhile (· != '\x00')) :=
    lexFrom_inQuotes (fun hmem => (hplain _ hmem).1 rfl) [] _
  unfold ofText
  rw [htake]
  change ofLexemes layout (lex _) = _
  rw [hlex, ofLexemes_missing (by simpa using h)]
  simp

/-- The wording of every other fault begins differently from that of a missing column. -/
lemma QueryFault.head?_message_ne {f : QueryFault} (h : ∀ column, f ≠ .noSuchColumn column) :
    f.message.toList.head? ≠ some 'n' := by
  have hstart : ∃ start rest, f.message = start ++ rest ∧
      start.toList.head?.any (· != 'n') = true := by
    cases f with
    | unexpected written =>
      exact ⟨"fts5: syntax error near \"", written ++ "\"", String.append_assoc .., rfl⟩
    | unterminated => exact ⟨"unterminated string", "", rfl, rfl⟩
    | noSuchColumn column => exact absurd rfl (h column)
    | noDistance written =>
      exact ⟨"expected integer, got \"", written ++ "\"", String.append_assoc .., rfl⟩
    | noSuchService name => exact ⟨"unknown special query: ", name, rfl, rfl⟩
    | tooNested => exact ⟨"fts5: parser stack overflow", "", rfl, rfl⟩
    | tooHigh => exact ⟨"fts5 expression tree is too large (maximum depth 256)", "", rfl, rfl⟩
  obtain ⟨start, rest, hmessage, hhead⟩ := hstart
  rw [hmessage, String.toList_append, List.head?_append]
  cases hs : start.toList.head? with
  | none => simp [hs] at hhead
  | some c => simpa [hs] using hhead

/-- No fault of a query has the wording of a missing table. -/
lemma QueryFault.message_ne {f : QueryFault} {table : String} :
    f.message ≠ "no such table: " ++ table := by
  intro h
  by_cases hf : ∃ column, f = .noSuchColumn column
  · obtain ⟨column, rfl⟩ := hf
    have hstart : ("no such column: " ++ column).toList = ("no such table: " ++ table).toList :=
      congrArg String.toList h
    simp at hstart
  · refine head?_message_ne (fun column hc => hf ⟨column, hc⟩) ?_
    rw [h]
    simp

/-- A fault of a query with the wording of a missing column is this. -/
lemma QueryFault.eq_of_message {f : QueryFault} {column : String}
    (h : f.message = "no such column: " ++ column) : f = .noSuchColumn column := by
  by_cases hf : ∃ column', f = .noSuchColumn column'
  · obtain ⟨column', rfl⟩ := hf
    rw [(String.append_right_inj "no such column: ").mp h]
  · refine absurd ?_ (head?_message_ne fun column' hc => hf ⟨column', hc⟩)
    rw [h]
    simp

end FullText

/-! ## Searching -/

/-- A failure for want of a table, or of one of some columns. -/
def FinderError.IsMissing (columns : String → Prop) (e : FinderError) : Prop :=
  (∃ table, e = (DatabaseFault.noSuchTable table).toError) ∨
    ∃ column, columns column ∧ e = (DatabaseFault.noSuchColumn column).toError

namespace IndexTable

variable {t : IndexTable} {query : String} {f : DatabaseFault}

/-- A search is refused for its query, or because the table has lost a part. -/
lemma search_error (h : t.search query = .error f) :
    (∃ g, f = .query g ∧ FullText.IsDue t.layout g) ∨ f = .malformedStorage ∨ f = .logic := by
  unfold search at h
  split at h
  · next q _ =>
    have hrefused : ∀ hits, t.findFault? q hits = some f → f = .malformedStorage ∨ f = .logic := by
      intro hits hfault
      unfold findFault? at hfault
      split_ifs at hfault <;> cases hfault
      · exact .inl rfl
      · exact .inr rfl
      · exact .inr rfl
    simp only [refuse] at h
    split at h
    · cases h
    · next hfault =>
      cases h
      exact .inr (hrefused _ hfault)
  · next g hg =>
    cases h
    exact .inl ⟨g, rfl, FullText.Query.ofText_due hg⟩

/-- A search is not refused for want of a column that the table has. -/
lemma not_isMissing_of_search (h : t.search query = .error f) {columns : String → Prop}
    (hhas : ∀ column, columns column → t.columns.any (Text.sameName column) = true) :
    ¬f.toError.IsMissing columns := by
  have hstorage : ∀ {g : DatabaseFault}, g.message.toList.head? ≠ some 'n' →
      ¬g.toError.IsMissing columns := by
    rintro g hg (⟨table, he⟩ | ⟨column, _, he⟩)
    · injection he with he
      refine hg (he ▸ ?_)
      change ("no such table: " ++ table).toList.head? = _
      simp
    · injection he with he
      refine hg (he ▸ ?_)
      change ("no such column: " ++ column).toList.head? = _
      simp
  obtain ⟨g, rfl, hdue⟩ | rfl | rfl := search_error h
  · rintro (⟨table, he⟩ | ⟨column, hcolumn, he⟩)
    · injection he with he
      exact FullText.QueryFault.message_ne he
    · injection he with he
      obtain rfl := FullText.QueryFault.eq_of_message he
      have hlacks := FullText.Layout.column?_eq_none.mp (hdue column rfl)
      have hknows := hhas column hcolumn
      rw [show t.layout.columns = t.columns from rfl, hknows] at hlacks
      cases hlacks
  · exact hstorage (by decide)
  · exact hstorage (by decide)

end IndexTable

/-! ## Indexes -/

namespace NodeIndex

variable {config : IndexConfig} {entity : String} {s : NodeStore}
variable (hpre : Text.isIdentifier config.tablePrefix = true) (he : IsEntityName entity)

include hpre he

/-- No query is refused for want of the table or of columns that it has. -/
theorem avoids_missing {columns : List String} {wanted : String → Prop}
    (htable : s.database.columnsOf? (config.tableName entity) = some columns)
    (hhas : ∀ column, wanted column → columns.any (Text.sameName column) = true) (text : String) :
    ((⟨entity, some (config.tableName entity)⟩ : NodeIndex).query text).Avoids
      (FinderError.IsMissing wanted) s := by
  intro e s' hq
  rw [perform_query, Prod.mk.injEq] at hq
  obtain ⟨hq, _⟩ := hq
  obtain ⟨t, ht, rfl⟩ := Database.columnsOf?_eq_some.mp htable
  split_ifs at hq
  · cases hq
  · simp only [Database.matching_of_table hpre he ht] at hq
    cases hf : t.search text with
    | ok ids =>
      rw [hf] at hq
      cases hq
    | error f =>
      rw [hf] at hq
      cases hq
      exact IndexTable.not_isMissing_of_search hf hhas

/-- A query that begins with a column which the table lacks is refused for want of it, or of the
table. -/
theorem query_missing {name : String} (hname : Text.isIdentifier name = true)
    (hlacks : ∀ columns, s.database.columnsOf? (config.tableName entity) = some columns →
      columns.any (Text.sameName name) = false) (rest : String) :
    ∃ e, ((⟨entity, some (config.tableName entity)⟩ : NodeIndex).query
        ("\"" ++ name ++ "\":" ++ rest)).perform s = (.error e, s) ∧
      e.IsMissing fun column => column = name ∨ column = config.tableName entity := by
  have hnot : isMatchAll ("\"" ++ name ++ "\":" ++ rest) = false := by
    simp only [isMatchAll, beq_eq_false_iff_ne, ne_eq]
    intro hall
    have hkept := @Text.mem_trim '"' ("\"" ++ name ++ "\":" ++ rest) (by decide) (by simp)
    rw [hall] at hkept
    revert hkept
    decide
  rw [perform_query_of_not_all _ hnot]
  simp only [Database.matching, IndexConfig.alone_tableName hpre he, bind, Except.bind]
  cases hrelation : s.database.relation? (config.tableName entity) with
  | none => exact ⟨_, rfl, .inl ⟨config.tableName entity, rfl⟩⟩
  | some r =>
    cases r with
    | part owner p => exact ⟨_, rfl, .inr ⟨config.tableName entity, .inr rfl, rfl⟩⟩
    | index t =>
      have hmissing : t.layout.column? name = none :=
        FullText.Layout.column?_eq_none.mpr (hlacks t.columns
          (Database.columnsOf?_eq_some.mpr ⟨t, Database.relation?_eq_index.mp hrelation, rfl⟩))
      have hsearch : t.search ("\"" ++ name ++ "\":" ++ rest) =
          .error (.query (.noSuchColumn name)) := by
        unfold IndexTable.search
        rw [FullText.Query.ofText_missing hname rest hmissing]
      refine ⟨(DatabaseFault.query (.noSuchColumn name)).toError, ?_, .inr ⟨name, .inl rfl, rfl⟩⟩
      simp only [hsearch]
      rfl

end NodeIndex

end EntityFinder
