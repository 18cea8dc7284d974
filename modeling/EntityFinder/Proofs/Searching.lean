import EntityFinder.Proofs.Isolation
import EntityFinder.Proofs.Queries.Conjunction

set_option autoImplicit false

/-!
# What searches find

A search answers the rows that satisfy its query, and an index the records of these rows. Texts that
are joined by `AND` find what each of them finds by itself.

## Main results

* `EntityFinder.IndexTable.search_joined`, `EntityFinder.Database.matching_joined`: what texts that
  are joined find in a table, and the records of it.
* `EntityFinder.NodeIndex.IsOf.query_joined`: what they find in an index.
-/

namespace EntityFinder

open Database (WellKept)
open FullText (HasRoom IsSelfContained lex)

/-! ## Tables -/

/-- A search answers the numbers of the rows that satisfy the query. -/
lemma FullText.mem_search {rows : List FullText.Row} {q : FullText.Query} {id : Int} :
    id ∈ FullText.search rows q ↔ ∃ r ∈ rows, q.holds r.document = true ∧ r.id = id := by
  rw [(FullText.search_perm rows q).mem_iff]
  simp only [FullText.found, List.mem_map, List.mem_filter, and_assoc]

namespace IndexTable

variable {t : IndexTable} {query : String} {ids : List Int}

/-- The query that a text is read as by a table, or none if it cannot be read. -/
def queryOf (t : IndexTable) (text : String) : FullText.Query :=
  (FullText.Query.ofText t.layout text).toOption.getD .nothing

/-- A text for which something is found is read as its query, nothing keeps this from being answered,
and what is found are the rows that satisfy it. -/
lemma search_eq_ok (h : t.search query = .ok ids) :
    FullText.Query.ofText t.layout query = .ok (t.queryOf query) ∧
      t.findFault? (t.queryOf query) ids = none ∧
      ids = FullText.search t.searchRows (t.queryOf query) := by
  unfold search at h
  split at h
  · next q hq =>
    obtain ⟨_, hfault, h⟩ := bind_eq_ok.mp h
    cases h
    have hquery : t.queryOf query = q := by
      rw [queryOf, hq]
      rfl
    rw [hquery]
    refine ⟨hq, ?_, rfl⟩
    unfold refuse at hfault
    split at hfault
    · assumption
    · cases hfault
  · cases h

/-- What a search finds if the query can be read and nothing keeps it from being answered. -/
lemma search_of_ofText {q : FullText.Query} (hq : FullText.Query.ofText t.layout query = .ok q)
    (hfault : t.findFault? q (FullText.search t.searchRows q) = none) :
    t.search query = .ok (FullText.search t.searchRows q) := by
  unfold search
  rw [hq]
  simp only [hfault, refuse, bind, Except.bind]

/-- What has to be the case for a query to be answered. -/
lemma findFault?_eq_none {q : FullText.Query} : t.findFault? q ids = none ↔
    t.misses .data = false ∧
      (t.misses .idx = true → ∀ p ∈ q.phrases, p.1.isEmpty = true) ∧
      (t.lacks .docsize = true → ids = []) := by
  unfold findFault?
  split_ifs with hdata hidx hdocsize
  · simp [hdata]
  · simp only [Bool.and_eq_true, List.any_eq_true, Bool.not_eq_true'] at hidx
    obtain ⟨hmisses, p, hp, hfull⟩ := hidx
    refine iff_of_false (by simp) fun h => ?_
    rw [h.2.1 hmisses p hp] at hfull
    cases hfull
  · simp only [Bool.and_eq_true, Bool.not_eq_true', List.isEmpty_eq_false_iff] at hdocsize
    exact iff_of_false (by simp) fun h => hdocsize.2 (h.2.2 hdocsize.1)
  · refine iff_of_true rfl ⟨by simpa using hdata, fun hmisses p hp => ?_, fun hlacks => ?_⟩
    · simp only [hmisses, Bool.true_and, Bool.not_eq_true, List.any_eq_false] at hidx
      simpa using hidx p hp
    · simpa [hlacks] using hdocsize

/-- A row is the only one of its number. -/
lemma eq_of_mem_searchRows (hs : RowsSorted t.rows) {a b : FullText.Row} (ha : a ∈ t.searchRows)
    (hb : b ∈ t.searchRows) (hid : a.id = b.id) : a = b := by
  have hnodup : (t.searchRows.map (·.id)).Nodup := by
    rw [searchRows, List.map_map]
    exact List.pairwise_map.mpr (hs.imp fun hlt => hlt.ne)
  exact List.inj_on_of_nodup_map hnodup ha hb hid

section

variable {q : FullText.Query} {qs : List FullText.Query}
variable (hs : RowsSorted t.rows) (h : q.AmountsTo qs) (hne : qs ≠ [])

include hs h hne

/-- A query finds what all of those find which it amounts to. -/
lemma mem_search_of_amountsTo {id : Int} : id ∈ FullText.search t.searchRows q ↔
    ∀ q' ∈ qs, id ∈ FullText.search t.searchRows q' := by
  simp only [FullText.mem_search, h.holds, List.all_eq_true]
  constructor
  · rintro ⟨r, hr, hall, rfl⟩ q' hq'
    exact ⟨r, hr, hall q' hq', rfl⟩
  · intro hall
    -- all of them find a row of this number, and there is only one
    obtain ⟨q₀, hq₀⟩ := List.exists_mem_of_ne_nil qs hne
    obtain ⟨r, hr, _, hid⟩ := hall q₀ hq₀
    refine ⟨r, hr, fun q' hq' => ?_, hid⟩
    obtain ⟨r', hr', hholds, hid'⟩ := hall q' hq'
    rwa [eq_of_mem_searchRows hs hr hr' (hid.trans hid'.symm)]

/-- Nothing keeps a query from being answered if nothing keeps those from it which it amounts to. -/
lemma findFault?_of_amountsTo
    (hfaults : ∀ q' ∈ qs, t.findFault? q' (FullText.search t.searchRows q') = none) :
    t.findFault? q (FullText.search t.searchRows q) = none := by
  obtain ⟨q₀, hq₀⟩ := List.exists_mem_of_ne_nil qs hne
  obtain ⟨hdata, _, hdocsize⟩ := findFault?_eq_none.mp (hfaults q₀ hq₀)
  refine findFault?_eq_none.mpr ⟨hdata, fun hmisses p hp => ?_, fun hlacks => ?_⟩
  · rw [h.phrases, List.mem_flatMap] at hp
    obtain ⟨q', hq', hp⟩ := hp
    exact (findFault?_eq_none.mp (hfaults q' hq')).2.1 hmisses p hp
  · refine List.eq_nil_iff_forall_not_mem.mpr fun id hid => ?_
    have hmem := (mem_search_of_amountsTo hs h hne).mp hid q₀ hq₀
    rw [hdocsize hlacks] at hmem
    cases hmem

end

/-- Texts that are joined by `AND` find the rows that each of them finds, unless a limit is exceeded
because one of them has no room behind others. -/
theorem search_joined (hs : RowsSorted t.rows) {texts : List String} (hne : texts ≠ [])
    (hfound : ∀ u ∈ texts, ∃ ids, t.search u = .ok ids)
    (hself : ∀ u ∈ texts, IsSelfContained u) :
    (∃ ids, t.search (" AND ".intercalate texts) = .ok ids ∧ ∀ id, id ∈ ids ↔
      ∀ u ∈ texts, ∀ ids', t.search u = .ok ids' → id ∈ ids') ∨
    (t.search (" AND ".intercalate texts) = .error (.query .tooNested) ∨
      t.search (" AND ".intercalate texts) = .error (.query .tooHigh)) ∧
        ∃ u ∈ texts, ¬HasRoom t.layout (lex u.toList) := by
  obtain ⟨text, texts, rfl⟩ := List.exists_cons_of_ne_nil hne
  have hsingle : ∀ u ∈ text :: texts, FullText.Query.ofText t.layout u = .ok (t.queryOf u) ∧
      t.findFault? (t.queryOf u) (FullText.search t.searchRows (t.queryOf u)) = none ∧
      t.search u = .ok (FullText.search t.searchRows (t.queryOf u)) := by
    intro u hu
    obtain ⟨ids, hids⟩ := hfound u hu
    obtain ⟨hread, hfault, rfl⟩ := search_eq_ok hids
    exact ⟨hread, hfault, hids⟩
  have hqueries : List.Forall₂ (fun u q => FullText.Query.ofText t.layout u = .ok q)
      (text :: texts) (t.queryOf text :: texts.map t.queryOf) :=
    List.forall₂_map_right_iff (R := fun u q => FullText.Query.ofText t.layout u = .ok q)
      (f := t.queryOf) (u := text :: texts) |>.mpr
      (List.forall₂_same.mpr fun u hu => (hsingle u hu).1)
  obtain ⟨q, hamounts, hq⟩ | ⟨hq, htight⟩ := FullText.Query.ofText_joined hqueries hself
  · rw [← List.map_cons] at hamounts
    have hnonempty : (text :: texts).map t.queryOf ≠ [] := by simp
    have hfault := findFault?_of_amountsTo hs hamounts hnonempty
      (List.forall_mem_map.mpr fun u hu => (hsingle u hu).2.1)
    refine .inl ⟨_, search_of_ofText hq hfault, fun id => ?_⟩
    rw [mem_search_of_amountsTo hs hamounts hnonempty, List.forall_mem_map]
    refine forall₂_congr fun u hu => ?_
    simp only [(hsingle u hu).2.2, Except.ok.injEq, forall_eq']
  · refine .inr ⟨hq.imp (fun hq => ?_) fun hq => ?_, htight⟩
    · simp only [search, hq]
    · simp only [search, hq]

end IndexTable

/-! ## Records -/

/-- The records for some numbers are those of the nodes with these numbers. -/
lemma Database.WellKept.mem_records {config : IndexConfig} {d : Database} (hd : WellKept config d)
    {ids : List Int} {r : Record} :
    r ∈ ids.filterMap (fun id => (d.node? id).bind StoredNode.record?) ↔
      r.id ∈ ids ∧ (d.node? r.id).bind StoredNode.record? = some r := by
  rw [List.mem_filterMap]
  constructor
  · rintro ⟨id, hid, hr⟩
    obtain ⟨n, _, hnumber, hrecord⟩ := hd.of_node?_record? hr
    obtain rfl : id = r.id := hnumber.symm.trans (of_record? hrecord).1.symm
    exact ⟨hid, hr⟩
  · rintro ⟨hid, hr⟩
    exact ⟨r.id, hid, hr⟩

/-- The records that texts which are joined by `AND` find in the table of an entity are those that
each of them finds, unless a limit is exceeded because one of them has no room behind others. -/
theorem Database.matching_joined {config : IndexConfig} {d : Database} {entity : String}
    (hpre : Text.isIdentifier config.tablePrefix = true) (hd : WellKept config d)
    (he : IsEntityName entity) {texts : List String} (hne : texts ≠ [])
    (hfound : ∀ u ∈ texts, ∃ records, d.matching (config.tableName entity) u = .ok records)
    (hself : ∀ u ∈ texts, IsSelfContained u) :
    (∃ records, d.matching (config.tableName entity) (" AND ".intercalate texts) = .ok records ∧
      ∀ r, r ∈ records ↔ ∀ u ∈ texts, ∀ records',
        d.matching (config.tableName entity) u = .ok records' → r ∈ records') ∨
    (d.matching (config.tableName entity) (" AND ".intercalate texts) =
        .error (.query .tooNested) ∨
      d.matching (config.tableName entity) (" AND ".intercalate texts) =
        .error (.query .tooHigh)) ∧
      ∃ t, d.table? (config.tableName entity) = some t ∧
        ∃ u ∈ texts, ¬HasRoom t.layout (lex u.toList) := by
  obtain ⟨text, htext⟩ := List.exists_mem_of_ne_nil texts hne
  obtain ⟨_, hfirst⟩ := hfound text htext
  obtain ⟨t, htable⟩ := table_of_matching hpre he hfirst
  obtain ⟨ht, _⟩ := mem_and_name_of_table? htable
  simp only [matching_of_table hpre he htable, map_eq_ok] at hfound ⊢
  have hids : ∀ u ∈ texts, ∃ ids, t.search u = .ok ids := by
    intro u hu
    obtain ⟨_, ids, hids, _⟩ := hfound u hu
    exact ⟨ids, hids⟩
  obtain ⟨ids, hjoined, hmem⟩ | ⟨hjoined, htight⟩ :=
    IndexTable.search_joined (hd.rows_sorted t ht) hne hids hself
  · refine .inl ⟨_, ⟨ids, hjoined, rfl⟩, fun r => ?_⟩
    rw [hd.mem_records, hmem]
    constructor
    · rintro ⟨hall, hr⟩ u hu _ ⟨ids', hids', rfl⟩
      exact hd.mem_records.mpr ⟨hall u hu ids' hids', hr⟩
    · intro hall
      have hfind : ∀ u ∈ texts, ∀ ids', t.search u = .ok ids' →
          r.id ∈ ids' ∧ (d.node? r.id).bind StoredNode.record? = some r :=
        fun u hu ids' hids' => hd.mem_records.mp (hall u hu _ ⟨ids', hids', rfl⟩)
      obtain ⟨ids', hids'⟩ := hids text htext
      exact ⟨fun u hu ids' hids' => (hfind u hu ids' hids').1, (hfind text htext ids' hids').2⟩
  · refine .inr ⟨hjoined.imp (fun h => ?_) fun h => ?_, t, htable, htight⟩
    · rw [h]
      rfl
    · rw [h]
      rfl

/-! ## Indexes -/

/-- Trimming keeps what is not blank. -/
lemma Text.mem_trim {c : Char} {text : String} (hc : Text.isBlank c = false)
    (h : c ∈ text.toList) : c ∈ (Text.trim text).toList := by
  have hdrop : ∀ {cs : List Char}, c ∈ cs → c ∈ cs.dropWhile Text.isBlank := by
    intro cs hcs
    rw [← List.takeWhile_append_dropWhile (p := Text.isBlank) (l := cs)] at hcs
    refine (List.mem_append.mp hcs).resolve_left fun htake => ?_
    rw [List.mem_takeWhile_imp htake] at hc
    cases hc
  simp only [Text.trim, Text.trimChars, Text.trimRight, String.toList_ofList, List.mem_reverse]
  exact hdrop (List.mem_reverse.mpr (hdrop h))

/-- Texts that do not ask for every node do not do so when they are joined. -/
lemma NodeIndex.isMatchAll_intercalate {texts : List String} (hne : texts ≠ [])
    (h : ∀ u ∈ texts, NodeIndex.isMatchAll u = false) :
    NodeIndex.isMatchAll (" AND ".intercalate texts) = false := by
  obtain ⟨text, texts, rfl⟩ := List.exists_cons_of_ne_nil hne
  cases texts with
  | nil => simpa using h text (.head _)
  | cons next texts =>
    have hmem : 'A' ∈ (" AND ".intercalate (text :: next :: texts)).toList := by
      rw [String.intercalate_cons_cons]
      simp
    simp only [NodeIndex.isMatchAll, beq_eq_false_iff_ne, ne_eq]
    intro hall
    have hkept := Text.mem_trim (by decide) hmem
    rw [hall] at hkept
    revert hkept
    decide

/-- A query that does not ask for every node goes to the table, if there is one. -/
lemma NodeIndex.perform_query_of_not_all (index : NodeIndex) {text : String}
    (h : NodeIndex.isMatchAll text = false) (s : NodeStore) : (index.query text).perform s =
      ((match index.table? with
        | none => .ok []
        | some table => s.database.matching table text :
        Except DatabaseFault (List Record)).mapError DatabaseFault.toError, s) := by
  rw [perform_query, h]
  rfl

namespace NodeIndex.IsOf

variable {config : IndexConfig} {m : EntityMetadata} {index : NodeIndex} {s : NodeStore}
variable (hpre : Text.isIdentifier config.tablePrefix = true)
  (hd : WellKept config s.database) (hof : index.IsOf config m)

include hpre hd hof

/-- The records that an index finds have different numbers, whatever it was asked. -/
lemma eq_of_query {text text' : String} {records records' : List Record}
    (h : (index.query text).perform s = (.ok records, s))
    (h' : (index.query text').perform s = (.ok records', s)) {a b : Record} (ha : a ∈ records)
    (hb : b ∈ records') (hid : a.id = b.id) : a = b := by
  obtain ⟨n, hn, _, hrecord⟩ := (hof.query_own hpre hd h).2.2 a ha
  obtain ⟨n', hn', _, hrecord'⟩ := (hof.query_own hpre hd h').2.2 b hb
  have hsame : n = n' := hd.node_eq hn hn' (by
    rw [← (Database.of_record? hrecord).1, hid, (Database.of_record? hrecord').1])
  rw [hsame, hrecord'] at hrecord
  exact (Option.some.inj hrecord).symm

/-- The records that an index finds for texts which are joined by `AND` are those that it finds for
each of them, unless a limit is exceeded because one of them has no room behind others. -/
theorem query_joined {texts : List String} (hne : texts ≠ [])
    (hall : ∀ u ∈ texts, NodeIndex.isMatchAll u = false)
    (hfound : ∀ u ∈ texts, ∃ records, (index.query u).perform s = (.ok records, s))
    (hself : ∀ u ∈ texts, IsSelfContained u) :
    (∃ records, (index.query (" AND ".intercalate texts)).perform s = (.ok records, s) ∧
      ∀ r, r ∈ records ↔ ∀ u ∈ texts, ∀ records',
        (index.query u).perform s = (.ok records', s) → r ∈ records') ∨
    ((index.query (" AND ".intercalate texts)).perform s =
        (.error (DatabaseFault.query .tooNested).toError, s) ∨
      (index.query (" AND ".intercalate texts)).perform s =
        (.error (DatabaseFault.query .tooHigh).toError, s)) ∧
      ∃ table t, index.table? = some table ∧ s.database.table? table = some t ∧
        ∃ u ∈ texts, ¬HasRoom t.layout (lex u.toList) := by
  obtain ⟨he, _, rfl⟩ := hof.eq
  have hjoined := isMatchAll_intercalate hne hall
  rw [perform_query_of_not_all _ hjoined]
  cases hnames : m.indexedNames.isEmpty with
  | true =>
    -- there is no table, and every answer is empty
    obtain ⟨u, hu⟩ := List.exists_mem_of_ne_nil texts hne
    have hempty := perform_query_of_not_all ⟨m.entityName, none⟩ (hall u hu) s
    exact .inl ⟨[], rfl, fun r => ⟨fun hr => (by cases hr), fun hevery => hevery u hu [] hempty⟩⟩
  | false =>
    have hasks : ∀ u ∈ texts, ∀ records, ((⟨m.entityName, some (config.tableName m.entityName)⟩ :
        NodeIndex).query u).perform s = (.ok records, s) ↔
          s.database.matching (config.tableName m.entityName) u = .ok records := by
      intro u hu records
      rw [perform_query_of_not_all _ (hall u hu), Prod.mk.injEq, mapError_eq_ok]
      exact and_iff_left rfl
    have hmatched : ∀ u ∈ texts, ∃ records,
        s.database.matching (config.tableName m.entityName) u = .ok records := by
      intro u hu
      obtain ⟨records, hrecords⟩ := hfound u hu
      rw [hnames] at hrecords
      exact ⟨records, (hasks u hu records).mp hrecords⟩
    obtain ⟨records, hrecords, hmem⟩ | ⟨hrefused, t, htable, htight⟩ :=
      Database.matching_joined hpre hd he hne hmatched hself
    · refine .inl ⟨records, ?_, fun r => (hmem r).trans ?_⟩
      · simp only [Bool.false_eq_true, if_false, hrecords]
        rfl
      · exact forall₂_congr fun u hu => forall_congr' fun records' =>
          imp_congr_left (hasks u hu records').symm
    · refine .inr ⟨hrefused.imp (fun h => ?_) fun h => ?_, _, t, rfl, htable, htight⟩
      · simp only [Bool.false_eq_true, if_false, h]
        rfl
      · simp only [Bool.false_eq_true, if_false, h]
        rfl

end NodeIndex.IsOf

end EntityFinder
