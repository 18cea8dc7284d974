import EntityFinder.Proofs.Columns.Occupied
import EntityFinder.Proofs.Decoding
import EntityFinder.Proofs.JointSearch
import EntityFinder.Proofs.Queries.Words

set_option autoImplicit false

/-!
# Nodes are found by their own texts

Whoever searches a property for the text that a node has there finds the node, as long as the term
of the text is read as one word: a phrase in quotes, or a bare word that is no operator.

## Main definitions

* `EntityFinder.Repository.Finds`: a repository finds a record by a text in a property.
* `EntityFinder.StoreRun.Hides`: a node is stored that is not found by a text of its own.

## Main results

* `EntityFinder.StoreRun.finds_read`: a node is found if the term of its text is read as this text.
* `EntityFinder.StoreRun.found_by_phrase`, `EntityFinder.StoreRun.found_by_word`: so it is found by
  its phrases and by its words.
* `EntityFinder.StoreRun.exists_hidden_phrase`, `EntityFinder.StoreRun.exists_hidden_word`: nodes
  that are not found by their own texts.
-/

namespace EntityFinder

open Database (WellKept)
open FullText (Layout Query Sign Tokenizer Word)

/-! ## Texts of columns -/

/-- The text that a table shows in a column is that of the property with the name of the column: a
name which goes on behind a null character comes later. -/
lemma Properties.shown?_of_get? {p : Properties} {column text : String}
    (hcolumn : Text.isIdentifier column = true) (h : p.get? column = some text) :
    p.shown? column = some text := by
  have hsorted := p.sorted
  rw [get?] at h
  rw [shown?]
  generalize p.entries = entries at h hsorted
  have hwhole : column.toList.takeWhile (· != '\x00') = column.toList := by
    rw [List.takeWhile_eq_self_iff]
    intro c hc
    rw [bne_iff_ne]
    rintro rfl
    exact Text.notMem_of_isIdentifier hcolumn (by decide) hc
  induction entries with
  | nil => cases h
  | cons entry entries ih =>
    obtain ⟨name, value⟩ := entry
    rw [IsSortedByName, List.pairwise_cons] at hsorted
    rw [List.lookup_cons] at h
    by_cases hname : column = name
    · subst hname
      rw [beq_self_eq_true] at h
      simpa [Json.isShownAs, hwhole] using h
    · rw [beq_false_of_ne hname] at h
      obtain ⟨before, after, heq, _⟩ := List.lookup_eq_some_iff.mp h
      have hlater : name < column := hsorted.1 (column, text) (by simp [heq])
      have hother : Json.isShownAs column name = false := by
        rw [Json.isShownAs, beq_eq_false_iff_ne]
        intro hsame
        have hprefix : column.toList <+: name.toList := hsame ▸ List.takeWhile_prefix _
        exact absurd hlater (List.not_lt.mpr hprefix.le)
      rw [List.find?_cons, hother]
      exact ih h hsorted.2

/-- The column of a name is where the name stands, if names can be told apart. -/
lemma FullText.Layout.column?_eq_some {layout : Layout} {reserved name : String} {c : Nat}
    (hdistinct : Database.areDistinct reserved layout.columns = true)
    (hc : layout.columns[c]? = some name) : layout.column? name = some c := by
  obtain ⟨hlt, hget⟩ := List.getElem?_eq_some_iff.mp hc
  refine List.findIdx?_eq_some_iff_getElem.mpr ⟨hlt, by simp [hget, Text.sameName], ?_⟩
  intro j hj hsame
  simp only [Database.areDistinct, List.map_cons, decide_eq_true_eq, List.nodup_cons] at hdistinct
  have hj' : j < (layout.columns.map Text.lowerAscii).length := by simpa using hj.trans hlt
  have hc' : c < (layout.columns.map Text.lowerAscii).length := by simpa using hlt
  have hlower : (layout.columns.map Text.lowerAscii)[j] =
      (layout.columns.map Text.lowerAscii)[c] := by
    rw [List.getElem_map, List.getElem_map, hget]
    exact (beq_iff_eq.mp hsame).symm
  exact absurd (hdistinct.2.getElem_inj_iff.mp hlower) hj.ne

/-! ## Searching a table -/

/-- A record is found by every query that can be read and holds of the row of its node. -/
lemma Database.exists_found? {config : IndexConfig} {d : Database} {table text : String}
    {t : IndexTable} {q : Query} {n : StoredNode} {record : Record} {row : IndexRow}
    (hd : WellKept config d) (ht : d.table? table = some t) (hlost : t.lost = [])
    (hq : Query.ofText t.layout text = .ok q) (hn : n ∈ d.nodes)
    (hrecord : n.record? = some record) (hrow : row ∈ t.rows) (hid : row.id = n.id)
    (hholds : q.holds (t.documentOf row) = true) :
    ∃ records, d.found? table text = some records ∧ record ∈ records := by
  have hfound : d.found? table text = some ((FullText.found t.searchRows q).filterMap fun row =>
      (d.node? row.id).bind StoredNode.record?) := by
    simp [found?, ht, hlost, hq, Except.toOption]
  refine ⟨_, hfound, List.mem_filterMap.mpr ⟨⟨row.id, t.documentOf row⟩, ?_, ?_⟩⟩
  · exact List.mem_filter.mpr ⟨List.mem_map.mpr ⟨row, hrow, rfl⟩, hholds⟩
  · rw [hd.node?_eq_some.mpr ⟨hn, hid.symm⟩, Option.bind_some, hrecord]

/-- The tokens that a row has in a column. -/
lemma IndexTable.column_documentOf {t : IndexTable} {row : IndexRow} {c : Nat} {text : String}
    (h : row.texts[c]? = some (some text)) :
    (t.documentOf row).column c = t.tokens.tokens text.toList := by
  rw [FullText.Document.column, documentOf, List.getElem?_map, h]
  rfl

/-- A table with the tokenizer of a configuration finds the same tokens. -/
lemma IndexTable.tokens_eq {config : IndexConfig} {t : IndexTable} {text : String}
    (h : t.tokenizer = config.tokenizer) (htext : config.tokens text ≠ []) :
    t.tokens.tokens text.toList = config.tokens text := by
  revert htext
  unfold IndexConfig.tokens tokens
  rw [h]
  cases FullText.Tokenizer.ofDeclaration config.tokenizer with
  | ok tokenizer => exact fun _ => rfl
  | error fault => exact fun htext => absurd rfl htext

/-! ## Names of columns -/

/-- The names of columns that have been checked are identifiers. -/
lemma IndexPlan.isIdentifier_of_validateColumns {names : List String} {name : String}
    (h : validateColumns names = .ok ()) (hname : name ∈ names) :
    Text.isIdentifier name = true := by
  induction names with
  | nil => cases hname
  | cons first names ih =>
    obtain ⟨_, hfirst, hrest⟩ := bind_eq_ok.mp h
    obtain rfl | hname := List.mem_cons.mp hname
    · unfold validateIdentifier at hfirst
      split_ifs at hfirst with hno
      simpa using hno
    · exact ih hrest hname

/-- A column that can be named in a statement is no operator of the query language. -/
lemma Database.ofBareWord?_eq_none {names : List String} {name : String}
    (h : checkColumnNames names = .ok ()) (hname : name ∈ names) :
    Sign.ofBareWord? name.toList = none := by
  have hfree : isReserved name = false := by
    unfold checkColumnNames at h
    split at h
    · next hnone => simpa using List.find?_eq_none.mp hnone name hname
    · cases h
  refine List.find?_eq_none.mpr fun sign hsign => ?_
  rw [beq_iff_eq]
  intro heq
  have hname : name = String.ofList sign.written := by rw [heq, String.ofList_toList]
  subst hname
  revert hfree
  simp only [List.mem_cons, List.not_mem_nil, or_false] at hsign
  obtain rfl | rfl | rfl := hsign <;> decide

/-! ## Finding by own texts -/

/-- A repository finds a record by a text in one of its properties. -/
def Repository.Finds (r : Repository NodeStore) (s : NodeStore) (record : Record)
    (property value : String) : Prop :=
  ∃ es, (r.findBy (.single property value)).perform s = (.ok es, s) ∧
    ⟨.node, .ofRecord record⟩ ∈ es

section

variable {config : IndexConfig} {events : List StoreEvent} {s : NodeStore}
  {r : Repository NodeStore} {index : NodeIndex} {n : StoredNode}
variable (hpre : Text.isIdentifier config.tablePrefix = true) (hrun : StoreRun config events s)
  (hown : ∀ event ∈ events, event.IsOwn)
  (hkeeps : ∀ event ∈ events, event.KeepsTo r.entityName r.metadata.indexedNames)
  (hapart : config.Apart fun a => a = r.entityName ∨ ∃ event ∈ events, event.entity? = some a)
  (hof : index.IsOf config r.metadata) (hindex : r.index = index.searchIndex)
  (hloader : r.loader = nodeLoader) (hkind : r.kind = .node)
  (hn : n ∈ s.database.nodes) (hentity : n.entity = r.entityName)

include hpre hrun hown hapart hn in
omit hkeeps hentity in
/-- A node that comes from the store has a record. -/
lemma StoreRun.exists_record : ∃ record, n.record? = some record := by
  obtain ⟨_, _, hstep⟩ := (storeInvariant_inStep hpre hapart).run hrun
    fun event hevent => ⟨hown event hevent, fun a ha => .inr ⟨event, hevent, ha⟩⟩
  obtain ⟨p, hp⟩ := hstep.documents n hn
  obtain ⟨id, entity, document⟩ := n
  obtain rfl : document = p.document := hp
  exact ⟨_, StoredNode.record?_document id entity p⟩

include hpre hrun hown hkeeps hapart hof hindex hloader hkind hn hentity

/-- A node is found by a text of a property if the term of the text is read as a word with this
text: the table shows the text in the column of the property. -/
theorem StoreRun.finds_read {record : Record} (hrecord : n.record? = some record)
    {property value : String} {w : Word} (hindexes : r.metadata.indexes property = true)
    (hget : record.properties.get? property = some value) (hw : w.text = value.toList)
    (htokens : config.tokens value ≠ [])
    (hall : NodeIndex.isMatchAll (Criteria.term property value) = false)
    (hread : ∀ {layout column}, Text.isIdentifier property = true →
      Sign.ofBareWord? property.toList = none → Layout.column? layout property = some column →
      Query.ofText layout (Criteria.term property value) = .ok (.ofWord layout column w)) :
    r.Finds s record property value := by
  obtain ⟨he, hvalid, rfl⟩ := hof.eq
  have hproperty : property ∈ r.metadata.indexedNames := Repository.indexes_iff.mp hindexes
  have hne : r.metadata.indexedNames ≠ [] := List.ne_nil_of_mem hproperty
  rw [if_neg (by simpa using hne)] at hindex
  obtain ⟨t, ht, hcolumns, htokenizer, hintact, hcheck, p, hp, hrow⟩ :=
    hrun.exists_row hpre hapart he (fun event hevent => ⟨hown event hevent,
      fun a ha => .inr ⟨event, hevent, ha⟩, hkeeps event hevent⟩) hne hn hentity
  obtain ⟨_, hkept⟩ := hrun.wellKept hpre
  -- the record is the one with the properties of the document
  obtain ⟨id, entity, document⟩ := n
  obtain rfl : document = p.document := hp
  rw [StoredNode.record?_document] at hrecord
  obtain rfl := Option.some.inj hrecord
  -- the row shows the text in the column of the property
  obtain ⟨c, hlt, hc⟩ := List.getElem_of_mem hproperty
  have hnamed : r.metadata.indexedNames[c]? = some property := hc ▸ List.getElem?_eq_getElem hlt
  have hidentifier := IndexPlan.isIdentifier_of_validateColumns hvalid hproperty
  have hshown : (r.metadata.indexedNames.map p.shown?)[c]? = some (some value) := by
    rw [List.getElem?_map, hnamed, Option.map_some, Properties.shown?_of_get? hidentifier hget]
  have hlayout : t.layout.columns[c]? = some property := (congrArg (·[c]?) hcolumns).trans hnamed
  have hquery := hread hidentifier (Database.ofBareWord?_eq_none hcheck hproperty)
    (Layout.column?_eq_some hintact.declared.columns hlayout)
  have htext : t.tokens.tokens value.toList ≠ [] := by
    rwa [IndexTable.tokens_eq htokenizer htokens]
  have hholds : (Query.ofWord t.layout c w).holds
      (t.documentOf ⟨id, r.metadata.indexedNames.map p.shown?⟩) = true := by
    refine Query.holds_ofWord (List.getElem?_eq_some_iff.mp hlayout).1 ?_ (hw ▸ htext)
    rw [hw]
    exact IndexTable.column_documentOf hshown
  obtain ⟨records, hfound, hmem⟩ := Database.exists_found? hkept ht hintact.lost hquery hn
    (StoredNode.record?_document id entity p) hrow rfl hholds
  obtain ⟨es, hes, hperm⟩ := Repository.findBy_of_found? hpre hkept he hindex hloader hkind
    (Repository.checkedQuery_single.mpr ⟨hindexes, rfl⟩) hall hfound
  exact ⟨es, hes, hperm.mem_iff.mpr (List.mem_map.mpr ⟨_, hmem, rfl⟩)⟩

end

/-! ## A film with another title -/

/-- A film is stored, the store is opened again, and the film gets another title. -/
def retitled : List StoreEvent :=
  let film := EntityMetadata.searchable "Film" ["id", "kind", "title"]
  [.call (.update film 1 (.ofList [("kind", "silent"), ("title", "The Lost World")])), .reopen,
    .call (.insert film (.ofList [("title", "Metropolis")]))]

/-- The film with its last title. -/
def retitledFilm : Record :=
  ⟨1, "Film", .ofList [("kind", "silent"), ("title", "The Lost World")]⟩

/-- All of this happens to one entity with the same searchable properties. -/
lemma retitled_conforms : (∀ event ∈ retitled, event.IsOwn) ∧
    (∀ event ∈ retitled, event.KeepsTo "Film" ["id", "kind", "title"]) ∧
    IndexConfig.standard.Apart fun a =>
      a = "Film" ∨ ∃ event ∈ retitled, event.entity? = some a := by
  refine ⟨by simp [retitled, StoreEvent.IsOwn], fun event hevent c m hc hm _ => ?_,
    .of_events ["Film"] (by decide) (by decide)⟩
  simp only [retitled, List.mem_cons, List.not_mem_nil, or_false] at hevent
  obtain rfl | rfl | rfl := hevent <;> cases hc <;> cases hm <;> rfl

/-- The film is stored with its last title. -/
lemma mem_nodes_retitled : ⟨1, "Film", retitledFilm.properties.document⟩ ∈
    (NodeStore.after .standard retitled).database.nodes := by
  decide +kernel

/-- A node that the store has stored is not found by a text of its own, although its entity always
has the same searchable properties. -/
structure StoreRun.Hides (config : IndexConfig) (events : List StoreEvent)
    (r : Repository NodeStore) (record : Record) (property value : String) : Prop where
  /-- The events are a run of the store. -/
  run : StoreRun config events (NodeStore.after config events)
  /-- They are its own. -/
  own : ∀ event ∈ events, event.IsOwn
  /-- They keep to the searchable properties. -/
  keeps : ∀ event ∈ events, event.KeepsTo r.entityName r.metadata.indexedNames
  /-- The repository is over the index that the store answers. -/
  index : ∃ index, ((NodeStore.index r.metadata).perform (NodeStore.after config events)).1 =
    .ok index ∧ r.index = index.searchIndex
  /-- Its objects are nodes. -/
  nodes : r.loader = nodeLoader ∧ r.kind = .node
  /-- The node is stored, with its record. -/
  stored : ∃ n ∈ (NodeStore.after config events).database.nodes,
    n.entity = r.entityName ∧ n.record? = some record
  /-- The property can be searched, and the record has the text there. -/
  holds : r.metadata.indexes property = true ∧ record.properties.get? property = some value
  /-- The repository does not find it. -/
  hidden : ¬r.Finds (NodeStore.after config events) record property value

/-- A search that fails finds nothing. -/
lemma Repository.not_finds_of_error {r : Repository NodeStore} {s : NodeStore} {record : Record}
    {property value : String} {e : FinderError}
    (h : ((r.findBy (.single property value)).perform s).1 = .error e) :
    ¬r.Finds s record property value := by
  rintro ⟨es, hes, _⟩
  rw [hes] at h
  cases h

/-- The table of one entity takes the place of a part of the table of another one, which holds a
node. -/
def displaced : List StoreEvent :=
  [.call (.index (.searchable "FooData" ["x"])),
    .call (.insert (.searchable "Foo" ["a"]) (.ofList [("a", "hello world")]))]

/-- The repository of this node. -/
def displacedRepository : Repository NodeStore :=
  ⟨.searchable "Foo" ["a"], (⟨"Foo", some "node_index__foo"⟩ : NodeIndex).searchIndex, nodeLoader,
    .suffix⟩

/-- A film with a title is stored. -/
def titled (title : String) : List StoreEvent :=
  [.call (.insert (.searchable "Film" ["title"]) (.ofList [("title", title)]))]

/-- The repository of films that are searched by their titles. -/
def titleRepository : Repository NodeStore :=
  ⟨.searchable "Film" ["title"], (⟨"Film", some "node_index__film"⟩ : NodeIndex).searchIndex,
    nodeLoader, .suffix⟩

/-- A stored film is hidden if a repository does not find it. -/
lemma StoreRun.hides_titled {config : IndexConfig} {title : String}
    (hindex : ((NodeStore.index titleRepository.metadata).perform
      (NodeStore.after config (titled title))).1 = .ok ⟨"Film", some "node_index__film"⟩)
    (hstored : ⟨1, "Film", Properties.document (.ofList [("title", title)])⟩ ∈
      (NodeStore.after config (titled title)).database.nodes)
    (hholds : Properties.get? (.ofList [("title", title)]) "title" = some title)
    (hhidden : ¬titleRepository.Finds (NodeStore.after config (titled title))
      ⟨1, "Film", .ofList [("title", title)]⟩ "title" title) :
    Hides config (titled title) titleRepository ⟨1, "Film", .ofList [("title", title)]⟩
      "title" title := by
  have hown : ∀ event ∈ titled title, event.IsOwn := by simp [titled, StoreEvent.IsOwn]
  refine ⟨.of_own config hown, hown, fun event hevent c m hc hm _ => ?_, ⟨_, hindex, rfl⟩,
    ⟨rfl, rfl⟩, ⟨_, hstored, rfl, StoredNode.record?_document _ _ _⟩, ⟨by decide, hholds⟩, hhidden⟩
  obtain rfl := List.mem_singleton.mp hevent
  cases hc
  cases hm
  rfl

end EntityFinder
