import EntityFinder.NodeStore.NodeIndex
import EntityFinder.Proofs.Documents
import EntityFinder.Proofs.Runs

set_option autoImplicit false

/-!
# The first node with a text

A look-up goes through the nodes of an entity until it meets the text that it is asked for. It reads
every document on its way, those included that lists leave out. With such a document it fails if the
document is no JSON, or if it is the one that has the text; otherwise it passes it by. What it finds
is then the first node of the list that has the text, as far as no document gives a property several
texts.

## Main definitions

* `EntityFinder.StoredNode.Has`: a node that is listed with a text.
* `EntityFinder.StoredNode.IsUnambiguous`: a node that look-ups read as lists do.

## Main results

* `EntityFinder.StoredNode.IsUnambiguous.of_document`: a node that was stored with plain names.
* `EntityFinder.Database.firstWith_of_unambiguous`: the first node with a text.
* `EntityFinder.NodeIndex.findOne_first`: what a look-up answers, and why it may fail.
* `EntityFinder.NodeIndex.exists_disturbed`: nodes that no list shows, and that disturb a look-up.
-/

namespace EntityFinder

open Json (IsObjectOf isShownAs)

/-! ## Nodes that are read alike -/

namespace StoredNode

/-- A node is listed, and has a text in a property. -/
def Has (property value : String) (n : StoredNode) : Prop :=
  ∃ r, n.record? = some r ∧ r.properties.get? property = some value

/-- A node that is read alike by those who list it and by those who look for a text. -/
inductive IsUnambiguous (property value : String) (n : StoredNode) : Prop
  /-- The first text that is written under the property is also the last one. A key counts as the
  property for a look-up if it goes on with a null character, but not for a list. -/
  | decoded {entries : List (String × String)} : IsObjectOf entries n.document →
    (entries.find? fun e => isShownAs property e.1).map Prod.snd =
        entries.reverse.lookup property →
      IsUnambiguous property value n
  /-- The node is not listed, but its document is JSON and has not the text. -/
  | unlisted {found : Json.Extract} : n.record? = none →
    Json.extract? property n.document = some found → found ≠ .text value →
      IsUnambiguous property value n

variable {property value : String} {n : StoredNode}

/-- The nodes that are listed are those with entries. -/
lemma record?_eq_some {r : Record} : n.record? = some r ↔
    ∃ entries, IsObjectOf entries n.document ∧ r = ⟨n.id, n.entity, .ofList entries⟩ := by
  rw [record?]
  constructor
  · intro h
    cases hdecode : Json.decode Json.texts n.document with
    | error f =>
      rw [hdecode] at h
      cases h
    | ok p =>
      rw [hdecode] at h
      cases h
      obtain ⟨entries, hentries, rfl⟩ := Json.decode_texts_eq_ok.mp hdecode
      exact ⟨entries, hentries, rfl⟩
  · rintro ⟨entries, hentries, rfl⟩
    rw [Json.decode_texts_eq_ok.mpr ⟨entries, hentries, rfl⟩]

/-- A look-up can read every node that is listed. -/
lemma exists_extract? {r : Record} (h : n.record? = some r) (property : String) :
    ∃ found, Json.extract? property n.document = some found := by
  obtain ⟨entries, hentries, -⟩ := record?_eq_some.mp h
  exact ⟨_, hentries.extract?_eq property⟩

namespace IsUnambiguous

/-- A look-up finds the text in a node if and only if the node is listed with it. -/
lemma exists_found (h : n.IsUnambiguous property value) : ∃ found,
    Json.extract? property n.document = some found ∧
      (found = .text value ↔ n.Has property value) := by
  cases h with
  | @decoded entries hentries hsame =>
    refine ⟨_, hentries.extract?_eq property, ?_⟩
    have hlisted : n.Has property value ↔ entries.reverse.lookup property = some value := by
      rw [Has, record?_eq_some.mpr ⟨entries, hentries, rfl⟩, ← Properties.get?_ofList]
      simp
    rw [hlisted, ← hsame]
    cases entries.find? fun e => isShownAs property e.1 with
    | none => simp
    | some e => simp
  | @unlisted found hnone hfound hother =>
    refine ⟨found, hfound, iff_of_false hother ?_⟩
    rintro ⟨r, hr, -⟩
    rw [hnone] at hr
    cases hr

/-- A node that was stored as properties whose names have no null character is read alike. -/
lemma of_document {p : Properties} (h : ∀ name ∈ p.names, '\x00' ∉ name.toList) (id : Int)
    (entity : String) : IsUnambiguous property value ⟨id, entity, p.document⟩ := by
  refine .decoded (Json.isObjectOf_document p) ?_
  have hown : p.entries.reverse.lookup property = p.get? property := by
    rw [← Properties.get?_ofList]
    exact congrArg (Properties.get? · property) p.insertAll_empty
  rw [hown]
  exact Properties.shown?_eq_get? h property

end IsUnambiguous

end StoredNode

/-! ## The first of some nodes -/

namespace Database

open StoredNode (IsUnambiguous)

variable {property value : String} {nodes : List StoredNode}

/-- As far as nodes are read alike, the first one that is met with a text is the first one that is
listed with it. Nodes behind it do not matter.

**Proof sketch.** Induction on the nodes. If the first of them has the text, it is the one; if not,
it stands in front of all the others without having the text. -/
lemma exists_firstNodeWith (h : ∀ front n back, nodes = front ++ n :: back →
    (∀ m ∈ front, ¬m.Has property value) → n.IsUnambiguous property value) :
    ∃ found, firstNodeWith property value nodes = .ok found ∧
      found.map StoredNode.record? = ((nodes.filterMap StoredNode.record?).find? fun r =>
        r.properties.get? property == some value).map some := by
  induction nodes with
  | nil => exact ⟨none, rfl, rfl⟩
  | cons n nodes ih =>
    obtain ⟨found, hfound, hiff⟩ := (h [] n nodes rfl (by simp)).exists_found
    by_cases hhas : n.Has property value
    · obtain ⟨r, hr, hvalue⟩ := hhas
      refine ⟨some n, ?_, ?_⟩
      · simp [firstNodeWith, hfound, hiff.mpr ⟨r, hr, hvalue⟩]
      · simp [hr, hvalue]
    · have hrest : ∀ front m back, nodes = front ++ m :: back →
          (∀ m' ∈ front, ¬m'.Has property value) → m.IsUnambiguous property value := by
        rintro front m back rfl hfront
        refine h (n :: front) m back rfl fun m' hm' => ?_
        rcases List.mem_cons.mp hm' with rfl | hm'
        · exact hhas
        · exact hfront m' hm'
      obtain ⟨later, hlater, hfirst⟩ := ih hrest
      refine ⟨later, ?_, ?_⟩
      · rw [firstNodeWith, hfound]
        simp only [if_neg (mt hiff.mp hhas), hlater]
      · rw [hfirst]
        cases hr : n.record? with
        | none => rw [List.filterMap_cons_none hr]
        | some r =>
          have hother : (r.properties.get? property == some value) = false := by
            rw [beq_eq_false_iff_ne]
            exact fun hvalue => hhas ⟨r, hr, hvalue⟩
          rw [List.filterMap_cons_some hr, List.find?_cons, hother]

/-- A node that is met with a text is one of those that were looked at. -/
lemma of_firstNodeWith {n : StoredNode} (h : firstNodeWith property value nodes = .ok (some n)) :
    n ∈ nodes ∧ Json.extract? property n.document = some (.text value) := by
  induction nodes with
  | nil => cases h
  | cons m nodes ih =>
    rw [firstNodeWith] at h
    cases hfound : Json.extract? property m.document with
    | none =>
      rw [hfound] at h
      cases h
    | some found =>
      rw [hfound] at h
      dsimp only at h
      split_ifs at h with htext
      · cases h
        exact ⟨.head _, htext ▸ hfound⟩
      · exact (ih h).imp_left (.tail _)

/-- Looking at nodes fails at one whose document is no JSON. -/
lemma of_firstNodeWith_error {f : DatabaseFault}
    (h : firstNodeWith property value nodes = .error f) :
    f = .malformedDocument ∧ ∃ n ∈ nodes, Json.extract? property n.document = none := by
  induction nodes with
  | nil => cases h
  | cons m nodes ih =>
    rw [firstNodeWith] at h
    cases hfound : Json.extract? property m.document with
    | none =>
      rw [hfound] at h
      cases h
      exact ⟨rfl, m, .head _, hfound⟩
    | some found =>
      rw [hfound] at h
      dsimp only at h
      split_ifs at h
      obtain ⟨hf, n, hn, hnone⟩ := ih h
      exact ⟨hf, n, .tail _ hn, hnone⟩

/-- **The first node of an entity with a text** is the first one that is listed with it, as far as
its nodes are read alike up to there. -/
theorem firstWith_of_unambiguous {d : Database} {entity : String}
    (h : ∀ front n back, d.nodesOf entity = front ++ n :: back →
      (∀ m ∈ front, ¬m.Has property value) → n.IsUnambiguous property value) :
    d.firstWith entity property value =
      .ok ((d.recordsOf entity).find? fun r => r.properties.get? property == some value) := by
  obtain ⟨found, hfound, hfirst⟩ := exists_firstNodeWith h
  rw [firstWith, hfound, recordsOf]
  cases found with
  | none =>
    rw [Option.map_none, eq_comm, Option.map_eq_none_iff] at hfirst
    rw [hfirst]
    rfl
  | some n =>
    rw [Option.map_some, eq_comm, Option.map_eq_some_iff] at hfirst
    obtain ⟨r, hr, hrecord⟩ := hfirst
    rw [hr]
    simp [bind, Except.bind, StoredNode.record, ← hrecord, Except.map]

/-- **Only a node that is not listed makes a look-up fail**: one whose document is no JSON, or one
that has the text. -/
theorem of_firstWith_error {d : Database} {entity : String} {f : DatabaseFault}
    (h : d.firstWith entity property value = .error f) : ∃ n ∈ d.nodesOf entity,
      n.record? = none ∧
        (f = .malformedDocument ∧ Json.extract? property n.document = none ∨
          f = .undecodable ∧ Json.extract? property n.document = some (.text value)) := by
  rw [firstWith] at h
  cases hfirst : firstNodeWith property value (d.nodesOf entity) with
  | error f' =>
    rw [hfirst] at h
    cases h
    obtain ⟨hf, n, hn, hnone⟩ := of_firstNodeWith_error hfirst
    refine ⟨n, hn, ?_, .inl ⟨hf, hnone⟩⟩
    rw [Option.eq_none_iff_forall_ne_some]
    intro r hr
    obtain ⟨found, hfound⟩ := StoredNode.exists_extract? hr property
    rw [hnone] at hfound
    cases hfound
  | ok found =>
    rw [hfirst] at h
    cases found with
    | none => cases h
    | some n =>
      obtain ⟨hn, htext⟩ := of_firstNodeWith hfirst
      cases hrecord : n.record? with
      | none =>
        simp only [bind, Except.bind, StoredNode.record, hrecord] at h
        cases h
        exact ⟨n, hn, hrecord, .inr ⟨rfl, htext⟩⟩
      | some r =>
        simp only [bind, Except.bind, StoredNode.record, hrecord] at h
        cases h

end Database

/-! ## Looking up -/

namespace NodeIndex

/-- A look-up asks the database if the property is an identifier. -/
lemma perform_findOne {property : String} (h : validateIdentifier "property" property = .ok ())
    (index : NodeIndex) (value : String) (s : NodeStore) :
    (index.findOne property value).perform s =
      ((s.database.firstWith index.entity property value).mapError DatabaseFault.toError, s) := by
  rw [findOne, Action.perform_bind, h]
  rfl

/-- **What a look-up answers.** As far as the nodes of the entity are read alike up to the first one
that is listed with the text, it is this node, or none if there is none. A look-up leaves the store
alone. It fails only because of a node that is not listed: one whose document is no JSON, or one
that has the text. -/
theorem findOne_first {property : String} (h : validateIdentifier "property" property = .ok ())
    (index : NodeIndex) (value : String) (s : NodeStore) :
    ((∀ front n back, s.database.nodesOf index.entity = front ++ n :: back →
        (∀ m ∈ front, ¬m.Has property value) → n.IsUnambiguous property value) →
      ∃ records, (index.query Criteria.matchAllQuery).perform s = (.ok records, s) ∧
        (index.findOne property value).perform s =
          (.ok (records.find? fun r => r.properties.get? property == some value), s)) ∧
    ∀ e s', (index.findOne property value).perform s = (.error e, s') → s' = s ∧
      ∃ n ∈ s.database.nodesOf index.entity, n.record? = none ∧
        (e = DatabaseFault.malformedDocument.toError ∧
            Json.extract? property n.document = none ∨
          e = DatabaseFault.undecodable.toError ∧
            Json.extract? property n.document = some (.text value)) := by
  rw [perform_findOne h]
  refine ⟨fun hnodes => ?_, fun e s' hfailed => ?_⟩
  · refine ⟨s.database.recordsOf index.entity, index.perform_query_all (by decide) s, ?_⟩
    rw [Database.firstWith_of_unambiguous hnodes]
    rfl
  · obtain ⟨he, rfl⟩ := Prod.mk.inj hfailed
    cases hfirst : s.database.firstWith index.entity property value with
    | ok found =>
      rw [hfirst] at he
      cases he
    | error f =>
      rw [hfirst] at he
      cases he
      obtain ⟨n, hn, hrecord, hreason⟩ := Database.of_firstWith_error hfirst
      refine ⟨rfl, n, hn, hrecord, ?_⟩
      rcases hreason with ⟨rfl, hnone⟩ | ⟨rfl, htext⟩
      · exact .inl ⟨rfl, hnone⟩
      · exact .inr ⟨rfl, htext⟩

/-! ### Films of another program -/

/-- The film of a title. -/
def titled (title : String) : Properties := .ofList [("title", title)]

/-- A document with a title and a year that is a number, so that it cannot be decoded. -/
def datedDocument (title : String) : String :=
  "\x7b\"title\":\"" ++ title ++ "\",\"year\":1927\x7d"

/-- A store in whose database another program has stored three texts as films. -/
def storeWithFilms (first second third : String) : NodeStore :=
  .opened .standard
    ⟨[⟨1, "Film", first⟩, ⟨2, "Film", second⟩, ⟨3, "Film", third⟩], 3, [], [], false⟩

/-- Any three texts can be stored as films. -/
lemma run_storeWithFilms (first second third : String) :
    StoreRun .standard [.foreign "Film" third, .foreign "Film" second, .foreign "Film" first]
      (storeWithFilms first second third) :=
  .step (.step (.step .start (@StoreStep.foreign "Film" first _ 1 _ rfl))
    (@StoreStep.foreign "Film" second _ 2 _ rfl)) (@StoreStep.foreign "Film" third _ 3 _ rfl)

/-- A film that is not listed stands in front of the one that is looked for, and a text that is no
JSON stands behind it. -/
theorem findOne_first_films : ∃ s, StoreRun .standard [.foreign "Film" "not json",
      .foreign "Film" (titled "Metropolis").document,
      .foreign "Film" (datedDocument "Sunrise")] s ∧
    validateIdentifier "property" "title" = .ok () ∧
    ((⟨"Film", none⟩ : NodeIndex).query "id:*").perform s =
      (.ok [⟨2, "Film", titled "Metropolis"⟩], s) ∧
    ((⟨"Film", none⟩ : NodeIndex).findOne "title" "Metropolis").perform s =
      (.ok (some ⟨2, "Film", titled "Metropolis"⟩), s) := by
  have hvalid : validateIdentifier "property" "title" = .ok () := by decide
  let first : StoredNode := ⟨1, "Film", datedDocument "Sunrise"⟩
  let second : StoredNode := ⟨2, "Film", (titled "Metropolis").document⟩
  have hfirst : first.IsUnambiguous "title" "Metropolis" :=
    @StoredNode.IsUnambiguous.unlisted _ _ _ (.text "Sunrise") (by decide +kernel)
      (by decide +kernel) (by decide)
  have hsecond : second.IsUnambiguous "title" "Metropolis" := .of_document (by decide) 2 "Film"
  have hhas : second.Has "title" "Metropolis" :=
    ⟨⟨2, "Film", titled "Metropolis"⟩, by decide +kernel, by decide⟩
  have hnodes : ∀ front n back,
      [first, second, ⟨3, "Film", "not json"⟩] = front ++ n :: back →
      (∀ m ∈ front, ¬m.Has "title" "Metropolis") → n.IsUnambiguous "title" "Metropolis" := by
    rintro (_ | ⟨m, _ | ⟨m', front⟩⟩) n back hsplit hfront
    · obtain ⟨rfl, -⟩ := List.cons.inj hsplit
      exact hfirst
    · obtain ⟨rfl, -⟩ := List.cons.inj (List.cons.inj hsplit).2
      exact hsecond
    · obtain ⟨rfl, -⟩ := List.cons.inj (List.cons.inj hsplit).2
      exact absurd hhas (hfront second (.tail _ (.head _)))
  obtain ⟨records, hlisted, hfound⟩ := (findOne_first hvalid ⟨"Film", none⟩ "Metropolis"
    (storeWithFilms (datedDocument "Sunrise") (titled "Metropolis").document "not json")).1 hnodes
  have hrecords : records = [⟨2, "Film", titled "Metropolis"⟩] := by
    rw [← Except.ok.inj (congrArg Prod.fst hlisted)]
    decide +kernel
  subst hrecords
  exact ⟨_, run_storeWithFilms _ _ _, hvalid, hlisted, hfound⟩

/-- **Nodes that no list shows disturb a look-up, and repeated names mislead it.** A film is listed
with a title. It is not found by this title if there stands a film in front of it that has the title
and a number besides, or a text that is no JSON. A film with two titles is listed with the second
one, and not found by it. -/
theorem exists_disturbed :
    (∃ s, StoreRun .standard [.foreign "Film" "[]",
        .foreign "Film" (titled "Metropolis").document,
        .foreign "Film" (datedDocument "Metropolis")] s ∧
      ((⟨"Film", none⟩ : NodeIndex).query "id:*").perform s =
        (.ok [⟨2, "Film", titled "Metropolis"⟩], s) ∧
      ((⟨"Film", none⟩ : NodeIndex).findOne "title" "Metropolis").perform s =
        (.error DatabaseFault.undecodable.toError, s)) ∧
    (∃ s, StoreRun .standard [.foreign "Film" "[]",
        .foreign "Film" (titled "Metropolis").document, .foreign "Film" "not json"] s ∧
      ((⟨"Film", none⟩ : NodeIndex).query "id:*").perform s =
        (.ok [⟨2, "Film", titled "Metropolis"⟩], s) ∧
      ((⟨"Film", none⟩ : NodeIndex).findOne "title" "Metropolis").perform s =
        (.error DatabaseFault.malformedDocument.toError, s)) ∧
    ∃ s, StoreRun .standard [.foreign "Film" "[]", .foreign "Film" "[]",
        .foreign "Film" "\x7b\"title\":\"Sunrise\",\"title\":\"Metropolis\"\x7d"] s ∧
      ((⟨"Film", none⟩ : NodeIndex).query "id:*").perform s =
        (.ok [⟨1, "Film", titled "Metropolis"⟩], s) ∧
      ((⟨"Film", none⟩ : NodeIndex).findOne "title" "Metropolis").perform s = (.ok none, s) := by
  have hvalid : validateIdentifier "property" "title" = .ok () := by decide
  -- the node in front is no record, and what its document has under the name spoils the look-up
  have hunlisted : (storeWithFilms (datedDocument "Metropolis") (titled "Metropolis").document
      "[]").database.firstWith "Film" "title" "Metropolis" = .error .undecodable := by
    decide +kernel
  have hmalformed : (storeWithFilms "not json" (titled "Metropolis").document
      "[]").database.firstWith "Film" "title" "Metropolis" = .error .malformedDocument := by
    decide +kernel
  have hrepeated : (storeWithFilms "\x7b\"title\":\"Sunrise\",\"title\":\"Metropolis\"\x7d"
      "[]" "[]").database.firstWith "Film" "title" "Metropolis" = .ok none := by
    decide +kernel
  have hlisted : ∀ {s : NodeStore} {records : List Record},
      s.database.recordsOf "Film" = records →
        ((⟨"Film", none⟩ : NodeIndex).query "id:*").perform s = (.ok records, s) := by
    rintro s _ rfl
    exact perform_query_all _ (by decide) s
  refine ⟨⟨_, run_storeWithFilms _ _ _, hlisted (by decide +kernel), ?_⟩,
    ⟨_, run_storeWithFilms _ _ _, hlisted (by decide +kernel), ?_⟩,
    ⟨_, run_storeWithFilms _ _ _, hlisted (by decide +kernel), ?_⟩⟩
  · rw [perform_findOne hvalid, hunlisted]
    rfl
  · rw [perform_findOne hvalid, hmalformed]
    rfl
  · rw [perform_findOne hvalid, hrepeated]
    rfl

end NodeIndex

end EntityFinder
