import EntityFinder.Proofs.Entries
import EntityFinder.Proofs.Printing.Types

set_option autoImplicit false

/-!
# Criteria as mappings

Inserting keeps the properties of criteria distinct, so criteria that are built by insertions are
mappings. Criteria can also be read from a JSON text, and there the pairs are kept as they are
listed. Such criteria are a mapping just if the text lists each property once, and no later
insertion changes that.

## Main definitions

* `EntityFinder.Criteria.IsMapping`: no property stands twice.
* `EntityFinder.Criteria.IsListedIn`: the pairs that a text lists.
* `EntityFinder.Criteria.Made`: the ways to make criteria.

## Main results

* `EntityFinder.Criteria.isListedIn_iff`: criteria that are read have the pairs of their text.
* `EntityFinder.Criteria.Made.tfae_mapping`: which criteria are mappings.
* `EntityFinder.Criteria.exists_repeated`: criteria that are none.
-/

namespace EntityFinder

/-! ## Pairs in a text -/

namespace Json

/-- Items that are texts, in this order, and nothing else. -/
def Items.HoldTexts : List String → Items → Prop
  | [], items => items = .closed
  | text :: texts, items => ∃ s rest, items = .cons (.string s) rest ∧ s.text = .ok text ∧
    HoldTexts texts rest

/-- Items that are pairs of texts, in this order, and nothing else. -/
def Items.HoldPairs : List (String × String) → Items → Prop
  | [], items => items = .closed
  | (a, b) :: pairs, items => ∃ inner rest, items = .cons (.array inner) rest ∧
    inner.HoldTexts [a, b] ∧ HoldPairs pairs rest

/-- One of the fields has this key and this value. -/
def Fields.Has (name : String) (value : Reading) : Fields → Prop
  | .closed => False
  | .broken _ => False
  | .cons key v rest => key.text = .ok name ∧ v = value ∨ Has name value rest

/-- The next of some items is their first. -/
lemma nextItem_eq_ok {α : Type} {item : Decoder α} {items rest : Items} {a : α} :
    nextItem item items = .ok (a, rest) ↔ ∃ r, items = .cons r rest ∧ item r = .ok a := by
  constructor
  · intro h
    cases items with
    | closed => cases h
    | broken f => cases h
    | cons r rest' =>
      obtain ⟨b, hb, h⟩ := bind_eq_ok.mp h
      cases h
      exact ⟨r, rfl, hb⟩
  · rintro ⟨r, rfl, ha⟩
    rw [nextItem, ha]
    rfl

/-- Nothing follows the last item. -/
lemma endOfItems_eq_ok {items : Items} : endOfItems items = .ok () ↔ items = .closed := by
  cases items with
  | closed => exact iff_of_true rfl rfl
  | broken f => exact iff_of_false nofun nofun
  | cons r rest => exact iff_of_false nofun nofun

/-- A pair is read of an array of two texts. -/
lemma pair_eq_ok {r : Reading} {a b : String} :
    pair r = .ok (a, b) ↔ ∃ items, r = .array items ∧ items.HoldTexts [a, b] := by
  constructor
  · intro h
    unfold pair at h
    split at h
    · next items =>
      obtain ⟨⟨x, items₁⟩, hfirst, h⟩ := bind_eq_ok.mp h
      obtain ⟨⟨y, items₂⟩, hsecond, h⟩ := bind_eq_ok.mp h
      obtain ⟨⟨⟩, hend, h⟩ := bind_eq_ok.mp h
      cases h
      obtain ⟨r₁, rfl, hr₁⟩ := nextItem_eq_ok.mp hfirst
      obtain ⟨r₂, rfl, hr₂⟩ := nextItem_eq_ok.mp hsecond
      obtain ⟨s₁, rfl, hs₁⟩ := string_eq_ok.mp hr₁
      obtain ⟨s₂, rfl, hs₂⟩ := string_eq_ok.mp hr₂
      exact ⟨_, rfl, s₁, _, rfl, hs₁, s₂, _, rfl, hs₂, endOfItems_eq_ok.mp hend⟩
    · exact absurd h wrongShape_ne_ok
  · rintro ⟨_, rfl, s₁, _, rfl, hs₁, s₂, _, rfl, hs₂, rfl⟩
    simp only [pair, nextItem, string, hs₁, hs₂, endOfItems, bind, Except.bind]

/-- The pairs of some items are read one by one. -/
lemma listItems_pair_eq_ok {items : Items} {pairs : List (String × String)} :
    listItems pair items = .ok pairs ↔ items.HoldPairs pairs := by
  induction pairs generalizing items with
  | nil =>
    cases items with
    | closed => exact iff_of_true rfl rfl
    | broken f => exact iff_of_false nofun nofun
    | cons r rest =>
      refine iff_of_false (fun h => ?_) nofun
      obtain ⟨_, -, h⟩ := bind_eq_ok.mp h
      obtain ⟨_, -, h⟩ := bind_eq_ok.mp h
      cases h
  | cons entry pairs ih =>
    cases items with
    | closed => exact iff_of_false nofun (fun ⟨_, _, h, _⟩ => nomatch h)
    | broken f => exact iff_of_false nofun (fun ⟨_, _, h, _⟩ => nomatch h)
    | cons r rest =>
      constructor
      · intro h
        obtain ⟨_, hentry, h⟩ := bind_eq_ok.mp h
        obtain ⟨_, hrest, h⟩ := bind_eq_ok.mp h
        cases h
        obtain ⟨inner, rfl, hinner⟩ := pair_eq_ok.mp hentry
        exact ⟨inner, rest, rfl, hinner, ih.mp hrest⟩
      · rintro ⟨inner, rest, hitems, hinner, hrest⟩
        cases hitems
        rw [listItems, pair_eq_ok.mpr ⟨inner, rfl, hinner⟩, ih.mpr hrest]
        rfl

/-- A list of pairs is read of an array of them. -/
lemma list_pair_eq_ok {r : Reading} {pairs : List (String × String)} :
    list pair r = .ok pairs ↔ ∃ items, r = .array items ∧ items.HoldPairs pairs := by
  constructor
  · intro h
    unfold list at h
    split at h
    · exact ⟨_, rfl, listItems_pair_eq_ok.mp h⟩
    · exact absurd h wrongShape_ne_ok
  · rintro ⟨items, rfl, h⟩
    exact listItems_pair_eq_ok.mpr h

end Json

namespace Criteria

/-- A text lists some pairs: in the field for the entries, or, if the text is an array, in its first
item. -/
def IsListedIn (pairs : List (String × String)) (text : String) : Prop :=
  ∃ items : Json.Items, items.HoldPairs pairs ∧
    ((∃ more, (Json.Reading.ofText text).1 = .array (.cons (.array items) more)) ∨
      ∃ fields, (Json.Reading.ofText text).1 = .object fields ∧
        fields.Has "entries" (.array items))

/-- The field for the entries. -/
def slot : Json.Slot (Option (List (String × String))) :=
  ⟨"entries", Option.isSome, fun _ r => (Json.list Json.pair r).map some⟩

section

variable {key : Json.StringLiteral} {name : String} {v : Json.Reading} {rest : Json.Fields}
  (hname : key.text = .ok name)

include hname

/-- A field with another key is skipped. -/
lemma fillByKey_of_ne (hslot : name ≠ "entries") {draft final : Option (List (String × String))}
    (h : Json.fillByKey [slot] draft (.cons key v rest) = .ok final) :
    Json.fillByKey [slot] draft rest = .ok final := by
  obtain ⟨_, hkey, h⟩ := bind_eq_ok.mp h
  cases hname.symm.trans hkey
  rw [List.find?_singleton, slot, beq_eq_false_iff_ne.mpr (Ne.symm hslot)] at h
  obtain ⟨_, -, h⟩ := bind_eq_ok.mp h
  exact h

/-- A field with another key is none for the entries. -/
lemma has_cons_of_ne (hslot : name ≠ "entries") (value : Json.Reading) :
    (Json.Fields.cons key v rest).Has "entries" value ↔ rest.Has "entries" value :=
  or_iff_right fun hthis => hslot (Except.ok.inj (hname.symm.trans hthis.1))

end

/-- Once the entries have been read, there is no further field for them. -/
lemma not_has_of_filled {pairs : List (String × String)}
    {final : Option (List (String × String))} : ∀ {fields : Json.Fields},
    Json.fillByKey [slot] (some pairs) fields = .ok final →
      final = some pairs ∧ ∀ value, ¬fields.Has "entries" value
  | .closed, h => by
    cases h
    exact ⟨rfl, fun _ => id⟩
  | .broken f, h => by cases h
  | .cons key v rest, h => by
    obtain ⟨name, hname, hread⟩ := bind_eq_ok.mp h
    by_cases hslot : name = "entries"
    · subst hslot
      cases hread
    · obtain ⟨hfinal, hrest⟩ := not_has_of_filled (fillByKey_of_ne hname hslot h)
      exact ⟨hfinal, fun value => (has_cons_of_ne hname hslot value).not.mpr (hrest value)⟩

/-- Fields that can be read have one field for the entries, and it lists the pairs that are read. -/
lemma has_iff_of_fillByKey {pairs : List (String × String)} : ∀ {fields : Json.Fields},
    Json.fillByKey [slot] none fields = .ok (some pairs) →
      ∃ found, Json.list Json.pair found = .ok pairs ∧
        ∀ value, fields.Has "entries" value ↔ value = found
  | .closed, h => by cases h
  | .broken f, h => by cases h
  | .cons key v rest, h => by
    obtain ⟨name, hname, hread⟩ := bind_eq_ok.mp h
    by_cases hslot : name = "entries"
    · subst hslot
      obtain ⟨draft, hdraft, hlater⟩ := bind_eq_ok.mp hread
      obtain ⟨read, hlist, rfl⟩ := map_eq_ok.mp hdraft
      obtain ⟨hfinal, hrest⟩ := not_has_of_filled hlater
      cases hfinal
      refine ⟨v, hlist, fun value => ⟨fun hvalue => hvalue.elim (fun hthis => hthis.2.symm)
        fun hlater => absurd hlater (hrest value), fun hvalue => .inl ⟨hname, hvalue.symm⟩⟩⟩
    · obtain ⟨found, hfound, hrest⟩ := has_iff_of_fillByKey (fillByKey_of_ne hname hslot h)
      exact ⟨found, hfound, fun value => (has_cons_of_ne hname hslot value).trans (hrest value)⟩

/-- **Criteria that are read have the pairs of their text.** A text that can be read as criteria
lists just one sequence of pairs, and these are the entries. -/
theorem isListedIn_iff {text : String} {c : Criteria} (h : Json.decode decoder text = .ok c)
    {pairs : List (String × String)} : IsListedIn pairs text ↔ pairs = c.entries := by
  obtain ⟨h, -⟩ := Json.decode_eq_ok.mp h
  -- What is read is listed by one value, and this is the value that the text has for the entries.
  suffices hfound : ∃ found, Json.list Json.pair found = .ok c.entries ∧ ∀ items,
      ((∃ more, (Json.Reading.ofText text).1 = .array (.cons (.array items) more)) ∨
        ∃ fields, (Json.Reading.ofText text).1 = .object fields ∧
          fields.Has "entries" (.array items)) ↔ .array items = found by
    obtain ⟨found, hread, hplace⟩ := hfound
    obtain ⟨items, rfl, hitems⟩ := Json.list_pair_eq_ok.mp hread
    constructor
    · rintro ⟨items', hpairs, hat⟩
      cases (hplace items').mp hat
      exact Except.ok.inj ((Json.listItems_pair_eq_ok.mpr hpairs).symm.trans hread)
    · rintro rfl
      exact ⟨items, hitems, (hplace items).mpr rfl⟩
  unfold decoder Json.record at h
  split at h
  · next fields hfields =>
    obtain ⟨draft, hdraft, h⟩ := bind_eq_ok.mp h
    cases draft with
    | none => cases h
    | some read =>
      cases h
      obtain ⟨found, hread, hhas⟩ := has_iff_of_fillByKey hdraft
      refine ⟨found, hread, fun items => ?_⟩
      simp [hfields, hhas]
  · next items hitems =>
    obtain ⟨draft, hdraft, h⟩ := bind_eq_ok.mp h
    cases items with
    | closed =>
      cases hdraft
      cases h
    | broken f => cases hdraft
    | cons found rest =>
      obtain ⟨next, hnext, hend⟩ := bind_eq_ok.mp hdraft
      obtain ⟨_, -, hend⟩ := bind_eq_ok.mp hend
      cases hend
      obtain ⟨read, hread, rfl⟩ := map_eq_ok.mp hnext
      cases h
      refine ⟨found, hread, fun items => ?_⟩
      simp [hitems, eq_comm]
  · exact absurd h Json.wrongShape_ne_ok

/-! ## Mappings -/

/-- No property stands twice. -/
def IsMapping (c : Criteria) : Prop :=
  c.properties.Nodup

instance (c : Criteria) : Decidable c.IsMapping :=
  inferInstanceAs (Decidable (List.Nodup _))

/-- A text lists no property twice. -/
def ListsOnce (text : String) : Prop :=
  ∀ pairs, IsListedIn pairs text → (pairs.map Prod.fst).Nodup

/-- The ways to make criteria: without a text, or from a text and by further insertions. -/
inductive Made : Option String → Criteria → Prop where
  /-- Criteria without entries. -/
  | empty : Made none .empty
  /-- Criteria with a single entry. -/
  | single (property value : String) : Made none (.single property value)
  /-- Criteria that are collected from a list. -/
  | collected (given : List (String × String)) : Made none (.ofList given)
  /-- Criteria that are read from a text. -/
  | read {text : String} {c : Criteria} (h : Json.decode decoder text = .ok c) : Made (some text) c
  /-- Criteria with one more entry. -/
  | further {text? : Option String} {c : Criteria} (h : Made text? c) (property value : String) :
    Made text? (c.insert property value)

/-- An insertion makes no mapping of what is none, nor the other way round. -/
lemma isMapping_insert_iff {c : Criteria} {property value : String} :
    (c.insert property value).IsMapping ↔ c.IsMapping := by
  refine ⟨fun h => ?_, nodup_insert⟩
  rw [IsMapping, properties_insert] at h
  split_ifs at h
  · exact h
  · exact (List.nodup_append.mp h).1

/-- Entries with distinct properties are collected as they are. -/
lemma ofList_of_nodup {entries : List (String × String)} (h : (entries.map Prod.fst).Nodup) :
    ofList entries = ⟨entries⟩ := by
  induction entries using List.reverseRecOn with
  | nil => rfl
  | append_singleton entries entry ih =>
    rw [List.map_append] at h
    obtain ⟨hentries, -, hapart⟩ := List.nodup_append.mp h
    have hnew : entry.1 ∉ entries.map Prod.fst :=
      fun hmem => hapart _ hmem _ (List.mem_singleton.mpr rfl) rfl
    rw [ofList_concat, ih hentries, insert, insertEntry_of_notMem hnew]

/-- What texts criteria were made from decides whether they are a mapping. -/
lemma Made.isMapping_iff {text? : Option String} {c : Criteria} (h : Made text? c) :
    c.IsMapping ↔ ∀ text ∈ text?, ListsOnce text := by
  induction h with
  | empty => exact iff_of_true List.nodup_nil nofun
  | single property value => exact iff_of_true (nodup_insert List.nodup_nil) nofun
  | collected given => exact iff_of_true (nodup_ofList given) nofun
  | read h =>
    simp only [Option.mem_some_iff, forall_eq', ListsOnce, isListedIn_iff h, forall_eq]
    rfl
  | further _ property value ih => exact isMapping_insert_iff.trans ih

/-- **The criteria that are mappings**, however they were made, are those that equal what is
collected from their own entries, so that size, values and query agree; and they are those that
were not made from a text which lists a property twice. -/
theorem Made.tfae_mapping {text? : Option String} {c : Criteria} (h : Made text? c) :
    List.TFAE [c.IsMapping, ofList c.entries = c, c.Collects c.entries,
      ∀ text ∈ text?, ListsOnce text] := by
  tfae_have 1 → 2 := ofList_of_nodup
  tfae_have 2 → 3 := fun hsame => by
    have hcollects := collects_ofList c.entries
    rwa [hsame] at hcollects
  tfae_have 3 → 1 := Collects.nodup
  tfae_have 1 ↔ 4 := h.isMapping_iff
  tfae_finish

/-- Criteria that are read from a text with two properties, and get a new value for one of them. -/
theorem Made.tfae_mapping_film :
    let text := "\x7b\"entries\":[[\"title\",\"Faust\"],[\"year\",\"1926\"]]\x7d"
    let film : Criteria := ⟨[("title", "Sunrise"), ("year", "1926")]⟩
    Made (some text) film ∧ Criteria.ofList film.entries = film ∧ ListsOnce text := by
  intro text film
  have hread : Json.decode decoder text = .ok ⟨[("title", "Faust"), ("year", "1926")]⟩ := by cbv
  have hmade : Made (some text) film := .further (.read hread) "title" "Sunrise"
  have hmapping : film.IsMapping := by decide
  have htfae := hmade.tfae_mapping
  have honce : ∀ t ∈ some text, ListsOnce t := (htfae.out 0 3).mp hmapping
  exact ⟨hmade, (htfae.out 0 1).mp hmapping, honce text rfl⟩

/-- **Criteria that are no mapping.** A text may list a property twice. Then there are two entries
and two terms for it, and the value that is found is the first, not the last. -/
theorem exists_repeated : ∃ text c, Json.decode decoder text = .ok c ∧ ¬c.IsMapping ∧
    Criteria.ofList c.entries ≠ c ∧ c.size = 2 ∧ c.compile = .ok "title:Faust AND title:Sunrise" ∧
    c.get? "title" = some "Faust" ∧ (Criteria.ofList c.entries).get? "title" = some "Sunrise" := by
  refine ⟨"\x7b\"entries\":[[\"title\",\"Faust\"],[\"title\",\"Sunrise\"]]\x7d",
    ⟨[("title", "Faust"), ("title", "Sunrise")]⟩, by cbv, ?_⟩
  decide +kernel

end Criteria

end EntityFinder
