import EntityFinder.Database.Select
import EntityFinder.NodeStore.Basic
import EntityFinder.Proofs.Actions
import EntityFinder.Proofs.Printing.Texts

set_option autoImplicit false

/-!
# What is decoded of a document

Properties are stored as one JSON text. Decoding this text gives back the same properties, whatever
characters their names and texts consist of. Other texts can be decoded if they are those of objects
of texts.

## Main definitions

* `EntityFinder.Json.Fields.Hold`: fields that hold texts by name.
* `EntityFinder.Json.IsObjectOf`: a text is that of an object with some entries.

## Main results

* `EntityFinder.Properties.insertAll_empty`: properties are told by their entries.
* `EntityFinder.Properties.get?_ofList`: of several texts for a name the last counts.
* `EntityFinder.Json.isObjectOf_document`: the document of properties has their entries.
* `EntityFinder.Json.decode_texts_eq_ok`: the texts that can be decoded, and to what.
* `EntityFinder.Json.decode_document`: the document of properties is decoded to these properties.
-/

namespace EntityFinder

/-! ## Properties -/

namespace Properties

/-- The bag with the entries of a list put in from left to right. -/
def insertAll (p : Properties) (entries : List (String × String)) : Properties :=
  entries.foldl (fun p entry => p.insert entry.1 entry.2) p

/-- An entry whose name comes last is put behind the others. -/
lemma insertEntry_eq_append {name value : String} {entries : List (String × String)}
    (h : ∀ entry ∈ entries, entry.1 < name) :
    insertEntry name value entries = entries ++ [(name, value)] := by
  induction entries with
  | nil => rfl
  | cons entry entries ih =>
    obtain ⟨n, v⟩ := entry
    have hlt : n < name := h (n, v) (.head _)
    have hnot : ¬name < n := fun hgt => String.lt_irrefl n (String.lt_trans hlt hgt)
    have hne : name ≠ n := fun heq => String.lt_irrefl n (heq ▸ hlt)
    rw [insertEntry, if_neg hnot, if_neg hne, ih fun e he => h e (.tail _ he), List.cons_append]

/-- Entries whose names come after those of a bag are put behind its own. -/
lemma entries_insertAll {entries : List (String × String)} {p : Properties}
    (h : IsSortedByName (p.entries ++ entries)) :
    (p.insertAll entries).entries = p.entries ++ entries := by
  induction entries generalizing p with
  | nil => simp [insertAll]
  | cons entry entries ih =>
    have hlast : (p.insert entry.1 entry.2).entries = p.entries ++ [entry] :=
      insertEntry_eq_append fun e he => (List.pairwise_append.mp h).2.2 e he entry (.head _)
    have hnext : IsSortedByName ((p.insert entry.1 entry.2).entries ++ entries) := by
      rwa [hlast, List.append_assoc]
    rw [insertAll, List.foldl_cons]
    change (insertAll _ entries).entries = _
    rw [ih hnext, hlast, List.append_assoc]
    rfl

/-- A bag is that of its entries. -/
theorem insertAll_empty (p : Properties) : Properties.empty.insertAll p.entries = p :=
  ext (entries_insertAll p.sorted)

/-- The text of a name after an insertion. -/
lemma get?_insert (p : Properties) (name value other : String) :
    (p.insert name value).get? other = if other = name then some value else p.get? other := by
  have hentries : ∀ entries : List (String × String),
      (insertEntry name value entries).lookup other =
        if other = name then some value else entries.lookup other := by
    intro entries
    induction entries with
    | nil =>
      by_cases hother : other = name
      · simp [insertEntry, hother]
      · simp [insertEntry, List.lookup_cons, hother, beq_eq_false_iff_ne.mpr hother]
    | cons head rest ih =>
      obtain ⟨n, v⟩ := head
      rw [insertEntry]
      by_cases hother : other = name
      · subst hother
        rw [if_pos rfl] at ih ⊢
        split_ifs with hlt heq
        · simp
        · simp
        · rw [List.lookup_cons, beq_eq_false_iff_ne.mpr heq, ih]
      · rw [if_neg hother] at ih ⊢
        have hne : (other == name) = false := beq_eq_false_iff_ne.mpr hother
        split_ifs with hlt heq
        · rw [List.lookup_cons, hne]
        · subst heq
          rw [List.lookup_cons, List.lookup_cons, hne]
        · rw [List.lookup_cons, List.lookup_cons, ih]
  exact hentries p.entries

/-- Of several texts for a name the last counts. -/
theorem get?_ofList (pairs : List (String × String)) (name : String) :
    (ofList pairs).get? name = pairs.reverse.lookup name := by
  -- The pairs are inserted one after the other, so each step is that of the last one.
  induction pairs using List.reverseRecOn with
  | nil => rfl
  | append_singleton pairs pair ih =>
    obtain ⟨n, v⟩ := pair
    have hstep : ofList (pairs ++ [(n, v)]) = (ofList pairs).insert n v := by
      simp [ofList]
    rw [hstep, get?_insert, ih, List.reverse_append, List.reverse_singleton, List.singleton_append,
      List.lookup_cons]
    by_cases h : name = n
    · simp [h]
    · simp [h, beq_eq_false_iff_ne.mpr h]

end Properties

namespace Json

/-! ## Fields -/

/-- A value of the wrong shape is not decoded. -/
lemma wrongShape_ne_ok {α : Type} {r : Reading} {a : α} : wrongShape r ≠ .ok a := by
  intro h
  cases r <;> simp only [wrongShape, bind_eq_ok, reduceCtorEq, and_false, exists_false] at h

/-- Texts are read of strings only. -/
lemma string_eq_ok {r : Reading} {text : String} :
    string r = .ok text ↔ ∃ s, r = .string s ∧ s.text = .ok text := by
  constructor
  · intro h
    unfold string at h
    split at h
    · exact ⟨_, rfl, h⟩
    · exact absurd h wrongShape_ne_ok
  · rintro ⟨s, rfl, hs⟩
    exact hs

/-- Fields hold texts by name, in the order of the entries, and nothing else. -/
def Fields.Hold : List (String × String) → Fields → Prop
  | [], fields => fields = .closed
  | (name, value) :: entries, fields => ∃ key s rest, fields = .cons key (.string s) rest ∧
    key.text = .ok name ∧ s.text = .ok value ∧ Hold entries rest

/-- Fields that hold texts are decoded by putting them in from left to right. -/
lemma textFields_of_hold {entries : List (String × String)} {fields : Fields}
    (h : Fields.Hold entries fields) (found : Properties) :
    textFields found fields = .ok (found.insertAll entries) := by
  induction entries generalizing found fields with
  | nil =>
    obtain rfl := h
    rfl
  | cons entry entries ih =>
    obtain ⟨name, value⟩ := entry
    obtain ⟨key, s, rest, rfl, hkey, hs, hrest⟩ := h
    simp only [textFields, hkey, string, hs, bind, Except.bind]
    exact ih hrest _

/-- Fields that can be decoded hold entries, and these are put in from left to right. -/
lemma exists_hold_of_textFields : ∀ {fields : Fields} {found p : Properties},
    textFields found fields = .ok p →
      ∃ entries, Fields.Hold entries fields ∧ p = found.insertAll entries
  | .closed, found, p, h => by
    cases h
    exact ⟨[], rfl, rfl⟩
  | .broken f, found, p, h => by
    cases h
  | .cons key value rest, found, p, h => by
    obtain ⟨name, hname, h⟩ := bind_eq_ok.mp h
    obtain ⟨text, htext, h⟩ := bind_eq_ok.mp h
    obtain ⟨entries, hhold, rfl⟩ := exists_hold_of_textFields h
    obtain ⟨s, rfl, hs⟩ := string_eq_ok.mp htext
    exact ⟨(name, text) :: entries, ⟨key, s, rest, rfl, hname, hs, hhold⟩, rfl⟩

/-- The members of an object of texts. -/
def textMembers (entries : List (String × String)) : Members :=
  .ofList (entries.map fun (name, value) => (name, .string value))

/-- Fields that mean texts by name hold them. -/
lemma hold_of_mean {entries : List (String × String)} {fields : Fields}
    (h : fields.Mean (textMembers entries)) : Fields.Hold entries fields := by
  induction entries generalizing fields with
  | nil =>
    rw [textMembers, List.map_nil, Members.ofList, Fields.Mean] at h
    exact h
  | cons entry entries ih =>
    simp only [textMembers, List.map_cons, Members.ofList, Fields.Mean, Reading.Means] at h
    obtain ⟨key, _, rest, rfl, hkey, ⟨s, rfl, hs⟩, hrest⟩ := h
    exact ⟨key, s, rest, rfl, hkey, hs, ih hrest⟩

/-! ## Documents -/

/-- What is decoded of a text is decoded of its value, with nothing behind it. -/
lemma decode_eq_ok {α : Type} {d : Decoder α} {text : String} {a : α} :
    decode d text = .ok a ↔
      d (Reading.ofText text).1 = .ok a ∧ (Reading.ofText text).2 = [] := by
  rw [decode, bind_eq_ok]
  constructor
  · rintro ⟨b, hb, h⟩
    split_ifs at h with hrest
    cases h
    exact ⟨hb, List.isEmpty_iff.mp hrest⟩
  · rintro ⟨ha, hrest⟩
    exact ⟨a, ha, if_pos (List.isEmpty_iff.mpr hrest)⟩

/-- A text is that of an object with some entries, in this order, and there is nothing behind it. A
name may occur several times. -/
def IsObjectOf (entries : List (String × String)) (text : String) : Prop :=
  ∃ fields, Reading.ofText text = (.object fields, []) ∧ Fields.Hold entries fields

/-- **The texts that can be decoded** are those of objects with entries, and of several entries for
one name the last counts. -/
theorem decode_texts_eq_ok {text : String} {p : Properties} :
    decode texts text = .ok p ↔ ∃ entries, IsObjectOf entries text ∧ p = .ofList entries := by
  rw [decode_eq_ok]
  constructor
  · rintro ⟨htexts, hrest⟩
    unfold texts at htexts
    split at htexts
    · next fields hvalue =>
      obtain ⟨entries, hhold, hp⟩ := exists_hold_of_textFields htexts
      exact ⟨entries, ⟨fields, Prod.ext hvalue hrest, hhold⟩, hp⟩
    · exact absurd htexts wrongShape_ne_ok
  · rintro ⟨entries, ⟨fields, hread, hhold⟩, rfl⟩
    rw [hread]
    exact ⟨textFields_of_hold hhold .empty, rfl⟩

/-- The document of properties is that of an object with their entries. -/
lemma isObjectOf_document (p : Properties) : IsObjectOf p.entries p.document := by
  obtain ⟨r, hread, hmeans⟩ := exists_ofText .compact p.toJson
  rw [Value.charsIn_compact] at hread
  rw [Properties.toJson, Value.ofMembers, Reading.Means] at hmeans
  obtain ⟨fields, rfl, hmean⟩ := hmeans
  exact ⟨fields, hread, hold_of_mean hmean⟩

/-- The document of properties is decoded to these properties. -/
theorem decode_document (p : Properties) : decode texts p.document = .ok p :=
  decode_texts_eq_ok.mpr ⟨p.entries, isObjectOf_document p, p.insertAll_empty.symm⟩

end Json

/-- A node that stores properties has a record, and the record has these properties. -/
theorem StoredNode.record?_document (id : Int) (entity : String) (p : Properties) :
    StoredNode.record? ⟨id, entity, p.document⟩ = some ⟨id, entity, p⟩ := by
  simp only [record?, Json.decode_document]

end EntityFinder
