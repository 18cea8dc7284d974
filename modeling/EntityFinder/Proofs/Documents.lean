import EntityFinder.Database.Basic
import EntityFinder.NodeStore.Basic
import EntityFinder.Proofs.Readers

set_option autoImplicit false

/-!
# What an index reads in a document

Properties are stored as one JSON text, and a full-text table takes its texts out of it again with a
reader of its own. What it finds under a name is what the properties hold under it, as far as names
have no null character.

## Main definitions

* `EntityFinder.Json.isShownAs`: names that are taken for a column.
* `EntityFinder.Properties.shown?`: the text that a table shows in a column.

## Main results

* `EntityFinder.Json.IsObjectOf.extract?_eq`: what is found under a key of an object.
* `EntityFinder.IndexRow.ofDocument_document`: the row of properties.
* `EntityFinder.Properties.shown?_eq_get?`: the text of a column is that of the property.
-/

namespace EntityFinder

namespace Json

open Relaxed (meanings)

/-! ## What stands under a name -/

/-- Whether a name is another one up to a null character. -/
def isShownAs (column name : String) : Bool :=
  name.toList.takeWhile (· != '\x00') == column.toList

/-- Fields have the text of the first entry under its name, or nothing. -/
lemma Relaxed.under?_of_hold {column : String} : ∀ {entries : List (String × String)}
    {fields : RelaxedFields}, RelaxedFields.Hold entries fields →
      Relaxed.under? column (.object fields) =
        some ((entries.find? fun e => isShownAs column e.1).elim .nothing fun e => .text e.2)
  | [], fields, h => by
    obtain rfl : fields = .done := h
    rfl
  | (name, value) :: entries, fields, h => by
    obtain ⟨us, vs, rest, rfl, hname, hvalue, hrest⟩ := h
    have hkey : Relaxed.isKey column.toList us = isShownAs column name := by
      have hbefore : (name.toList.map some).takeWhile (· != some '\x00') =
          (name.toList.takeWhile (· != '\x00')).map some := by
        rw [List.takeWhile_map]
        congr 1
      rw [Relaxed.isKey, hname, hbefore, isShownAs, Bool.eq_iff_iff, beq_iff_eq, beq_iff_eq]
      exact (List.map_injective_iff.mpr (Option.some_injective _)).eq_iff
    have hextract : Relaxed.extractString vs = .text value := by
      have hall : (meanings vs).all Option.isSome = true := by
        rw [hvalue]
        simp
      have hread : Relaxed.readChars vs = value.toList := by
        rw [Relaxed.readChars, hvalue, List.map_map]
        exact List.map_id _
      simp [Relaxed.extractString, hall, hread]
    have ih := @Relaxed.under?_of_hold column _ _ hrest
    simp only [Relaxed.under?, Relaxed.first?, hkey, List.find?_cons] at ih ⊢
    cases isShownAs column name with
    | true => simp [Relaxed.extract?, hextract]
    | false => exact ih

/-- **What a look-up finds under a key** is the text of the first entry whose name is the key up to
a null character. -/
theorem IsObjectOf.extract?_eq {entries : List (String × String)} {text : String}
    (h : IsObjectOf entries text) (key : String) : extract? key text =
      some ((entries.find? fun e => isShownAs key e.1).elim .nothing fun e => .text e.2) := by
  obtain ⟨fields, hread, hhold⟩ := h.exists_relaxed
  rw [extract?, hread, Option.bind_some, Relaxed.under?_of_hold hhold]

end Json

/-! ## Rows of properties -/

namespace Properties

open Json (isShownAs)

/-- The text that a table shows in a column: that of the first name which is the column's up to a
null character. -/
def shown? (p : Properties) (column : String) : Option String :=
  (p.entries.find? fun e => isShownAs column e.1).map Prod.snd

/-- The text of a column is that of the property, if no name has a null character. -/
theorem shown?_eq_get? {p : Properties} (h : ∀ name ∈ p.names, '\x00' ∉ name.toList)
    (column : String) : p.shown? column = p.get? column := by
  rw [shown?, get?]
  rw [names] at h
  generalize p.entries = entries at h
  induction entries with
  | nil => rfl
  | cons entry entries ih =>
    obtain ⟨name, value⟩ := entry
    simp only [List.map_cons, List.mem_cons, forall_eq_or_imp] at h
    have hwhole : name.toList.takeWhile (· != '\x00') = name.toList := by
      rw [List.takeWhile_eq_self_iff]
      rintro c hc
      rw [bne_iff_ne]
      rintro rfl
      exact h.1 hc
    have hname : isShownAs column name = (column == name) := by
      rw [isShownAs, hwhole, Bool.eq_iff_iff, beq_iff_eq, beq_iff_eq, String.toList_inj]
      exact eq_comm
    rw [List.find?_cons, List.lookup_cons, hname]
    cases column == name with
    | true => rfl
    | false => exact ih h.2

end Properties

/-- The row of properties holds what is shown of them. -/
theorem IndexRow.ofDocument_document (p : Properties) (columns : List String) (id : Int) :
    IndexRow.ofDocument columns id p.document = .ok ⟨id, columns.map p.shown?⟩ := by
  obtain ⟨fields, hfields, hhold⟩ := (Json.isObjectOf_document p).exists_relaxed
  have hunder : ∀ column, Json.Relaxed.under? column (.object fields) =
      some ((p.entries.find? fun e => Json.isShownAs column e.1).elim .nothing fun e =>
        .text e.2) := fun column => Json.Relaxed.under?_of_hold hhold
  have hall : columns.mapM (fun column => Json.Relaxed.under? column (.object fields)) =
      some (columns.map fun column => (p.entries.find? fun e => Json.isShownAs column e.1).elim
        Json.Extract.nothing fun e => .text e.2) := by
    induction columns with
    | nil => rfl
    | cons column columns ih =>
      rw [List.mapM_cons, hunder, ih]
      rfl
  have htext : ∀ column, ((p.entries.find? fun e => Json.isShownAs column e.1).elim
      Json.Extract.nothing fun e => .text e.2).text? = p.shown? column := by
    intro column
    rw [Properties.shown?]
    cases p.entries.find? fun e => Json.isShownAs column e.1 with
    | none => rfl
    | some e => rfl
  simp only [IndexRow.ofDocument, hfields, Option.bind_some, hall, List.map_map, Function.comp_def,
    htext]

end EntityFinder
