set_option autoImplicit false

/-!
# Property bags

What a node stores: one text per property name, in the order of the names. Since the order and
the absence of duplicates are part of the type, two bags with the same texts are equal.

## Main definitions

* `EntityFinder.Properties`: sorted entries.
* `EntityFinder.Properties.insert`, `EntityFinder.Properties.get?`.
* `EntityFinder.Properties.ofList`: a bag from entries in any order; the last text of a name counts.
-/

namespace EntityFinder

/-- Whether entries are in strictly ascending order of their names. -/
def IsSortedByName (entries : List (String × String)) : Prop :=
  entries.Pairwise fun a b => a.1 < b.1

/-- Texts by property name. -/
structure Properties where
  /-- The entries in ascending order of the names. -/
  entries : List (String × String)
  /-- No name occurs twice, and the order is that of the names. -/
  sorted : IsSortedByName entries

namespace Properties

/-- Two bags with the same entries are equal. -/
@[ext] theorem ext {a b : Properties} (h : a.entries = b.entries) : a = b := by
  cases a; cases b; cases h; rfl

instance : DecidableEq Properties := fun a b =>
  decidable_of_iff (a.entries = b.entries) ⟨ext, fun h => h ▸ rfl⟩

instance : Repr Properties := ⟨fun p n => reprPrec p.entries n⟩

/-- A bag without entries. -/
def empty : Properties := ⟨[], .nil⟩

/-- Puts an entry where its name belongs, in place of the entry of the same name. -/
def insertEntry (name value : String) : List (String × String) → List (String × String)
  | [] => [(name, value)]
  | (n, v) :: rest =>
    if name < n then (name, value) :: (n, v) :: rest
    else if name = n then (name, value) :: rest
    else (n, v) :: insertEntry name value rest

/-- Every entry after an insertion is the new one or an old one. -/
theorem mem_insertEntry {name value : String} {entries : List (String × String)}
    {e : String × String} (h : e ∈ insertEntry name value entries) :
    e = (name, value) ∨ e ∈ entries := by
  induction entries with
  | nil => simpa [insertEntry] using h
  | cons head rest ih =>
    obtain ⟨n, v⟩ := head
    simp only [insertEntry] at h
    split at h
    · simpa using h
    · split at h
      · rcases List.mem_cons.mp h with rfl | h
        · exact .inl rfl
        · exact .inr (.tail _ h)
      · rcases List.mem_cons.mp h with rfl | h
        · exact .inr (.head _)
        · exact (ih h).imp_right (.tail _)

/-- An insertion keeps the entries sorted. -/
theorem sorted_insertEntry (name value : String) {entries : List (String × String)}
    (h : IsSortedByName entries) : IsSortedByName (insertEntry name value entries) := by
  induction entries with
  | nil => exact List.pairwise_singleton _ _
  | cons head rest ih =>
    obtain ⟨n, v⟩ := head
    have hc := List.pairwise_cons.mp h
    simp only [insertEntry]
    split
    · next hlt =>
      refine List.pairwise_cons.mpr ⟨fun e he => ?_, h⟩
      rcases List.mem_cons.mp he with rfl | he
      · exact hlt
      · exact String.lt_trans hlt (hc.1 e he)
    · next hnlt =>
      split
      · next heq => exact List.pairwise_cons.mpr ⟨heq ▸ hc.1, hc.2⟩
      · next hne =>
        refine List.pairwise_cons.mpr ⟨fun e he => ?_, ih hc.2⟩
        rcases mem_insertEntry he with rfl | he
        · exact Decidable.byContradiction fun hn =>
            hne (String.le_antisymm (String.not_lt.mp hn) (String.not_lt.mp hnlt))
        · exact hc.1 e he

/-- Gives a name a text, in place of the one it had. -/
def insert (p : Properties) (name value : String) : Properties :=
  ⟨insertEntry name value p.entries, sorted_insertEntry name value p.sorted⟩

/-- The text of a name. -/
def get? (p : Properties) (name : String) : Option String :=
  p.entries.lookup name

/-- The names in ascending order. -/
def names (p : Properties) : List String :=
  p.entries.map Prod.fst

/-- The bag that results from inserting the entries of a list from left to right. -/
def ofList (entries : List (String × String)) : Properties :=
  entries.foldl (fun p (name, value) => p.insert name value) empty

end Properties

end EntityFinder
