import EntityFinder.Database.Statement
import EntityFinder.Proofs.Actions

set_option autoImplicit false

/-!
# The rows of a full-text table

The rows of a table are in ascending order of their numbers. A change of a table touches nothing
but its rows and segments, and a table that has lost no part never refuses one.

## Main definitions

* `EntityFinder.IndexTable.RowsSorted`: rows in ascending order of their numbers.

## Main results

* `EntityFinder.IndexTable.mem_insertRow`: which rows there are after one was put.
* `EntityFinder.IndexTable.put_ok`, `EntityFinder.IndexTable.replace_ok`,
  `EntityFinder.IndexTable.erase_ok`, `EntityFinder.IndexTable.clear_ok`,
  `EntityFinder.IndexTable.putAll_ok`: what a change makes of a table.
* `EntityFinder.IndexTable.arrange_eq_self`: a row of the columns of a table is kept as it is.
-/

namespace EntityFinder.IndexTable

/-! ## Putting rows -/

/-- Rows in ascending order of their numbers. -/
def RowsSorted (rows : List IndexRow) : Prop :=
  rows.Pairwise fun a b => a.id < b.id

variable {row r : IndexRow} {rows added : List IndexRow}

/-- Every row after one was put is that row or an old one. -/
lemma eq_or_mem_of_mem_insertRow (h : r ∈ insertRow row rows) : r = row ∨ r ∈ rows := by
  induction rows with
  | nil => simpa [insertRow] using h
  | cons head rest ih =>
    simp only [insertRow] at h
    split_ifs at h with h₁ h₂
    · simpa using h
    · rcases List.mem_cons.mp h with rfl | h
      · exact .inl rfl
      · exact .inr (.tail _ h)
    · rcases List.mem_cons.mp h with rfl | h
      · exact .inr (.head _)
      · exact (ih h).imp_right (.tail _)

/-- Putting a row keeps the order. -/
lemma RowsSorted.insertRow (h : RowsSorted rows) (row : IndexRow) :
    RowsSorted (insertRow row rows) := by
  induction rows with
  | nil => exact List.pairwise_singleton _ _
  | cons head rest ih =>
    have hc := List.pairwise_cons.mp h
    simp only [IndexTable.insertRow]
    split_ifs with h₁ h₂
    · refine List.pairwise_cons.mpr ⟨fun r hr => ?_, h⟩
      rcases List.mem_cons.mp hr with rfl | hr
      · exact h₁
      · exact h₁.trans (hc.1 r hr)
    · exact List.pairwise_cons.mpr ⟨fun r hr => h₂ ▸ hc.1 r hr, hc.2⟩
    · refine List.pairwise_cons.mpr ⟨fun r hr => ?_, ih hc.2⟩
      rcases eq_or_mem_of_mem_insertRow hr with rfl | hr
      · omega
      · exact hc.1 r hr

/-- The rows after one was put: that row, and the old ones with other numbers. -/
theorem mem_insertRow (h : RowsSorted rows) :
    r ∈ insertRow row rows ↔ r = row ∨ r ∈ rows ∧ r.id ≠ row.id := by
  induction rows with
  | nil => simp [insertRow]
  | cons head rest ih =>
    have hc := List.pairwise_cons.mp h
    simp only [insertRow]
    split_ifs with h₁ h₂
    -- the row comes before all others
    · have hlater : ∀ a ∈ head :: rest, a.id ≠ row.id := by
        intro a ha
        rcases List.mem_cons.mp ha with rfl | ha
        · omega
        · have := hc.1 a ha
          omega
      exact ⟨fun hr => (List.mem_cons.mp hr).imp_right fun hr => ⟨hr, hlater r hr⟩,
        fun hr => List.mem_cons.mpr (hr.imp_right And.left)⟩
    -- the row replaces the first one
    · have hlater : ∀ a ∈ rest, a.id ≠ row.id := fun a ha => by
        have := hc.1 a ha
        omega
      constructor
      · exact fun hr => (List.mem_cons.mp hr).imp_right fun hr => ⟨.tail _ hr, hlater r hr⟩
      · rintro (rfl | ⟨hr, hne⟩)
        · exact .head _
        · rcases List.mem_cons.mp hr with rfl | hr
          · exact absurd h₂.symm hne
          · exact .tail _ hr
    -- the row comes behind the first one
    · rw [List.mem_cons, ih hc.2, List.mem_cons]
      constructor
      · rintro (rfl | hr | ⟨hr, hne⟩)
        · exact .inr ⟨.inl rfl, fun he => h₂ he.symm⟩
        · exact .inl hr
        · exact .inr ⟨.inr hr, hne⟩
      · rintro (rfl | ⟨rfl | hr, hne⟩)
        · exact .inr (.inl rfl)
        · exact .inl rfl
        · exact .inr (.inr ⟨hr, hne⟩)

/-- Rows put one after the other. -/
def insertRows (added rows : List IndexRow) : List IndexRow :=
  added.foldl (fun rows row => IndexTable.insertRow row rows) rows

/-- Putting several rows keeps the order. -/
lemma RowsSorted.insertRows (h : RowsSorted rows) (added : List IndexRow) :
    RowsSorted (insertRows added rows) := by
  induction added generalizing rows with
  | nil => exact h
  | cons row added ih => exact ih (h.insertRow row)

/-- Every row after several were put is one of them or an old one. -/
lemma mem_or_mem_of_mem_insertRows (h : r ∈ insertRows added rows) : r ∈ added ∨ r ∈ rows := by
  induction added generalizing rows with
  | nil => exact .inr h
  | cons row added ih =>
    rcases ih h with h | h
    · exact .inl (.tail _ h)
    · rcases eq_or_mem_of_mem_insertRow h with rfl | h
      · exact .inl (.head _)
      · exact .inr h

/-- Of rows in ascending order put into an empty table all are there, and no others. -/
lemma insertRows_eq (h : RowsSorted (rows ++ added)) : insertRows added rows = rows ++ added := by
  induction added generalizing rows with
  | nil => simp [insertRows]
  | cons row added ih =>
    have hlast : IndexTable.insertRow row rows = rows ++ [row] := by
      have hbelow : ∀ a ∈ rows, a.id < row.id := fun a ha =>
        (List.pairwise_append.mp h).2.2 a ha row (.head _)
      clear h ih
      induction rows with
      | nil => rfl
      | cons head rest ih =>
        have hhead := hbelow head (.head _)
        rw [IndexTable.insertRow, if_neg (by omega), if_neg (by omega),
          ih fun a ha => hbelow a (.tail _ ha), List.cons_append]
    have happ : rows ++ row :: added = (rows ++ [row]) ++ added := by simp
    rw [happ] at h ⊢
    rw [← ih h, insertRows, List.foldl_cons, hlast, insertRows]

/-! ## Changes of a table -/

variable {t t' : IndexTable}

/-- A change of the segments is a change of nothing else. -/
lemma exists_grown (t : IndexTable) (changed : List IndexRow) :
    ∃ n, t.grown changed = { t with segments := n } := by
  unfold grown
  split
  · exact ⟨_, rfl⟩
  · exact ⟨t.segments, rfl⟩

/-- A change takes rows out and puts others in. -/
lemma change_ok {gone : List IndexRow} (h : t.change gone added = .ok t') :
    ∃ n, t' = { t with
      rows := insertRows added (t.rows.filter fun r => !gone.any (·.id == r.id)), segments := n } := by
  obtain ⟨_, _, h⟩ := bind_eq_ok.mp h
  obtain ⟨n, hn⟩ := exists_grown { t with
    rows := insertRows added (t.rows.filter fun r => !gone.any (·.id == r.id)) } (gone ++ added)
  cases h
  exact ⟨n, hn⟩

/-- What is put into a table is added to its rows. -/
lemma putAll_ok (h : t.putAll rows = .ok t') :
    ∃ n, t' = { t with rows := insertRows rows t.rows, segments := n } := by
  obtain ⟨n, hn⟩ := change_ok h
  simp only [List.any_nil, Bool.not_false, List.filter_true] at hn
  exact ⟨n, hn⟩

/-- One row is put into a table. -/
lemma put_ok (h : t.put row = .ok t') :
    ∃ n, t' = { t with rows := insertRow row t.rows, segments := n } :=
  putAll_ok h

/-- What is no row with a number has another number. -/
lemma not_any_rowsAt (t : IndexTable) (id : Int) (hr : r ∈ t.rows) :
    (!(t.rowsAt id).any fun a => a.id == r.id) = (r.id != id) := by
  rw [Bool.eq_iff_iff]
  simp only [rowsAt, Bool.not_eq_true', List.any_eq_false, List.mem_filter, beq_iff_eq, and_imp,
    bne_iff_ne, ne_eq]
  constructor
  · exact fun h he => h r hr he rfl
  · exact fun h a _ ha hne => h (hne ▸ ha)

/-- A row takes the place of the one with its number. -/
lemma replace_ok (h : t.replace row = .ok t') :
    ∃ n, t' = { t with rows := insertRow row (t.rows.filter (·.id != row.id)), segments := n } := by
  obtain ⟨_, _, h⟩ := bind_eq_ok.mp h
  obtain ⟨n, hn⟩ := change_ok h
  rw [List.filter_congr fun r hr => not_any_rowsAt t row.id hr] at hn
  exact ⟨n, hn⟩

/-- The row of a number is taken out. -/
lemma erase_ok {id : Int} (h : t.erase id = .ok t') :
    ∃ n, t' = { t with rows := t.rows.filter (·.id != id), segments := n } := by
  obtain ⟨_, _, h⟩ := bind_eq_ok.mp h
  obtain ⟨n, hn⟩ := change_ok h
  rw [List.filter_congr fun r hr => not_any_rowsAt t id hr] at hn
  exact ⟨n, hn⟩

/-- All rows are taken out. -/
lemma clear_ok (h : t.clear = .ok t') : ∃ n, t' = { t with rows := [], segments := n } := by
  obtain ⟨_, _, h⟩ := bind_eq_ok.mp h
  obtain ⟨n, hn⟩ := change_ok h
  have hnone : t.rows.filter (fun r => !t.rows.any (·.id == r.id)) = [] := by
    simp only [List.filter_eq_nil_iff, Bool.not_eq_true', Bool.not_eq_false, List.any_eq_true,
      beq_iff_eq]
    exact fun r hr => ⟨r, hr, rfl⟩
  rw [hnone] at hn
  exact ⟨n, hn⟩

/-- A table is taken into use, and nothing else about it changes. -/
lemma use_ok (h : t.use = .ok t') : ∃ b, t' = { t with inUse := b } := by
  unfold use at h
  split_ifs at h
  · cases h
    exact ⟨t.inUse, rfl⟩
  · cases h
    exact ⟨true, rfl⟩

/-! ## Tables that have lost nothing -/

/-- A table that has lost nothing lacks nothing. -/
lemma lacks_eq_false (h : t.lost = []) (p : Database.Part) : t.lacks p = false := by
  simp [lacks, h]

/-- A table that has lost nothing takes every row. -/
lemma writeFault?_eq_none (h : t.lost = []) (row : IndexRow) : t.writeFault? row = none := by
  simp [writeFault?, lacks_eq_false h]

/-- A table that has lost nothing can be gone through. -/
lemma scanFault?_eq_none (h : t.lost = []) : t.scanFault? = none := by
  simp [scanFault?, misses, lacks_eq_false h]

/-- A table that has lost nothing takes every change. -/
lemma exists_change (h : t.lost = []) (gone added : List IndexRow) :
    ∃ t', t.change gone added = .ok t' := by
  have hnone : (gone ++ added).findSome? t.writeFault? = none :=
    List.findSome?_eq_none_iff.mpr fun row _ => writeFault?_eq_none h row
  simp only [change, hnone, refuse, bind, Except.bind]
  exact ⟨_, rfl⟩

/-- A table that has lost nothing can be cleared. -/
lemma exists_clear (h : t.lost = []) : ∃ t', t.clear = .ok t' := by
  simp only [clear, scanFault?_eq_none h, refuse, bind, Except.bind]
  exact exists_change h _ _

/-- A table that has lost nothing can be used. -/
lemma exists_use (h : t.lost = []) : ∃ t', t.use = .ok t' := by
  unfold use
  split_ifs with h₁ h₂
  · exact ⟨_, rfl⟩
  · simp [h] at h₂
  · exact ⟨_, rfl⟩

/-- The size of a table that has lost nothing is the number of its rows. -/
lemma size_eq (h : t.lost = []) : t.size = .ok t.rows.length := by
  obtain ⟨u, hu⟩ := exists_use h
  obtain ⟨b, rfl⟩ := use_ok hu
  have hscan : scanFault? { t with inUse := b } = none := scanFault?_eq_none h
  simp only [size, hu, bind, Except.bind, hscan, refuse]

/-! ## Texts by column -/

/-- Texts are found again under the names of their columns. -/
lemma map_find?_zip : ∀ {names : List String} {texts : List (Option String)},
    (names.map Text.lowerAscii).Nodup → texts.length = names.length →
    names.map (fun column =>
      ((names.zip texts).find? fun (name, _) => Text.sameName name column).bind Prod.snd) = texts
  | [], [], _, _ => rfl
  | [], _ :: _, _, h => by simp at h
  | _ :: _, [], _, h => by simp at h
  | name :: names, text :: texts, hd, hl => by
    simp only [List.map_cons, List.nodup_cons, List.mem_map, not_exists, not_and] at hd
    have hrest : names.map (fun column => (((name :: names).zip (text :: texts)).find?
        fun (n, _) => Text.sameName n column).bind Prod.snd) = texts := by
      refine Eq.trans (List.map_congr_left fun column hc => ?_) (map_find?_zip hd.2 (by simpa using hl))
      have hne : Text.sameName name column = false := by
        simpa [Text.sameName] using fun he => hd.1 column hc he.symm
      simp [hne]
    rw [List.map_cons, hrest]
    simp [Text.sameName]

/-- A row of the columns of a table is kept as it is. -/
lemma arrange_eq_self {reserved : String} (h : Database.areDistinct reserved t.columns = true)
    (hl : row.texts.length = t.columns.length) : t.arrange t.columns row = row := by
  simp only [Database.areDistinct, List.map_cons, decide_eq_true_eq, List.nodup_cons] at h
  simp only [arrange, map_find?_zip h.2 hl]

end EntityFinder.IndexTable
