import EntityFinder.Database.Name
import EntityFinder.Database.Part
import EntityFinder.IndexConfig
import Mathlib

set_option autoImplicit false

/-!
# The names of full-text tables

An entity and its table know each other by name: two entities never share a table, and the name
of a table can stand in every statement as it is.

## Main definitions

* `EntityFinder.IsEntityName`: the names that an entity with a table can have.

## Main results

* `EntityFinder.IndexConfig.tableName_injective`: different entities have different tables.
* `EntityFinder.IndexConfig.plain?_tableName`: the name of a table is one plain word.
* `EntityFinder.IndexConfig.alone_tableName`: so a statement that ends with it reads it back.
-/

namespace EntityFinder

/-! ## Characters of identifiers -/

namespace Text

/-- The characters of identifiers are ASCII characters. -/
lemma toNat_lt_of_isIdentifierPart {c : Char} (h : isIdentifierPart c = true) : c.toNat < 128 := by
  simp only [isIdentifierPart, Char.isAlphanum, Char.isAlpha, Char.isUpper, Char.isLower,
    Char.isDigit, Bool.or_eq_true, Bool.and_eq_true, decide_eq_true_eq, beq_iff_eq] at h
  simp only [Char.toNat]
  rcases h with (((⟨_, h⟩ | ⟨_, h⟩) | ⟨_, h⟩) | h)
  · exact Nat.lt_of_le_of_lt (UInt32.le_iff_toNat_le.mp h) (by decide)
  · exact Nat.lt_of_le_of_lt (UInt32.le_iff_toNat_le.mp h) (by decide)
  · exact Nat.lt_of_le_of_lt (UInt32.le_iff_toNat_le.mp h) (by decide)
  · subst h
    decide

/-- A statement about ASCII characters holds if it holds of the first 128 codes. -/
lemma forall_ascii {p : Char → Prop} (h : ∀ n : Fin 128, p (Char.ofNat n)) {c : Char}
    (hc : c.toNat < 128) : p c := by
  have hp := h ⟨c.toNat, hc⟩
  rwa [Char.ofNat_toNat] at hp

/-- Among the characters of identifiers the capitals are those of ASCII. -/
lemma isUpper_eq_of_isIdentifierPart {c : Char} (h : isIdentifierPart c = true) :
    isUpper c = c.isUpper :=
  if_pos (toNat_lt_of_isIdentifierPart h)

/-- The lower-case form of a character of identifiers is one character. -/
lemma lower_eq_of_isIdentifierPart {c : Char} (h : isIdentifierPart c = true) :
    lower c = [c.toLower] :=
  if_pos (toNat_lt_of_isIdentifierPart h)

/-- A capital can be told from its lower-case form. -/
lemma toUpper_toLower {c : Char} (h : isIdentifierPart c = true) :
    c.isUpper = true → c.toLower.toUpper = c :=
  forall_ascii (p := fun c => c.isUpper = true → c.toLower.toUpper = c) (by decide)
    (toNat_lt_of_isIdentifierPart h)

/-- The lower-case form of a capital is a character of identifiers, and no underscore. -/
lemma toLower_of_isUpper {c : Char} (h : isIdentifierPart c = true) :
    c.isUpper = true → isIdentifierPart c.toLower = true ∧ c.toLower ≠ '_' :=
  forall_ascii
    (p := fun c => c.isUpper = true → isIdentifierPart c.toLower = true ∧ c.toLower ≠ '_')
    (by decide) (toNat_lt_of_isIdentifierPart h)

/-- An identifier consists of characters of identifiers. -/
lemma all_isIdentifierPart {s : String} (h : isIdentifier s = true) :
    ∀ c ∈ s.toList, isIdentifierPart c = true := by
  simp only [isIdentifier] at h
  cases hs : s.toList with
  | nil => simp
  | cons c cs =>
    rw [hs] at h
    simp only [isIdentifierChars, Bool.and_eq_true, List.all_eq_true] at h
    intro x hx
    rcases List.mem_cons.mp hx with rfl | hx
    · simp only [isIdentifierStart, Bool.or_eq_true] at h
      simp only [isIdentifierPart, Char.isAlphanum, Bool.or_eq_true]
      exact h.1.imp_left Or.inl
    · exact h.2 x hx

/-- An identifier followed by characters of identifiers is an identifier. -/
lemma isIdentifier_append {s t : String} (hs : isIdentifier s = true)
    (ht : ∀ c ∈ t.toList, isIdentifierPart c = true) : isIdentifier (s ++ t) = true := by
  simp only [isIdentifier, String.toList_append] at hs ⊢
  cases hc : s.toList with
  | nil => simp [hc, isIdentifierChars] at hs
  | cons c cs =>
    rw [hc] at hs
    simp only [isIdentifierChars, Bool.and_eq_true, List.all_eq_true, List.cons_append,
      List.mem_append] at hs ⊢
    exact ⟨hs.1, fun x hx => hx.elim (hs.2 x) (ht x)⟩

end Text

/-! ## Entities -/

/-- A name that is accepted is an identifier. -/
lemma isIdentifier_of_validateIdentifier {field name : String}
    (h : validateIdentifier field name = .ok ()) : Text.isIdentifier name = true := by
  by_contra hn
  rw [validateIdentifier, if_pos (by simpa using hn)] at h
  cases h

/-- The names that an entity with a full-text table can have. -/
def IsEntityName (e : String) : Prop :=
  validateIdentifier "entity" e = .ok ()

/-- The name of an entity with a table is an identifier. -/
lemma IsEntityName.isIdentifier {e : String} (h : IsEntityName e) : Text.isIdentifier e = true :=
  isIdentifier_of_validateIdentifier h

namespace IndexConfig

open Text

/-! ## Different entities, different tables -/

/-- A character can be read off the front of what it is written as. -/
lemma escapeChar_append_inj {c d : Char} {x y : List Char} (hc : isIdentifierPart c = true)
    (hd : isIdentifierPart d = true) (h : escapeChar c ++ x = escapeChar d ++ y) :
    c = d ∧ x = y := by
  simp only [escapeChar, isUpper_eq_of_isIdentifierPart hc, isUpper_eq_of_isIdentifierPart hd,
    lower_eq_of_isIdentifierPart hc, lower_eq_of_isIdentifierPart hd] at h
  have hlowc := toLower_of_isUpper hc
  have hlowd := toLower_of_isUpper hd
  split_ifs at h with h₁ h₂ h₃ h₄ h₅ h₆ h₇ h₈ <;>
    simp only [List.cons_append, List.nil_append, List.cons.injEq, true_and] at h
  · exact ⟨h₁.trans h₂.symm, h⟩
  · exact absurd h.1.symm (hlowd h₃).2
  · exact absurd h.1.symm h₂
  · exact absurd h.1 (hlowc h₄).2
  · refine ⟨?_, h.2⟩
    rw [← toUpper_toLower hc h₄, ← toUpper_toLower hd h₆, h.1]
  · exact absurd h.1.symm h₅
  · exact absurd h.1 h₁
  · exact absurd h.1 h₁
  · exact h

/-- Nothing is written as nothing. -/
lemma escapeChar_ne_nil {c : Char} (hc : isIdentifierPart c = true) : escapeChar c ≠ [] := by
  simp only [escapeChar, lower_eq_of_isIdentifierPart hc]
  split_ifs <;> simp

/-- Two entities whose names are written alike are one.

**Proof sketch.** Induction on the first name; `escapeChar_append_inj` reads the first character
off both. -/
lemma escapeEntity_injective : ∀ {a b : List Char}, (∀ c ∈ a, isIdentifierPart c = true) →
    (∀ c ∈ b, isIdentifierPart c = true) → escapeEntity a = escapeEntity b → a = b
  | [], [], _, _, _ => rfl
  | [], d :: b, _, hb, h => by
    simp only [escapeEntity, List.flatMap_nil, List.flatMap_cons] at h
    exact absurd (List.append_eq_nil_iff.mp h.symm).1 (escapeChar_ne_nil (hb d (.head _)))
  | c :: a, [], ha, _, h => by
    simp only [escapeEntity, List.flatMap_nil, List.flatMap_cons] at h
    exact absurd (List.append_eq_nil_iff.mp h).1 (escapeChar_ne_nil (ha c (.head _)))
  | c :: a, d :: b, ha, hb, h => by
    simp only [escapeEntity, List.flatMap_cons] at h
    obtain ⟨rfl, htail⟩ := escapeChar_append_inj (ha c (.head _)) (hb d (.head _)) h
    have hab : a = b := escapeEntity_injective (fun x hx => ha x (.tail _ hx))
      (fun x hx => hb x (.tail _ hx)) htail
    rw [hab]

/-- Different entities have different tables. -/
theorem tableName_injective (config : IndexConfig) {a b : String} (ha : IsEntityName a)
    (hb : IsEntityName b) (h : config.tableName a = config.tableName b) : a = b := by
  have hlists := congrArg String.toList h
  simp only [tableName, String.toList_append, String.toList_ofList,
    List.append_cancel_left_eq] at hlists
  exact String.toList_inj.mp (escapeEntity_injective (all_isIdentifierPart ha.isIdentifier)
    (all_isIdentifierPart hb.isIdentifier) hlists)

/-! ## Plain words -/

/-- What an entity is written as consists of characters of identifiers. -/
lemma all_escapeEntity {a : List Char} (ha : ∀ c ∈ a, isIdentifierPart c = true) :
    ∀ c ∈ escapeEntity a, isIdentifierPart c = true := by
  intro x hx
  obtain ⟨c, hc, hx⟩ := List.mem_flatMap.mp hx
  have hpart := ha c hc
  simp only [escapeChar, isUpper_eq_of_isIdentifierPart hpart,
    lower_eq_of_isIdentifierPart hpart] at hx
  split_ifs at hx with h₁ h₂
  · simp only [List.mem_cons, List.not_mem_nil, or_false, or_self] at hx
    subst hx
    decide
  · simp only [List.mem_cons, List.not_mem_nil, or_false] at hx
    rcases hx with rfl | rfl
    · decide
    · exact (toLower_of_isUpper hpart h₂).1
  · simp only [List.mem_cons, List.not_mem_nil, or_false] at hx
    exact hx ▸ hpart

variable {config : IndexConfig} {e : String}

/-- The name of a table is an identifier. -/
lemma isIdentifier_tableName (hpre : isIdentifier config.tablePrefix = true)
    (he : IsEntityName e) : isIdentifier (config.tableName e) = true := by
  have hunderscore : ∀ c ∈ "_".toList, isIdentifierPart c = true := by
    intro c hc
    rw [show "_".toList = ['_'] from rfl, List.mem_singleton] at hc
    rw [hc]
    rfl
  unfold tableName
  refine isIdentifier_append (isIdentifier_append hpre hunderscore) fun c hc => ?_
  rw [String.toList_ofList] at hc
  exact all_escapeEntity (all_isIdentifierPart he.isIdentifier) c hc

/-- There is an underscore in the name of a table. -/
lemma underscore_mem_tableName (config : IndexConfig) (e : String) :
    '_' ∈ (config.tableName e).toList := by
  simp [tableName, String.toList_append]

/-- A name with an underscore is no reserved word: none of these has one. -/
lemma not_isReserved_of_underscore {s : String} (h : '_' ∈ s.toList) :
    Database.isReserved s = false := by
  have hlow : '_' ∈ (lowerAscii s).toList := by
    rw [lowerAscii, String.toList_ofList]
    exact List.mem_map.mpr ⟨'_', h, by decide⟩
  have hnone : ∀ w ∈ Database.reservedWords, '_' ∉ w.toList := by decide
  rw [Database.isReserved, List.contains_eq_mem, decide_eq_false_iff_not]
  exact fun hmem => hnone _ hmem hlow

/-- The name of a table is one plain word. -/
theorem plain?_tableName (hpre : isIdentifier config.tablePrefix = true)
    (he : IsEntityName e) :
    Database.TableName.plain? (config.tableName e) = some ⟨none, config.tableName e⟩ := by
  simp [Database.TableName.plain?, isIdentifier_tableName hpre he,
    not_isReserved_of_underscore (underscore_mem_tableName config e)]

/-- A statement that ends with the name of a table reads it back. -/
lemma alone_tableName (hpre : isIdentifier config.tablePrefix = true) (he : IsEntityName e) :
    Database.TableName.alone (config.tableName e) = .ok ⟨none, config.tableName e⟩ := by
  simp [Database.TableName.alone, plain?_tableName hpre he]

/-- The declaration of a table is refused, or read back. -/
lemma declared_tableName (hpre : isIdentifier config.tablePrefix = true) (he : IsEntityName e)
    {columns : List String} {tokenizer : String} {n : Database.TableName}
    (h : Database.TableName.declared (config.tableName e) columns tokenizer = .ok n) :
    n = ⟨none, config.tableName e⟩ := by
  simp only [Database.TableName.declared, plain?_tableName hpre he, bind, Except.bind] at h
  split at h
  · cases h
  · split at h <;> cases h
    rfl

end IndexConfig

end EntityFinder
