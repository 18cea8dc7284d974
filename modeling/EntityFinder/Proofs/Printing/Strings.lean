import EntityFinder.Json.Reading
import EntityFinder.Json.Value
import Mathlib.Tactic

set_option autoImplicit false

/-!
# How a quoted text is read

A text is quoted character by character, as it is, behind a backslash, or as a code. Reading gives
back the same characters and stops at the closing quote.

## Main results

* `EntityFinder.Json.quoteChar_cases`: how a character is written inside a string.
* `EntityFinder.Json.exists_literal`: a text is read as it is written.
-/

namespace EntityFinder.Json

/-- How a character is written inside a string: as it is, behind a backslash, or as a code. -/
lemma quoteChar_cases (c : Char) :
    (quoteChar c = [c] ∧ c ≠ '"' ∧ c ≠ '\\' ∧ isControl c = false) ∨
      (∃ l, quoteChar c = ['\\', l] ∧ l ≠ 'u' ∧ escapeMeaning? l = some c) ∨
      ∃ a b, quoteChar c = ['\\', 'u', '0', '0', a, b] ∧ isHex a = true ∧ isHex b = true ∧
        codeValue '0' '0' a b = c.toNat ∧ c.toNat < 0x20 := by
  have hdigits : ∀ n : Fin 0x20, isHex (hexDigit (n / 16)) = true ∧
      isHex (hexDigit (n % 16)) = true ∧
      codeValue '0' '0' (hexDigit (n / 16)) (hexDigit (n % 16)) = n := by decide
  unfold quoteChar
  split
  · exact .inr (.inl ⟨'"', rfl, by decide⟩)
  · exact .inr (.inl ⟨'\\', rfl, by decide⟩)
  · exact .inr (.inl ⟨'b', rfl, by decide⟩)
  · exact .inr (.inl ⟨'t', rfl, by decide⟩)
  · exact .inr (.inl ⟨'n', rfl, by decide⟩)
  · exact .inr (.inl ⟨'f', rfl, by decide⟩)
  · exact .inr (.inl ⟨'r', rfl, by decide⟩)
  · next h₁ h₂ _ _ _ _ _ =>
    split_ifs with hcontrol
    · obtain ⟨ha, hb, hvalue⟩ := hdigits ⟨c.toNat, hcontrol⟩
      exact .inr (.inr ⟨_, _, rfl, ha, hb, hvalue, hcontrol⟩)
    · exact .inl ⟨rfl, h₁, h₂, by simpa [isControl] using hcontrol⟩

/-- A character inside a string is read as one unit, and the unit means the character. -/
lemma exists_stringUnit (c : Char) : ∃ u : StringUnit,
    (∀ rest, StringLiteral.read (quoteChar c ++ rest) = consUnit u (StringLiteral.read rest)) ∧
      ∀ us, decodeUnits none (u :: us) = (decodeUnits none us).map (c :: ·) := by
  obtain ⟨h, hquote, hslash, hcontrol⟩ | ⟨l, h, hu, hl⟩ |
    ⟨a, b, h, ha, hb, hvalue, hcontrol⟩ := quoteChar_cases c
  · refine ⟨.plain c, fun rest => ?_, fun us => ?_⟩
    · simp [h, StringLiteral.read, hslash]
    · simp [decodeUnits, hcontrol]
  · refine ⟨.escape l, fun rest => ?_, fun us => ?_⟩
    · simp [h, StringLiteral.read, hu, hl]
    · simp [decodeUnits, hl]
  · refine ⟨.code '0' '0' a b, fun rest => ?_, fun us => ?_⟩
    · have hzero : isHex '0' = true := by decide
      simp [h, StringLiteral.read, ha, hb, hzero]
    · -- a code of a control character is no half of a pair
      have hhigh : isHighSurrogate (codeValue '0' '0' a b) = false := by
        simp [isHighSurrogate, hvalue]
        omega
      have hlow : isLowSurrogate (codeValue '0' '0' a b) = false := by
        simp [isLowSurrogate, hvalue]
        omega
      have hchar : Char.ofNat (codeValue '0' '0' a b) = c := by rw [hvalue, Char.ofNat_toNat]
      cases us with
      | nil => simp [decodeUnits, hhigh, hlow, hchar]
      | cons u us => cases u <;> simp [decodeUnits, hhigh, hlow, hchar]

/-- A string is read up to its closing quote, and its units mean its characters. -/
lemma exists_stringUnits (cs : List Char) : ∃ us : List StringUnit,
    (∀ rest, StringLiteral.read (cs.flatMap quoteChar ++ '"' :: rest) = (⟨us, none⟩, rest)) ∧
      decodeUnits none us = .ok cs := by
  induction cs with
  | nil => exact ⟨[], fun rest => by simp [StringLiteral.read], rfl⟩
  | cons c cs ih =>
    obtain ⟨us, hread, hmeaning⟩ := ih
    obtain ⟨u, hunit, hmeans⟩ := exists_stringUnit c
    refine ⟨u :: us, fun rest => ?_, ?_⟩
    · rw [List.flatMap_cons, List.append_assoc, hunit, hread]
      rfl
    · rw [hmeans, hmeaning]
      rfl

/-- A quoted text is read as a literal that means it. -/
theorem exists_literal (text : String) : ∃ s : StringLiteral, s.text = .ok text ∧
    ∀ rest, StringLiteral.read (text.toList.flatMap quoteChar ++ '"' :: rest) = (s, rest) := by
  obtain ⟨us, hread, hmeaning⟩ := exists_stringUnits text.toList
  refine ⟨⟨us, none⟩, ?_, hread⟩
  rw [StringLiteral.text, hmeaning]
  exact congrArg Except.ok (String.ofList_toList)

/-- A quoted text is its quotes and what is between them. -/
lemma quote_append (text : String) (rest : List Char) :
    quote text ++ rest = '"' :: (text.toList.flatMap quoteChar ++ '"' :: rest) := by
  simp [quote, quoteChars]

/-- Nothing is skipped in front of a sign. -/
lemma skipSpace_cons {c : Char} (h : isSpace c = false) (rest : List Char) :
    skipSpace (c :: rest) = c :: rest := by
  simp [skipSpace, h]

end EntityFinder.Json
