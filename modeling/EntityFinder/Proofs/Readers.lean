import EntityFinder.Json.Extract
import EntityFinder.Proofs.Decoding
import Mathlib.Data.List.TakeWhile

set_option autoImplicit false

/-!
# Two readers of one document

Documents are read in two ways: lists and loaders decode them, while indexes and look-ups take the
text under one key out of them, with a reader that accepts much more than JSON. Both agree on every
document that can be decoded, however it is spelled: they read the same entries in the same order,
and there is no null character at which one of them would stop.

## Main definitions

* `EntityFinder.Json.Relaxed.Spells`: units that mean the characters of a text.
* `EntityFinder.Json.RelaxedFields.Hold`: fields that hold texts by name.
* `EntityFinder.Json.ReadAlike`: a literal that both readers read.
* `EntityFinder.Json.FieldAt`: a field of a text.

## Main results

* `EntityFinder.Json.exists_readString`: a literal that means a text does so in relaxed spelling.
* `EntityFinder.Json.exists_relaxedFields`: fields that hold entries hold them in relaxed spelling.
* `EntityFinder.Json.IsObjectOf.exists_relaxed`: so does a whole text.
-/

namespace EntityFinder.Json

open Relaxed (meanings)

/-! ## Strings -/

/-- Units mean the characters of a text, one by one. -/
def Relaxed.Spells (us : List Relaxed.Unit) (text : String) : Prop :=
  meanings us = text.toList.map some

/-- A unit of a literal as a unit of a relaxed string. -/
def StringUnit.relaxed : StringUnit → Relaxed.Unit
  | .plain c => .plain c
  | .escape letter => .escape letter
  | .code a b c d => .code a b c d

/-- A letter with a meaning behind a backslash is neither that of a byte nor the end of a line, and
means the same in relaxed spelling. -/
lemma of_escapeMeaning? {letter : Char} (h : (escapeMeaning? letter).isSome = true) :
    letter ≠ 'x' ∧ letter ≠ '\r' ∧ letter ≠ '\x00' ∧
      Relaxed.isLineEnd letter = false ∧ Relaxed.isEscape letter = true ∧
      Relaxed.escapedChar letter = (escapeMeaning? letter).getD letter := by
  unfold escapeMeaning? at h
  split at h
  all_goals first
    | decide
    | cases h

/-- The units of a literal are read as a string in relaxed spelling, too. -/
structure ReadAlike (cs : List Char) (us : List StringUnit) (rest : List Char) : Prop where
  /-- They are read up to the same place. -/
  string : Relaxed.readString '"' cs = some (us.map StringUnit.relaxed, rest)
  /-- The letters behind backslashes have a meaning. -/
  meant : ∀ letter, .escape letter ∈ us → (escapeMeaning? letter).isSome = true
  /-- No null characters are read except those that stand for themselves. -/
  null : '\x00' ∈ cs → .plain '\x00' ∈ us ∨ '\x00' ∈ rest

/-- One more unit is read alike. -/
lemma ReadAlike.cons {u : StringUnit} {cs rest : List Char} {us : List StringUnit}
    (front : List Char)
    (hread : Relaxed.readString '"' (front ++ cs) =
      Relaxed.consUnit u.relaxed (Relaxed.readString '"' cs))
    (hmeant : ∀ letter, u = .escape letter → (escapeMeaning? letter).isSome = true)
    (hnull : '\x00' ∈ front → u = .plain '\x00') (h : ReadAlike cs us rest) :
    ReadAlike (front ++ cs) (u :: us) rest where
  string := by
    rw [hread, h.string]
    rfl
  meant letter hletter := by
    rcases List.mem_cons.mp hletter with hu | hus
    · exact hmeant letter hu.symm
    · exact h.meant letter hus
  null hmem := by
    rcases List.mem_append.mp hmem with hfront | hcs
    · exact .inl (hnull hfront ▸ List.mem_cons_self)
    · exact (h.null hcs).imp_left (List.mem_cons_of_mem _)

/-- What is read behind the first unit of a literal. -/
lemma of_consUnit {u : StringUnit} {us : List StringUnit} {rest : List Char}
    {read : StringLiteral × List Char} (h : consUnit u read = (⟨us, none⟩, rest)) :
    ∃ us', us = u :: us' ∧ read = (⟨us', none⟩, rest) := by
  obtain ⟨⟨us', stop⟩, rest'⟩ := read
  cases h
  exact ⟨us', rfl, rfl⟩

/-- A literal that is closed is read alike. -/
lemma readAlike_of_read {cs : List Char} : ∀ {us : List StringUnit} {rest : List Char},
    StringLiteral.read cs = (⟨us, none⟩, rest) → ReadAlike cs us rest := by
  fun_induction StringLiteral.read cs with
  | case1 => simp [brokenLiteral]
  | case2 rest =>
    intro us rest' h
    cases h
    exact ⟨by simp [Relaxed.readString], by simp, by simp⟩
  | case3 => simp [brokenLiteral]
  -- a code of four digits is one unit for both readers, and a letter behind the backslash is too
  | case4 a b c d rest hhex ih =>
    intro us rest' h
    obtain ⟨us', rfl, hread⟩ := of_consUnit h
    simp only [Bool.and_eq_true] at hhex
    refine ReadAlike.cons ['\\', 'u', a, b, c, d] ?_ (by simp) ?_ (ih hread)
    · simp [Relaxed.readString, hhex, StringUnit.relaxed]
    · have hne : ∀ digit, isHex digit = true → '\x00' ≠ digit := by
        rintro digit hdigit rfl
        cases hdigit
      simp [hne, hhex]
  | case5 a b c d rest hhex => simp [brokenLiteral]
  | case6 short hshort => simp [brokenLiteral]
  | case7 short hshort => simp [brokenLiteral]
  | case8 letter rest hcode hshort hmeaning ih =>
    intro us rest' h
    obtain ⟨us', rfl, hread⟩ := of_consUnit h
    obtain ⟨hx, hreturn, hnull, hline, hescape, -⟩ := of_escapeMeaning? hmeaning
    refine ReadAlike.cons ['\\', letter] ?_ ?_ ?_ (ih hread)
    · simp [Relaxed.readString, hx, hreturn, hline, hescape, StringUnit.relaxed]
    · rintro _ ⟨⟩
      exact hmeaning
    · simp [hnull.symm]
  | case9 letter rest hcode hshort hmeaning => simp [brokenLiteral]
  | case10 c rest hquote hlast hcode hshort hescape ih =>
    intro us rest' h
    obtain ⟨us', rfl, hread⟩ := of_consUnit h
    have hslash : c ≠ '\\' := by
      rintro rfl
      cases rest with
      | nil => exact hlast rfl rfl
      | cons letter rest => exact hescape letter rest rfl rfl
    refine ReadAlike.cons [c] ?_ (by simp) ?_ (ih hread)
    · simp [Relaxed.readString, hslash, show c ≠ '"' from hquote, StringUnit.relaxed]
    · simp [eq_comm]

/-- Units that have a meaning were closed by a quote, and no control character stands for itself
among them. -/
lemma closed_of_decodeUnits {stop : Option Fault} {us : List StringUnit} : ∀ {cs : List Char},
    decodeUnits stop us = .ok cs →
      stop = none ∧ ∀ c, .plain c ∈ us → isControl c = false := by
  fun_induction decodeUnits stop us with
  | case1 => simp_all
  | case2 => simp
  | case3 => simp
  | case4 c us hcontrol ih =>
    intro cs h
    obtain ⟨cs', hus, -⟩ := map_eq_ok.mp h
    simpa [hcontrol] using ih hus
  | case5 letter us ih =>
    intro cs h
    obtain ⟨cs', hus, -⟩ := map_eq_ok.mp h
    simpa using ih hus
  | case6 => simp
  | case7 =>
    rename_i ih
    intro cs h
    obtain ⟨cs', hus, -⟩ := map_eq_ok.mp h
    simpa using ih hus
  | case8 => simp
  | case9 => simp
  | case10 => simp
  | case11 =>
    rename_i ih
    intro cs h
    obtain ⟨cs', hus, -⟩ := map_eq_ok.mp h
    simpa using ih hus

/-- A code that is no half of a surrogate pair means its own character, whatever follows. -/
lemma meanings_code {a b c d : Char} (hlow : isLowSurrogate (codeValue a b c d) = false)
    (hhigh : isHighSurrogate (codeValue a b c d) = false) (us : List Relaxed.Unit) :
    meanings (.code a b c d :: us) = some (Char.ofNat (codeValue a b c d)) :: meanings us := by
  cases us with
  | nil => simp [meanings, charOfCode?, hlow, hhigh]
  | cons u us => cases u <;> simp [meanings, charOfCode?, hlow, hhigh]

/-- Units mean the same in relaxed spelling. -/
lemma meanings_of_decodeUnits {stop : Option Fault} {us : List StringUnit} : ∀ {cs : List Char},
    (∀ letter, .escape letter ∈ us → (escapeMeaning? letter).isSome = true) →
      decodeUnits stop us = .ok cs → meanings (us.map StringUnit.relaxed) = cs.map some := by
  fun_induction decodeUnits stop us with
  | case1 => simp [meanings]
  | case2 => simp
  | case3 => simp
  | case4 c us _ ih =>
    intro cs hmeant h
    obtain ⟨cs', hus, rfl⟩ := map_eq_ok.mp h
    have hrest := ih (fun letter hletter => hmeant letter (.tail _ hletter)) hus
    simp [StringUnit.relaxed, meanings, hrest]
  | case5 letter us ih =>
    intro cs hmeant h
    obtain ⟨cs', hus, rfl⟩ := map_eq_ok.mp h
    have hrest := ih (fun letter hletter => hmeant letter (.tail _ hletter)) hus
    obtain ⟨-, -, -, -, -, hmeaning⟩ := of_escapeMeaning? (hmeant letter (.head _))
    simp [StringUnit.relaxed, meanings, hrest, hmeaning]
  | case6 => simp
  | case7 a b c d n _ hhigh a' b' c' d' us m hlow =>
    rename_i ih
    intro cs hmeant h
    obtain ⟨cs', hus, rfl⟩ := map_eq_ok.mp h
    have hrest := ih (fun letter hletter => hmeant letter (.tail _ (.tail _ hletter))) hus
    have hpair : isHighSurrogate (codeValue a b c d) = true ∧
      isLowSurrogate (codeValue a' b' c' d') = true := ⟨hhigh, hlow⟩
    simp [StringUnit.relaxed, meanings, hpair, hrest, n, m]
  | case8 => simp
  | case9 => simp
  | case10 => simp
  | case11 a b c d us n hlow hhigh =>
    rename_i ih
    intro cs hmeant h
    obtain ⟨cs', hus, rfl⟩ := map_eq_ok.mp h
    have hrest := ih (fun letter hletter => hmeant letter (.tail _ hletter)) hus
    have hcode := meanings_code (Bool.not_eq_true _ ▸ hlow) (Bool.not_eq_true _ ▸ hhigh)
      (us.map StringUnit.relaxed)
    rw [List.map_cons, StringUnit.relaxed, hcode, hrest]
    rfl

/-- **A literal that means a text** is read as a string that means the same text in relaxed
spelling, up to the same place, and without null characters. -/
lemma exists_readString {cs rest : List Char} {s : StringLiteral} {text : String}
    (hread : StringLiteral.read cs = (s, rest)) (htext : s.text = .ok text) :
    ∃ us, Relaxed.readString '"' cs = some (us, rest) ∧ Relaxed.Spells us text ∧
      ('\x00' ∈ cs → '\x00' ∈ rest) := by
  obtain ⟨us, stop⟩ := s
  obtain ⟨chars, hdecode, rfl⟩ := map_eq_ok.mp htext
  obtain ⟨rfl, hcontrol⟩ := closed_of_decodeUnits hdecode
  have halike := readAlike_of_read hread
  refine ⟨us.map StringUnit.relaxed, halike.string, ?_, fun hmem => ?_⟩
  · rw [Relaxed.Spells, meanings_of_decodeUnits halike.meant hdecode, String.toList_ofList]
  · rcases halike.null hmem with hplain | hrest
    · cases hcontrol _ hplain
    · exact hrest

/-! ## Blanks -/

/-- Blanks of JSON are blank in relaxed spelling, too. -/
lemma skip_skipSpace (cs : List Char) : Relaxed.skip (skipSpace cs) = Relaxed.skip cs := by
  induction cs with
  | nil => rfl
  | cons c cs ih =>
    by_cases hspace : isSpace c = true
    · have hblank : Relaxed.isBlank c = true ∧ c ≠ '/' := by
        simp only [isSpace, Bool.or_eq_true, beq_iff_eq] at hspace
        rcases hspace with ((rfl | rfl) | rfl) | rfl <;> decide
      have hskip : Relaxed.skip (c :: cs) = Relaxed.skip cs := by
        rw [Relaxed.skip, List.length_cons]
        unfold Relaxed.skipBlanks
        split
        · simp_all
        · simp_all
        · next heq =>
          cases heq
          simp [hblank, Relaxed.skip]
        · next heq => cases heq
      rw [hskip, ← ih]
      simp [skipSpace, hspace]
    · rw [skipSpace_cons (Bool.not_eq_true _ ▸ hspace)]

/-- Nothing is skipped in front of a sign. -/
lemma skip_cons {c : Char} (h₁ : c ≠ '/') (h₂ : Relaxed.isBlank c = false) (rest : List Char) :
    Relaxed.skip (c :: rest) = c :: rest := by
  rw [Relaxed.skip, List.length_cons]
  unfold Relaxed.skipBlanks
  split
  · simp_all
  · simp_all
  · next heq =>
    cases heq
    simp [h₂]
  · next heq => cases heq

/-- A sign behind blanks is found by both readers. -/
lemma skip_eq_cons {c : Char} {cs rest : List Char} (h : skipSpace cs = c :: rest)
    (h₁ : c ≠ '/') (h₂ : Relaxed.isBlank c = false) : Relaxed.skip cs = c :: rest := by
  rw [← skip_skipSpace, h, skip_cons h₁ h₂]

/-- Blanks in front of fields do not matter. -/
lemma readFields_skipSpace (n : Nat) (cs : List Char) :
    readFields n (skipSpace cs) = readFields n cs := by
  have hblanks : ∀ c ∈ cs.takeWhile isSpace, isSpace c = true := fun c hc =>
    List.mem_takeWhile_imp hc
  rw [← readFields_blanks hblanks, skipSpace, List.takeWhile_append_dropWhile]

/-- Blanks have no null character among them. -/
lemma null_mem_skipSpace {cs : List Char} (h : '\x00' ∈ cs) : '\x00' ∈ skipSpace cs := by
  rw [← List.takeWhile_append_dropWhile (p := isSpace) (l := cs)] at h
  rcases List.mem_append.mp h with hblank | hrest
  · cases List.mem_takeWhile_imp hblank
  · exact hrest

/-- Behind blanks and a sign there is every null character that there is. -/
lemma null_mem_behind {c : Char} {cs rest : List Char} (h : skipSpace cs = c :: rest)
    (hc : c ≠ '\x00') (hmem : '\x00' ∈ cs) : '\x00' ∈ rest := by
  have hcons := null_mem_skipSpace hmem
  rw [h] at hcons
  exact (List.mem_cons.mp hcons).resolve_left hc.symm

/-! ## Values that are no texts -/

/-- A reading that is neither a string nor has brackets. -/
def Reading.IsFlat : Reading → Prop
  | .string _ | .array _ | .object _ => False
  | _ => True

/-- A word is flat, whether it is complete or not. -/
lemma isFlat_readWord {value : Reading} (h : value.IsFlat) (word rest : List Char) :
    (readWord value word rest).1.IsFlat := by
  induction word generalizing rest with
  | nil => exact h
  | cons w word ih =>
    cases rest with
    | nil => trivial
    | cons c rest =>
      rw [readWord]
      split_ifs
      · exact ih rest
      · trivial

/-- A number without its digits is flat. -/
lemma isFlat_missingDigit (cs : List Char) : (missingDigit cs).IsFlat := by
  cases cs <;> trivial

/-- A number is flat behind its fraction. -/
lemma isFlat_readExponent (negative : Bool) (whole : List Char) (fraction : Option (List Char))
    (cs : List Char) : (readExponent negative whole fraction cs).1.IsFlat := by
  unfold readExponent
  split
  · trivial
  · dsimp only
    split_ifs
    · exact isFlat_missingDigit _
    · trivial
    · trivial

/-- A number is flat, whether it is complete or not. -/
lemma isFlat_readNumber (negative : Bool) (cs : List Char) :
    (readNumber negative cs).1.IsFlat := by
  have hfraction : ∀ whole cs, (readFraction negative whole cs).1.IsFlat := by
    intro whole cs
    unfold readFraction
    split
    · dsimp only
      split_ifs
      · exact isFlat_missingDigit _
      · exact isFlat_readExponent ..
    · exact isFlat_readExponent ..
  unfold readNumber
  dsimp only
  split
  · exact isFlat_missingDigit _
  · exact hfraction _ _
  · trivial
  · exact hfraction _ _

/-- How a value that is not flat is read: a string behind its opening quote, and the fields of an
object behind its opening brace. -/
lemma readValue_cases {n : Nat} {cs rest : List Char} {value : Reading}
    (h : readValue (n + 1) cs = (value, rest)) : value.IsFlat ∨
      (∃ s behind, value = .string s ∧ skipSpace cs = '"' :: behind ∧
        StringLiteral.read behind = (s, rest)) ∨
      (∃ items, value = .array items) ∨
      ∃ fields behind, value = .object fields ∧ skipSpace cs = '{' :: behind ∧
        (fields = .closed ∧ skipSpace behind = '}' :: rest ∨
          readFields n behind = (fields, rest)) := by
  have hflat : ∀ {read : Reading × List Char}, read = (value, rest) → read.1.IsFlat →
      value.IsFlat := by
    rintro _ rfl hread
    exact hread
  unfold readValue at h
  split at h
  · exact .inl (hflat h trivial)
  · exact .inl (hflat h (isFlat_readWord (by trivial) ..))
  · exact .inl (hflat h (isFlat_readWord (by trivial) ..))
  · exact .inl (hflat h (isFlat_readWord (by trivial) ..))
  · exact .inl (hflat h (isFlat_readNumber ..))
  · next behind hskip =>
    cases h
    exact .inr (.inl ⟨_, behind, rfl, hskip, rfl⟩)
  · right; right; left
    split at h <;> cases h <;> exact ⟨_, rfl⟩
  · next behind hskip =>
    right; right; right
    split at h
    · next hclosed =>
      cases h
      exact ⟨.closed, behind, rfl, hskip, .inl ⟨rfl, hclosed⟩⟩
    · cases h
      exact ⟨_, behind, rfl, hskip, .inr (readFields_skipSpace n behind).symm⟩
  · split_ifs at h
    · exact .inl (hflat h (isFlat_readNumber ..))
    · exact .inl (hflat h trivial)

/-! ## Fields -/

/-- Fields hold texts by name, in the order of the entries. -/
def RelaxedFields.Hold : List (String × String) → RelaxedFields → Prop
  | [], fields => fields = .done
  | (name, value) :: entries, fields => ∃ key us rest, fields = .cons key (.string us) rest ∧
    Relaxed.Spells key name ∧ Relaxed.Spells us value ∧ Hold entries rest

/-- Fields that break off hold no entries. -/
lemma Fields.not_hold_broken {entries : List (String × String)} {f : Fault} :
    ¬Fields.Hold entries (.broken f) := by
  cases entries with
  | nil => exact fun h => nomatch h
  | cons entry entries =>
    rintro ⟨_, _, _, h, -⟩
    cases h

/-- Fields without a first one hold no entries. -/
lemma Fields.eq_nil_of_hold_closed {entries : List (String × String)}
    (h : Fields.Hold entries .closed) : entries = [] := by
  cases entries with
  | nil => rfl
  | cons entry entries =>
    obtain ⟨_, _, _, h, -⟩ := h
    cases h

/-- The first of the fields holds the first entry. -/
lemma Fields.of_hold_cons {entries : List (String × String)} {key : StringLiteral}
    {value : Reading} {rest : Fields} (h : Fields.Hold entries (.cons key value rest)) :
    ∃ name text entries' s, entries = (name, text) :: entries' ∧ value = .string s ∧
      key.text = .ok name ∧ s.text = .ok text ∧ Fields.Hold entries' rest := by
  cases entries with
  | nil => cases h
  | cons entry entries =>
    obtain ⟨_, s, _, h, hkey, hs, hrest⟩ := h
    cases h
    exact ⟨entry.1, entry.2, entries, s, rfl, rfl, hkey, hs, hrest⟩

/-- Fields hold no entries if the first value, or what is behind it, is broken. -/
lemma Fields.not_hold_of_broken {entries : List (String × String)} {key : StringLiteral}
    {value : Reading} {rest : Fields} {f : Fault} (h : value = .broken f ∨ rest = .broken f) :
    ¬Fields.Hold entries (.cons key value rest) := by
  intro hold
  obtain ⟨_, _, _, _, -, rfl, -, -, hrest⟩ := Fields.of_hold_cons hold
  rcases h with h | rfl
  · cases h
  · exact Fields.not_hold_broken hrest

/-- A field of a text, the value of which is read in `n` steps, and what is behind it. -/
inductive FieldAt (n : Nat) (name text : String) (cs behind : List Char) : Prop
  /-- A key, a colon and a value. -/
  | intro {key s : StringLiteral} {inKey behindKey beforeValue : List Char} :
    skipSpace cs = '"' :: inKey → StringLiteral.read inKey = (key, behindKey) →
      key.text = .ok name → skipSpace behindKey = ':' :: beforeValue →
      readValue n beforeValue = (.string s, behind) → s.text = .ok text →
      FieldAt n name text cs behind

/-- What is read as entries is a field, and then the closing brace or a comma and other fields. -/
lemma of_readFields {n : Nat} {cs rest : List Char} {fields : Fields}
    {entries : List (String × String)} (h : readFields (n + 1) cs = (fields, rest))
    (hold : Fields.Hold entries fields) : ∃ name text entries' behind,
      entries = (name, text) :: entries' ∧ FieldAt n name text cs behind ∧
        (entries' = [] ∧ skipSpace behind = '}' :: rest ∨
          ∃ next fields', skipSpace behind = ',' :: next ∧ readFields n next = (fields', rest) ∧
            Fields.Hold entries' fields') := by
  unfold readFields at h
  split at h
  · cases h
    exact (Fields.not_hold_broken hold).elim
  · next inKey hquote =>
    rcases hread : StringLiteral.read inKey with ⟨key, behindKey⟩
    rw [hread] at h
    dsimp only at h
    split at h
    · cases h
      exact (Fields.not_hold_of_broken (.inl rfl) hold).elim
    · next beforeValue hcolon =>
      rcases hvalue : readValue n beforeValue with ⟨value, behind⟩
      rw [hvalue] at h
      dsimp only at h
      split at h
      · cases h
        exact (Fields.not_hold_of_broken (.inr rfl) hold).elim
      · next next hcomma =>
        cases h
        obtain ⟨name, text, entries', s, rfl, rfl, hkey, hs, hrest⟩ := Fields.of_hold_cons hold
        exact ⟨name, text, entries', behind, rfl, .intro hquote hread hkey hcolon hvalue hs,
          .inr ⟨next, _, hcomma, rfl, hrest⟩⟩
      · next hclosed =>
        cases h
        obtain ⟨name, text, entries', s, rfl, rfl, hkey, hs, hrest⟩ := Fields.of_hold_cons hold
        exact ⟨name, text, entries', behind, rfl, .intro hquote hread hkey hcolon hvalue hs,
          .inl ⟨Fields.eq_nil_of_hold_closed hrest, hclosed⟩⟩
      · cases h
        exact (Fields.not_hold_of_broken (.inr rfl) hold).elim
    · cases h
      exact (Fields.not_hold_of_broken (.inl rfl) hold).elim
  · cases h
    exact (Fields.not_hold_broken hold).elim

/-- A text is read as a string that means it in relaxed spelling. -/
lemma exists_relaxedString {n : Nat} {cs rest : List Char} {s : StringLiteral} {text : String}
    (h : readValue n cs = (.string s, rest)) (htext : s.text = .ok text) (depth : Nat) :
    ∃ us, Relaxed.readValue depth n cs = some (.string us, rest) ∧ Relaxed.Spells us text ∧
      ('\x00' ∈ cs → '\x00' ∈ rest) := by
  cases n with
  | zero => simp [readValue] at h
  | succ n =>
    obtain hflat | ⟨_, behind, ⟨⟩, hquote, hread⟩ | ⟨_, ⟨⟩⟩ | ⟨_, _, ⟨⟩, -⟩ := readValue_cases h
    · exact hflat.elim
    · obtain ⟨us, hstring, hspells, hnull⟩ := exists_readString hread htext
      refine ⟨us, ?_, hspells, fun hmem => hnull (null_mem_behind hquote (by decide) hmem)⟩
      unfold Relaxed.readValue
      simp [skip_eq_cons hquote (by decide) (by decide), hstring]

/-- A field of a text is read in relaxed spelling, and then whatever follows it. -/
lemma FieldAt.exists_readField {n : Nat} {name text : String} {cs behind : List Char}
    (h : FieldAt n name text cs behind) (depth : Nat) : ∃ us vs, Relaxed.Spells us name ∧
      Relaxed.Spells vs text ∧ ('\x00' ∈ cs → '\x00' ∈ behind) ∧
      Relaxed.readFields depth (n + 1) cs =
        match Relaxed.skip behind with
        | ',' :: rest => (Relaxed.readFields depth n rest).map fun (fields, rest) =>
          (.cons us (.string vs) fields, rest)
        | '}' :: rest => some (.cons us (.string vs) .done, rest)
        | _ => none := by
  obtain ⟨hquote, hread, hname, hcolon, hvalue, htext⟩ := h
  obtain ⟨us, hkey, hspells, hnull⟩ := exists_readString hread hname
  obtain ⟨vs, hstring, hspells', hnull'⟩ := exists_relaxedString hvalue htext depth
  refine ⟨us, vs, hspells, hspells', fun hmem => ?_, ?_⟩
  · exact hnull' (null_mem_behind hcolon (by decide)
      (hnull (null_mem_behind hquote (by decide) hmem)))
  · conv_lhs => unfold Relaxed.readFields
    simp [skip_eq_cons hquote (by decide) (by decide), Relaxed.readKey, hkey,
      skip_eq_cons hcolon (by decide) (by decide), hstring]
    all_goals rfl

/-- **Fields that hold entries hold them in relaxed spelling, too.**

**Proof sketch.** Induction on the number of steps, which is the same for both readers: each field
takes one step, and its value another one. -/
lemma exists_relaxedFields (depth : Nat) : ∀ (n : Nat) {cs rest : List Char} {fields : Fields}
    {entries : List (String × String)}, readFields n cs = (fields, rest) →
      Fields.Hold entries fields → ∃ relaxed,
        Relaxed.readFields depth n cs = some (relaxed, rest) ∧
          RelaxedFields.Hold entries relaxed ∧ ('\x00' ∈ cs → '\x00' ∈ rest) := by
  intro n
  induction n with
  | zero =>
    intro cs rest fields entries h hold
    cases h
    exact (Fields.not_hold_broken hold).elim
  | succ n ih =>
    intro cs rest fields entries h hold
    obtain ⟨name, text, entries', behind, rfl, hfield, hbehind⟩ := of_readFields h hold
    obtain ⟨us, vs, hname, htext, hnull, hread⟩ := hfield.exists_readField depth
    rcases hbehind with ⟨rfl, hclosed⟩ | ⟨next, fields', hcomma, hnext, hrest⟩
    · refine ⟨.cons us (.string vs) .done, ?_, ⟨us, vs, .done, rfl, hname, htext, rfl⟩,
        fun hmem => null_mem_behind hclosed (by decide) (hnull hmem)⟩
      rw [hread, skip_eq_cons hclosed (by decide) (by decide)]
      rfl
    · obtain ⟨relaxed, hrelaxed, hhold, hnull'⟩ := ih hnext hrest
      refine ⟨.cons us (.string vs) relaxed, ?_, ⟨us, vs, relaxed, rfl, hname, htext, hhold⟩,
        fun hmem => hnull' (null_mem_behind hcomma (by decide) (hnull hmem))⟩
      rw [hread, skip_eq_cons hcomma (by decide) (by decide)]
      simp only [hrelaxed, Option.map_some]

/-! ## Documents -/

namespace IsObjectOf

variable {entries : List (String × String)} {text : String}

/-- An object has its fields in relaxed spelling, too. -/
lemma exists_readValue (h : IsObjectOf entries text) : ∃ fields rest,
    Relaxed.readValue Relaxed.depthLimit (2 * text.toList.length + 2) text.toList =
        some (.object fields, rest) ∧
      RelaxedFields.Hold entries fields ∧ skipSpace rest = [] ∧ '\x00' ∉ text.toList := by
  obtain ⟨fields, hread, hhold⟩ := h
  cases hvalue : Json.readValue (2 * text.toList.length + 2) text.toList with
  | mk value rest =>
    have hboth : (value, skipSpace rest) = (.object fields, []) := by
      rw [← hread, Reading.ofText]
      simp only [hvalue]
    obtain ⟨rfl, hrest⟩ := Prod.mk.inj hboth
    -- What is behind the object is blank, so a null character would be behind the blanks.
    have hend : '\x00' ∉ rest := fun hmem => by
      have hbehind := null_mem_skipSpace hmem
      rw [hrest] at hbehind
      cases hbehind
    obtain hflat | ⟨_, _, ⟨⟩, -⟩ | ⟨_, ⟨⟩⟩ | ⟨_, behind, ⟨⟩, hopen, hfields⟩ :=
      readValue_cases hvalue
    · exact hflat.elim
    · have hskip := skip_eq_cons hopen (by decide) (by decide)
      have hnull : '\x00' ∈ text.toList → '\x00' ∈ behind := null_mem_behind hopen (by decide)
      rcases hfields with ⟨rfl, hclosed⟩ | hfields
      · obtain rfl := Fields.eq_nil_of_hold_closed hhold
        refine ⟨.done, rest, ?_, rfl, hrest,
          fun hmem => hend (null_mem_behind hclosed (by decide) (hnull hmem))⟩
        have hread : Relaxed.readFields 999 (2 * text.toList.length + 1) behind =
            some (.done, rest) := by
          unfold Relaxed.readFields
          simp [skip_eq_cons hclosed (by decide) (by decide)]
        unfold Relaxed.readValue
        simp [hskip, Relaxed.depthLimit, hread]
      · obtain ⟨relaxed, hrelaxed, hheld, hnull'⟩ := exists_relaxedFields 999 _ hfields hhold
        refine ⟨relaxed, rest, ?_, hheld, hrest, fun hmem => hend (hnull' (hnull hmem))⟩
        unfold Relaxed.readValue
        simp [hskip, Relaxed.depthLimit, hrelaxed]

/-- **A text with entries has them in relaxed spelling, too.** -/
theorem exists_relaxed (h : IsObjectOf entries text) : ∃ fields,
    Relaxed.ofText? text = some (.object fields) ∧ RelaxedFields.Hold entries fields := by
  obtain ⟨fields, rest, hread, hhold, hrest, hnull⟩ := h.exists_readValue
  have hwhole : text.toList.takeWhile (· != '\x00') = text.toList := by
    rw [List.takeWhile_eq_self_iff]
    rintro c hc
    rw [bne_iff_ne]
    rintro rfl
    exact hnull hc
  have hskip : Relaxed.skip rest = [] := by
    rw [← skip_skipSpace, hrest]
    rfl
  refine ⟨fields, ?_, hhold⟩
  rw [Relaxed.ofText?, hwhole]
  simp only [hread, hskip]
  rfl

end IsObjectOf

end EntityFinder.Json
