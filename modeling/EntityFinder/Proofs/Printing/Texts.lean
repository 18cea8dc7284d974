import EntityFinder.Json.Decoder
import EntityFinder.Proofs.Printing.Strings

set_option autoImplicit false

/-!
# How a written value is read

A value is written without any space or indented, and the two texts differ only in the blanks
between their parts. Either is read as a tree that means the value: strings mean what was quoted,
numbers have the digits of the integer, items and members come in their order, and nothing is left
over.

## Main definitions

* `EntityFinder.Json.Layout`: where blanks stand in a text, with the two layouts in use.
* `EntityFinder.Json.Value.charsIn`: the text of a value in a layout.
* `EntityFinder.Json.Reading.Means`: what can be read of a text that means a value.

## Main results

* `EntityFinder.Json.Value.charsIn_compact`, `EntityFinder.Json.Value.charsIn_indented`: both ways
  of writing follow a layout.
* `EntityFinder.Json.exists_readValue`: a written value is read, whatever follows it.
* `EntityFinder.Json.exists_ofText`: the text of a value is read as a tree that means it.
-/

namespace EntityFinder.Json

/-! ## Layouts -/

/-- Where blanks stand in a text. -/
structure Layout where
  /-- What stands in front of an item, a member or a closing bracket of a level. -/
  line : Nat → List Char
  /-- What stands between a colon and the value of a member. -/
  gap : List Char
  /-- Only blanks stand in front of an item. -/
  line_blank : ∀ level, ∀ c ∈ line level, isSpace c = true
  /-- Only blanks stand behind a colon. -/
  gap_blank : ∀ c ∈ gap, isSpace c = true

namespace Layout

/-- Without any space. -/
def compact : Layout where
  line _ := []
  gap := []
  line_blank := by simp
  gap_blank := by simp

/-- Each item on a line of its own, indented by two spaces per level. -/
def indented : Layout where
  line := newLine
  gap := [' ']
  line_blank := by
    intro level c hc
    rcases List.mem_cons.mp hc with rfl | hc
    · decide
    · rw [List.eq_of_mem_replicate hc]
      decide
  gap_blank c hc := by
    rw [List.mem_singleton.mp hc]
    decide

@[simp] lemma line_compact (level : Nat) : compact.line level = [] := rfl

@[simp] lemma gap_compact : compact.gap = [] := rfl

@[simp] lemma line_indented (level : Nat) : indented.line level = newLine level := rfl

@[simp] lemma gap_indented : indented.gap = [' '] := rfl

end Layout

mutual

/-- The text of a value in a layout, at a level. -/
def Value.charsIn (layout : Layout) (level : Nat) : Value → List Char
  | .null => ['n', 'u', 'l', 'l']
  | .bool true => ['t', 'r', 'u', 'e']
  | .bool false => ['f', 'a', 'l', 's', 'e']
  | .int n => integer n
  | .string s => quote s
  | .array .nil => ['[', ']']
  | .array (.cons v vs) =>
    '[' :: (layout.line (level + 1) ++ (v.charsIn layout (level + 1) ++ vs.charsIn layout level))
  | .object .nil => ['{', '}']
  | .object (.cons k v ms) =>
    '{' :: (layout.line (level + 1) ++ (quote k ++ (':' :: (layout.gap ++
      (v.charsIn layout (level + 1) ++ ms.charsIn layout level)))))

/-- Further items, each after a comma, and the closing bracket. -/
def Values.charsIn (layout : Layout) (level : Nat) : Values → List Char
  | .nil => layout.line level ++ [']']
  | .cons v vs =>
    ',' :: (layout.line (level + 1) ++ (v.charsIn layout (level + 1) ++ vs.charsIn layout level))

/-- Further members, each after a comma, and the closing brace. -/
def Members.charsIn (layout : Layout) (level : Nat) : Members → List Char
  | .nil => layout.line level ++ ['}']
  | .cons k v ms =>
    ',' :: (layout.line (level + 1) ++ (quote k ++ (':' :: (layout.gap ++
      (v.charsIn layout (level + 1) ++ ms.charsIn layout level)))))

end

mutual

/-- A value without spaces is written in the compact layout. -/
theorem Value.charsIn_compact (level : Nat) (v : Value) :
    v.charsIn .compact level = v.compactChars := by
  match v with
  | .null | .bool true | .bool false | .int _ | .string _ | .array .nil | .object .nil =>
    simp [Value.charsIn, Value.compactChars]
  | .array (.cons v vs) =>
    simp [Value.charsIn, Value.compactChars, Value.charsIn_compact (level + 1) v,
      Values.charsIn_compact level vs]
  | .object (.cons k v ms) =>
    simp [Value.charsIn, Value.compactChars, Value.charsIn_compact (level + 1) v,
      Members.charsIn_compact level ms]

/-- Items without spaces are written in the compact layout. -/
theorem Values.charsIn_compact (level : Nat) (vs : Values) :
    vs.charsIn .compact level = vs.compactChars := by
  match vs with
  | .nil => simp [Values.charsIn, Values.compactChars]
  | .cons v vs =>
    simp [Values.charsIn, Values.compactChars,
      Value.charsIn_compact (level + 1) v, Values.charsIn_compact level vs]

/-- Members without spaces are written in the compact layout. -/
theorem Members.charsIn_compact (level : Nat) (ms : Members) :
    ms.charsIn .compact level = ms.compactChars := by
  match ms with
  | .nil => simp [Members.charsIn, Members.compactChars]
  | .cons k v ms =>
    simp [Members.charsIn, Members.compactChars,
      Value.charsIn_compact (level + 1) v, Members.charsIn_compact level ms]

end

mutual

/-- An indented value is written in the indented layout. -/
theorem Value.charsIn_indented (level : Nat) (v : Value) :
    v.charsIn .indented level = v.prettyChars level := by
  match v with
  | .null | .bool true | .bool false | .int _ | .string _ | .array .nil | .object .nil =>
    simp [Value.charsIn, Value.prettyChars]
  | .array (.cons v vs) =>
    simp [Value.charsIn, Value.prettyChars, Value.charsIn_indented (level + 1) v,
      Values.charsIn_indented level vs]
  | .object (.cons k v ms) =>
    simp [Value.charsIn, Value.prettyChars, Value.charsIn_indented (level + 1) v,
      Members.charsIn_indented level ms]

/-- Indented items are written in the indented layout. -/
theorem Values.charsIn_indented (level : Nat) (vs : Values) :
    vs.charsIn .indented level = vs.prettyChars level := by
  match vs with
  | .nil => simp [Values.charsIn, Values.prettyChars]
  | .cons v vs =>
    simp [Values.charsIn, Values.prettyChars,
      Value.charsIn_indented (level + 1) v, Values.charsIn_indented level vs]

/-- Indented members are written in the indented layout. -/
theorem Members.charsIn_indented (level : Nat) (ms : Members) :
    ms.charsIn .indented level = ms.prettyChars level := by
  match ms with
  | .nil => simp [Members.charsIn, Members.prettyChars]
  | .cons k v ms =>
    simp [Members.charsIn, Members.prettyChars,
      Value.charsIn_indented (level + 1) v, Members.charsIn_indented level ms]

end

/-! ## Numbers -/

/-- An integer as it is written. -/
def Numeral.ofInt (n : Int) : Numeral :=
  ⟨decide (n < 0), Nat.toDigits 10 n.natAbs, none, none⟩

/-- The value of digits is the one they are written for. -/
lemma digitsValue_toDigits (n : Nat) : Numeral.digitsValue (Nat.toDigits 10 n) = n := by
  have h := Nat.ofDigitChars_toDigits (b := 10) (n := n) (by decide) (by decide)
  rw [Nat.ofDigitChars_eq_foldl] at h
  simpa [Numeral.digitsValue, Nat.mul_comm] using h

/-- An integer has the value it is written for. -/
lemma integer?_ofInt (n : Int) : (Numeral.ofInt n).integer? = some n := by
  by_cases h : n < 0
  · have hvalue : |n| = -n := abs_of_neg h
    simp [Numeral.integer?, Numeral.ofInt, digitsValue_toDigits, h, h.ne, hvalue]
  · have hvalue : |n| = n := abs_of_nonneg (not_lt.mp h)
    simp [Numeral.integer?, Numeral.ofInt, digitsValue_toDigits, h, hvalue]

/-- An integer that fits into a word may be used. -/
lemma usable_ofInt {n : Int} (h : n.natAbs < Numeral.wordLimit) :
    (Numeral.ofInt n).usable = .ok () := by
  have hhuge : (Numeral.ofInt n).isHuge = false := by
    simp [Numeral.isHuge, Numeral.ofInt, digitsValue_toDigits, h]
  rw [Numeral.usable, hhuge]
  rfl

/-- A number does not go on here. -/
def EndsNumber (rest : List Char) : Prop :=
  ∀ c ∈ rest.head?, c.isDigit = false ∧ c ≠ '.' ∧ c ≠ 'e' ∧ c ≠ 'E'

/-- A number of several digits does not begin with a zero. -/
lemma toDigits_ne_zero_cons (n : Nat) (d : Char) (ds : List Char) :
    Nat.toDigits 10 n ≠ '0' :: d :: ds := by
  induction n using Nat.strong_induction_on generalizing d ds with
  | _ n ih =>
    intro h
    by_cases hlt : n < 10
    · rw [Nat.toDigits_of_lt_base hlt] at h
      simp at h
    · rw [Nat.toDigits_of_base_le (by decide) (by omega)] at h
      -- the digits in front of the last one are those of a smaller number, which is not zero
      cases hfront : Nat.toDigits 10 (n / 10) with
      | nil => exact Nat.toDigits_ne_nil hfront
      | cons e es =>
        rw [hfront, List.cons_append, List.cons.injEq] at h
        obtain ⟨rfl, h⟩ := h
        cases es with
        | nil =>
          have hzero : n / 10 = 0 := by
            rw [← digitsValue_toDigits (n / 10), hfront]
            rfl
          omega
        | cons e' es => exact ih (n / 10) (by omega) e' es hfront

/-- Digits are read as a number without fraction and exponent, up to where it ends. -/
lemma readNumber_toDigits (negative : Bool) (n : Nat) {rest : List Char} (hrest : EndsNumber rest) :
    readNumber negative (Nat.toDigits 10 n ++ rest) =
      (.number ⟨negative, Nat.toDigits 10 n, none, none⟩, rest) := by
  have hdigit : ∀ c ∈ Nat.toDigits 10 n, c.isDigit = true := fun c hc =>
    Nat.isDigit_of_mem_toDigits (by decide) (by decide) hc
  have hstop : rest.takeWhile Char.isDigit = [] ∧ rest.dropWhile Char.isDigit = rest := by
    cases rest with
    | nil => exact ⟨rfl, rfl⟩
    | cons c rest => simp [(hrest c rfl).1]
  have hfraction : readFraction negative (Nat.toDigits 10 n) rest =
      (.number ⟨negative, Nat.toDigits 10 n, none, none⟩, rest) := by
    cases rest with
    | nil => rfl
    | cons c rest =>
      obtain ⟨-, hpoint, hlower, hupper⟩ := hrest c rfl
      simp [readFraction, hpoint, readExponent, hlower, hupper]
  unfold readNumber
  rw [List.takeWhile_append_of_pos hdigit, List.dropWhile_append_of_pos hdigit, hstop.1, hstop.2,
    List.append_nil]
  cases hdigits : Nat.toDigits 10 n with
  | nil => exact absurd hdigits Nat.toDigits_ne_nil
  | cons d ds =>
    rw [hdigits] at hfraction
    cases ds with
    | nil =>
      by_cases hzero : d = '0'
      · subst hzero
        simp [hfraction]
      · simp [hzero, hfraction]
    -- further digits rule out a leading zero
    | cons d' ds =>
      have hzero : d ≠ '0' := by
        rintro rfl
        exact toDigits_ne_zero_cons n d' ds hdigits
      simp [hzero, hfraction]

/-! ## Values -/

mutual

/-- A reading that means a value. -/
def Reading.Means : Value → Reading → Prop
  | .null, r => r = .null
  | .bool b, r => r = .bool b
  | .int n, r => r = .number (.ofInt n)
  | .string s, r => ∃ literal, r = .string literal ∧ literal.text = .ok s
  | .array vs, r => ∃ items, r = .array items ∧ items.Mean vs
  | .object ms, r => ∃ fields, r = .object fields ∧ fields.Mean ms

/-- Items that mean values, one by one. -/
def Items.Mean : Values → Items → Prop
  | .nil, items => items = .closed
  | .cons v vs, items => ∃ item rest, items = .cons item rest ∧ item.Means v ∧ rest.Mean vs

/-- Fields that mean members, one by one. -/
def Fields.Mean : Members → Fields → Prop
  | .nil, fields => fields = .closed
  | .cons k v ms, fields => ∃ key value rest, fields = .cons key value rest ∧
    key.text = .ok k ∧ value.Means v ∧ rest.Mean ms

end

/-- Blanks in front are skipped. -/
lemma skipSpace_append {blanks : List Char} (h : ∀ c ∈ blanks, isSpace c = true)
    (rest : List Char) : skipSpace (blanks ++ rest) = skipSpace rest :=
  List.dropWhile_append_of_pos h

/-- Blanks in front of a value do not matter. -/
lemma readValue_blanks {blanks : List Char} (h : ∀ c ∈ blanks, isSpace c = true) (n : Nat)
    (rest : List Char) : readValue n (blanks ++ rest) = readValue n rest := by
  cases n with
  | zero => simp [readValue]
  | succ n => rw [readValue, readValue, skipSpace_append h]

/-- Blanks in front of fields do not matter. -/
lemma readFields_blanks {blanks : List Char} (h : ∀ c ∈ blanks, isSpace c = true) (n : Nat)
    (rest : List Char) : readFields n (blanks ++ rest) = readFields n rest := by
  cases n with
  | zero => simp [readFields]
  | succ n => rw [readFields, readFields, skipSpace_append h]

/-- A number does not go on at a blank. -/
lemma endsNumber_blanks {blanks rest : List Char} (h : ∀ c ∈ blanks, isSpace c = true)
    (hrest : EndsNumber rest) : EndsNumber (blanks ++ rest) := by
  cases blanks with
  | nil => exact hrest
  | cons b blanks =>
    rintro c hc
    obtain rfl : b = c := by simpa using hc
    have hb := h b (.head _)
    simp only [isSpace, Bool.or_eq_true, beq_iff_eq] at hb
    obtain ((rfl | rfl) | rfl) | rfl := hb <;> decide

/-- A number does not go on at a comma or a closing bracket. -/
lemma endsNumber_cons {c : Char} (h : c = ',' ∨ c = ']' ∨ c = '}') (rest : List Char) :
    EndsNumber (c :: rest) := by
  rintro d hd
  obtain rfl : c = d := by simpa using hd
  obtain rfl | rfl | rfl := h <;> decide

/-- A number does not go on behind an item. -/
lemma Values.endsNumber (layout : Layout) (level : Nat) (vs : Values) (rest : List Char) :
    EndsNumber (vs.charsIn layout level ++ rest) := by
  cases vs with
  | nil =>
    rw [charsIn, List.append_assoc]
    exact endsNumber_blanks (layout.line_blank level) (endsNumber_cons (.inr (.inl rfl)) rest)
  | cons v vs =>
    rw [charsIn, List.cons_append]
    exact endsNumber_cons (.inl rfl) _

/-- A number does not go on behind a member. -/
lemma Members.endsNumber (layout : Layout) (level : Nat) (ms : Members) (rest : List Char) :
    EndsNumber (ms.charsIn layout level ++ rest) := by
  cases ms with
  | nil =>
    rw [charsIn, List.append_assoc]
    exact endsNumber_blanks (layout.line_blank level) (endsNumber_cons (.inr (.inr rfl)) rest)
  | cons k v ms =>
    rw [charsIn, List.cons_append]
    exact endsNumber_cons (.inl rfl) _

/-- A digit is no other sign that a value begins with, and none between values. -/
lemma ne_of_isDigit {d : Char} (hd : d.isDigit = true) : isSpace d = false ∧
    d ∉ ['n', 't', 'f', '-', '"', '[', '{', ']'] := by
  constructor
  · by_contra hspace
    rw [Bool.not_eq_false] at hspace
    simp only [isSpace, Bool.or_eq_true, beq_iff_eq] at hspace
    obtain ((rfl | rfl) | rfl) | rfl := hspace <;> exact absurd hd (by decide)
  · intro hmem
    have hall : ['n', 't', 'f', '-', '"', '[', '{', ']'].all (fun c => !c.isDigit) = true := by
      decide
    have hnot := List.all_eq_true.mp hall d hmem
    rw [hd] at hnot
    exact Bool.false_ne_true hnot

/-- An integer begins with a minus sign or a digit. -/
lemma exists_integer_eq_cons (n : Int) : ∃ c cs, integer n = c :: cs ∧
    isSpace c = false ∧ c ≠ ']' := by
  rw [integer]
  split_ifs
  · exact ⟨_, _, rfl, by decide, by decide⟩
  · cases hdigits : Nat.toDigits 10 n.natAbs with
    | nil => exact absurd hdigits Nat.toDigits_ne_nil
    | cons d ds =>
      have hd : d.isDigit = true :=
        Nat.isDigit_of_mem_toDigits (by decide) (by decide) (hdigits ▸ List.mem_cons_self)
      have hne := ne_of_isDigit hd
      simp only [List.mem_cons, not_or] at hne
      exact ⟨d, ds, rfl, hne.1, by tauto⟩

/-- A value begins with a sign that is neither blank nor a closing bracket. -/
lemma Value.exists_eq_cons (layout : Layout) (level : Nat) (v : Value) :
    ∃ c cs, v.charsIn layout level = c :: cs ∧ isSpace c = false ∧ c ≠ ']' := by
  match v with
  | .null => exact ⟨'n', _, charsIn.eq_1 .., by decide, by decide⟩
  | .bool true => exact ⟨'t', _, charsIn.eq_2 .., by decide, by decide⟩
  | .bool false => exact ⟨'f', _, charsIn.eq_3 .., by decide, by decide⟩
  | .int n =>
    rw [charsIn]
    exact exists_integer_eq_cons n
  | .string s => exact ⟨'"', _, charsIn.eq_5 .., by decide, by decide⟩
  | .array .nil => exact ⟨'[', _, charsIn.eq_6 .., by decide, by decide⟩
  | .array (.cons _ _) => exact ⟨'[', _, charsIn.eq_7 .., by decide, by decide⟩
  | .object .nil => exact ⟨'{', _, charsIn.eq_8 .., by decide, by decide⟩
  | .object (.cons _ _ _) => exact ⟨'{', _, charsIn.eq_9 .., by decide, by decide⟩

/-- An integer is read as it is written. -/
lemma readValue_integer (k : Int) (n : Nat) {rest : List Char} (hrest : EndsNumber rest) :
    readValue (n + 1) (integer k ++ rest) = (.number (.ofInt k), rest) := by
  by_cases hk : k < 0
  · have hminus : isSpace '-' = false := by decide
    rw [integer, if_pos hk, List.cons_append, readValue, skipSpace_cons hminus]
    simp [readNumber_toDigits true k.natAbs hrest, Numeral.ofInt, hk]
  · rw [integer, if_neg hk]
    have hread := readNumber_toDigits false k.natAbs hrest
    cases hdigits : Nat.toDigits 10 k.natAbs with
    | nil => exact absurd hdigits Nat.toDigits_ne_nil
    | cons d ds =>
      have hd : d.isDigit = true :=
        Nat.isDigit_of_mem_toDigits (by decide) (by decide) (hdigits ▸ List.mem_cons_self)
      obtain ⟨hspace, hne⟩ := ne_of_isDigit hd
      simp only [List.mem_cons, not_or] at hne
      rw [hdigits, List.cons_append] at hread
      rw [List.cons_append, readValue, skipSpace_cons hspace]
      simp [hne, hd, hread, Numeral.ofInt, hk, hdigits]

/-- A string is read as a literal that means it. -/
lemma exists_readValue_string (s : String) : ∃ literal : StringLiteral, literal.text = .ok s ∧
    ∀ n rest, readValue (n + 1) (quote s ++ rest) = (.string literal, rest) := by
  obtain ⟨literal, htext, hread⟩ := exists_literal s
  refine ⟨literal, htext, fun n rest => ?_⟩
  have hquote : isSpace '"' = false := by decide
  rw [quote_append, readValue, skipSpace_cons hquote]
  simp [hread]

/-- A member is read, and then what its value leaves. -/
lemma readFields_member {key : StringLiteral} {k : String} {value : Reading} {n : Nat}
    {cs rest : List Char}
    (hkey : ∀ rest, StringLiteral.read (k.toList.flatMap quoteChar ++ '"' :: rest) = (key, rest))
    (hvalue : readValue n cs = (value, rest)) :
    readFields (n + 1) (quote k ++ ':' :: cs) =
      match skipSpace rest with
      | [] => (.cons key value (.broken .truncated), [])
      | ',' :: rest => (.cons key value (readFields n rest).1, (readFields n rest).2)
      | '}' :: rest => (.cons key value .closed, rest)
      | _ => (.cons key value (.broken .malformed), []) := by
  have hquote : isSpace '"' = false := by decide
  have hcolon : isSpace ':' = false := by decide
  rw [quote_append, readFields, skipSpace_cons hquote]
  simp only [hkey, skipSpace_cons hcolon, hvalue]
  -- nothing is left where both sides split the list in the same way already
  all_goals rfl

mutual

/-- A written value is read as a tree that means it, and what follows is left.

**Proof sketch.** Induction on the value. A bracket takes two steps before its first item is read,
and an item one step before the next one; each of them consumes a sign, so that two steps for each
character suffice. -/
theorem exists_readValue (layout : Layout) (level n : Nat) (v : Value) (rest : List Char)
    (hn : 2 * (v.charsIn layout level).length ≤ n) (hrest : EndsNumber rest) :
    ∃ r, readValue n (v.charsIn layout level ++ rest) = (r, rest) ∧ r.Means v := by
  obtain ⟨n, rfl⟩ : ∃ k, n = k + 2 := by
    obtain ⟨c, cs, hcons, -⟩ := v.exists_eq_cons layout level
    rw [hcons, List.length_cons] at hn
    exact ⟨n - 2, by omega⟩
  match v with
  | .null =>
    refine ⟨.null, ?_, by rw [Reading.Means]⟩
    simp [Value.charsIn, readValue, skipSpace, isSpace, readWord]
  | .bool true =>
    refine ⟨.bool true, ?_, by rw [Reading.Means]⟩
    simp [Value.charsIn, readValue, skipSpace, isSpace, readWord]
  | .bool false =>
    refine ⟨.bool false, ?_, by rw [Reading.Means]⟩
    simp [Value.charsIn, readValue, skipSpace, isSpace, readWord]
  | .int k =>
    refine ⟨.number (.ofInt k), ?_, by rw [Reading.Means]⟩
    rw [Value.charsIn, readValue_integer k _ hrest]
  | .string s =>
    obtain ⟨literal, htext, hread⟩ := exists_readValue_string s
    refine ⟨.string literal, ?_, by rw [Reading.Means]; exact ⟨literal, rfl, htext⟩⟩
    rw [Value.charsIn, hread]
  | .array .nil =>
    refine ⟨.array .closed, ?_, by rw [Reading.Means]; exact ⟨_, rfl, by rw [Items.Mean]⟩⟩
    simp [Value.charsIn, readValue, skipSpace, isSpace]
  | .array (.cons v vs) =>
    rw [Value.charsIn, List.length_cons, List.length_append, List.length_append] at hn
    obtain ⟨item, hitem, hmeans⟩ := exists_readValue layout (level + 1) n v
      (vs.charsIn layout level ++ rest) (by omega) (vs.endsNumber layout level rest)
    obtain ⟨items, hitems, hmean⟩ := Values.exists_readItems layout level n vs item _ rest
      (by omega) hitem
    refine ⟨.array (.cons item items), ?_, ?_⟩
    · have hopen : isSpace '[' = false := by decide
      obtain ⟨c, cs, hcons, hspace, hclose⟩ := v.exists_eq_cons layout (level + 1)
      rw [hcons, List.cons_append] at hitems
      rw [Value.charsIn, hcons, List.cons_append, readValue, skipSpace_cons hopen]
      simp [skipSpace_append (layout.line_blank _), skipSpace_cons hspace, hclose, hitems]
    · rw [Reading.Means]
      exact ⟨_, rfl, by rw [Items.Mean]; exact ⟨item, items, rfl, hmeans, hmean⟩⟩
  | .object .nil =>
    refine ⟨.object .closed, ?_, by rw [Reading.Means]; exact ⟨_, rfl, by rw [Fields.Mean]⟩⟩
    simp [Value.charsIn, readValue, skipSpace, isSpace]
  | .object (.cons k v ms) =>
    simp only [Value.charsIn, List.length_cons, List.length_append] at hn
    obtain ⟨value, hvalue, hmeans⟩ := exists_readValue layout (level + 1) n v
      (ms.charsIn layout level ++ rest) (by omega) (ms.endsNumber layout level rest)
    obtain ⟨key, hname, hkey⟩ := exists_literal k
    rw [← readValue_blanks layout.gap_blank] at hvalue
    obtain ⟨fields, hfields, hmean⟩ := Members.exists_readFields layout level n ms hkey
      (by omega) hvalue
    refine ⟨.object (.cons key value fields), ?_, ?_⟩
    · have hopen : isSpace '{' = false := by decide
      have hquote : isSpace '"' = false := by decide
      rw [quote_append] at hfields
      rw [Value.charsIn, List.cons_append, readValue, skipSpace_cons hopen]
      simp [skipSpace_append (layout.line_blank _), skipSpace_cons hquote, quote_append, hfields]
    · rw [Reading.Means]
      exact ⟨_, rfl, by rw [Fields.Mean]; exact ⟨key, value, fields, rfl, hname, hmeans, hmean⟩⟩

/-- The items behind one that has been read mean the values behind it. -/
theorem Values.exists_readItems (layout : Layout) (level n : Nat) (vs : Values) (item : Reading)
    (cs rest : List Char) (hn : 2 * (vs.charsIn layout level).length ≤ n)
    (hitem : readValue n cs = (item, vs.charsIn layout level ++ rest)) :
    ∃ items, readItems (n + 1) cs = (.cons item items, rest) ∧ items.Mean vs := by
  match vs with
  | .nil =>
    have hclose : isSpace ']' = false := by decide
    refine ⟨.closed, ?_, by rw [Items.Mean]⟩
    rw [readItems, hitem]
    simp [Values.charsIn, skipSpace_append (layout.line_blank _), skipSpace_cons hclose]
  | .cons v vs =>
    have hcomma : isSpace ',' = false := by decide
    rw [Values.charsIn, List.length_cons, List.length_append, List.length_append] at hn
    obtain ⟨n, rfl⟩ : ∃ k, n = k + 1 := ⟨n - 1, by omega⟩
    obtain ⟨item', hitem', hmeans⟩ := exists_readValue layout (level + 1) n v
      (vs.charsIn layout level ++ rest) (by omega) (vs.endsNumber layout level rest)
    rw [← readValue_blanks (layout.line_blank (level + 1))] at hitem'
    obtain ⟨items, hitems, hmean⟩ := Values.exists_readItems layout level n vs item' _ rest
      (by omega) hitem'
    refine ⟨.cons item' items, ?_, by rw [Items.Mean]; exact ⟨item', items, rfl, hmeans, hmean⟩⟩
    rw [readItems, hitem]
    simp [Values.charsIn, skipSpace_cons hcomma, hitems]

/-- The fields behind one that has been read mean the members behind it. -/
theorem Members.exists_readFields (layout : Layout) (level n : Nat) (ms : Members)
    {key : StringLiteral} {k : String} {value : Reading} {cs rest : List Char}
    (hkey : ∀ rest, StringLiteral.read (k.toList.flatMap quoteChar ++ '"' :: rest) = (key, rest))
    (hn : 2 * (ms.charsIn layout level).length ≤ n)
    (hvalue : readValue n cs = (value, ms.charsIn layout level ++ rest)) :
    ∃ fields, readFields (n + 1) (quote k ++ ':' :: cs) = (.cons key value fields, rest) ∧
      fields.Mean ms := by
  match ms with
  | .nil =>
    have hclose : isSpace '}' = false := by decide
    refine ⟨.closed, ?_, by rw [Fields.Mean]⟩
    rw [readFields_member hkey hvalue]
    simp [Members.charsIn, skipSpace_append (layout.line_blank _), skipSpace_cons hclose]
  | .cons k' v ms =>
    have hcomma : isSpace ',' = false := by decide
    simp only [Members.charsIn, List.length_cons, List.length_append] at hn
    obtain ⟨n, rfl⟩ : ∃ k, n = k + 1 := ⟨n - 1, by omega⟩
    obtain ⟨value', hvalue', hmeans⟩ := exists_readValue layout (level + 1) n v
      (ms.charsIn layout level ++ rest) (by omega) (ms.endsNumber layout level rest)
    obtain ⟨key', hname, hkey'⟩ := exists_literal k'
    rw [← readValue_blanks layout.gap_blank] at hvalue'
    obtain ⟨fields, hfields, hmean⟩ := Members.exists_readFields layout level n ms hkey'
      (by omega) hvalue'
    rw [← readFields_blanks (layout.line_blank (level + 1))] at hfields
    refine ⟨.cons key' value' fields, ?_, ?_⟩
    · rw [readFields_member hkey hvalue]
      simp [Members.charsIn, skipSpace_cons hcomma, hfields]
    · rw [Fields.Mean]
      exact ⟨key', value', fields, rfl, hname, hmeans, hmean⟩

end

/-! ## Whole texts -/

/-- The text of a value is read as a tree that means it, with nothing behind. -/
theorem exists_ofText (layout : Layout) (v : Value) : ∃ r : Reading,
    Reading.ofText (String.ofList (v.charsIn layout 0)) = (r, []) ∧ r.Means v := by
  obtain ⟨r, hread, hmeans⟩ := exists_readValue layout 0 (2 * (v.charsIn layout 0).length + 2) v []
    (by omega) (by simp [EndsNumber])
  refine ⟨r, ?_, hmeans⟩
  rw [List.append_nil] at hread
  rw [Reading.ofText]
  simp only [String.toList_ofList, hread]
  rfl

end EntityFinder.Json
