import EntityFinder.FullText.Grammar
import EntityFinder.Proofs.Actions

set_option autoImplicit false

/-!
# How queries are read

What a reader of lexemes makes of its text does not depend on what follows, as long as this is
nothing or begins with `AND`, and neither on how many symbols are open before it, unless they are
too many. It passes over whole pairs of parentheses only.

## Main definitions

* `EntityFinder.FullText.hasOpenOr`: whether an `OR` stands outside parentheses.
* `EntityFinder.FullText.Took`: what a reader has left of its lexemes.
* `EntityFinder.FullText.IsDue`: the faults that a layout accounts for.
* `EntityFinder.FullText.Reads`: how an answer compares with that for more lexemes.

## Main results

* `EntityFinder.FullText.Reads.bind`: one reader after another.
* `EntityFinder.FullText.reads_columns`, `EntityFinder.FullText.reads_cluster`,
  `EntityFinder.FullText.reads_moreClusters`: columns, phrases and clusters.
-/

namespace EntityFinder.FullText

/-! ## Lexemes that are passed over -/

/-- Whether an `OR` stands outside parentheses, if some number of these are open. -/
def hasOpenOr : Nat → List Lexeme → Bool
  | _, [] => false
  | n, .sign .opening :: rest => hasOpenOr (n + 1) rest
  | n, .sign .closing :: rest => hasOpenOr (n - 1) rest
  | n, .sign .or :: rest => n == 0 || hasOpenOr n rest
  | n, _ :: rest => hasOpenOr n rest

/-- A lexeme is neither a parenthesis nor a fault. -/
def Lexeme.IsPlain : Lexeme → Prop
  | .word _ => True
  | .sign s => s ≠ .opening ∧ s ≠ .closing
  | .bad _ => False

/-- A plain lexeme leaves the number of open parentheses as it is. -/
lemma hasOpenOr_of_cons {l : Lexeme} (hl : l.IsPlain) {n : Nat} {rest : List Lexeme}
    (h : hasOpenOr n (l :: rest) = false) : hasOpenOr n rest = false := by
  cases l with
  | word w => exact h
  | bad f => exact hl.elim
  | sign s =>
    cases s
    case opening => exact absurd rfl hl.1
    case closing => exact absurd rfl hl.2
    case or => exact (Bool.or_eq_false_iff.mp h).2
    all_goals exact h

/-- Lexemes without a fault that open and close the same parentheses. -/
structure Passed (passed : List Lexeme) : Prop where
  /-- None of them is a fault. -/
  good : ∀ f, Lexeme.bad f ∉ passed
  /-- If there is no open `OR` among them and what follows, there is none in what follows. -/
  balanced : ∀ n rest, hasOpenOr n (passed ++ rest) = false → hasOpenOr n rest = false

/-- A reader has passed over some lexemes and left the rest. -/
def Took (ls rest : List Lexeme) : Prop :=
  ∃ passed, Passed passed ∧ ls = passed ++ rest

namespace Took

variable {ls rest rest' : List Lexeme}

/-- Nothing has been passed over. -/
lemma refl (ls : List Lexeme) : Took ls ls :=
  ⟨[], ⟨by simp, fun _ _ h => h⟩, rfl⟩

/-- Passing over lexemes twice. -/
lemma trans (h : Took ls rest) (h' : Took rest rest') : Took ls rest' := by
  obtain ⟨a, ha, rfl⟩ := h
  obtain ⟨b, hb, rfl⟩ := h'
  refine ⟨a ++ b, ⟨fun f hf => ?_, fun n more hmore => ?_⟩, by simp⟩
  · rcases List.mem_append.mp hf with hf | hf
    · exact ha.good f hf
    · exact hb.good f hf
  · rw [List.append_assoc] at hmore
    exact hb.balanced n more (ha.balanced n _ hmore)

/-- A plain lexeme has been passed over as well. -/
lemma cons {l : Lexeme} (hl : l.IsPlain) (h : Took ls rest) : Took (l :: ls) rest := by
  refine .trans ⟨[l], ⟨fun f hf => ?_, fun n more hmore => hasOpenOr_of_cons hl hmore⟩, rfl⟩ h
  rw [← List.mem_singleton.mp hf] at hl
  exact hl

/-- A pair of parentheses has been passed over with what they enclose. -/
lemma enclosed (h : Took ls (.sign .closing :: rest)) : Took (.sign .opening :: ls) rest := by
  obtain ⟨a, ha, rfl⟩ := h
  refine ⟨.sign .opening :: (a ++ [.sign .closing]), ⟨fun f hf => ?_, fun n more hmore => ?_⟩,
    by simp⟩
  · simp only [List.mem_cons, reduceCtorEq, List.mem_append, List.not_mem_nil, or_false,
      false_or] at hf
    exact ha.good f hf
  · simp only [List.cons_append, List.append_assoc, List.nil_append, hasOpenOr] at hmore
    simpa [hasOpenOr] using ha.balanced (n + 1) _ hmore

/-- There are no more lexemes left than there were. -/
lemma length_le (h : Took ls rest) : rest.length ≤ ls.length := by
  obtain ⟨a, _, rfl⟩ := h
  simp

/-- What is left was there before. -/
lemma mem (h : Took ls rest) {l : Lexeme} (hl : l ∈ rest) : l ∈ ls := by
  obtain ⟨a, _, rfl⟩ := h
  exact List.mem_append_right _ hl

end Took

/-! ## Refusals -/

section

variable {α β : Type} {ls : List Lexeme}

/-- A refusal is the answer, whatever was to follow. -/
lemma refuse_bind (f : α → Except QueryFault β) :
    (refuse ls : Except QueryFault α) >>= f = refuse ls := by
  cases ls with
  | nil => rfl
  | cons l rest => cases l <;> rfl

/-- A refusal finds nothing. -/
lemma refuse_ne_ok (x : α) : refuse ls ≠ .ok x := by
  cases ls with
  | nil => rintro ⟨⟩
  | cons l rest => cases l <;> rintro ⟨⟩

/-- A sign that has to come next does so, or what comes next is refused. -/
lemma expect_cases (s : Sign) (ls : List Lexeme) :
    (∃ rest, ls = .sign s :: rest) ∨ expect s ls = refuse ls := by
  cases ls with
  | nil => exact .inr rfl
  | cons l rest =>
    cases l with
    | word w => exact .inr rfl
    | bad f => exact .inr rfl
    | sign s' =>
      by_cases hs : s' = s
      · exact .inl ⟨rest, by rw [hs]⟩
      · exact .inr (if_neg hs)

/-- What follows a sign that comes next. -/
lemma expect_cons (s : Sign) (ls : List Lexeme) : expect s (.sign s :: ls) = .ok ls :=
  if_pos rfl

end

/-! ## Answers of readers -/

/-- What may follow without being read: nothing, or something that begins with `AND`. -/
def IsTail (tail : List Lexeme) : Prop :=
  tail = [] ∨ ∃ more, tail = .sign .and :: more

/-- A layout accounts for a fault: a column that is missed is none of its columns. -/
def IsDue (layout : Layout) (f : QueryFault) : Prop :=
  ∀ name, f = .noSuchColumn name → layout.column? name = none

/-- A layout accounts for a refusal if it accounts for the faults among the lexemes. -/
lemma refuse_due {α : Type} {layout : Layout} {ls : List Lexeme} {f : QueryFault}
    (h : (refuse ls : Except QueryFault α) = .error f) (hls : ∀ g, .bad g ∈ ls → IsDue layout g) :
    IsDue layout f := by
  have hunexpected : ∀ text, IsDue layout (.unexpected text) := fun text name h => by cases h
  cases ls with
  | nil =>
    cases h
    exact hunexpected _
  | cons l rest =>
    cases l with
    | bad g =>
      cases h
      exact hls _ (.head _)
    | word w =>
      cases h
      exact hunexpected _
    | sign s =>
      cases h
      exact hunexpected _

/-- How the answer `r` of a reader for some lexemes compares with its answer `r'` for more, with
other symbols open before it. If more of these are open then `deeper` holds. Where nothing is left,
the answers agree if `ends` holds. -/
structure Reads (layout : Layout) (tail : List Lexeme) (deeper ends : Prop) {α : Type}
    (ls : List Lexeme) (r r' : Except QueryFault (α × List Lexeme)) : Prop where
  /-- The reader passes over lexemes. -/
  took : ∀ x rest, r = .ok (x, rest) → Took ls rest
  /-- What it finds is found among more lexemes as well, unless too many symbols are open. -/
  same : ∀ x rest, r = .ok (x, rest) → (rest = [] → ends) →
    r' = .ok (x, rest ++ tail) ∨ r' = .error .tooNested ∧ deeper
  /-- The layout accounts for its faults. -/
  due : ∀ f, r = .error f → (∀ g, .bad g ∈ ls → IsDue layout g) → IsDue layout f

section

variable {layout : Layout} {tail : List Lexeme} {deeper ends : Prop}
variable {α β : Type} {ls : List Lexeme} {r r' : Except QueryFault (α × List Lexeme)}

namespace Reads

/-- An answer that nothing was read for. -/
lemma pure (x : α) : Reads layout tail deeper ends ls (.ok (x, ls)) (.ok (x, ls ++ tail)) where
  took := by
    rintro _ _ ⟨⟩
    exact .refl ls
  same := by
    rintro _ _ ⟨⟩ _
    exact .inl rfl
  due := by rintro _ ⟨⟩

/-- A fault that the layout accounts for. -/
lemma error {f : QueryFault} (hf : IsDue layout f) :
    Reads layout tail deeper ends ls (.error f) r' where
  took := by rintro _ _ ⟨⟩
  same := by rintro _ _ ⟨⟩
  due := by
    rintro _ ⟨⟩ _
    exact hf

/-- What comes next is refused. -/
lemma refuse : Reads layout tail deeper ends ls (FullText.refuse ls) r' where
  took _ _ h := (refuse_ne_ok _ h).elim
  same _ _ h := (refuse_ne_ok _ h).elim
  due _ := refuse_due

/-- A plain lexeme was read before. -/
lemma cons {l : Lexeme} (hl : l.IsPlain) (h : Reads layout tail deeper ends ls r r') :
    Reads layout tail deeper ends (l :: ls) r r' where
  took x rest hr := (h.took x rest hr).cons hl
  same := h.same
  due f hf hdue := h.due f hf fun g hg => hdue g (.tail _ hg)

/-- One reader after another. -/
lemma bind {f f' : α × List Lexeme → Except QueryFault (β × List Lexeme)}
    (h : Reads layout tail deeper ends ls r r')
    (hf : ∀ x rest, r = .ok (x, rest) →
      Reads layout tail deeper ends rest (f (x, rest)) (f' (x, rest ++ tail))) :
    Reads layout tail deeper ends ls (r >>= f) (r' >>= f') := by
  cases r with
  | error e =>
    exact ⟨by rintro _ _ ⟨⟩, by rintro _ _ ⟨⟩, fun g hg => by cases hg; exact h.due e rfl⟩
  | ok a =>
    obtain ⟨x, rest⟩ := a
    have htook := h.took x rest rfl
    have hnext := hf x rest rfl
    refine ⟨fun y rest' hy => htook.trans (hnext.took y rest' hy), fun y rest' hy hends => ?_,
      fun g hg hdue => hnext.due g hg fun b hb => hdue b (htook.mem hb)⟩
    have hempty : rest = [] → ends := by
      rintro rfl
      exact hends (List.eq_nil_of_length_eq_zero
        (Nat.le_zero.mp (hnext.took y rest' hy).length_le))
    rcases h.same x rest rfl hempty with hr' | ⟨hr', hdeeper⟩
    · rw [hr']
      exact hnext.same y rest' hy hends
    · rw [hr']
      exact .inr ⟨rfl, hdeeper⟩

/-- A step that reads nothing. -/
lemma lift {x : Except QueryFault β} {f f' : β → Except QueryFault (α × List Lexeme)}
    (hx : ∀ g, x = .error g → IsDue layout g)
    (hf : ∀ a, x = .ok a → Reads layout tail deeper ends ls (f a) (f' a)) :
    Reads layout tail deeper ends ls (x >>= f) (x >>= f') := by
  cases x with
  | error g => exact .error (hx g rfl)
  | ok a => exact hf a rfl

/-- Symbols are opened. -/
lemma allow {n n' : Nat} (hdeeper : n < n' → deeper) (h : Reads layout tail deeper ends ls r r') :
    Reads layout tail deeper ends ls (FullText.allow n >>= fun _ => r)
      (FullText.allow n' >>= fun _ => r') := by
  unfold FullText.allow
  by_cases hn : n ≤ symbolLimit
  · rw [if_pos hn]
    by_cases hn' : n' ≤ symbolLimit
    · rw [if_pos hn']
      exact h
    · rw [if_neg hn']
      exact ⟨h.took, fun x rest _ _ => .inr ⟨rfl, hdeeper (by omega)⟩, h.due⟩
  · rw [if_neg hn]
    exact .error fun _ h => by cases h

/-- A look at what comes next. -/
lemma checkNext (htail : IsTail tail) (h : Reads layout tail deeper ends ls r r') :
    Reads layout tail deeper ends ls (FullText.checkNext ls >>= fun _ => r)
      (FullText.checkNext (ls ++ tail) >>= fun _ => r') := by
  cases ls with
  | nil =>
    obtain rfl | ⟨more, rfl⟩ := htail <;> exact h
  | cons l rest =>
    cases l with
    | word w => exact h
    | sign s => exact h
    | bad f =>
      refine ⟨by rintro _ _ ⟨⟩, by rintro _ _ ⟨⟩, ?_⟩
      rintro _ ⟨⟩ hdue
      exact hdue f (.head _)

/-- A plain sign that has to come next. -/
lemma expect {s : Sign} (hs : (Lexeme.sign s).IsPlain)
    {f f' : List Lexeme → Except QueryFault (α × List Lexeme)}
    (hf : ∀ rest, ls = .sign s :: rest →
      Reads layout tail deeper ends rest (f rest) (f' (rest ++ tail))) :
    Reads layout tail deeper ends ls (FullText.expect s ls >>= f)
      (FullText.expect s (ls ++ tail) >>= f') := by
  obtain ⟨rest, rfl⟩ | hrefused := expect_cases s ls
  · rw [List.cons_append, expect_cons, expect_cons]
    exact .cons hs (hf rest rfl)
  · rw [hrefused, refuse_bind]
    exact .refuse

/-- What stands in parentheses, and what is read behind them. -/
lemma enclosed {inside : Prop} {f f' : α → Reader β} (h : Reads layout tail deeper inside ls r r')
    (hf : ∀ x rest, r = .ok (x, .sign .closing :: rest) →
      Reads layout tail deeper ends rest (f x rest) (f' x (rest ++ tail))) :
    Reads layout tail deeper ends (.sign .opening :: ls)
      (r >>= fun p => FullText.expect .closing p.2 >>= f p.1)
      (r' >>= fun p => FullText.expect .closing p.2 >>= f' p.1) := by
  cases r with
  | error e =>
    refine ⟨by rintro _ _ ⟨⟩, by rintro _ _ ⟨⟩, ?_⟩
    rintro _ ⟨⟩ hdue
    exact h.due e rfl fun b hb => hdue b (.tail _ hb)
  | ok a =>
    obtain ⟨x, rest⟩ := a
    have htook := h.took x rest rfl
    change Reads layout tail deeper ends _ (FullText.expect .closing rest >>= f x) _
    obtain ⟨rest, rfl⟩ | hrefused := expect_cases .closing rest
    · rw [expect_cons]
      have hnext := hf x rest rfl
      refine ⟨fun y rest' hy => htook.enclosed.trans (hnext.took y rest' hy),
        fun y rest' hy hends => ?_, fun g hg hdue => hnext.due g hg fun b hb =>
          hdue b (.tail _ (htook.mem (.tail _ hb)))⟩
      rcases h.same x _ rfl (fun h => by cases h) with hr' | ⟨hr', hdeeper⟩
      · rw [hr']
        exact hnext.same y rest' hy hends
      · rw [hr']
        exact .inr ⟨rfl, hdeeper⟩
    · rw [hrefused, refuse_bind]
      exact ⟨fun y _ hy => (refuse_ne_ok _ hy).elim, fun y _ hy => (refuse_ne_ok _ hy).elim,
        fun g hg hdue => refuse_due hg fun b hb => hdue b (.tail _ (htook.mem hb))⟩

end Reads

/-! ## Columns -/

/-- A column is missed only if the layout does not have it. -/
lemma columnOf_due {w : Word} {f : QueryFault} (h : columnOf layout w = .error f) :
    IsDue layout f := by
  unfold columnOf at h
  simp only at h
  split at h
  · cases h
  · next hc =>
    cases h
    rintro _ ⟨⟩
    exact hc

section

variable {before before' : Nat} (htail : IsTail tail) (hdeeper : before < before' → deeper)

include htail hdeeper

/-- Columns up to a closing brace. -/
lemma reads_columnList (ls : List Lexeme) (found : List Nat) :
    Reads layout tail deeper ends ls (readColumnList layout before found ls)
      (readColumnList layout before' found (ls ++ tail)) := by
  induction ls generalizing found with
  | nil => exact .refuse
  | cons l rest ih =>
    cases l with
    | bad f => exact .refuse
    | word w =>
      unfold readColumnList
      refine .cons trivial (.allow (fun h => hdeeper (by omega)) (.checkNext htail ?_))
      exact .lift (fun g hg => columnOf_due hg) fun c hc => ih (found ++ [c])
    | sign s =>
      cases s
      case closingBrace =>
        by_cases hfound : found.isEmpty = true
        · simp only [readColumnList, hfound, if_true]
          exact .refuse
        · simp only [List.cons_append, readColumnList, hfound]
          exact .cons ⟨by simp, by simp⟩ (.allow (fun h => hdeeper (by omega)) (.pure found))
      all_goals exact .refuse

/-- Columns with the colon behind them. -/
lemma reads_columns (ls : List Lexeme) :
    Reads layout tail deeper ends ls (readColumns layout before ls)
      (readColumns layout before' (ls ++ tail)) := by
  have hcolon : ∀ {more : List Lexeme} (columns : List Nat), Reads layout tail deeper ends more
      (expect .colon more >>= fun rest => .ok (some columns, rest))
      (expect .colon (more ++ tail) >>= fun rest => .ok (some columns, rest)) :=
    fun columns => .expect ⟨by simp, by simp⟩ fun rest _ => .pure (some columns)
  cases ls with
  | nil =>
    obtain rfl | ⟨more, rfl⟩ := htail <;> exact .pure none
  | cons l rest =>
    cases l with
    | bad f => exact .pure none
    | word w =>
      cases rest with
      | nil =>
        obtain rfl | ⟨more, rfl⟩ := htail <;> exact .pure none
      | cons l rest =>
        cases l with
        | word w => exact .pure none
        | bad f => exact .pure none
        | sign s =>
          cases s
          case colon =>
            refine .cons trivial (.cons ⟨by simp, by simp⟩ (.allow (fun h => hdeeper (by omega)) ?_))
            refine .lift (fun g hg => columnOf_due hg) fun c hc => ?_
            exact .allow (fun h => hdeeper (by omega)) (.pure (some [c]))
          all_goals exact .pure none
    | sign s =>
      cases s
      case openingBrace =>
        refine .cons ⟨by simp, by simp⟩ (.allow (fun h => hdeeper (by omega)) (.bind
          (reads_columnList htail (fun h => hdeeper (by omega)) rest []) fun columns more _ => ?_))
        exact hcolon columns
      -- columns that are left out; what else stands behind the sign is refused with a tail as well
      case minus =>
        refine .cons ⟨by simp, by simp⟩ ?_
        cases rest with
        | nil =>
          obtain rfl | ⟨more, rfl⟩ := htail <;> exact .allow (fun h => hdeeper (by omega)) .refuse
        | cons l rest =>
          cases l with
          | bad f => exact .allow (fun h => hdeeper (by omega)) .refuse
          | word w =>
            refine .cons trivial (.allow (fun h => hdeeper (by omega)) (.checkNext htail ?_))
            exact .lift (fun g hg => columnOf_due hg) fun c hc => hcolon _
          | sign s =>
            cases s
            case openingBrace =>
              refine .cons ⟨by simp, by simp⟩ (.allow (fun h => hdeeper (by omega)) (.bind
                (reads_columnList htail (fun h => hdeeper (by omega)) rest [])
                fun columns more _ => ?_))
              exact hcolon _
            all_goals exact .allow (fun h => hdeeper (by omega)) .refuse
      all_goals exact .pure none

end

/-! ## Phrases -/

/-- Reads what follows a word of a phrase, told whether there is an asterisk between. -/
def behindWord (before : Nat) (next : Bool → Reader α) : Reader α
  | .sign .star :: rest => do
    allow (before + 2)
    next true rest
  | rest => do
    allow (before + 1)
    checkNext rest
    allow (before + 2)
    next false rest

/-- A phrase is read like this from behind its first word. -/
lemma readPhrase_eq (before : Nat) (w : Word) (ls : List Lexeme) :
    readPhrase layout before w ls = behindWord before (fun star =>
      readMoreWords layout before (Phrase.empty.addWord layout.tokenizer w star)) ls := by
  cases ls with
  | nil => rfl
  | cons l rest =>
    cases l with
    | word w => rfl
    | bad f => rfl
    | sign s => cases s <;> rfl

/-- A word that is joined to those before it is read like this. -/
lemma readMoreWords_plus (before : Nat) (p : Phrase) (w : Word) (ls : List Lexeme) :
    readMoreWords layout before p (.sign .plus :: .word w :: ls) = behindWord (before + 2)
      (fun star => readMoreWords layout before (p.addWord layout.tokenizer w star)) ls := by
  conv_lhs => unfold readMoreWords
  cases ls with
  | nil => rfl
  | cons l rest =>
    cases l with
    | word w => rfl
    | bad f => rfl
    | sign s => cases s <;> rfl

/-- Reads what stands in the parentheses of a group. -/
def readInGroup (layout : Layout) (before : Nat) : Reader (List Phrase × Option Word) := fun ls => do
  allow (before + 2)
  let (phrases, rest) ← readPhrases layout (before + 2) 1 ls.length ls
  let (distance, rest) ← readDistance (before + 3) rest
  .ok ((phrases, distance), rest)

/-- Reads nothing behind a group, but looks at what comes next and at the group itself. -/
def behindGroup (layout : Layout) (before : Nat) (w : Word) (group : List Phrase × Option Word) :
    Reader Cluster := fun rest => do
  allow (before + 5)
  checkNext rest
  if w ≠ nearWord then .error (.unexpected (String.ofList w.written))
  else do
    let distance ← distanceOf group.2
    .ok (.ofPhrases group.1 distance layout.allColumns, rest)

/-- A group is read like this from behind its opening parenthesis. -/
lemma readGroup_eq (before : Nat) (w : Word) (ls : List Lexeme) :
    readGroup layout before w ls = (readInGroup layout before ls >>= fun p =>
      expect .closing p.2 >>= behindGroup layout before w p.1) := by
  unfold readGroup readInGroup
  cases allow (before + 2) with
  | error e => rfl
  | ok _ =>
    cases hphrases : readPhrases layout (before + 2) 1 ls.length ls with
    | error e => simp only [bind, Except.bind]
    | ok p =>
      cases hdistance : readDistance (before + 3) p.2 with
      | error e => simp only [bind, Except.bind, hdistance]
      | ok q =>
        simp only [bind, Except.bind, hdistance]
        rfl

section

variable {before before' : Nat} (htail : IsTail tail) (hdeeper : before < before' → deeper)

include htail hdeeper

/-- What follows a word. -/
lemma reads_behindWord {next next' : Bool → Reader α}
    (h : ∀ star more, more.length ≤ ls.length →
      Reads layout tail deeper ends more (next star more) (next' star (more ++ tail))) :
    Reads layout tail deeper ends ls (behindWord before next ls)
      (behindWord before' next' (ls ++ tail)) := by
  have hone : before + 1 < before' + 1 → deeper := fun h => hdeeper (by omega)
  have htwo : before + 2 < before' + 2 → deeper := fun h => hdeeper (by omega)
  have hnone := Reads.allow hone (.checkNext htail (.allow htwo (h false ls le_rfl)))
  cases ls with
  | nil =>
    obtain rfl | ⟨more, rfl⟩ := htail <;> exact hnone
  | cons l rest =>
    cases l with
    | word w => exact hnone
    | bad f => exact hnone
    | sign s =>
      cases s
      case star =>
        refine .cons ⟨by simp, by simp⟩ (.allow (fun h => hdeeper (by omega)) ?_)
        exact h true rest (Nat.le_succ _)
      all_goals exact hnone

/-- The words of a phrase that are joined to those before them. -/
lemma reads_moreWords (ls : List Lexeme) (p : Phrase) :
    Reads layout tail deeper ends ls (readMoreWords layout before p ls)
      (readMoreWords layout before' p (ls ++ tail)) := by
  have hplus : (Lexeme.sign .plus).IsPlain := ⟨by simp, by simp⟩
  induction hn : ls.length using Nat.strong_induction_on generalizing ls p with
  | _ n ih =>
  subst hn
  cases ls with
  | nil =>
    obtain rfl | ⟨more, rfl⟩ := htail <;> exact .pure p
  | cons l rest =>
    cases l with
    | bad f => exact .pure p
    | word w => exact .pure p
    | sign s =>
      cases s
      case plus =>
        refine .cons hplus ?_
        cases rest with
        | nil =>
          obtain rfl | ⟨more, rfl⟩ := htail <;> exact .allow (fun h => hdeeper (by omega)) .refuse
        | cons l rest =>
          cases l with
          | bad f => exact .allow (fun h => hdeeper (by omega)) .refuse
          | sign s => exact .allow (fun h => hdeeper (by omega)) .refuse
          | word w =>
            simp only [List.cons_append, readMoreWords_plus]
            refine .cons trivial (reads_behindWord htail (fun h => hdeeper (by omega))
              fun star more hmore => ?_)
            exact ih more.length (by simp only [List.length_cons]; omega) more _ rfl
      all_goals exact .pure p

/-- A phrase. -/
lemma reads_phrase (ls : List Lexeme) (w : Word) :
    Reads layout tail deeper ends ls (readPhrase layout before w ls)
      (readPhrase layout before' w (ls ++ tail)) := by
  simp only [readPhrase_eq]
  exact reads_behindWord htail hdeeper fun star more _ => reads_moreWords htail hdeeper more _

omit htail hdeeper in
/-- No more phrases. -/
lemma reads_noPhrase {r : Except QueryFault (List Phrase × List Lexeme)} (least : Nat)
    (hr : least = 0 → r = .ok ([], ls ++ tail)) :
    Reads layout tail deeper ends ls (if least = 0 then .ok ([], ls) else refuse ls) r := by
  by_cases hleast : least = 0
  · rw [if_pos hleast, hr hleast]
    exact .pure []
  · rw [if_neg hleast]
    exact .refuse

omit hdeeper in
/-- Phrases in a row, each of them behind an open part. -/
lemma reads_phrases {n n' steps steps' : Nat} (least : Nat) (hn : n < n' → deeper)
    (hsteps : ls.length ≤ steps) (hsteps' : ls.length ≤ steps') :
    Reads layout tail deeper ends ls (readPhrases layout n least steps ls)
      (readPhrases layout n' least steps' (ls ++ tail)) := by
  induction steps generalizing ls n n' steps' least with
  | zero =>
    obtain rfl := List.length_eq_zero_iff.mp (Nat.le_zero.mp hsteps)
    refine reads_noPhrase least fun hleast => ?_
    obtain rfl | ⟨more, rfl⟩ := htail <;> cases steps' <;> exact if_pos hleast
  | succ steps ih =>
    cases ls with
    | nil =>
      refine reads_noPhrase least fun hleast => ?_
      obtain rfl | ⟨more, rfl⟩ := htail <;> cases steps' <;> exact if_pos hleast
    | cons l rest =>
      cases l with
      | bad f => exact reads_noPhrase least fun hleast => by cases steps' <;> exact if_pos hleast
      | sign s => exact reads_noPhrase least fun hleast => by cases steps' <;> exact if_pos hleast
      | word w =>
        cases steps' with
        | zero => simp at hsteps'
        | succ steps' =>
          simp only [List.length_cons, Nat.add_le_add_iff_right] at hsteps hsteps'
          have hphrase := @reads_phrase layout _ _ ends _ _ htail hn rest w
          refine .cons trivial (.bind hphrase fun p more hp => ?_)
          have hmore := (hphrase.took p more hp).length_le
          exact .bind (ih (least - 1) (fun h => hn (by omega)) (by omega) (by omega))
            fun ps rest _ => .pure (p :: ps)

omit htail hdeeper in
/-- What is no distance is no column that is missed either. -/
lemma distanceOf_due {w : Option Word} {f : QueryFault} (h : distanceOf w = .error f) :
    IsDue layout f := by
  unfold distanceOf at h
  split at h
  · cases h
  · split_ifs at h
    cases h
    exact fun _ h => by cases h

/-- The distance between phrases. -/
lemma reads_distance (ls : List Lexeme) :
    Reads layout tail deeper ends ls (readDistance before ls)
      (readDistance before' (ls ++ tail)) := by
  have hone : before + 1 < before' + 1 → deeper := fun h => hdeeper (by omega)
  have hnone := @Reads.checkNext layout _ _ ends _ ls _ _ htail
    (.allow hone (.pure (none : Option Word)))
  cases ls with
  | nil =>
    obtain rfl | ⟨more, rfl⟩ := htail <;> exact hnone
  | cons l rest =>
    cases l with
    | word w => exact hnone
    | bad f => exact hnone
    | sign s =>
      cases s
      case comma =>
        refine .cons ⟨by simp, by simp⟩ ?_
        cases rest with
        | nil =>
          obtain rfl | ⟨more, rfl⟩ := htail <;> exact .allow (fun h => hdeeper (by omega)) .refuse
        | cons l rest =>
          cases l with
          | bad f => exact .allow (fun h => hdeeper (by omega)) .refuse
          | sign s => exact .allow (fun h => hdeeper (by omega)) .refuse
          | word w => exact .cons trivial (.allow (fun h => hdeeper (by omega)) (.pure (some w)))
      all_goals exact hnone

/-- What stands in the parentheses of a group. -/
lemma reads_inGroup (ls : List Lexeme) :
    Reads layout tail deeper ends ls (readInGroup layout before ls)
      (readInGroup layout before' (ls ++ tail)) := by
  refine .allow (fun h => hdeeper (by omega)) (.bind (reads_phrases htail 1
    (fun h => hdeeper (by omega)) le_rfl (by simp)) fun phrases rest _ => ?_)
  exact .bind (reads_distance htail (fun h => hdeeper (by omega)) rest) fun distance rest _ =>
    .pure (phrases, distance)

/-- Phrases in parentheses. -/
lemma reads_group (ls : List Lexeme) (w : Word) :
    Reads layout tail deeper ends (.sign .opening :: ls) (readGroup layout before w ls)
      (readGroup layout before' w (ls ++ tail)) := by
  simp only [readGroup_eq]
  refine (@reads_inGroup _ _ _ True _ _ htail hdeeper ls).enclosed fun p rest _ => ?_
  refine .allow (fun h => hdeeper (by omega)) (.checkNext htail ?_)
  by_cases hw : w ≠ nearWord
  · rw [if_pos hw, if_pos hw]
    exact .error fun _ h => by cases h
  · rw [if_neg hw, if_neg hw]
    exact .lift (fun g hg => distanceOf_due hg) fun distance _ => .pure _

/-! ## Clusters -/

/-- A cluster. -/
lemma reads_cluster (ls : List Lexeme) :
    Reads layout tail deeper ends ls (readCluster layout before ls)
      (readCluster layout before' (ls ++ tail)) := by
  cases ls with
  | nil => exact .refuse
  | cons l rest =>
    cases l with
    | bad f => exact .refuse
    | word w =>
      have hphrase : Reads layout tail deeper ends (.word w :: rest)
          (readPhrase layout before w rest >>= fun p =>
            .ok (Cluster.single p.1 layout.allColumns, p.2))
          (readPhrase layout before' w (rest ++ tail) >>= fun p =>
            .ok (Cluster.single p.1 layout.allColumns, p.2)) :=
        .cons trivial (.bind (reads_phrase htail hdeeper rest w) fun p rest _ => .pure _)
      cases rest with
      | nil =>
        obtain rfl | ⟨more, rfl⟩ := htail <;> exact hphrase
      | cons l rest =>
        cases l with
        | word w => exact hphrase
        | bad f => exact hphrase
        | sign s =>
          cases s
          case opening => exact .cons trivial (reads_group htail hdeeper rest w)
          all_goals exact hphrase
    | sign s =>
      cases s
      case caret =>
        refine .cons ⟨by simp, by simp⟩ ?_
        cases rest with
        | nil =>
          obtain rfl | ⟨more, rfl⟩ := htail <;> exact .allow (fun h => hdeeper (by omega)) .refuse
        | cons l rest =>
          cases l with
          | bad f => exact .allow (fun h => hdeeper (by omega)) .refuse
          | sign s => exact .allow (fun h => hdeeper (by omega)) .refuse
          | word w =>
            exact .cons trivial (.bind (reads_phrase htail (fun h => hdeeper (by omega)) rest w)
              fun p rest _ => .pure _)
      all_goals exact .refuse

/-- A cluster that is confined to columns if any are named. -/
lemma reads_clusterIn (ls : List Lexeme) (columns? : Option (List Nat)) :
    Reads layout tail deeper ends ls (readClusterIn layout before columns? ls)
      (readClusterIn layout before' columns? (ls ++ tail)) := by
  cases columns? with
  | none => exact reads_cluster htail hdeeper ls
  | some columns =>
    exact .bind (reads_cluster htail (fun h => hdeeper (by omega)) ls) fun c rest _ => .pure _

omit htail hdeeper in
/-- A cluster takes something. -/
lemma length_lt_of_readCluster {c : Cluster} {rest : List Lexeme}
    (h : readCluster layout before ls = .ok (c, rest)) : rest.length < ls.length := by
  have hphrase : ∀ {n : Nat} {w : Word} {ls : List Lexeme} {f : Phrase → Cluster},
      (readPhrase layout n w ls >>= fun p => .ok (f p.1, p.2)) = .ok (c, rest) →
      rest.length ≤ ls.length := by
    intro n w ls f h
    obtain ⟨p, hp, h⟩ := bind_eq_ok.mp h
    cases h
    exact ((@reads_phrase _ _ _ True _ n (.inl rfl) id ls w).took p.1 p.2 hp).length_le
  unfold readCluster at h
  split at h
  · exact Nat.lt_succ_of_lt (Nat.lt_succ_of_le
      (hphrase (f := fun p => .single p.fromStart layout.allColumns) h))
  · obtain ⟨_, _, h⟩ := bind_eq_ok.mp h
    exact (refuse_ne_ok _ h).elim
  · next w more =>
    exact Nat.lt_succ_of_le
      ((@reads_group _ _ _ True _ before (.inl rfl) id more w).took c rest h).length_le
  · exact Nat.lt_succ_of_le (hphrase (f := fun p => .single p layout.allColumns) h)
  · exact (refuse_ne_ok _ h).elim

omit htail hdeeper in
/-- A cluster that may be confined to columns takes something. -/
lemma length_lt_of_readClusterIn {columns? : Option (List Nat)} {c : Cluster} {rest : List Lexeme}
    (h : readClusterIn layout before columns? ls = .ok (c, rest)) : rest.length < ls.length := by
  cases columns? with
  | none => exact length_lt_of_readCluster h
  | some columns =>
    obtain ⟨_, hp, h⟩ := bind_eq_ok.mp h
    cases h
    exact length_lt_of_readCluster hp

omit hdeeper in
/-- What follows without being read begins no cluster. -/
lemma beginsCluster_append (ls : List Lexeme) : beginsCluster (ls ++ tail) = beginsCluster ls := by
  cases ls with
  | nil =>
    obtain rfl | ⟨more, rfl⟩ := htail <;> rfl
  | cons l rest =>
    cases l with
    | word w => rfl
    | bad f => rfl
    | sign s => cases s <;> rfl

omit htail hdeeper in
/-- Where no cluster begins, no more clusters are read. -/
lemma readMoreClusters_none {steps : Nat} (h : beginsCluster ls = false) :
    readMoreClusters layout before steps ls = .ok ([], ls) := by
  cases steps with
  | zero => rfl
  | succ steps => exact if_neg (by rw [h]; exact Bool.false_ne_true)

/-- Clusters that follow another one, as long as there are lexemes. -/
lemma reads_moreClusters {steps steps' : Nat} (hsteps : ls.length ≤ steps)
    (hsteps' : ls.length ≤ steps') :
    Reads layout tail deeper ends ls (readMoreClusters layout before steps ls)
      (readMoreClusters layout before' steps' (ls ++ tail)) := by
  induction steps generalizing ls steps' with
  | zero =>
    obtain rfl := List.length_eq_zero_iff.mp (Nat.le_zero.mp hsteps)
    rw [readMoreClusters_none rfl, readMoreClusters_none (beginsCluster_append htail [])]
    exact .pure []
  | succ steps ih =>
    by_cases hls : beginsCluster ls = true
    · cases steps' with
      | zero =>
        rw [List.length_eq_zero_iff.mp (Nat.le_zero.mp hsteps')] at hls
        cases hls
      | succ steps' =>
        unfold readMoreClusters
        rw [beginsCluster_append htail, if_pos hls, if_pos hls]
        have hcolumns := @reads_columns layout _ _ ends _ _ htail hdeeper ls
        refine .bind hcolumns fun columns? more hmore => ?_
        have hlength := (hcolumns.took columns? more hmore).length_le
        refine .bind (reads_clusterIn htail hdeeper more columns?) fun c rest hc => ?_
        have hshorter := length_lt_of_readClusterIn hc
        exact .bind (ih (by omega) (by omega)) fun cs rest _ => .pure (c :: cs)
    · rw [Bool.not_eq_true] at hls
      rw [readMoreClusters_none hls,
        readMoreClusters_none ((beginsCluster_append htail ls).trans hls)]
      exact .pure []

end

end

end EntityFinder.FullText
