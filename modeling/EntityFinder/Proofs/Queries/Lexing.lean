import EntityFinder.Proofs.Queries.Joining

set_option autoImplicit false

/-!
# The lexemes of query texts

Two texts with the word AND between them have the lexemes of both, unless the first one has a fault:
it may end inside quotes, which then take in the word.

## Main results

* `EntityFinder.FullText.lex_and`: the lexemes of two texts with the word AND between them.
* `EntityFinder.FullText.Query.ofText_due`: a query text is refused for a column that is missed only
  if the layout lacks it.
-/

namespace EntityFinder.FullText

/-- Lexemes without a fault. -/
def AllGood (ls : List Lexeme) : Prop :=
  ∀ f, .bad f ∉ ls

/-- A blank ends what is read from any place but one inside quotes. -/
lemma lexFrom_blank {place : Place} (h : AllGood place.finish) (cs : List Char) :
    lexFrom place (' ' :: cs) = place.finish ++ lexFrom .between cs := by
  have hblank : Place.meet ' ' = .ok (none, .between) := rfl
  cases place with
  | between => rfl
  | inWord read => rfl
  | inQuotes read => exact absurd (.head _) (h .unterminated)
  | behindQuote read => rfl

/-- Between quotes everything is read up to the next quote. -/
lemma lexFrom_inQuotes {cs : List Char} (h : '"' ∉ cs) (read rest : List Char) :
    lexFrom (.inQuotes read) (cs ++ '"' :: rest) = lexFrom (.behindQuote (read ++ cs)) rest := by
  induction cs generalizing read with
  | nil =>
    rw [List.append_nil]
    rfl
  | cons c cs ih =>
    obtain ⟨hc, hcs⟩ := not_or.mp (List.mem_cons.not.mp h)
    have hleave : Place.leave (.inQuotes read) c = (none, some (.inQuotes (read ++ [c]))) :=
      if_neg (Ne.symm hc)
    rw [List.cons_append, lexFrom, hleave]
    change lexFrom (.inQuotes (read ++ [c])) (cs ++ '"' :: rest) = _
    rw [ih hcs, List.append_assoc]
    rfl

/-- The lexemes of two texts with a blank between them, the first one being read from some place. -/
lemma lexFrom_append {place : Place} {first : List Char} (second : List Char)
    (h : AllGood (lexFrom place first)) :
    lexFrom place (first ++ ' ' :: second) = lexFrom place first ++ lexFrom .between second := by
  induction first generalizing place with
  | nil => exact lexFrom_blank h second
  | cons c cs ih =>
    simp only [List.cons_append, lexFrom] at h ⊢
    split
    · next inside hleave =>
      rw [hleave] at h
      exact ih h
    · next complete hleave =>
      rw [hleave] at h
      cases hmeet : Place.meet c with
      | error f =>
        rw [hmeet] at h
        exact absurd (List.mem_append_right _ (.head _)) (h f)
      | ok met =>
        rw [hmeet] at h
        have hrest : AllGood (lexFrom met.2 cs) := fun f hf =>
          h f (List.mem_append_right _ (List.mem_append_right _ hf))
        simp only [ih hrest, List.append_assoc]

/-- The lexemes of two texts that are joined by `AND`. -/
theorem lex_and {first : List Char} (h : AllGood (lex first)) (second : List Char) :
    lex (first ++ " AND ".toList ++ second) = lex first ++ .sign .and :: lex second := by
  have hand : lex "AND".toList = [.sign .and] := by decide
  have hgood : AllGood (lex "AND".toList) := by
    rw [hand]
    intro f hf
    simp at hf
  calc lex (first ++ " AND ".toList ++ second)
      = lex (first ++ ' ' :: ("AND".toList ++ ' ' :: second)) := by simp
    _ = lex first ++ lex ("AND".toList ++ ' ' :: second) := lexFrom_append _ h
    _ = lex first ++ (lex "AND".toList ++ lex second) := by rw [lex, lex, lexFrom_append _ hgood]; rfl
    _ = lex first ++ .sign .and :: lex second := by rw [hand]; rfl

/-- A bare word is no fault. -/
lemma bad_ne_ofBareWord {f : QueryFault} {w : List Char} (h : .bad f = Lexeme.ofBareWord w) :
    False := by
  unfold Lexeme.ofBareWord at h
  split at h <;> cases h

/-- A lexeme that ends is no fault. -/
lemma bad_ne_of_leave {f : QueryFault} {place : Place} {c : Char} {inside : Option Place}
    (h : place.leave c = (some (.bad f), inside)) : False := by
  cases place with
  | between => cases h
  | inWord read =>
    simp only [Place.leave] at h
    split_ifs at h
    · cases h
    · exact bad_ne_ofBareWord (Option.some.inj (congrArg Prod.fst h)).symm
  | inQuotes read =>
    simp only [Place.leave] at h
    split_ifs at h <;> cases h
  | behindQuote read =>
    simp only [Place.leave] at h
    split_ifs at h <;> cases h

/-- A character that is a lexeme of its own is no fault. -/
lemma bad_ne_of_meet {f : QueryFault} {c : Char} {next : Place}
    (h : Place.meet c = .ok (some (.bad f), next)) : False := by
  unfold Place.meet at h
  split_ifs at h
  all_goals try cases h
  split at h <;> cases h

/-- A character that means nothing between two lexemes is unexpected. -/
lemma unexpected_of_meet {f : QueryFault} {c : Char} (h : Place.meet c = .error f) :
    ∃ w, f = .unexpected w := by
  unfold Place.meet at h
  split_ifs at h
  split at h
  · cases h
  · cases h
    exact ⟨_, rfl⟩

/-- The faults among the lexemes of a text are no columns that are missed. -/
lemma isDue_of_mem_lexFrom {layout : Layout} {f : QueryFault} {place : Place} {text : List Char}
    (h : .bad f ∈ lexFrom place text) : IsDue layout f := by
  have hunexpected : ∀ {w}, IsDue layout (.unexpected w) := fun _ h => by cases h
  induction text generalizing place with
  | nil =>
    cases place with
    | between => cases h
    | inWord read => exact (bad_ne_ofBareWord (List.mem_singleton.mp h)).elim
    | inQuotes read =>
      cases List.mem_singleton.mp h
      exact fun _ h => by cases h
    | behindQuote read => cases List.mem_singleton.mp h
  | cons c cs ih =>
    simp only [lexFrom] at h
    split at h
    · exact ih h
    · next complete hleave =>
      rcases List.mem_append.mp h with h | h
      · cases Option.mem_toList.mp h
        exact (bad_ne_of_leave hleave).elim
      · cases hmeet : Place.meet c with
        | error g =>
          rw [hmeet] at h
          cases List.mem_singleton.mp h
          obtain ⟨w, rfl⟩ := unexpected_of_meet hmeet
          exact hunexpected
        | ok met =>
          rw [hmeet] at h
          rcases List.mem_append.mp h with h | h
          · obtain ⟨single, next⟩ := met
            cases Option.mem_toList.mp h
            exact (bad_ne_of_meet hmeet).elim
          · exact ih h

/-- A query text is refused for a column that it misses only if the layout lacks it. -/
theorem Query.ofText_due {layout : Layout} {text : String} {f : QueryFault}
    (h : Query.ofText layout text = .error f) : IsDue layout f := by
  unfold Query.ofText at h
  split at h
  · split_ifs at h
    cases h
    exact fun _ h => by cases h
  · exact Query.ofLexemes_due h fun g hg => isDue_of_mem_lexFrom hg

end EntityFinder.FullText
