import EntityFinder.FullText.Match
import EntityFinder.Proofs.Queries.Lexing
import Mathlib.Data.List.Forall2
import Mathlib.Data.List.TakeWhile

set_option autoImplicit false

/-!
# Queries of several terms

Terms that are joined by `AND` are read one after the other. If none of them has an `OR` outside its
parentheses, then a document satisfies the whole query if it satisfies every term. Limits may be
exceeded, but only if a term comes close to them by itself.

## Main definitions

* `EntityFinder.FullText.Query.Fits`: a query can be joined without being too high.
* `EntityFinder.FullText.Query.AmountsTo`: a query asks for all that several ones ask for.
* `EntityFinder.FullText.HasRoom`: a text that can be read behind others.

## Main results

* `EntityFinder.FullText.readQuery_terms`: how terms are read that are joined by `AND`.
* `EntityFinder.FullText.Query.ofText_joined`: the query of texts that are joined by `AND`.
-/

namespace EntityFinder.FullText

/-! ## Joined queries -/

namespace Query

/-- A query leaves a level for being joined to others by `AND`. -/
def Fits (q : Query) : Prop :=
  q.height + q.levelsAdded .and ≤ heightLimit

/-- A query asks for the phrases of some queries and holds where all of them hold. -/
structure AmountsTo (q : Query) (qs : List Query) : Prop where
  /-- It holds where all of them hold. -/
  holds : ∀ d, q.holds d = qs.all (·.holds d)
  /-- It asks for their phrases. -/
  phrases : q.phrases = qs.flatMap Query.phrases

/-- Several queries joined to one by `AND`. -/
def joinAll (q : Query) (qs : List Query) : Query :=
  qs.foldl (join .and) q

/-- A query that is joined by `AND` already takes no further level. -/
lemma fits_join_iff {left right : Query} :
    (join .and left right).Fits ↔ (join .and left right).height ≤ heightLimit := Iff.rfl

/-- Two queries can be joined if both leave a level for that. -/
lemma fits_join {left right : Query} : (join .and left right).Fits ↔ left.Fits ∧ right.Fits :=
  fits_join_iff.trans Nat.max_le

/-- Joining succeeds if both queries leave a level for that. -/
lemma joinWithin_of_fits {left right : Query} (hleft : left.Fits) (hright : right.Fits) :
    left.joinWithin .and right = .ok (join .and left right) :=
  if_pos (fits_join.mpr ⟨hleft, hright⟩)

/-- If joining succeeds, both queries leave a level for that. -/
lemma of_joinWithin {left right q : Query} (h : left.joinWithin .and right = .ok q) :
    q = join .and left right ∧ left.Fits ∧ right.Fits := by
  unfold joinWithin at h
  split_ifs at h with hheight
  cases h
  exact ⟨rfl, fits_join.mp hheight⟩

/-- If joining fails, the result is too high. -/
lemma joinWithin_cases (left right : Query) :
    left.joinWithin .and right = .ok (join .and left right) ∨
      left.joinWithin .and right = .error .tooHigh := by
  unfold joinWithin
  split_ifs
  · exact .inl rfl
  · exact .inr rfl

/-- Queries to which others can be joined leave a level for that. -/
lemma fits_of_joinAll {q : Query} {qs : List Query} (h : (q.joinAll qs).Fits) : q.Fits := by
  induction qs generalizing q with
  | nil => exact h
  | cons right qs ih => exact (fits_join.mp (ih h)).1

/-- A query amounts to itself. -/
lemma AmountsTo.self (q : Query) : q.AmountsTo [q] :=
  ⟨fun d => by simp, by simp⟩

/-- A query that amounts to others may stand in place of them. -/
lemma AmountsTo.trans {q q' : Query} {qs qs' : List Query} (h : q.AmountsTo (q' :: qs))
    (h' : q'.AmountsTo qs') : q.AmountsTo (qs' ++ qs) :=
  ⟨fun d => by rw [h.holds, List.all_cons, h'.holds, List.all_append],
    by rw [h.phrases, List.flatMap_cons, h'.phrases, List.flatMap_append]⟩

/-- Queries that are joined amount to all of them. -/
lemma amountsTo_joinAll (q : Query) (qs : List Query) : (q.joinAll qs).AmountsTo (q :: qs) := by
  induction qs generalizing q with
  | nil => exact .self q
  | cons right qs ih =>
    have hjoin : (join .and q right).AmountsTo [q, right] :=
      ⟨fun d => by simp [holds], by simp [Query.phrases]⟩
    exact (ih (join .and q right)).trans hjoin

/-- Joining queries to a joined one amounts to joining them to its right part. -/
lemma amountsTo_joinAll_join (left right : Query) (qs : List Query) :
    ((join .and left right).joinAll qs).AmountsTo [left, right.joinAll qs] where
  holds d := by simp [(amountsTo_joinAll _ qs).holds, holds, Bool.and_assoc]
  phrases := by simp [(amountsTo_joinAll _ qs).phrases, Query.phrases]

end Query

/-! ## Terms that are joined -/

section

variable {layout : Layout} {tail : List Lexeme} {depth depth' : Nat} {tight : Prop}

/-- A look at what comes next finds no fault where nothing is left. -/
lemma checkNext_append (htail : IsTail tail) {ls : List Lexeme} (h : checkNext ls = .ok ()) :
    checkNext (ls ++ tail) = .ok () := by
  cases ls with
  | nil =>
    obtain rfl | ⟨more, rfl⟩ := htail <;> rfl
  | cons l rest =>
    cases l with
    | word w => rfl
    | sign s => rfl
    | bad f => cases h

/-- An answer is that of a chain which goes on behind a query, unless a limit is exceeded; this may
happen only if `tight` holds. -/
def GoesOn (layout : Layout) (depth : Nat) (tail : List Lexeme) (tight : Prop) (acc : Query)
    (r : Except QueryFault (Query × List Lexeme)) : Prop :=
  (∃ steps, tail.length ≤ steps ∧ (acc.Fits ∨ tight) ∧
    r = readChain .and (readFactor layout depth) 0 steps acc tail) ∨
  (r = .error .tooNested ∨ r = .error .tooHigh) ∧ tight

/-- An answer that goes on behind two joined queries does so behind the attempt to join them: where
this fails, one of them does not fit. -/
lemma GoesOn.joinWithin {acc acc' right : Query}
    {next : Query → Except QueryFault (Query × List Lexeme)}
    (h : GoesOn layout depth tail tight acc' (next (Query.join .and acc right)))
    (hfits : (Query.join .and acc right).Fits ∨ tight) :
    GoesOn layout depth tail tight acc' (acc.joinWithin .and right >>= next) := by
  obtain hjoin | hjoin := acc.joinWithin_cases right
  · rw [hjoin]
    exact h
  · rw [hjoin]
    refine .inr ⟨.inr rfl, hfits.resolve_left fun hfits => ?_⟩
    obtain ⟨hacc, hright⟩ := Query.fits_join.mp hfits
    rw [Query.joinWithin_of_fits hacc hright] at hjoin
    cases hjoin

variable (htail : IsTail tail) (hdepth : depth ≤ depth')

include htail hdepth

/-- A chain that leaves nothing is read to its end among more lexemes as well, and joined to any
query that was read before it. -/
lemma readChain_append {steps steps' : Nat} {q last acc : Query} {ls : List Lexeme}
    (h : readChain .and (readFactor layout depth) 0 steps q ls = .ok (last, []))
    (hacc : acc.Fits ∨ tight) (hsteps' : (ls ++ tail).length ≤ steps') :
    ∃ qs, last = q.joinAll qs ∧ GoesOn layout depth' tail tight (acc.joinAll qs)
      (readChain .and (readFactor layout depth') 0 steps' acc (ls ++ tail)) := by
  induction steps generalizing q acc ls steps' with
  | zero =>
    cases h
    exact ⟨[], rfl, .inl ⟨steps', hsteps', hacc, rfl⟩⟩
  | succ steps ih =>
    cases ls with
    | nil =>
      cases h
      exact ⟨[], rfl, .inl ⟨steps', hsteps', hacc, rfl⟩⟩
    | cons l rest =>
      cases l with
      | word w => cases h
      | bad f => cases h
      | sign s =>
        by_cases hs : connective? s = some .and
        · obtain ⟨steps', rfl⟩ := Nat.exists_eq_succ_of_ne_zero
            (by simp at hsteps'; omega : steps' ≠ 0)
          simp only [List.cons_append, List.length_cons] at hsteps'
          simp only [readChain, if_pos hs, List.cons_append] at h ⊢
          obtain ⟨_, hallow, h⟩ := bind_eq_ok.mp h
          obtain ⟨⟨right, more⟩, hright, h⟩ := bind_eq_ok.mp h
          obtain ⟨_, hnext, h⟩ := bind_eq_ok.mp h
          obtain ⟨q₁, hq₁, h⟩ := bind_eq_ok.mp h
          obtain ⟨rfl, hq, hrightFits⟩ := Query.of_joinWithin hq₁
          -- the next factor is read alike whatever follows it, since what follows begins with AND
          have hread := @reads_factor layout _ False True htail _ _ hdepth 2 2 rest
            fun h => absurd h (lt_irrefl _)
          have hmore := (hread.took right more hright).length_le
          have hlength : (more ++ tail).length ≤ steps' := by
            simp only [List.length_append] at hsteps' ⊢
            omega
          obtain hright' | ⟨_, ⟨⟩⟩ := hread.same right more hright fun _ => trivial
          have hfits : (Query.join .and acc right).Fits ∨ tight :=
            hacc.imp_left fun hacc => Query.fits_join.mpr ⟨hacc, hrightFits⟩
          obtain ⟨qs, rfl, hgoes⟩ := ih h hfits hlength
          refine ⟨right :: qs, rfl, ?_⟩
          simp only [hallow, hright', checkNext_append htail hnext, bind, Except.bind, zero_add]
          exact GoesOn.joinWithin hgoes hfits
        · rw [readChain, if_neg hs] at h
          cases h

end

/-! ## Terms -/

/-- A text that has room behind others: two more symbols may be open before it, and its query can be
joined. -/
def HasRoom (layout : Layout) (ls : List Lexeme) : Prop :=
  ∃ q, readQuery layout (ls.length + 1) 2 ls = .ok (q, []) ∧ q.Fits

/-- A text that is read as a query, without an `OR` outside its parentheses. -/
structure IsTerm (layout : Layout) (ls : List Lexeme) (q : Query) : Prop where
  /-- It is read as the query. -/
  read : readQuery layout (ls.length + 1) 0 ls = .ok (q, [])
  /-- No `OR` stands outside its parentheses. -/
  closed : hasOpenOr 0 ls = false

section

variable {layout : Layout} {ls tail : List Lexeme} {q acc : Query} {depth before : Nat}
variable {tight : Prop}

/-- A query without an open `OR` is a chain of what is joined by `AND`. -/
lemma readTerm_of_readQuery (h : readQuery layout (depth + 1) before ls = .ok (q, []))
    (hor : hasOpenOr 0 ls = false) : readTerm layout depth before ls = .ok (q, []) := by
  obtain ⟨⟨q', rest⟩, hterm, h⟩ := bind_eq_ok.mp h
  have hfactor := @reads_factor layout [] True True (.inl rfl) depth depth le_rfl
  have htook := (@reads_joined layout [] True True before before (.inl rfl) (fun _ => trivial) .and
    _ _ hfactor (fun _ _ => rfl) ls).took q' rest hterm
  have hstop : ∀ s more, rest = .sign s :: more → connective? s ≠ some .or := by
    rintro s more rfl hs
    obtain ⟨passed, hpassed, rfl⟩ := htook
    have hrest := hpassed.balanced 0 _ hor
    cases s <;> cases hs
    cases hrest
  change readChain .or _ before rest.length q' rest = .ok (q, []) at h
  rw [readChain_stop hstop] at h
  cases h
  exact hterm

/-- A term begins with a part that may be joined by `NOT`, and the others follow in a chain. -/
lemma IsTerm.parts (h : IsTerm layout ls q) : ∃ q₀ rest,
    readFactor layout ls.length 0 ls = .ok (q₀, rest) ∧
      readChain .and (readFactor layout ls.length) 0 rest.length q₀ rest = .ok (q, []) := by
  obtain ⟨⟨q₀, rest⟩, hfactor, hchain⟩ := bind_eq_ok.mp (readTerm_of_readQuery h.read h.closed)
  exact ⟨q₀, rest, hfactor, hchain⟩

/-- A term is the same behind two open symbols, if it has room there. -/
lemma IsTerm.behind (h : IsTerm layout ls q) {q₀ : Query} {rest : List Lexeme}
    (hfactor : readFactor layout ls.length 0 ls = .ok (q₀, rest)) (hroom : HasRoom layout ls) :
    readFactor layout ls.length 2 ls = .ok (q₀, rest) ∧ q.Fits := by
  obtain ⟨q', hread, hfits⟩ := hroom
  have hwhole := (@reads_query layout [] True (.inl rfl) _ _ (le_refl (ls.length + 1)) 0 2 ls
    fun _ => trivial).same q [] h.read fun _ => rfl
  have hfirst := (@reads_factor layout [] True True (.inl rfl) _ _ (le_refl ls.length) 0 2 ls
    fun _ => trivial).same q₀ rest hfactor fun _ => trivial
  simp only [List.append_nil] at hwhole hfirst
  rw [hread] at hwhole
  obtain hwhole | ⟨⟨⟩, _⟩ := hwhole
  cases hwhole
  refine ⟨hfirst.resolve_right fun hfirst => ?_, hfits⟩
  obtain ⟨p, hp, _⟩ := bind_eq_ok.mp (readTerm_of_readQuery hread h.closed)
  rw [hfirst.1] at hp
  cases hp

/-- What follows a query: texts with `AND` before each. -/
def joined (texts : List (List Lexeme)) : List Lexeme :=
  texts.flatMap fun ls => .sign .and :: ls

/-- Texts are no longer than all of them with `AND` before each. -/
lemma length_le_joined {texts : List (List Lexeme)} (h : ls ∈ texts) :
    ls.length ≤ (joined texts).length := by
  obtain ⟨before, after, rfl⟩ := List.append_of_mem h
  simp only [joined, List.flatMap_append, List.flatMap_cons, List.length_append, List.length_cons]
  omega

/-- Texts with `AND` before them may follow without being read. -/
lemma isTail_joined (texts : List (List Lexeme)) : IsTail (joined texts) := by
  cases texts with
  | nil => exact .inl rfl
  | cons ls rest => exact .inr ⟨_, rfl⟩

/-- What is left for a chain that leaves nothing can be read. -/
lemma checkNext_of_readChain {connective : Connective} {part : Nat → Reader Query} {steps : Nat}
    {q₀ : Query} (h : readChain connective part before steps q₀ ls = .ok (q, [])) :
    checkNext ls = .ok () := by
  cases ls with
  | nil => rfl
  | cons l rest =>
    cases l with
    | word w => rfl
    | sign s => rfl
    | bad f => cases steps <;> cases h

/-- The first part of a term that has room leaves a level for being joined to others. -/
lemma IsTerm.fits (h : IsTerm layout ls q) {q₀ : Query} {rest : List Lexeme}
    (hfactor : readFactor layout ls.length 0 ls = .ok (q₀, rest))
    (hchain : readChain .and (readFactor layout ls.length) 0 rest.length q₀ rest = .ok (q, []))
    (hroom : HasRoom layout ls) : q₀.Fits := by
  have hnone : IsTail [] := .inl rfl
  have hroomy : q₀.Fits ∨ True := .inr trivial
  obtain ⟨qs, rfl, _⟩ := readChain_append hnone (le_refl ls.length) hchain hroomy le_rfl
  exact Query.fits_of_joinAll (h.behind hfactor hroom).2

/-- The first part of a term is the same behind others, or it lacks room there. -/
lemma IsTerm.first (h : IsTerm layout ls q) (htail : IsTail tail) (hdepth : ls.length ≤ depth)
    (hroom : HasRoom layout ls ∨ tight) {q₀ : Query} {rest : List Lexeme}
    (hfactor : readFactor layout ls.length 0 ls = .ok (q₀, rest)) :
    readFactor layout depth 2 (ls ++ tail) = .ok (q₀, rest ++ tail) ∨
      readFactor layout depth 2 (ls ++ tail) = .error .tooNested ∧ tight := by
  obtain hroom | htight := hroom
  · have hread := @reads_factor layout _ tight True htail _ _ hdepth 2 2 ls fun h => absurd h (lt_irrefl _)
    exact hread.same q₀ rest (h.behind hfactor hroom).1 fun _ => trivial
  · have hread := @reads_factor layout _ tight True htail _ _ hdepth 0 2 ls fun _ => htight
    exact hread.same q₀ rest hfactor fun _ => trivial

/-- A chain goes on behind a term that is joined to a query. -/
lemma IsTerm.goesOn (h : IsTerm layout ls q) (htail : IsTail tail) (hdepth : ls.length ≤ depth)
    (hroom : HasRoom layout ls ∨ tight) (hacc : acc.Fits ∨ tight) {steps : Nat}
    (hsteps : (Lexeme.sign .and :: (ls ++ tail)).length ≤ steps) :
    ∃ acc' : Query, acc'.AmountsTo [acc, q] ∧ GoesOn layout depth tail tight acc'
      (readChain .and (readFactor layout depth) 0 steps acc (.sign .and :: (ls ++ tail))) := by
  obtain ⟨q₀, rest, hfactor, hchain⟩ := h.parts
  obtain ⟨steps, rfl⟩ := Nat.exists_eq_succ_of_ne_zero (by simp at hsteps; omega : steps ≠ 0)
  simp only [List.length_cons, Nat.succ_eq_add_one, Nat.add_le_add_iff_right] at hsteps
  have hread := @reads_factor layout [] True True (.inl rfl) _ _ (le_refl ls.length) 0 0 ls
    fun _ => trivial
  have hrest := (hread.took q₀ rest hfactor).length_le
  have hlength : (rest ++ tail).length ≤ steps := by
    simp only [List.length_append] at hsteps ⊢
    omega
  have hq₀ : q₀.Fits ∨ tight := hroom.imp_left (h.fits hfactor hchain)
  have hfits : (Query.join .and acc q₀).Fits ∨ tight := by
    obtain hacc | htight := hacc
    · exact hq₀.imp_left fun hq₀ => Query.fits_join.mpr ⟨hacc, hq₀⟩
    · exact .inr htight
  obtain ⟨qs, rfl, hgoes⟩ := readChain_append htail hdepth hchain hfits hlength
  refine ⟨(Query.join .and acc q₀).joinAll qs, Query.amountsTo_joinAll_join acc q₀ qs, ?_⟩
  -- behind the connective the first factor of the term is read, and then its own chain
  have hunfold : readChain .and (readFactor layout depth) 0 (steps + 1) acc
      (.sign .and :: (ls ++ tail)) = (readFactor layout depth 2 (ls ++ tail) >>= fun p =>
        checkNext p.2 >>= fun _ => acc.joinWithin .and p.1 >>= fun q =>
          readChain .and (readFactor layout depth) 0 steps q p.2) := rfl
  rw [Nat.succ_eq_add_one, hunfold]
  obtain hfirst | ⟨hfirst, htight⟩ := h.first htail hdepth hroom hfactor
  · have hnext := checkNext_append htail (checkNext_of_readChain hchain)
    simp only [hfirst, hnext, bind, Except.bind]
    exact GoesOn.joinWithin hgoes hfits
  · rw [hfirst]
    exact .inr ⟨.inl rfl, htight⟩

/-- The answer for terms that follow a query. -/
lemma goesOn_joined {texts : List (List Lexeme)} {qs : List Query}
    (h : List.Forall₂ (IsTerm layout) texts qs) (hdepth : ∀ ls ∈ texts, ls.length ≤ depth)
    (hroom : (∀ ls ∈ texts, HasRoom layout ls) ∨ tight)
    {r : Except QueryFault (Query × List Lexeme)}
    (hr : GoesOn layout depth (joined texts) tight acc r) :
    (∃ q : Query, q.AmountsTo (acc :: qs) ∧ r = .ok (q, [])) ∨
      (r = .error .tooNested ∨ r = .error .tooHigh) ∧ tight := by
  induction h generalizing acc with
  | nil =>
    obtain ⟨steps, _, _, rfl⟩ | hr := hr
    · refine .inl ⟨acc, .self acc, readChain_stop ?_⟩
      rintro _ _ ⟨⟩
    · exact .inr hr
  | @cons ls q texts qs hterm hterms ih =>
    obtain ⟨steps, hsteps, hacc, rfl⟩ | hr := hr
    · obtain ⟨acc', hamounts, hgoes⟩ := hterm.goesOn (isTail_joined texts) (hdepth ls (.head _))
        (hroom.imp_left fun hroom => hroom ls (.head _)) hacc hsteps
      obtain ⟨q', hq', hr⟩ | hr := ih (fun ls hls => hdepth ls (.tail _ hls))
        (hroom.imp_left fun hroom ls hls => hroom ls (.tail _ hls)) hgoes
      · exact .inl ⟨q', hq'.trans hamounts, hr⟩
      · exact .inr hr
    · exact .inr hr

/-- Terms that are joined by `AND` are read as a query that asks for all of them, unless a limit is
exceeded because one of them has no room behind others. -/
theorem readQuery_terms {texts : List (List Lexeme)} {qs : List Query}
    (h : List.Forall₂ (IsTerm layout) (ls :: texts) (q :: qs))
    (hdepth : ∀ ls' ∈ ls :: texts, ls'.length ≤ depth)
    (hroom : (∀ ls' ∈ ls :: texts, HasRoom layout ls') ∨ tight) :
    (∃ q' : Query, q'.AmountsTo (q :: qs) ∧
      readQuery layout (depth + 1) 0 (ls ++ joined texts) = .ok (q', [])) ∨
    (readQuery layout (depth + 1) 0 (ls ++ joined texts) = .error .tooNested ∨
      readQuery layout (depth + 1) 0 (ls ++ joined texts) = .error .tooHigh) ∧ tight := by
  cases h with
  | cons hterm hterms =>
    obtain ⟨q₀, rest, hfactor, hchain⟩ := hterm.parts
    have htail := isTail_joined texts
    -- the first factor of the first term is read as if nothing came behind the term
    have hread := (@reads_factor layout _ False True htail _ _ (hdepth ls (.head _)) 0 0 ls
      fun h => absurd h (lt_irrefl _)).same q₀ rest hfactor
        fun _ => trivial
    obtain hfactor' | ⟨_, ⟨⟩⟩ := hread
    have hq₀ : q₀.Fits ∨ tight := hroom.imp_left fun hroom =>
      hterm.fits hfactor hchain (hroom ls (.head _))
    obtain ⟨qs₀, rfl, hgoes⟩ := readChain_append htail (hdepth ls (.head _)) hchain hq₀ le_rfl
    have hall := goesOn_joined hterms (fun ls hls => hdepth ls (.tail _ hls))
      (hroom.imp_left fun hroom ls hls => hroom ls (.tail _ hls)) hgoes
    have hquery : readQuery layout (depth + 1) 0 (ls ++ joined texts) =
        (readChain .and (readFactor layout depth) 0 (rest ++ joined texts).length q₀
          (rest ++ joined texts) >>= fun p =>
            readChain .or (readTerm layout depth) 0 p.2.length p.1 p.2) := by
      change (readFactor layout depth 0 (ls ++ joined texts) >>= _) >>= _ = _
      rw [hfactor']
      rfl
    rw [hquery]
    obtain ⟨q', hq', hr⟩ | ⟨hr | hr, htight⟩ := hall
    · rw [hr]
      exact .inl ⟨q', hq', rfl⟩
    · rw [hr]
      exact .inr ⟨.inl rfl, htight⟩
    · rw [hr]
      exact .inr ⟨.inr rfl, htight⟩

end

/-! ## Texts -/

/-- A text that keeps its meaning when others are joined to it. -/
structure IsSelfContained (text : String) : Prop where
  /-- It does not break off at a null character. -/
  no_null : '\x00' ∉ text.toList
  /-- It does not ask for a service. -/
  no_service : text.toList.head? ≠ some '*'
  /-- No `OR` stands outside its parentheses. -/
  closed : hasOpenOr 0 (lex text.toList) = false

namespace Query

variable {layout : Layout} {text : String} {q : Query}

/-- The query of a text that does not break off. -/
lemma ofText_eq (hnull : '\x00' ∉ text.toList) (hservice : text.toList.head? ≠ some '*') :
    ofText layout text = ofLexemes layout (lex text.toList) := by
  have htake : text.toList.takeWhile (· != '\x00') = text.toList := by
    refine List.takeWhile_eq_self_iff.mpr fun c hc => ?_
    simp only [bne_iff_ne, ne_eq]
    rintro rfl
    exact hnull hc
  unfold ofText
  rw [htake]
  split
  · next rest hrest =>
    rw [hrest] at hservice
    exact absurd rfl hservice
  · rfl

/-- A text that is read as a query is a term if it keeps its meaning. -/
lemma isTerm_of_ofText (h : ofText layout text = .ok q) (hself : IsSelfContained text) :
    IsTerm layout (lex text.toList) q ∧ AllGood (lex text.toList) := by
  rw [ofText_eq hself.no_null hself.no_service] at h
  obtain ⟨⟨q', rest⟩, hread, h⟩ := bind_eq_ok.mp h
  have hquery := @reads_query layout [] True (.inl rfl) _ _
    (le_refl ((lex text.toList).length + 1)) 0 0 (lex text.toList) fun _ => trivial
  obtain ⟨passed, hpassed, htook⟩ := hquery.took q' rest hread
  cases rest with
  | cons l more => exact (refuse_ne_ok _ h).elim
  | nil =>
    cases h
    refine ⟨⟨hread, hself.closed⟩, fun f hf => hpassed.good f ?_⟩
    rwa [htook, List.append_nil] at hf

end Query

/-- The lexemes of texts that are joined by `AND`. -/
lemma lex_intercalate (text : String) {texts : List String}
    (h : ∀ t ∈ text :: texts, AllGood (lex t.toList)) :
    lex (" AND ".intercalate (text :: texts)).toList =
      lex text.toList ++ joined (texts.map fun t => lex t.toList) := by
  induction texts generalizing text with
  | nil => simp [joined]
  | cons next texts ih =>
    rw [String.intercalate_cons_cons, String.toList_append, String.toList_append,
      lex_and (h text (.head _)), ih next fun t ht => h t (.tail _ ht)]
    simp [joined]

/-- No null character comes up where texts without one are joined by `AND`. -/
lemma not_mem_intercalate {texts : List String} (h : ∀ t ∈ texts, '\x00' ∉ t.toList) :
    '\x00' ∉ (" AND ".intercalate texts).toList := by
  induction texts with
  | nil => simp
  | cons text texts ih =>
    cases texts with
    | nil => simpa using h text (.head _)
    | cons next texts =>
      have hrest := ih fun t ht => h t (.tail _ ht)
      have hfirst := h text (.head _)
      rw [String.intercalate_cons_cons]
      simp only [String.toList_append, List.mem_append, not_or]
      exact ⟨⟨hfirst, by decide⟩, hrest⟩

/-- Texts that are joined by `AND` do not ask for a service if the first of them does not. -/
lemma head?_intercalate_ne {text : String} {texts : List String}
    (h : text.toList.head? ≠ some '*') :
    (" AND ".intercalate (text :: texts)).toList.head? ≠ some '*' := by
  cases texts with
  | nil => simpa using h
  | cons next texts =>
    rw [String.intercalate_cons_cons]
    simp only [String.toList_append, List.append_assoc]
    cases htext : text.toList with
    | nil => simp
    | cons c cs =>
      rw [htext] at h
      simpa using h

/-- Texts that keep their meaning, joined by `AND`, are read as a query that asks for all of them,
unless a limit is exceeded because one of them has no room behind others. -/
theorem Query.ofText_joined {layout : Layout} {text : String} {texts : List String} {q : Query}
    {qs : List Query}
    (h : List.Forall₂ (fun t q => ofText layout t = .ok q) (text :: texts) (q :: qs))
    (hself : ∀ t ∈ text :: texts, IsSelfContained t) :
    (∃ q' : Query, q'.AmountsTo (q :: qs) ∧
      ofText layout (" AND ".intercalate (text :: texts)) = .ok q') ∨
    (ofText layout (" AND ".intercalate (text :: texts)) = .error .tooNested ∨
      ofText layout (" AND ".intercalate (text :: texts)) = .error .tooHigh) ∧
        ∃ t ∈ text :: texts, ¬HasRoom layout (lex t.toList) := by
  have hboth := ((List.forall₂_and_left _ _).mpr ⟨hself, h⟩).imp fun t q ht =>
    (isTerm_of_ofText ht.2 ht.1).symm
  obtain ⟨hgood, hterms⟩ := (List.forall₂_and_left _ _).mp hboth
  have hcons : (text :: texts).map (fun t => lex t.toList) =
      lex text.toList :: texts.map fun t => lex t.toList := rfl
  have hlexed := hcons ▸ List.forall₂_map_left_iff.mpr hterms
  -- the depth that is allowed for the whole suffices for each of the texts
  have hdepth : ∀ ls ∈ lex text.toList :: texts.map (fun t => lex t.toList),
      ls.length ≤ (lex text.toList ++ joined (texts.map fun t => lex t.toList)).length := by
    intro ls hls
    rcases List.mem_cons.mp hls with rfl | hls
    · simp
    · have := length_le_joined hls
      rw [List.length_append]
      omega
  have hroom : (∀ ls ∈ lex text.toList :: texts.map (fun t => lex t.toList),
      HasRoom layout ls) ∨ ∃ t ∈ text :: texts, ¬HasRoom layout (lex t.toList) := by
    by_cases htight : ∃ t ∈ text :: texts, ¬HasRoom layout (lex t.toList)
    · exact .inr htight
    · refine .inl fun ls hls => ?_
      rw [← hcons] at hls
      obtain ⟨t, ht, rfl⟩ := List.mem_map.mp hls
      exact Classical.not_not.mp fun hno => htight ⟨t, ht, hno⟩
  have hwhole : ofText layout (" AND ".intercalate (text :: texts)) =
      ofLexemes layout (lex text.toList ++ joined (texts.map fun t => lex t.toList)) := by
    rw [← lex_intercalate text hgood]
    exact ofText_eq (not_mem_intercalate fun t ht => (hself t ht).no_null)
      (head?_intercalate_ne (hself text (.head _)).no_service)
  rw [hwhole]
  unfold ofLexemes
  obtain ⟨q', hq', hread⟩ | ⟨hread | hread, htight⟩ := readQuery_terms hlexed hdepth hroom
  · rw [hread]
    exact .inl ⟨q', hq', rfl⟩
  · rw [hread]
    exact .inr ⟨.inl rfl, htight⟩
  · rw [hread]
    exact .inr ⟨.inr rfl, htight⟩

end EntityFinder.FullText
