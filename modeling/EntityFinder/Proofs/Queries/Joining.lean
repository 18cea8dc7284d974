import EntityFinder.Proofs.Queries.Reading

set_option autoImplicit false

/-!
# How joined queries are read

Parts of queries, the chains in which they are joined, and whole queries. Where a chain of parts
that are joined by `AND` is left, more parts may follow it; so a query that leaves nothing is read
in the same way only if nothing follows.

## Main results

* `EntityFinder.FullText.reads_part`, `EntityFinder.FullText.reads_joined`,
  `EntityFinder.FullText.reads_query`: parts, chains and queries.
* `EntityFinder.FullText.Query.ofLexemes_due`: a query is refused for a column that is missed only
  if the layout lacks it.
-/

namespace EntityFinder.FullText

/-- What follows columns, if any are named: a query in parentheses or clusters. -/
def readConfined (layout : Layout) (inner : Nat → Reader Query) (before : Nat) :
    Option (List Nat) → Reader Query
  | some columns, .sign .opening :: rest => do
    let (q, rest) ← readEnclosed inner (before + 3) rest
    .ok (q.restrictTo columns, rest)
  | columns?, rest => do
    let (c, rest) ← readClusterIn layout before columns? rest
    let (cs, rest) ← readMoreClusters layout (before + 1) rest.length rest
    .ok (.all (c :: cs), rest)

/-- A chain ends where its connective does not follow. -/
lemma readChain_stop {connective : Connective} {part : Nat → Reader Query} {before steps : Nat}
    {q : Query} {ls : List Lexeme}
    (h : ∀ s rest, ls = .sign s :: rest → connective? s ≠ some connective) :
    readChain connective part before steps q ls = .ok (q, ls) := by
  unfold readChain
  split
  · exact if_neg (h _ _ rfl)
  · rfl

section

variable {layout : Layout} {tail : List Lexeme} {deeper ends : Prop} {ls : List Lexeme}

/-- Readers that answer alike, with a number of symbols open before them. -/
def ReadsAlike (layout : Layout) (tail : List Lexeme) (deeper ends : Prop)
    (reader reader' : Nat → Reader Query) : Prop :=
  ∀ (n n' : Nat) (ls : List Lexeme), (n < n' → deeper) →
    Reads layout tail deeper ends ls (reader n ls) (reader' n' (ls ++ tail))

variable {before before' : Nat} (htail : IsTail tail) (hdeeper : before < before' → deeper)

include htail hdeeper

/-! ## Parts -/

section

variable {inner inner' : Nat → Reader Query} {inside : Prop}
variable (hinner : ReadsAlike layout tail deeper inside inner inner')

include hinner

omit htail in
/-- A query in parentheses. -/
lemma reads_enclosed (ls : List Lexeme) :
    Reads layout tail deeper ends (.sign .opening :: ls) (readEnclosed inner before ls)
      (readEnclosed inner' before' (ls ++ tail)) := by
  refine .allow (fun h => hdeeper (by omega)) ?_
  let found : Query → Reader Query := fun q rest => .ok (q, rest)
  have hfound : ∀ q rest, Reads layout tail deeper ends rest (found q rest)
      (found q (rest ++ tail)) := fun q _ => .pure q
  exact (hinner _ _ ls hdeeper).enclosed fun q rest _ => hfound q rest

/-- What follows columns. -/
lemma reads_confined (ls : List Lexeme) (columns? : Option (List Nat)) :
    Reads layout tail deeper ends ls (readConfined layout inner before columns? ls)
      (readConfined layout inner' before' columns? (ls ++ tail)) := by
  have hclusters : Reads layout tail deeper ends ls
      (readClusterIn layout before columns? ls >>= fun p =>
        readMoreClusters layout (before + 1) p.2.length p.2 >>= fun q =>
          .ok (Query.all (p.1 :: q.1), q.2))
      (readClusterIn layout before' columns? (ls ++ tail) >>= fun p =>
        readMoreClusters layout (before' + 1) p.2.length p.2 >>= fun q =>
          .ok (Query.all (p.1 :: q.1), q.2)) := by
    refine .bind (reads_clusterIn htail hdeeper ls columns?) fun c rest _ => ?_
    exact .bind (reads_moreClusters htail (fun h => hdeeper (by omega)) le_rfl (by simp))
      fun cs rest _ => .pure _
  cases columns? with
  | none =>
    exact hclusters
  | some columns =>
    cases ls with
    | nil =>
      obtain rfl | ⟨more, rfl⟩ := htail <;> exact hclusters
    | cons l rest =>
      cases l with
      | word w => exact hclusters
      | bad f => exact hclusters
      | sign s =>
        cases s
        case opening =>
          exact .bind (reads_enclosed (fun h => hdeeper (by omega)) hinner rest)
            fun q rest _ => .pure _
        all_goals exact hclusters

/-- A part of a query. -/
lemma reads_part (ls : List Lexeme) :
    Reads layout tail deeper ends ls (readPart layout inner before ls)
      (readPart layout inner' before' (ls ++ tail)) := by
  have hconfined : Reads layout tail deeper ends ls
      (readColumns layout before ls >>= fun p => readConfined layout inner before p.1 p.2)
      (readColumns layout before' (ls ++ tail) >>= fun p =>
        readConfined layout inner' before' p.1 p.2) :=
    .bind (reads_columns htail hdeeper ls) fun columns? rest _ =>
      reads_confined htail hdeeper hinner rest columns?
  cases ls with
  | nil =>
    obtain rfl | ⟨more, rfl⟩ := htail <;> exact hconfined
  | cons l rest =>
    cases l with
    | word w => exact hconfined
    | bad f => exact hconfined
    | sign s =>
      cases s
      case opening => exact reads_enclosed (fun h => hdeeper (by omega)) hinner rest
      all_goals exact hconfined

end

/-! ## Chains -/

omit hdeeper in
/-- The end of a chain is its end among more lexemes as well. -/
lemma reads_chainEnd {connective : Connective} {part part' : Nat → Reader Query}
    (hends : connective = .and → ends → tail = []) {steps steps' : Nat} (q : Query)
    (hls : ∀ s rest, ls = .sign s :: rest → connective? s ≠ some connective) :
    Reads layout tail deeper ends ls (readChain connective part before steps q ls)
      (readChain connective part' before' steps' q (ls ++ tail)) := by
  rw [readChain_stop hls]
  refine ⟨?_, ?_, by rintro _ ⟨⟩⟩
  · rintro _ _ ⟨⟩
    exact .refl ls
  rintro _ _ ⟨⟩ hempty
  refine .inl (readChain_stop fun s rest hrest => ?_)
  cases ls with
  | cons l ls =>
    cases hrest
    exact hls s ls rfl
  | nil =>
    obtain rfl | ⟨more, rfl⟩ := htail
    · cases hrest
    · cases hrest
      rintro ⟨⟩
      cases hends rfl (hempty rfl)

/-- What is joined to a query. Where a chain of parts joined by `AND` leaves nothing, something has
to follow in vain. -/
lemma reads_chain {connective : Connective} {part part' : Nat → Reader Query}
    (hpart : ReadsAlike layout tail deeper ends part part')
    (hends : connective = .and → ends → tail = []) {steps steps' : Nat} (q : Query)
    (hsteps : ls.length ≤ steps) (hsteps' : ls.length ≤ steps') :
    Reads layout tail deeper ends ls (readChain connective part before steps q ls)
      (readChain connective part' before' steps' q (ls ++ tail)) := by
  induction steps generalizing ls steps' q with
  | zero =>
    obtain rfl := List.length_eq_zero_iff.mp (Nat.le_zero.mp hsteps)
    exact reads_chainEnd htail hends q (by rintro _ _ ⟨⟩)
  | succ steps ih =>
    cases ls with
    | nil => exact reads_chainEnd htail hends q (by rintro _ _ ⟨⟩)
    | cons l rest =>
      cases l with
      | word w => exact reads_chainEnd htail hends q (by rintro _ _ ⟨⟩)
      | bad f => exact reads_chainEnd htail hends q (by rintro _ _ ⟨⟩)
      | sign s =>
        by_cases hs : connective? s = some connective
        · cases steps' with
          | zero => simp at hsteps'
          | succ steps' =>
            simp only [List.length_cons, Nat.add_le_add_iff_right] at hsteps hsteps'
            have hplain : (Lexeme.sign s).IsPlain := by
              constructor <;> rintro rfl <;> cases hs
            simp only [List.cons_append, readChain, if_pos hs]
            have hright := hpart (before + 2) (before' + 2) rest fun h =>
              hdeeper (by omega)
            refine .cons hplain (.allow (fun h => hdeeper (by omega))
              (.bind hright fun right more hmore => .checkNext htail ?_))
            have hlength := (hright.took right more hmore).length_le
            refine .lift (fun g hg => ?_) fun q _ => ih q (by omega) (by omega)
            unfold Query.joinWithin at hg
            split_ifs at hg
            cases hg
            exact fun _ h => by cases h
        · refine reads_chainEnd htail hends q ?_
          rintro _ _ ⟨⟩
          exact hs

/-- Parts that may be joined. -/
lemma reads_joined {connective : Connective} {part part' : Nat → Reader Query}
    (hpart : ReadsAlike layout tail deeper ends part part')
    (hends : connective = .and → ends → tail = []) (ls : List Lexeme) :
    Reads layout tail deeper ends ls (readJoined connective part before ls)
      (readJoined connective part' before' (ls ++ tail)) := by
  refine .bind (hpart _ _ ls hdeeper) fun q rest _ => ?_
  exact reads_chain htail hdeeper hpart hends q le_rfl (by simp)

end

/-! ## Queries -/

/-- Reads what may be joined by `NOT`, which binds tightest; parentheses are nested less than
`depth` deep in it. -/
def readFactor (layout : Layout) (depth : Nat) : Nat → Reader Query :=
  readJoined .not (readPart layout (readQuery layout depth))

/-- Reads what may be joined by `AND` as well. -/
def readTerm (layout : Layout) (depth : Nat) : Nat → Reader Query :=
  readJoined .and (readFactor layout depth)

section

variable {layout : Layout} {tail : List Lexeme} {deeper ends : Prop} (htail : IsTail tail)

include htail

/-- Queries, where nothing is left only if nothing follows. -/
lemma reads_query {depth depth' : Nat} (hdepth : depth ≤ depth') :
    ReadsAlike layout tail deeper (tail = []) (readQuery layout depth)
      (readQuery layout depth') := by
  induction depth generalizing depth' with
  | zero => exact fun _ _ ls _ => .refuse
  | succ depth ih =>
    obtain ⟨depth', rfl⟩ := Nat.exists_eq_succ_of_ne_zero (by omega : depth' ≠ 0)
    have hinner := ih (Nat.le_of_succ_le_succ hdepth)
    intro n n' ls hdeeper
    refine reads_joined htail hdeeper (fun _ _ ls hdeeper => ?_) (by rintro ⟨⟩) ls
    refine reads_joined htail hdeeper (fun _ _ ls hdeeper => ?_) (fun _ h => h) ls
    exact reads_joined htail hdeeper (fun _ _ ls hdeeper => reads_part htail hdeeper hinner ls)
      (by rintro ⟨⟩) ls

/-- What may be joined by `NOT` is read alike whatever follows. -/
lemma reads_factor {depth depth' : Nat} (hdepth : depth ≤ depth') :
    ReadsAlike layout tail deeper ends (readFactor layout depth) (readFactor layout depth') :=
  fun _ _ ls hdeeper => reads_joined htail hdeeper (fun _ _ ls hdeeper =>
    reads_part htail hdeeper (reads_query htail hdepth) ls) (by rintro ⟨⟩) ls

end

/-- A query is refused for a column that it misses only if the layout lacks it. -/
theorem Query.ofLexemes_due {layout : Layout} {ls : List Lexeme} {f : QueryFault}
    (h : Query.ofLexemes layout ls = .error f) (hls : ∀ g, .bad g ∈ ls → IsDue layout g) :
    IsDue layout f := by
  have hread := @reads_query layout [] True (.inl rfl) (ls.length + 1) _ le_rfl 0 0 ls
    fun _ => trivial
  unfold Query.ofLexemes at h
  cases hq : readQuery layout (ls.length + 1) 0 ls with
  | error e =>
    rw [hq] at h
    cases h
    exact hread.due _ hq hls
  | ok p =>
    obtain ⟨q, rest⟩ := p
    rw [hq] at h
    simp only [bind, Except.bind] at h
    split_ifs at h
    exact refuse_due h fun g hg => hls g ((hread.took q rest hq).mem hg)

end EntityFinder.FullText
