import EntityFinder.CommandLine.Invocation
import EntityFinder.Proofs.Printing.Texts
import EntityFinder.Proofs.TableNames

set_option autoImplicit false

/-!
# How command lines are read

A word that does not begin with a hyphen is a positional word or the value that is waited for. So
the pairs behind the name of an entity are read one after the other, each cut at its first equals
sign.

## Main definitions

* `EntityFinder.CommandLine.placed`: words with a directory and a file named before them.
* `EntityFinder.CommandLine.putWords`, `EntityFinder.CommandLine.getWords`,
  `EntityFinder.CommandLine.allWords`: the words of commands on nodes.

## Main results

* `EntityFinder.CommandLine.readPair?_eq`: how a pair is cut.
* `EntityFinder.CommandLine.ofArguments_put`, `EntityFinder.CommandLine.ofArguments_get`,
  `EntityFinder.CommandLine.ofArguments_all`: what such words ask for.
-/

namespace EntityFinder.CommandLine

/-! ## Words -/

/-- Words with a directory of schemas and a file of nodes named before them. -/
def placed (dir db : String) (words : List String) : List String :=
  ("--schema-dir=" ++ dir) :: ("--db=" ++ db) :: words

/-- The words of a pair. -/
def pairWords (pair : String × String) : List String :=
  ["-s", pair.1 ++ "=" ++ pair.2]

/-- The words that ask for a node to be stored. -/
def putWords (entity : String) (pairs : List (String × String)) : List String :=
  "put" :: entity :: pairs.flatMap pairWords

/-- The words that ask for the node with a number. -/
def getWords (entity : String) (id : Int) : List String :=
  ["get", entity, String.ofList (Json.integer id)]

/-- The words that ask for all nodes of an entity. -/
def allWords (entity : String) : List String :=
  ["all", entity]

/-! ## Numbers -/

/-- Digits are read as the number that they stand for, if this is in the range. -/
lemma readDigits_eq_ok {limit : Nat} {excess : NumberFault} {ds : List Char} {value : Nat}
    (hdigits : ∀ c ∈ ds, c.isDigit = true)
    (hlimit : ds.foldl (fun n d => n * 10 + (d.toNat - 48)) value ≤ limit) :
    readDigits limit excess value ds =
      .ok (ds.foldl (fun n d => n * 10 + (d.toNat - 48)) value) := by
  have hgrows : ∀ (ds : List Char) (value : Nat),
      value ≤ ds.foldl (fun n d => n * 10 + (d.toNat - 48)) value := by
    intro ds
    induction ds with
    | nil => exact fun value => le_refl value
    | cons c ds ih =>
      intro value
      exact le_trans (by omega) (ih (value * 10 + (c.toNat - 48)))
  induction ds generalizing value with
  | nil => rfl
  | cons c ds ih =>
    rw [List.foldl_cons] at hlimit ⊢
    rw [readDigits, if_pos (hdigits c (.head _))]
    simp only
    rw [if_pos (le_trans (hgrows ds _) hlimit)]
    exact ih (fun d hd => hdigits d (.tail _ hd)) hlimit

/-- The digits of a number are read as this number. -/
lemma readNumber_integer {id : Int} (h₀ : 0 ≤ id) (h : id ≤ Json.maxId) :
    readNumber (String.ofList (Json.integer id)) = .ok id := by
  have hdigits : ∀ c ∈ Nat.toDigits 10 id.natAbs, c.isDigit = true := fun c hc =>
    Nat.isDigit_of_mem_toDigits (by decide) (by decide) hc
  have hread : readDigits Json.maxId.natAbs .tooLarge 0 (Nat.toDigits 10 id.natAbs) =
      .ok id.natAbs := by
    have hvalue := Json.digitsValue_toDigits id.natAbs
    rw [Json.Numeral.digitsValue] at hvalue
    rw [readDigits_eq_ok hdigits (by rw [hvalue]; omega), hvalue]
  rw [readNumber, String.toList_ofList, Json.integer, if_neg (by omega)]
  split
  · next hnil => exact absurd hnil Nat.toDigits_ne_nil
  · next hplus => exact absurd (hdigits '+' (by simp [hplus])) (by decide)
  · next hminus => exact absurd (hdigits '-' (by simp [hminus])) (by decide)
  · next hminus => exact absurd (hdigits '-' (by simp [hminus])) (by decide)
  · next hplus => exact absurd (hdigits '+' (by simp [hplus])) (by decide)
  · rw [hread]
    exact congrArg Except.ok (Int.natAbs_of_nonneg h₀)

/-! ## Pairs -/

/-- A text is cut at its first equals sign. -/
lemma span_equals {name : List Char} (value : List Char) (hname : '=' ∉ name) :
    (name ++ '=' :: value).span (· != '=') = (name, '=' :: value) := by
  have hnot : ∀ c ∈ name, (c != '=') = true := fun c hc =>
    bne_iff_ne.mpr (ne_of_mem_of_not_mem hc hname)
  rw [List.span_eq_takeWhile_dropWhile, List.takeWhile_append_of_pos hnot,
    List.dropWhile_append_of_pos hnot]
  simp

/-- The name of a pair is trimmed, and its value is taken as it is. -/
theorem readPair?_eq {name : String} (value : String) (hname : '=' ∉ name.toList)
    (hblank : Text.trim name ≠ "") :
    readPair? (name ++ "=" ++ value) = some (Text.trim name, value) := by
  have hlist : (name ++ "=" ++ value).toList = name.toList ++ '=' :: value.toList := by simp
  simp only [readPair?, hlist, span_equals _ hname, String.ofList_toList, if_neg hblank]

/-- The name and the value of a pair that can be read as the value of an option. -/
structure IsPair (pair : String × String) : Prop where
  /-- The name has no equals sign. -/
  name : '=' ∉ pair.1.toList
  /-- It is not blank. -/
  nonblank : Text.trim pair.1 ≠ ""
  /-- It is no option. -/
  plain : pair.1.toList.head? ≠ some '-'

/-- A pair as it is read. -/
def trimmed (pair : String × String) : String × String :=
  (Text.trim pair.1, pair.2)

/-! ## Scanning -/

variable {level : Level} {s s' : Scan} {w : String}

/-- A word that does not begin with a hyphen is a value that is waited for, or a positional word. -/
lemma word_eq_plain (h : w.toList.head? ≠ some '-') (ht : s.trailing = false) :
    s.word level w = s.plain w := by
  rw [Scan.word, if_neg (by simp [ht])]
  split
  · next hw => simp [hw] at h
  · next hw => simp [hw] at h
  · next hw => simp [hw] at h
  · rfl

/-- A word that is not the name of a command is read, and then those behind it. -/
lemma scan_cons (hcommand : s.isCommand level w = false) (hw : s.word level w = .ok s')
    (rest : List String) : scan level s (w :: rest) = scan level s' rest := by
  rw [scan, if_neg (by simp [hcommand]), hw]
  rfl

/-- No other command follows the name of a command. -/
lemma isCommand_eq_false (hlevel : level.commands = []) (s : Scan) (w : String) :
    s.isCommand level w = false := by
  simp [Scan.isCommand, hlevel]

/-- Pairs are read one after the other. -/
lemma exists_scan_pairs {pairs : List (String × String)} (hpairs : ∀ pair ∈ pairs, IsPair pair)
    {g : Gathered} (hs : s.settle = .ok g) (hpositionals : s.positionals = [])
    (htrailing : s.trailing = false) : ∃ s',
    scan (innerLevel "put") s (pairs.flatMap pairWords) = .ok (s', none) ∧
      s'.settle = .ok { g with pairs := g.pairs ++ pairs.map trimmed } := by
  induction pairs generalizing s g with
  | nil => exact ⟨s, rfl, by simpa using hs⟩
  | cons pair pairs ih =>
    obtain ⟨name, value⟩ := pair
    have hpair := hpairs _ (.head _)
    -- first the option is read, and then its value
    have hoption : s.word (innerLevel "put") "-s" =
        .ok { s with gathered := g, pending := some (.opened .set) } := by
      have hword : s.word (innerLevel "put") "-s" = s.next (.opened .set) := by
        rw [Scan.word, if_neg (by simp [htrailing])]
        rfl
      rw [hword, Scan.next, hs]
      rfl
    have hfirst : (name ++ "=" ++ value).toList.head? ≠ some '-' := by
      have hplain := hpair.plain
      rw [String.toList_append, String.toList_append, List.append_assoc]
      cases hname : name.toList with
      | nil => simp
      | cons c cs =>
        simp only [hname] at hplain
        simpa using hplain
    have hvalue : ({ s with gathered := g, pending := some (.opened .set) } : Scan).word
        (innerLevel "put") (name ++ "=" ++ value) =
          .ok { s with gathered := g, pending := some (.valued .set (name ++ "=" ++ value)) } := by
      refine (word_eq_plain hfirst ?_).trans rfl
      exact htrailing
    have hsettle : ({ s with
        gathered := g
        pending := some (.valued .set (name ++ "=" ++ value)) } : Scan).settle =
          .ok { g with pairs := g.pairs ++ [trimmed (name, value)] } := by
      change g.addPair .set (name ++ "=" ++ value) = _
      rw [Gathered.addPair, readPair?_eq value hpair.name hpair.nonblank]
      rfl
    obtain ⟨s', hscan, hs'⟩ := ih (fun p hp => hpairs p (.tail _ hp)) hsettle hpositionals htrailing
    refine ⟨s', ?_, ?_⟩
    · rw [List.flatMap_cons, pairWords, List.cons_append, List.cons_append, List.nil_append,
        scan_cons (isCommand_eq_false rfl _ _) hoption,
        scan_cons (isCommand_eq_false rfl _ _) hvalue]
      exact hscan
    · rw [hs', List.map_cons, List.append_assoc, List.singleton_append]

/-- A word that begins with a hyphen is not the name of a command. -/
lemma isCommand_option (h : w.toList.head? = some '-') (s : Scan) :
    s.isCommand outerLevel w = false := by
  have hnot : outerLevel.commands.contains w = false := by
    rw [Bool.eq_false_iff]
    intro hmem
    have hall : ∀ c ∈ outerLevel.commands, c.toList.head? ≠ some '-' := by decide
    exact hall w (by simpa using hmem) h
  rw [Scan.isCommand, hnot, Bool.and_false]

/-- A long option with its value is read. -/
lemma word_eq_long {name : String} (value : String) (hname : '=' ∉ name.toList)
    (ht : s.trailing = false) :
    s.word level ("--" ++ name ++ "=" ++ value) = s.long level name (some value) := by
  have hlist : ("--" ++ name ++ "=" ++ value).toList =
      '-' :: '-' :: (name.toList ++ '=' :: value.toList) := by simp
  rw [Scan.word, if_neg (by simp [ht]), hlist]
  split
  · next heq => simp at heq
  · next rest _ heq =>
    obtain rfl : name.toList ++ '=' :: value.toList = rest := by simpa using heq
    simp only [span_equals _ hname, String.ofList_toList]
  · next _ hc heq => exact (hc (List.cons.inj (List.cons.inj heq).2).1.symm).elim
  · next h _ => exact absurd rfl (h _)

/-- The name of a directory and of a file are read before the name of the command. -/
lemma scan_placed {dir db name : String} (hdir : dir ≠ "") (hdb : db ≠ "")
    (hname : name ∈ commandNames) (rest : List String) :
    scan outerLevel (.start outerLevel) (placed dir db (name :: rest)) =
      .ok (⟨{ Gathered.nothing with schemaDir := some dir, db := some db }, none, [], false⟩,
        some (name, rest)) := by
  have hfirst : (Scan.start outerLevel).word outerLevel ("--schema-dir=" ++ dir) =
      .ok ⟨{ Gathered.nothing with schemaDir := some dir }, none, [], false⟩ := by
    have hword : "--schema-dir=" ++ dir = "--" ++ "schema-dir" ++ "=" ++ dir := by simp
    have hattached : (Scan.start outerLevel).long outerLevel "schema-dir" (some dir) =
        (Scan.start outerLevel).attached .schemaDir dir := rfl
    rw [hword, word_eq_long dir (by decide) rfl, hattached]
    simp only [Scan.attached, Scan.settle, Scan.start, Gathered.addValue, Gathered.nothing, bind,
      Except.bind, Option.isSome_none, Bool.false_eq_true, hdir, or_self, if_false]
    rfl
  have hsecond : (⟨{ Gathered.nothing with schemaDir := some dir }, none, [], false⟩ : Scan).word
      outerLevel ("--db=" ++ db) =
        .ok ⟨{ Gathered.nothing with schemaDir := some dir, db := some db }, none, [], false⟩ := by
    have hword : "--db=" ++ db = "--" ++ "db" ++ "=" ++ db := by simp
    have hattached : (⟨{ Gathered.nothing with schemaDir := some dir }, none, [], false⟩ :
        Scan).long outerLevel "db" (some db) =
          (⟨{ Gathered.nothing with schemaDir := some dir }, none, [], false⟩ : Scan).attached
            .db db := rfl
    rw [hword, word_eq_long db (by decide) rfl, hattached]
    simp only [Scan.attached, Scan.settle, Gathered.addValue, Gathered.nothing, bind,
      Except.bind, Option.isSome_none, Bool.false_eq_true, hdb, or_self, if_false]
  have hcommand : (⟨{ Gathered.nothing with schemaDir := some dir, db := some db }, none, [],
      false⟩ : Scan).isCommand outerLevel name = true := by
    have hmem : outerLevel.commands.contains name = true := by
      simpa [outerLevel] using Or.inr hname
    rw [Scan.isCommand, hmem]
    rfl
  rw [placed, scan_cons (isCommand_option (by simp) _) hfirst,
    scan_cons (isCommand_option (by simp) _) hsecond, scan, if_pos hcommand]

/-! ## Commands on nodes -/

/-- A command line names a directory and a file, and then a command that its words stand for. -/
lemma ofArguments_placed {dir db name : String} (hdir : dir ≠ "") (hdb : db ≠ "")
    (hname : name ∈ commandNames) {words : List String} {s : Scan} {g : Gathered} {c : Command}
    (hscan : scan (innerLevel name) (.start (innerLevel name)) words = .ok (s, none))
    (hsettle : s.settle = .ok g) (hplaces : g.schemaDir = none ∧ g.db = none)
    (hcommand : commandOf name g = .ok c) :
    Invocation.ofArguments (placed dir db (name :: words)) = .ok ⟨dir, db, c⟩ := by
  have hhelp : name ≠ helpCommand := ne_of_mem_of_not_mem hname (by decide)
  simp only [Invocation.ofArguments, scan_placed hdir hdb hname, bind, Except.bind, if_neg hhelp,
    hscan, hsettle, hcommand, hplaces.1, hplaces.2]
  rfl

/-- The name of an entity is a positional word. -/
lemma word_entity {entity : String} (he : Text.isIdentifier entity = true) {k : Positional}
    {rest : List Positional} (hlevel : level.positionals = k :: rest) :
    (Scan.start level).word level entity =
      .ok ⟨.nothing, some (.word k entity), rest, false⟩ := by
  have hfirst : entity.toList.head? ≠ some '-' := by
    intro hhead
    have hpart := Text.all_isIdentifierPart he '-' (List.mem_of_mem_head? hhead)
    exact absurd hpart (by decide)
  rw [word_eq_plain hfirst rfl, Scan.start, hlevel]
  rfl

variable {dir db entity : String} (hdir : dir ≠ "") (hdb : db ≠ "")
  (he : Text.isIdentifier entity = true)

include hdir hdb he

/-- Pairs behind the name of an entity ask for a node to be stored. -/
theorem ofArguments_put {pairs : List (String × String)} (hpairs : ∀ pair ∈ pairs, IsPair pair) :
    Invocation.ofArguments (placed dir db (putWords entity pairs)) =
      .ok ⟨dir, db, .put entity (pairs.map trimmed)⟩ := by
  have hword := @word_entity (innerLevel "put") entity he .word [] rfl
  obtain ⟨s, hscan, hsettle⟩ := @exists_scan_pairs
    ⟨.nothing, some (.word .word entity), [], false⟩ pairs hpairs
    { Gathered.nothing with words := [entity] } rfl rfl rfl
  refine ofArguments_placed hdir hdb (by decide) ?_ hsettle ⟨rfl, rfl⟩ rfl
  rw [scan_cons (isCommand_eq_false rfl _ _) hword, hscan]

/-- A number behind the name of an entity asks for the node with this number. -/
theorem ofArguments_get {id : Int} (h₀ : 0 ≤ id) (h : id ≤ Json.maxId) :
    Invocation.ofArguments (placed dir db (getWords entity id)) =
      .ok ⟨dir, db, .get entity id⟩ := by
  have hword := @word_entity (innerLevel "get") entity he .word [.id] rfl
  have hfirst : (String.ofList (Json.integer id)).toList.head? ≠ some '-' := by
    rw [String.toList_ofList, Json.integer, if_neg (by omega)]
    intro hhead
    have hdigit := Nat.isDigit_of_mem_toDigits (by decide) (by decide) (List.mem_of_mem_head? hhead)
    exact absurd hdigit (by decide)
  have hnumber : (⟨.nothing, some (.word .word entity), [.id], false⟩ : Scan).word
      (innerLevel "get") (String.ofList (Json.integer id)) =
        .ok ⟨{ Gathered.nothing with words := [entity] },
          some (.word .id (String.ofList (Json.integer id))), [], false⟩ :=
    (word_eq_plain hfirst rfl).trans rfl
  have hscan : scan (innerLevel "get") (.start (innerLevel "get"))
      [entity, String.ofList (Json.integer id)] = .ok (⟨{ Gathered.nothing with words := [entity] },
        some (.word .id (String.ofList (Json.integer id))), [], false⟩, none) := by
    rw [scan_cons (isCommand_eq_false rfl _ _) hword,
      scan_cons (isCommand_eq_false rfl _ _) hnumber]
    rfl
  have hsettle : (⟨{ Gathered.nothing with words := [entity] },
      some (.word .id (String.ofList (Json.integer id))), [], false⟩ : Scan).settle =
        .ok { Gathered.nothing with words := [entity], id := some id } := by
    simp only [Scan.settle, Gathered.addWord, readNumber_integer h₀ h]
  exact ofArguments_placed hdir hdb (by decide) hscan hsettle ⟨rfl, rfl⟩ rfl

/-- The name of an entity alone asks for all of its nodes. -/
theorem ofArguments_all :
    Invocation.ofArguments (placed dir db (allWords entity)) = .ok ⟨dir, db, .all entity⟩ := by
  have hword := @word_entity (innerLevel "all") entity he .word [] rfl
  have hscan : scan (innerLevel "all") (.start (innerLevel "all")) [entity] =
      .ok (⟨.nothing, some (.word .word entity), [], false⟩, none) := by
    rw [scan_cons (isCommand_eq_false rfl _ _) hword]
    rfl
  exact ofArguments_placed hdir hdb (by decide) hscan
    (g := { Gathered.nothing with words := [entity] }) rfl ⟨rfl, rfl⟩ rfl

end EntityFinder.CommandLine
