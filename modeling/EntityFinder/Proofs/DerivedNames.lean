import EntityFinder.Proofs.Intact.Tables
import EntityFinder.Proofs.Isolation

set_option autoImplicit false

/-!
# Names that are made from those of entities

An entity gives its name to a table, to the triggers of that table and to the parts that the table is
kept in. All of them stand beside each other, and names that differ only in the case of letters are
one. Tables and triggers of different entities never meet. A table and a part do: what a capital is
written as is what joins the name of a part to that of its table.

## Main definitions

* `EntityFinder.NodeEvent.triggerName`: the trigger of a table for a change.
* `EntityFinder.Database.Part.ending`: how the name of an entity ends whose table can be taken for a
  part of another one.

## Main results

* `EntityFinder.IndexConfig.names_meet_iff`: two tables or triggers have one name only if they are
  one.
* `EntityFinder.StoreRun.trigger?_eq_find?`: so a trigger is found by its name, whatever the case of
  its letters.
* `EntityFinder.IndexConfig.table_meets_part_iff`: the tables that have the name of a part.
* `EntityFinder.IndexConfig.apart_iff`: the entities that do not get in each other's way.
-/

namespace EntityFinder

/-! ## Case -/

namespace Text

/-- A composed text is put in lower case piece by piece. -/
lemma lowerAscii_append (s t : String) : lowerAscii (s ++ t) = lowerAscii s ++ lowerAscii t := by
  simp [lowerAscii, String.toList_append, String.ofList_append]

/-- A text without capitals is in lower case. -/
lemma lowerAscii_eq_self {s : String} (h : ∀ c ∈ s.toList, c.isUpper = false) :
    lowerAscii s = s := by
  have hsame : ∀ c ∈ s.toList, c.toLower = c := by
    intro c hc
    rw [Char.toLower, dif_neg]
    intro hupper
    have hno := h c hc
    simp only [Char.isUpper, decide_eq_false_iff_not] at hno
    exact hno hupper
  rw [lowerAscii, List.map_congr_left hsame, List.map_id', String.ofList_toList]

/-- Two names are one if they agree in lower case. -/
lemma sameName_iff {a b : String} : sameName a b = true ↔ lowerAscii a = lowerAscii b :=
  beq_iff_eq

/-- The lower-case form of a character of identifiers is no capital. -/
lemma not_isUpper_toLower {c : Char} (h : isIdentifierPart c = true) : c.toLower.isUpper = false :=
  forall_ascii (p := fun c => c.toLower.isUpper = false) (by decide)
    (toNat_lt_of_isIdentifierPart h)

end Text

open Text

/-! ## Tables -/

namespace IndexConfig

/-- There is no capital in what an entity is written as. -/
lemma not_isUpper_of_mem_escapeEntity {entity : List Char}
    (h : ∀ c ∈ entity, isIdentifierPart c = true) :
    ∀ c ∈ escapeEntity entity, c.isUpper = false := by
  intro x hx
  obtain ⟨c, hc, hx⟩ := List.mem_flatMap.mp hx
  have hpart := h c hc
  simp only [escapeChar, isUpper_eq_of_isIdentifierPart hpart,
    lower_eq_of_isIdentifierPart hpart] at hx
  split_ifs at hx with hunderscore hupper
  · simp only [List.mem_cons, List.not_mem_nil, or_false, or_self] at hx
    subst hx
    decide
  · simp only [List.mem_cons, List.not_mem_nil, or_false] at hx
    rcases hx with rfl | rfl
    · decide
    · exact not_isUpper_toLower hpart
  · rw [List.mem_singleton.mp hx]
    simpa using hupper

variable {config : IndexConfig} {a b : String}

/-- Names that are made from those of tables are one if what the entities are written as, and what
stands behind it, agree. -/
lemma sameName_tableName_append (ha : IsEntityName a) (hb : IsEntityName b) {s t : String}
    (hs : lowerAscii s = s) (ht : lowerAscii t = t) :
    sameName (config.tableName a ++ s) (config.tableName b ++ t) = true ↔
      escapeEntity a.toList ++ s.toList = escapeEntity b.toList ++ t.toList := by
  have hlower : ∀ {e s : String}, IsEntityName e → lowerAscii s = s →
      lowerAscii (config.tableName e ++ s) =
        lowerAscii (config.tablePrefix ++ "_") ++ String.ofList (escapeEntity e.toList ++ s.toList) := by
    intro e s he hs
    have hescaped : lowerAscii (String.ofList (escapeEntity e.toList)) =
        String.ofList (escapeEntity e.toList) := by
      refine lowerAscii_eq_self fun c hc => ?_
      rw [String.toList_ofList] at hc
      exact not_isUpper_of_mem_escapeEntity (all_isIdentifierPart he.isIdentifier) c hc
    rw [tableName, lowerAscii_append, lowerAscii_append, hescaped, hs, String.ofList_append,
      String.ofList_toList, String.append_assoc]
  rw [sameName_iff, hlower ha hs, hlower hb ht, String.append_right_inj]
  exact ⟨fun h => by simpa using congrArg String.toList h, congrArg String.ofList⟩

/-- Two entities are written alike only if they are one. -/
lemma escapeEntity_inj (ha : IsEntityName a) (hb : IsEntityName b) :
    escapeEntity a.toList = escapeEntity b.toList ↔ a = b := by
  constructor
  · intro h
    exact String.toList_inj.mp (escapeEntity_injective (all_isIdentifierPart ha.isIdentifier)
      (all_isIdentifierPart hb.isIdentifier) h)
  · rintro rfl
    rfl

end IndexConfig

/-! ## Triggers -/

/-- The letters that stand for a change in the name of a trigger. -/
def NodeEvent.code : NodeEvent → String
  | insert => "ai"
  | update => "au"
  | delete => "ad"

/-- The name of the trigger of a table for a change. -/
def NodeEvent.triggerName (table : String) (event : NodeEvent) : String :=
  table ++ "_" ++ event.code

namespace IndexConfig

variable {config : IndexConfig} {a b : String}

/-- Two triggers have one name, case apart, only if they are one. -/
lemma sameName_triggerName (ha : IsEntityName a) (hb : IsEntityName b) (event event' : NodeEvent) :
    sameName (event.triggerName (config.tableName a)) (event'.triggerName (config.tableName b)) =
      true ↔ a = b ∧ event = event' := by
  have hlower : ∀ event : NodeEvent, lowerAscii ("_" ++ event.code) = "_" ++ event.code := by
    intro event
    cases event <;> decide
  have hlength : ∀ event : NodeEvent, ("_" ++ event.code).toList.length = 3 := by
    intro event
    cases event <;> decide
  have hcode : ∀ event event' : NodeEvent,
      ("_" ++ event.code).toList = ("_" ++ event'.code).toList → event = event' := by
    intro event event'
    cases event <;> cases event' <;> decide
  rw [NodeEvent.triggerName, NodeEvent.triggerName, String.append_assoc, String.append_assoc,
    sameName_tableName_append ha hb (hlower event) (hlower event')]
  constructor
  · intro h
    obtain ⟨hentity, hevent⟩ := List.append_inj' h (by rw [hlength, hlength])
    exact ⟨(escapeEntity_inj ha hb).mp hentity, hcode event event' hevent⟩
  · rintro ⟨rfl, rfl⟩
    rfl

/-- **Names of tables and triggers never meet.** Whatever the tables begin with, two tables have one
name, case apart, only if they are those of one entity, and two triggers only if they also wait for
one change. If the tables begin with an identifier, then all these names are identifiers. -/
theorem names_meet_iff (config : IndexConfig) {a b : String} (ha : IsEntityName a)
    (hb : IsEntityName b) :
    (sameName (config.tableName a) (config.tableName b) = true ↔ a = b) ∧
    (∀ event event' : NodeEvent,
      sameName (event.triggerName (config.tableName a)) (event'.triggerName (config.tableName b)) =
        true ↔ a = b ∧ event = event') ∧
    (isIdentifier config.tablePrefix = true → isIdentifier (config.tableName a) = true ∧
      ∀ event : NodeEvent, isIdentifier (event.triggerName (config.tableName a)) = true) := by
  refine ⟨?_, sameName_triggerName ha hb, fun hpre => ?_⟩
  · have hmeet := @sameName_tableName_append config a b ha hb "" "" rfl rfl
    rwa [String.append_empty, String.append_empty, String.toList_empty, List.append_nil,
      List.append_nil, escapeEntity_inj ha hb] at hmeet
  · have htable := isIdentifier_tableName hpre ha
    refine ⟨htable, fun event => ?_⟩
    rw [NodeEvent.triggerName, String.append_assoc]
    refine isIdentifier_append htable (List.all_eq_true.mp ?_)
    cases event <;> decide

/-- Two entities that would be one if capitals were only put in lower case, or if only underscores
were doubled: their tables and triggers keep apart. -/
theorem names_meet_iff_underscored :
    sameName (standard.tableName "a_b") (standard.tableName "aB") = false ∧
      sameName (NodeEvent.triggerName (standard.tableName "a_b") .insert)
        (NodeEvent.triggerName (standard.tableName "aB") .insert) = false ∧
      isIdentifier (NodeEvent.triggerName (standard.tableName "a_b") .delete) = true := by
  have ha : IsEntityName "a_b" := by rw [IsEntityName]; decide
  have hb : IsEntityName "aB" := by rw [IsEntityName]; decide
  obtain ⟨htables, htriggers, hidentifiers⟩ := names_meet_iff standard ha hb
  refine ⟨Bool.eq_false_iff.mpr fun h => ?_, Bool.eq_false_iff.mpr fun h => ?_,
    (hidentifiers (by decide)).2 .delete⟩
  · exact absurd (htables.mp h) (by decide)
  · exact absurd ((htriggers .insert .insert).mp h).1 (by decide)

end IndexConfig

/-- **A trigger is found by its name**, whatever the case of its letters: after every run, the trigger
of a table for a change is the one whose name is that of the table with the letters of the change. -/
theorem StoreRun.trigger?_eq_find? {config : IndexConfig} {events : List StoreEvent} {s : NodeStore}
    (hpre : isIdentifier config.tablePrefix = true) (hrun : StoreRun config events s) {e : String}
    (he : IsEntityName e) (event : NodeEvent) :
    s.database.trigger? (config.tableName e) event = s.database.triggers.find? fun t =>
      sameName (t.event.triggerName t.table) (event.triggerName (config.tableName e)) := by
  have hnamed := (hrun.wellKept hpre).2.triggers.named
  rw [Database.trigger?]
  refine List.find?_congr fun t ht => ?_
  obtain ⟨hentity, htable⟩ := hnamed t ht
  rw [htable, Bool.eq_iff_iff, IndexConfig.sameName_triggerName hentity he, Bool.and_eq_true,
    beq_iff_eq, beq_iff_eq]
  exact and_congr_left fun _ => ⟨IndexConfig.tableName_injective config hentity he,
    congrArg config.tableName⟩

/-! ## Parts -/

namespace Database.Part

/-- How the name of an entity ends whose table has the name of a part of another one. -/
def ending : Part → String
  | data => "Data"
  | idx => "Idx"
  | content => "Content"
  | docsize => "Docsize"
  | config => "Config"

/-- An ending is written as what joins the word of the part to the name of a table. -/
lemma escapeEntity_ending (p : Part) :
    IndexConfig.escapeEntity p.ending.toList = ("_" ++ p.word).toList := by
  cases p <;> decide

end Database.Part

namespace IndexConfig

open Database (Part)

variable {config : IndexConfig} {a b : String}

/-- With the ending of a part an entity has a table of the name of this part. -/
lemma tableName_append_ending (config : IndexConfig) (e : String) (p : Part) :
    config.tableName (e ++ p.ending) = p.tableName (config.tableName e) := by
  have hwritten : escapeEntity (e ++ p.ending).toList =
      escapeEntity e.toList ++ ("_" ++ p.word).toList := by
    rw [String.toList_append, ← p.escapeEntity_ending]
    exact List.flatMap_append
  rw [tableName, hwritten, String.ofList_append, String.ofList_toList, Part.tableName, tableName,
    ← String.append_assoc, ← String.append_assoc]

/-- **When a table has the name of a part of another one.** The capital of an ending is written as the
underscore in front of the word of a part. So whatever the tables begin with, that of an entity has,
case apart, the name of a part of the table of another one exactly if the entity has the name of the
other one with the ending of this part. -/
theorem table_meets_part_iff (config : IndexConfig) {a b : String} (ha : IsEntityName a)
    (hb : IsEntityName b) (p : Part) :
    sameName (config.tableName a) (p.tableName (config.tableName b)) = true ↔
      a = b ++ p.ending := by
  have hlower : lowerAscii ("_" ++ p.word) = "_" ++ p.word := by cases p <;> decide
  have hending : p.ending.toList.all isIdentifierPart = true := by cases p <;> decide
  have hall : ∀ c ∈ (b ++ p.ending).toList, isIdentifierPart c = true := by
    intro c hc
    rw [String.toList_append] at hc
    exact (List.mem_append.mp hc).elim (all_isIdentifierPart hb.isIdentifier c)
      (List.all_eq_true.mp hending c)
  constructor
  · have hmeet := @sameName_tableName_append config a b ha hb "" ("_" ++ p.word) rfl hlower
    rw [String.append_empty, String.toList_empty, List.append_nil, ← p.escapeEntity_ending,
      ← String.append_assoc] at hmeet
    intro h
    have hwritten : escapeEntity a.toList = escapeEntity (b ++ p.ending).toList := by
      rw [String.toList_append]
      exact (hmeet.mp h).trans List.flatMap_append.symm
    exact String.toList_inj.mp
      (escapeEntity_injective (all_isIdentifierPart ha.isIdentifier) hall hwritten)
  · rintro rfl
    rw [tableName_append_ending, sameName_iff]

/-- The table of an entity `FilmConfig` has the name of the settings of films, but not that of the
settings of an entity `film`. -/
theorem table_meets_part_iff_film :
    sameName (standard.tableName "FilmConfig") (Part.config.tableName (standard.tableName "Film")) =
        true ∧
      sameName (standard.tableName "FilmConfig")
        (Part.config.tableName (standard.tableName "film")) = false := by
  have ha : IsEntityName "FilmConfig" := by rw [IsEntityName]; decide
  have hb : IsEntityName "Film" := by rw [IsEntityName]; decide
  have hc : IsEntityName "film" := by rw [IsEntityName]; decide
  refine ⟨(table_meets_part_iff standard ha hb .config).mpr (by decide),
    Bool.eq_false_iff.mpr fun h => ?_⟩
  exact absurd ((table_meets_part_iff standard ha hc .config).mp h) (by decide)

/-- **The table of one entity is taken for a part of that of another one.** Both names are accepted,
and once both entities have been prepared the table of the first one has lost its words. -/
theorem exists_taken_part :
    IsEntityName "Foo" ∧ IsEntityName "FooData" ∧
      sameName (standard.tableName "FooData") (Part.data.tableName (standard.tableName "Foo")) =
        true ∧
      ∃ s, StoreRun standard [.call (.index (.searchable "FooData" ["x"])),
          .call (.index (.searchable "Foo" ["a"]))] s ∧
        (s.database.table? (standard.tableName "Foo")).map (·.lost) = some [.data] := by
  refine ⟨by rw [IsEntityName]; decide, by rw [IsEntityName]; decide, by decide,
    _, .of_own standard (by simp [StoreEvent.IsOwn]), ?_⟩
  decide +kernel

/-- **When entities do not get in each other's way**: the tables of some entities are apart from each
other's parts exactly if no entity has the name of another one with the ending of a part. -/
theorem apart_iff {config : IndexConfig} {entities : String → Prop} : config.Apart entities ↔
    ∀ a b, entities a → entities b → IsEntityName a → IsEntityName b →
      ∀ p : Part, b ≠ a ++ p.ending := by
  constructor
  · rintro h a b ha hb hvalid hvalid' p rfl
    exact h a _ ha hb hvalid hvalid' p (config.tableName_append_ending a p)
  · intro h a b ha hb hvalid hvalid' p heq
    refine h a b ha hb hvalid hvalid' p ((table_meets_part_iff config hvalid' hvalid p).mp ?_)
    rw [heq, sameName_iff]

end IndexConfig

end EntityFinder
