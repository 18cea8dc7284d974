import EntityFinder.Proofs.Contents
import EntityFinder.Proofs.Intact.Tables
import EntityFinder.Proofs.Upkeep.Rows

set_option autoImplicit false

/-!
# Tables and the parts of others

Two tables cannot stand under one name. So a table has the name of a part of another one only if that
one has lost the part, whatever the names of the entities are. Once a table has been dropped nothing
stands under its name any more.

## Main definitions

* `EntityFinder.Database.Separate`: no table stands where another one has a part.

## Main results

* `EntityFinder.IndexPlan.ends_rebuild_separate`, `EntityFinder.IndexPlan.ends_ensure_separate`:
  setups keep tables and parts apart, however they end.
* `EntityFinder.StoreRun.separate`: so does every run.
* `EntityFinder.Database.Separate.relation?_of_dropTable`: where a table stood, nothing stands.
-/

namespace EntityFinder

open EntityFinder.Action (Ends)

namespace Database

/-- A table has the name of a part of another one only if that one lacks the part. -/
def Separate (d : Database) : Prop :=
  ∀ o ∈ d.tables, ∀ t ∈ d.tables, ∀ p : Part, t.name = p.tableName o.name → o.lacks p = true

variable {config : IndexConfig} {d d' : Database}

/-! ## Names that are free -/

/-- Nothing stands under a name that no table has, and no part that is not lost. -/
lemma relation?_eq_none_iff {name : String} :
    d.relation? name = none ↔ (∀ t ∈ d.tables, t.name ≠ name) ∧
      ∀ o ∈ d.tables, ∀ p : Part, p.tableName o.name = name → o.lacks p = true := by
  have htable : d.table? name = none ↔ ∀ t ∈ d.tables, t.name ≠ name := by
    simp [table?, List.find?_eq_none]
  have hall : ∀ p : Part, p ∈ Part.all := by
    intro p
    cases p <;> decide
  have hpart : d.partAt? name = none ↔
      ∀ o ∈ d.tables, ∀ p : Part, p.tableName o.name = name → o.lacks p = true := by
    simp [partAt?, List.findSome?_eq_none_iff, List.find?_eq_none, hall]
  rw [← htable, ← hpart, relation?]
  cases d.table? name with
  | some t => simp
  | none => simp

/-- A part that stands under a name has this name. -/
lemma tableName_of_relation? {name : String} {t : IndexTable} {p : Part}
    (h : d.relation? name = some (.part t p)) : p.tableName t.name = name := by
  unfold relation? at h
  split at h
  · cases h
  · obtain ⟨⟨o, q⟩, hfound, heq⟩ := Option.map_eq_some_iff.mp h
    cases heq
    obtain ⟨t, _, hmap⟩ := List.exists_of_findSome?_eq_some hfound
    obtain ⟨p, hp, heq⟩ := Option.map_eq_some_iff.mp hmap
    cases heq
    have hprop := List.find?_some hp
    simp only [Bool.and_eq_true, beq_iff_eq] at hprop
    exact hprop.1

/-- The name of a part is none of its table. -/
lemma Part.tableName_ne (name : String) (p : Part) : p.tableName name ≠ name := by
  intro h
  have hlength := congrArg String.length h
  rw [tableName, String.length_append, String.length_append] at hlength
  have hone : "_".length = 1 := rfl
  omega

/-- Nothing stands in the way of the parts of a table that was created. -/
lemma checkParts_of_createTable {e tokenizer : String} {columns : List String}
    (hpre : Text.isIdentifier config.tablePrefix = true) (he : IsEntityName e)
    (hnone : d.relation? (config.tableName e) = none)
    (h : createTable (config.tableName e) columns tokenizer d = .ok d') (p : Part) :
    d.relation? (p.tableName (config.tableName e)) = none := by
  obtain ⟨n, hn, h⟩ := bind_eq_ok.mp h
  obtain rfl := IndexConfig.declared_tableName hpre he hn
  simp only [hnone, Option.isSome_none, Bool.false_eq_true, if_false] at h
  split_ifs at h
  all_goals
    obtain ⟨_, _, h⟩ := bind_eq_ok.mp h
    obtain ⟨_, hparts, _⟩ := bind_eq_ok.mp h
    unfold checkParts at hparts
    split at hparts
    · next hfind =>
      have hp := List.find?_eq_none.mp hfind p (by cases p <;> decide)
      simpa using hp
    · cases hparts

namespace Separate

/-- In an empty database there is nothing to be kept apart. -/
lemma empty : Separate Database.empty := by
  intro o ho
  cases ho

/-- Only the tables matter. -/
lemma of_eq (h : Separate d) (htables : d'.tables = d.tables) : Separate d' := by
  rw [Separate, htables]
  exact h

/-- Tables may get other rows. -/
lemma restocked (h : Separate d) (hd : Restocked d d') : Separate d' := by
  intro o' ho' t' ht' p hname
  obtain ⟨o, ho, _, _, _, rfl⟩ := hd.origin ho'
  obtain ⟨t, ht, _, _, _, rfl⟩ := hd.origin ht'
  exact h o ho t ht p hname

section

variable {e : String} (hpre : Text.isIdentifier config.tablePrefix = true) (he : IsEntityName e)

include hpre he

/-- A table is created only where no part of another one stands, and its parts likewise. -/
lemma createTable {columns : List String} {tokenizer : String} (h : Separate d)
    (hd : createTable (config.tableName e) columns tokenizer d = .ok d') : Separate d' := by
  obtain ⟨_, rfl⟩ | ⟨hnone, _, rfl⟩ := createTable_ok hpre he hd
  · exact h
  have hfree := (relation?_eq_none_iff.mp hnone).2
  intro o ho t ht p hname
  rcases List.mem_append.mp ho with ho | ho <;> rcases List.mem_append.mp ht with ht | ht
  · exact h o ho t ht p hname
  · rw [List.mem_singleton.mp ht] at hname
    exact hfree o ho p hname.symm
  · rw [List.mem_singleton.mp ho] at hname
    have hpart := checkParts_of_createTable hpre he hnone hd p
    exact absurd hname ((relation?_eq_none_iff.mp hpart).1 t ht)
  · rw [List.mem_singleton.mp ho, List.mem_singleton.mp ht] at hname
    exact absurd hname.symm (Part.tableName_ne _ p)

/-- What is dropped cannot stand in the way. -/
lemma dropTable (h : Separate d) (hd : dropTable (config.tableName e) d = .ok d') :
    Separate d' := by
  obtain ⟨_, rfl⟩ | ⟨_, _, rfl⟩ | ⟨owner, q, _, hr⟩ := dropTable_ok hpre he hd
  · exact h
  · exact fun o ho t ht => h o (List.mem_of_mem_filter ho) t (List.mem_of_mem_filter ht)
  · have hlose : ∀ t t', At owner.name (fun t t' => t' = t.lose q) t t' →
        t'.name = t.name ∧ ∀ p, t.lacks p = true → t'.lacks p = true := by
      intro t t' hat
      refine hat.elim (S := fun t t' => t'.name = t.name ∧ ∀ p, t.lacks p = true →
        t'.lacks p = true) (fun _ => ⟨rfl, fun _ => id⟩) fun t t' ht => ?_
      subst ht
      refine ⟨rfl, fun p hp => ?_⟩
      simp only [IndexTable.lacks, IndexTable.lose, List.contains_iff_mem,
        List.mem_insert_iff] at hp ⊢
      exact .inr hp
    intro o' ho' t' ht' p hname
    obtain ⟨o, ho, hato⟩ := hr.origin ho'
    obtain ⟨t, ht, hatt⟩ := hr.origin ht'
    obtain ⟨honame, holacks⟩ := hlose o o' hato
    refine holacks p (h o ho t ht p ?_)
    rw [← (hlose t t' hatt).1, hname, honame]

/-- Where a table was dropped nothing stands any more. -/
theorem relation?_of_dropTable (h : Separate d)
    (hd : Database.dropTable (config.tableName e) d = .ok d') :
    d'.relation? (config.tableName e) = none := by
  obtain ⟨hnone, rfl⟩ | ⟨t, hrel, rfl⟩ | ⟨owner, q, hrel, hr⟩ := dropTable_ok hpre he hd
  · exact hnone
  · obtain ⟨hmem, hname⟩ := mem_and_name_of_table? (relation?_eq_index.mp hrel)
    refine relation?_eq_none_iff.mpr ⟨name_ne_of_dropTable hpre he hd, fun o ho p hp => ?_⟩
    exact h o (List.mem_of_mem_filter ho) t hmem p (hname.trans hp.symm)
  · -- the part that stood there is lost now, and no other table has one of this name
    refine relation?_eq_none_iff.mpr ⟨name_ne_of_dropTable hpre he hd, fun o' ho' p hp => ?_⟩
    · have hpart := tableName_of_relation? hrel
      obtain ⟨o, ho, hat⟩ := hr.origin ho'
      rw [hat.name fun _ _ ht => by rw [ht]; rfl] at hp
      have howner : o.name = owner.name := Part.tableName_injective (hp.trans hpart.symm)
      rw [At, if_pos howner] at hat
      subst hat
      obtain rfl : p = q := Part.eq_of_tableName_eq (hp.trans hpart.symm)
      simp [IndexTable.lacks, IndexTable.lose]

end

end Separate

end Database

/-! ## Setups -/

namespace IndexPlan

open Database

variable {config : IndexConfig} {p : IndexPlan} {d : Database}
variable (hp : p.IsPlain config)

include hp

/-- Creating triggers keeps tables and parts apart, however this ends. -/
lemma ends_createTriggers_separate (hd : Separate d) :
    Ends p.createTriggers d (fun _ => Separate) Separate :=
  ends_createTriggers hp hd fun _ => hd.of_eq (tables_withTriggers p d)

/-- Filling a table and then creating its triggers keeps tables and parts apart, however this
ends. -/
lemma ends_fill_separate (hd : Separate d) :
    Ends (p.populate >>= fun _ => p.createTriggers) d (fun _ => Separate) Separate :=
  Action.ends_bind ((ends_populate_restocked hp).mono
    (fun _ _ h => ends_createTriggers_separate hp (hd.restocked h)) fun _ h => hd.restocked h)

/-- Setting a table up anew keeps tables and parts apart, however this ends. -/
theorem ends_rebuild_separate (hd : Separate d) :
    Ends p.rebuild d (fun _ => Separate) Separate := by
  refine Action.ends_bind (ends_drop hp hd fun d₁ h₁ _ => ?_)
  rw [hp.table] at h₁
  have hd₁ : Separate (d₁.withoutTriggers p.table) :=
    (hd.dropTable hp.isIdentifier hp.entity h₁).of_eq rfl
  split_ifs
  · refine Action.ends_bind (ends_run hd₁ fun d₂ h₂ _ => ?_)
    rw [hp.table] at h₂
    have hd₂ : Separate d₂ := by
      rw [hp.table] at hd₁
      exact hd₁.createTable hp.isIdentifier hp.entity h₂
    refine Action.ends_bind ((ends_createTriggers_separate hp hd₂).mono (fun _ d₃ hd₃ => ?_)
      fun _ h => h)
    exact (ends_populate_restocked hp).mono (fun _ _ h => hd₃.restocked h) fun _ h => hd₃.restocked h
  · exact hd₁

/-- Setting a table up keeps tables and parts apart, however this ends. -/
theorem ends_ensure_separate (hd : Separate d) :
    Ends p.ensure d (fun _ => Separate) Separate := by
  have hopened : ∀ d₁, Retabled Idle d d₁ → Separate d₁ :=
    fun _ hr => hd.restocked (.of_idle hr)
  refine ends_ensure (fun _ => hd) hd ?create ?replace ?change ?fill ?guard
  case create =>
    refine fun _ => Action.ends_bind (ends_run hd fun d₁ h₁ _ => ?_)
    rw [hp.table] at h₁
    exact ends_fill_separate hp (hd.createTable hp.isIdentifier hp.entity h₁)
  case replace => exact fun _ _ _ => ends_rebuild_separate hp hd
  case change => exact fun _ _ _ d₁ hr => ends_rebuild_separate hp (hopened d₁ hr)
  case fill => exact fun _ _ _ d₁ hr _ => ends_fill_separate hp (hopened d₁ hr)
  case guard => exact fun _ _ _ d₁ hr _ => ends_createTriggers_separate hp (hopened d₁ hr)

end IndexPlan

/-! ## Runs -/

/-- Every event keeps tables and parts apart. -/
lemma storeInvariant_separate {config : IndexConfig}
    (hpre : Text.isIdentifier config.tablePrefix = true) :
    StoreInvariant config (fun _ => True) fun _ => Database.Separate where
  empty := .empty
  insert _ hd h := hd.restocked (.insertNode h)
  update _ hd h := hd.restocked (.updateNode h)
  delete _ hd h := hd.restocked (.deleteNode h)
  ensure _ _ _ hp hd :=
    IndexPlan.ends_ensure_separate (IndexPlan.isPlain_of_ofMetadata hpre hp).1 hd
  rebuild _ hp hd :=
    IndexPlan.ends_rebuild_separate (IndexPlan.isPlain_of_ofMetadata hpre hp).1 hd
  foreign _ hd h := hd.restocked (.insertForeignNode h)
  reopen _ hd := (hd.restocked (.of_idle (Database.retabled_atRest _))).of_eq rfl

/-- After every run no table stands where another one has a part. -/
theorem StoreRun.separate {config : IndexConfig} {events : List StoreEvent} {s : NodeStore}
    (hpre : Text.isIdentifier config.tablePrefix = true) (hrun : StoreRun config events s) :
    s.database.Separate :=
  ((storeInvariant_separate hpre).run hrun fun _ _ => trivial).2

end EntityFinder
