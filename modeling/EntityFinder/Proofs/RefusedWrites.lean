import EntityFinder.Proofs.Refusals

set_option autoImplicit false

/-!
# Writes that come to nothing

A write first looks at the names, then sets the table of its entity up, and then carries one
statement out. It can fail in each of these steps. Whatever the store has been through, a write
that fails, or finds no node to change, leaves the nodes and their counter alone; and if it is the
names that are refused then nothing at all has been done.

## Main definitions

* `EntityFinder.FinderError.IsValidation`: the failures of names that are refused.
* `EntityFinder.EntityMetadata.HasValidNames`: names that a table can be set up with.
* `EntityFinder.NodeStore.Refuses`: properties that may not be stored, or an entity that may not be
  set up.
* `EntityFinder.NodeStore.Spares`: what a failure of a call leaves alone.

## Main results

* `EntityFinder.IndexPlan.failsByFault_ensure`: a setup fails only with a fault of the database.
* `EntityFinder.NodeStore.fails_write`: how a write fails.
* `EntityFinder.NodeStore.refused_writes_spare`: what is left of writes that come to nothing.
-/

namespace EntityFinder

open EntityFinder.Action (Ends Fails)
open Database (SameContents)

/-! ## Faults of the database -/

namespace Database

variable {α β : Type}

/-- Every failure of a call on a database is that of a statement. -/
def FailsByFault (a : Action Database α) : Prop :=
  ∀ d, Fails a d fun e _ => ∃ f : DatabaseFault, e = f.toError

/-- A single step fails with the fault of its statement. -/
lemma failsByFault_atomic (statement : Database → Except DatabaseFault (α × Database)) :
    FailsByFault (Action.atomic fun d => (statement d).mapError DatabaseFault.toError) := by
  intro d e d' h
  rw [Action.atomic, Action.perform_ofFunction] at h
  cases hf : statement d with
  | ok r =>
    rw [hf] at h
    cases h
  | error f =>
    rw [hf] at h
    cases h
    exact ⟨f, rfl⟩

/-- A composed call fails as one of its halves does. -/
lemma FailsByFault.bind {a : Action Database α} {f : α → Action Database β} (h : FailsByFault a)
    (hf : ∀ x, FailsByFault (f x)) : FailsByFault (a >>= f) :=
  fun d => Action.fails_bind (h d) fun x d' _ => hf x d'

/-- Looking at the database does not fail. -/
lemma failsByFault_get : FailsByFault (get : Action Database Database) :=
  fun _ _ _ h => nomatch h

/-- Doing nothing does not fail. -/
lemma failsByFault_pure (x : α) : FailsByFault (pure x) :=
  fun _ _ _ h => nomatch h

/-- A statement without an answer fails with its fault. -/
lemma failsByFault_run (statement : Database → Except DatabaseFault Database) :
    FailsByFault (run statement) :=
  failsByFault_atomic _

end Database

namespace IndexPlan

open Database (FailsByFault failsByFault_run)

variable (p : IndexPlan)

/-- Creating triggers fails with a fault. -/
lemma failsByFault_createTriggers : FailsByFault p.createTriggers :=
  (failsByFault_run _).bind fun _ => (failsByFault_run _).bind fun _ => failsByFault_run _

/-- Filling a table fails with a fault. -/
lemma failsByFault_populate : FailsByFault p.populate :=
  (failsByFault_run _).bind fun _ => failsByFault_run _

/-- Setting a table up anew fails with a fault. -/
lemma failsByFault_rebuild : FailsByFault p.rebuild := by
  have hdrop : FailsByFault p.drop :=
    (failsByFault_run _).bind fun _ => (failsByFault_run _).bind fun _ =>
      (failsByFault_run _).bind fun _ => failsByFault_run _
  refine hdrop.bind fun _ => ?_
  split_ifs
  · exact (failsByFault_run _).bind fun _ => p.failsByFault_createTriggers.bind fun _ =>
      p.failsByFault_populate
  · exact Database.failsByFault_pure _

/-- Setting a table up fails with a fault. -/
lemma failsByFault_ensure : FailsByFault p.ensure := by
  have hfill : FailsByFault (p.populate >>= fun _ => p.createTriggers) :=
    p.failsByFault_populate.bind fun _ => p.failsByFault_createTriggers
  unfold ensure
  split_ifs
  · refine Database.failsByFault_get.bind fun d => ?_
    split
    · exact (failsByFault_run _).bind fun _ => hfill
    · exact p.failsByFault_rebuild
    · refine (Database.failsByFault_atomic _).bind fun _ => ?_
      split_ifs
      · exact p.failsByFault_rebuild
      · refine Database.failsByFault_get.bind fun d₁ => ?_
        split_ifs
        · exact hfill
        · exact p.failsByFault_createTriggers
  · exact Database.failsByFault_pure _

end IndexPlan

/-! ## Names that are refused -/

/-- The failure of a name that is refused. -/
def FinderError.IsValidation (e : FinderError) : Prop :=
  ∃ field text, e = .validation field text

/-- A fault of the database is no refusal of a name. -/
lemma DatabaseFault.not_isValidation (f : DatabaseFault) : ¬f.toError.IsValidation :=
  fun ⟨_, _, h⟩ => nomatch h

/-- A name that is not valid is refused as such. -/
lemma isValidation_of_validateIdentifier {field name : String} {e : FinderError}
    (h : validateIdentifier field name = .error e) : e.IsValidation := by
  unfold validateIdentifier at h
  split_ifs at h
  · cases h
    exact ⟨_, _, rfl⟩
  · cases h
    exact ⟨_, _, rfl⟩

/-- The names of an entity and of its searchable properties can stand in statements. -/
structure EntityMetadata.HasValidNames (m : EntityMetadata) : Prop where
  /-- The entity can have a table. -/
  entity : IsEntityName m.entityName
  /-- The table can have the columns. -/
  columns : ∀ name ∈ m.indexedNames, validateIdentifier "property" name = .ok ()

namespace IndexPlan

variable {config : IndexConfig} {m : EntityMetadata}

/-- Names that are not all valid are refused as such. -/
lemma isValidation_of_validateColumns {names : List String} {e : FinderError}
    (h : validateColumns names = .error e) : e.IsValidation := by
  induction names with
  | nil => cases h
  | cons name names ih =>
    rw [validateColumns] at h
    cases hname : validateIdentifier "property" name with
    | error e' =>
      rw [hname] at h
      cases h
      exact isValidation_of_validateIdentifier hname
    | ok =>
      rw [hname] at h
      exact ih h

/-- Names that are not refused are all valid. -/
lemma valid_of_validateColumns {names : List String} (h : validateColumns names = .ok ()) :
    ∀ name ∈ names, validateIdentifier "property" name = .ok () := by
  induction names with
  | nil => exact nofun
  | cons name names ih =>
    obtain ⟨_, hname, hnames⟩ := bind_eq_ok.mp h
    exact List.forall_mem_cons.mpr ⟨hname, ih hnames⟩

/-- Metadata for which there is no table has names that are refused. -/
lemma isValidation_of_ofMetadata {e : FinderError} (h : ofMetadata config m = .error e) :
    e.IsValidation := by
  unfold ofMetadata at h
  cases hentity : validateIdentifier "entity" m.entityName with
  | error e' =>
    rw [hentity] at h
    cases h
    exact isValidation_of_validateIdentifier hentity
  | ok =>
    rw [hentity] at h
    cases hcolumns : validateColumns m.indexedNames with
    | error e' =>
      rw [hcolumns] at h
      cases h
      exact isValidation_of_validateColumns hcolumns
    | ok =>
      rw [hcolumns] at h
      cases h

/-- There is no table for metadata just if its names are not valid. -/
lemma exists_ofMetadata_error_iff :
    (∃ e, ofMetadata config m = .error e) ↔ ¬m.HasValidNames := by
  constructor
  · rintro ⟨e, h⟩ hvalid
    rw [ofMetadata, show validateIdentifier "entity" m.entityName = .ok () from hvalid.entity,
      validateColumns_eq_ok hvalid.columns] at h
    cases h
  · intro hinvalid
    cases h : ofMetadata config m with
    | error e => exact ⟨e, rfl⟩
    | ok p =>
      obtain ⟨_, hentity, h⟩ := bind_eq_ok.mp h
      obtain ⟨_, hcolumns, _⟩ := bind_eq_ok.mp h
      exact absurd ⟨hentity, valid_of_validateColumns hcolumns⟩ hinvalid

end IndexPlan

/-! ## Writes -/

namespace NodeStore

variable {α : Type} {m : EntityMetadata} {s : NodeStore}

/-- A property that is not declared is refused as such. -/
lemma isValidation_of_checkDeclared {names : List String} {e : FinderError}
    (h : checkDeclared m names = .error e) : e.IsValidation := by
  induction names with
  | nil => cases h
  | cons name names ih =>
    rw [checkDeclared] at h
    split_ifs at h
    · exact ih h
    · cases h
      exact ⟨_, _, rfl⟩

/-- Properties are refused just if one of them is not declared. -/
lemma exists_checkDeclared_error_iff {names : List String} :
    (∃ e, checkDeclared m names = .error e) ↔ ∃ name ∈ names, m.declares name = false := by
  induction names with
  | nil => simp [checkDeclared]
  | cons name names ih =>
    rw [checkDeclared, List.exists_mem_cons_iff, ← ih]
    split_ifs with hname
    · rw [hname]
      exact (or_iff_right Bool.false_ne_true.symm).symm
    · exact iff_of_true ⟨_, rfl⟩ (.inl (Bool.eq_false_iff.mpr hname))

/-- The store refuses to write properties of some names: one of them is not declared, or the table
of the entity has to be set up and its names are not valid. -/
def Refuses (s : NodeStore) (m : EntityMetadata) (names : List String) : Prop :=
  (∃ name ∈ names, m.declares name = false) ∨ m.entityName ∉ s.prepared ∧ ¬m.HasValidNames

/-- A write: the names are checked, the table of the entity is set up, and a statement follows. -/
def write (m : EntityMetadata) (names : List String)
    (statement : Database → Except DatabaseFault (α × Database)) : Action NodeStore α := do
  Action.ofExcept (checkDeclared m names)
  prepare m
  onDatabase (Database.execute statement)

/-- Storing a node is a write. -/
lemma insert_eq_write (m : EntityMetadata) (p : Properties) :
    insert m p = write m p.names (Database.insertNode m.entityName p.document) := rfl

/-- Changing a node is a write. -/
lemma update_eq_write (m : EntityMetadata) (id : Int) (p : Properties) :
    update m id p = write m p.names (Database.updateNode id m.entityName p.document) := rfl

/-- A failure has a reason: a fault of the database, or names that are refused, and then nothing
has been done. -/
def HasReason (s : NodeStore) (refused : FinderError → Prop) (e : FinderError) (s' : NodeStore) :
    Prop :=
  (∃ f : DatabaseFault, e = f.toError) ∨ s' = s ∧ refused e

/-- A call on the database fails with a fault. -/
lemma fails_onDatabase {a : Action Database α} (h : Database.FailsByFault a)
    {refused : FinderError → Prop} {s₁ : NodeStore} :
    Fails (onDatabase a) s₁ (s.HasReason refused) := by
  intro e s' he
  simp only [onDatabase, Action.onPart, Action.perform_ofFunction] at he
  obtain ⟨he, -⟩ := Prod.mk.inj he
  exact .inl (h s₁.database e _ (Prod.ext he rfl))

/-- Setting an entity up fails with a fault, or because of its names. -/
lemma fails_prepare (m : EntityMetadata) (s : NodeStore) :
    Fails (prepare m) s (s.HasReason fun e =>
      m.entityName ∉ s.prepared ∧ IndexPlan.ofMetadata s.config m = .error e) := by
  unfold prepare
  refine Action.fails_bind (fun _ _ h => nomatch h) fun s₀ s₁ hget => ?_
  cases hget
  split_ifs with hprepared
  · have hnot : m.entityName ∉ s.prepared := by simpa using hprepared
    refine Action.fails_bind (fun e s' h => ?_) fun p s₁ _ => ?_
    · obtain ⟨hplan, rfl⟩ := Prod.mk.inj h
      exact .inr ⟨rfl, hnot, hplan⟩
    · refine Action.fails_bind (fails_onDatabase p.failsByFault_ensure) fun _ _ _ => ?_
      exact fun _ _ h => nomatch h
  · exact fun _ _ h => nomatch h

variable {names : List String} {statement : Database → Except DatabaseFault (α × Database)}

/-- A write fails with a fault, or because of the names of properties, entity and columns. -/
lemma fails_write : Fails (write m names statement) s (s.HasReason fun e =>
    checkDeclared m names = .error e ∨
      m.entityName ∉ s.prepared ∧ IndexPlan.ofMetadata s.config m = .error e) := by
  refine Action.fails_bind (fun e s' h => ?_) fun _ s₁ hcheck => ?_
  · obtain ⟨hcheck, rfl⟩ := Prod.mk.inj h
    exact .inr ⟨rfl, .inl hcheck⟩
  · obtain ⟨-, rfl⟩ := Prod.mk.inj hcheck
    refine Action.fails_bind (fun e s' h => ?_) fun _ _ _ => ?_
    · exact (fails_prepare m _ e s' h).imp_right fun ⟨hs, hplan⟩ => ⟨hs, .inr hplan⟩
    · exact fails_onDatabase (Database.failsByFault_atomic _)

/-- A write that succeeds has carried out its statement on the nodes that were there, and one that
fails leaves them alone. -/
lemma ends_write : Ends (write m names statement) s
    (fun x s' => ∃ d, SameContents s.database d ∧ statement d = .ok (x, s'.database))
    fun s' => SameContents s.database s'.database := by
  refine Action.ends_bind (Action.ends_ofExcept (fun _ _ => ?_) (.refl _))
  refine Action.ends_bind ((ends_prepare_contents m s).mono (fun _ s₁ h₁ => ?_) fun _ h => h.2)
  refine Action.ends_onPart (Database.ends_execute h₁.2 fun x d' h _ => ?_)
  exact ⟨s₁.database, h₁.2, h⟩

/-- A write is refused just if some of its names are. -/
lemma exists_refused_write_iff :
    (∃ e, (write m names statement).perform s = (.error e, s) ∧ e.IsValidation) ↔
      s.Refuses m names := by
  have hplan : (∃ e, IndexPlan.ofMetadata s.config m = .error e) ↔ ¬m.HasValidNames :=
    IndexPlan.exists_ofMetadata_error_iff
  rw [Refuses, ← exists_checkDeclared_error_iff, ← hplan]
  constructor
  · rintro ⟨e, h, hvalidation⟩
    obtain ⟨f, rfl⟩ | ⟨-, hcheck | ⟨hnot, hmade⟩⟩ := fails_write e s h
    · exact absurd hvalidation f.not_isValidation
    · exact .inl ⟨e, hcheck⟩
    · exact .inr ⟨hnot, e, hmade⟩
  · intro hrefuses
    cases hcheck : checkDeclared m names with
    | error e =>
      refine ⟨e, ?_, isValidation_of_checkDeclared hcheck⟩
      rw [write, hcheck]
      rfl
    | ok =>
      obtain ⟨e, h⟩ | ⟨hnot, e, hmade⟩ := hrefuses
      · cases hcheck.symm.trans h
      · refine ⟨e, ?_, IndexPlan.isValidation_of_ofMetadata hmade⟩
        simp [write, prepare, plan, hcheck, hnot, hmade, Action.perform_bind, Action.ofExcept,
          Action.query]

/-! ## What is left -/

/-- What a failure of a call leaves alone: the nodes and their counter, and everything if names
were refused. -/
def Spares (a : Action NodeStore α) (s : NodeStore) : Prop :=
  Fails a s fun e s' => SameContents s.database s'.database ∧ (e.IsValidation → s' = s)

/-- A write that fails spares the nodes, and everything if names were refused. -/
lemma spares_write : Spares (write m names statement) s := by
  intro e s' h
  refine ⟨ends_write.of_error h, fun hvalidation => ?_⟩
  obtain ⟨f, rfl⟩ | ⟨hs, -⟩ := fails_write e s' h
  · exact absurd hvalidation f.not_isValidation
  · exact hs

/-- A change that finds no node leaves the nodes alone. -/
lemma contents_of_missed_update {id : Int} {p : Properties} {s' : NodeStore}
    (h : (update m id p).perform s = (.ok false, s')) :
    SameContents s.database s'.database := by
  rw [update_eq_write] at h
  obtain ⟨d, hd, hstatement⟩ := ends_write.of_perform h
  obtain ⟨-, hnodes, hlast, haccess⟩ := Database.updateNode_contents hstatement
  exact hd.trans ⟨hnodes.trans (if_neg Bool.false_ne_true), hlast, haccess⟩

/-- A deletion that finds no node leaves the nodes alone. -/
lemma contents_of_missed_delete {id : Int} {s' : NodeStore}
    (h : (delete id).perform s = (.ok false, s')) : SameContents s.database s'.database := by
  have hends : Ends (delete id) s
      (fun found s' => found = false → SameContents s.database s'.database) fun _ => True := by
    unfold delete onDatabase
    refine Action.ends_onPart (Database.ends_execute trivial fun found d' h _ hfound => ?_)
    obtain ⟨hnode, hnodes, hlast, haccess⟩ := Database.deleteNode_contents h
    refine ⟨hnodes.trans (List.filter_eq_self.mpr fun n hn => ?_), hlast, haccess⟩
    -- a node of that number would have been found
    refine bne_iff_ne.mpr fun hid => Bool.false_ne_true (hfound ▸ hnode.mpr ?_)
    exact Option.isSome_iff_exists.mp (List.find?_isSome.mpr ⟨n, hn, beq_iff_eq.mpr hid⟩)
  exact hends.of_perform h rfl

end NodeStore

end EntityFinder
