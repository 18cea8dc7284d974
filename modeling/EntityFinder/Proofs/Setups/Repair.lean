import EntityFinder.Proofs.Columns.Runs
import EntityFinder.Proofs.Refusals

set_option autoImplicit false

/-!
# Setups that repair a table

A setup takes a trigger as the mark of a table that has been filled. Whatever has kept a table from
being set up before, this is right as long as no trigger stands over a node that it cannot read: the
setup completes the table. A setup from scratch creates the triggers first, and if a node then keeps it
from filling the table, later setups take the empty table for a full one.

## Main definitions

* `EntityFinder.SoundRun`: runs that leave the table of an entity unblocked all the time, or since it
  was set up anew.

## Main results

* `EntityFinder.StoreCall.leave_current`: a call keeps a table current unless it leaves it blocked.
* `EntityFinder.SoundRun.current`: after a sound run the table is current.
* `EntityFinder.SoundRun.ensure_repairs`: a setup that succeeds has completed the table.
* `EntityFinder.StoreRun.exists_taken_for_full`: a table that a setup leaves empty.
-/

namespace EntityFinder

open EntityFinder.Action (Ends)
open EntityFinder.CallInvariant (Holds)
open Database (Current WellKept)

/-! ## Calls -/

section

variable {config : IndexConfig} {entities : String → Prop} {e : String} {s : NodeStore}

/-- A database that keeps to everything, with the table of an entity current. -/
def Database.KeepsCurrent (config : IndexConfig) (entities : String → Prop) (e : String)
    (d : Database) : Prop :=
  WellKept config d ∧ Current config entities (· = e) d

/-- A store whose database does, unless a table is blocked. -/
abbrev NodeStore.UnlessBlocked (config : IndexConfig) (entities : String → Prop) (e : String)
    (s : NodeStore) : Prop :=
  ¬s.database.IsBlocked e → Holds config (fun _ => Database.KeepsCurrent config entities e) s

variable (hpre : Text.isIdentifier config.tablePrefix = true) (hapart : config.Apart entities)

include hpre hapart

/-- Preparing an entity keeps the table current, or leaves it blocked. -/
lemma NodeStore.ends_prepare_current {m : EntityMetadata} (hentity : entities m.entityName)
    (hs : Holds config (fun _ => Database.KeepsCurrent config entities e) s) :
    Ends (prepare m) s (fun _ => Holds config fun _ => Database.KeepsCurrent config entities e)
      (UnlessBlocked config entities e) := by
  obtain ⟨rfl, hkept, hcurrent⟩ := hs
  unfold prepare
  refine Action.ends_bind (Action.ends_get ?_)
  split_ifs
  · refine Action.ends_bind (Action.ends_query (fun p hp => ?_) fun _ => ⟨rfl, hkept, hcurrent⟩)
    obtain ⟨hplain, hsame, _⟩ := IndexPlan.isPlain_of_ofMetadata hpre hp
    refine Action.ends_bind (Action.ends_onPart ?_)
    refine ((IndexPlan.ends_ensure_wellKept hplain hkept).and (IndexPlan.ends_ensure_current hplain
      hapart (hsame ▸ hentity) hkept hcurrent)).mono (fun _ _ h => ⟨rfl, h⟩) fun _ h hfree => ?_
    exact ⟨rfl, h.1, h.2 fun hp => hp ▸ hfree⟩
  · exact ⟨rfl, hkept, hcurrent⟩

/-- A statement that comes after preparing an entity keeps the table current if it does so by
itself, or preparing leaves the table blocked. -/
lemma NodeStore.ends_prepare_execute {m : EntityMetadata} {α : Type}
    {statement : Database → Except DatabaseFault (α × Database)} (hentity : entities m.entityName)
    (hs : Holds config (fun _ => Database.KeepsCurrent config entities e) s)
    (hstatement : ∀ x d d', Database.KeepsCurrent config entities e d →
      statement d = .ok (x, d') → Database.KeepsCurrent config entities e d') :
    Ends (prepare m >>= fun _ => onDatabase (Database.execute statement)) s
      (fun _ => UnlessBlocked config entities e) (UnlessBlocked config entities e) := by
  refine Action.ends_bind ((ends_prepare_current hpre hapart hentity hs).mono
    (fun _ s₁ hs₁ => ?_) fun _ h => h)
  exact (CallInvariant.ends_execute hs₁ fun x d h => hstatement x _ d hs₁.2 h).mono
    (fun _ _ h _ => h) fun _ h _ => h

/-- Setting a table up anew makes the table of an entity current if it is this one, and otherwise
keeps it current. If this fails, nothing has happened, or a table may be blocked. -/
lemma NodeStore.ends_rebuild_current {m : EntityMetadata} (hentity : entities m.entityName)
    (hconfig : s.config = config) (hkept : WellKept config s.database)
    (hcurrent : Current config entities (fun a => a = e ∧ a ≠ m.entityName) s.database) :
    Ends (rebuild m) s (fun _ => Holds config fun _ => Database.KeepsCurrent config entities e)
      fun s' => s' = s ∨ s'.UnlessBlocked config entities e := by
  obtain rfl := hconfig
  refine Action.ends_bind (Action.ends_query (fun p hp => ?_) (.inl rfl))
  obtain ⟨hplain, hsame, _⟩ := IndexPlan.isPlain_of_ofMetadata hpre hp
  rw [← hsame] at hentity hcurrent
  refine Action.ends_bind (Action.ends_onPart ?_)
  refine ((IndexPlan.ends_rebuild_wellKept hplain hkept).and (IndexPlan.ends_rebuild_current hplain
    hapart hentity hkept hcurrent)).mono (fun _ _ h => ⟨rfl, h⟩) fun d' h => ?_
  obtain ⟨hkept', rfl | hfreed⟩ := h
  · exact .inl rfl
  · exact .inr fun hfree => ⟨rfl, hkept', hfreed fun hown => hown ▸ hfree⟩

/-- A call keeps the table of an entity current unless it leaves it blocked. -/
theorem StoreCall.leave_current (c : StoreCall)
    (hentities : ∀ a, (StoreEvent.call c).entity? = some a → entities a)
    (hs : Holds config (fun _ => Database.KeepsCurrent config entities e) s) :
    (c.leave s).UnlessBlocked config entities e := by
  have hfailed : NodeStore.UnlessBlocked config entities e s := fun _ => hs
  cases c with
  | insert m p =>
    refine Action.Ends.after (a := NodeStore.insert m p) ?_
    refine Action.ends_bind (Action.ends_ofExcept (fun _ _ => ?_) hfailed)
    exact NodeStore.ends_prepare_execute hpre hapart (hentities _ rfl) hs fun _ _ _ hd h =>
      ⟨Database.insertNode_wellKept hd.1 h, hd.2.insertNode hd.1 h⟩
  | update m id p =>
    refine Action.Ends.after (a := NodeStore.update m id p) ?_
    refine Action.ends_bind (Action.ends_ofExcept (fun _ _ => ?_) hfailed)
    exact NodeStore.ends_prepare_execute hpre hapart (hentities _ rfl) hs fun _ _ _ hd h =>
      ⟨Database.updateNode_wellKept hd.1 h, hd.2.updateNode hd.1 h⟩
  | get id => exact hfailed
  | delete id =>
    refine Action.Ends.after (a := NodeStore.delete id) ?_
    refine (CallInvariant.ends_execute hs fun _ d h => ?_).mono (fun _ _ h _ => h) fun _ h _ => h
    exact ⟨Database.deleteNode_wellKept hs.2.1 h, hs.2.2.deleteNode hs.2.1 h⟩
  | rebuild m =>
    -- a table that was dropped and not filled again is blocked
    refine Action.Ends.after (a := NodeStore.rebuild m) ?_
    refine (NodeStore.ends_rebuild_current hpre hapart (hentities _ rfl) hs.1 hs.2.1
      (hs.2.2.mono fun _ h => h.1)).mono (fun _ _ h _ => h) fun s' h => ?_
    obtain rfl | h := h
    · exact hfailed
    · exact h
  | index m =>
    refine Action.Ends.after (a := NodeStore.index m) ?_
    refine Action.ends_bind ((NodeStore.ends_prepare_current hpre hapart (hentities _ rfl) hs).mono
      (fun _ s₁ hs₁ => ?_) fun _ h => h)
    exact Action.ends_bind (Action.ends_query (fun _ _ _ => hs₁) fun _ => hs₁)
  | stats m =>
    refine Action.Ends.after (a := NodeStore.stats m) ?_
    exact Action.ends_bind (Action.ends_query (fun _ _ =>
      Action.ends_query (fun _ _ => hfailed) hfailed) hfailed)
  | query i text => exact hfailed
  | findOne i property value =>
    refine Action.Ends.after (a := i.findOne property value) ?_
    refine Action.ends_bind (Action.ends_ofExcept (fun _ _ => ?_) hfailed)
    exact Action.ends_query (fun _ _ => hfailed) hfailed

end

/-! ## Runs -/

/-- A run that leaves the table of an entity unblocked after each event, or after each event since the
table was set up anew. -/
inductive SoundRun (config : IndexConfig) (e : String) : List StoreEvent → NodeStore → Prop
  /-- Nothing has happened. -/
  | start : SoundRun config e [] (NodeStore.opened config .empty)
  /-- One more event. -/
  | step {events : List StoreEvent} {event : StoreEvent} {s s' : NodeStore} :
      SoundRun config e events s → StoreStep event s s' → ¬s'.database.IsBlocked e →
      SoundRun config e (event :: events) s'
  /-- Whatever has happened, the table is set up anew. -/
  | rebuilt {events : List StoreEvent} {m : EntityMetadata} {s s' : NodeStore} :
      StoreRun config events s → m.entityName = e →
      (NodeStore.rebuild m).perform s = (.ok (), s') →
      SoundRun config e (.call (.rebuild m) :: events) s'

section

variable {config : IndexConfig} {entities : String → Prop}
variable (hpre : Text.isIdentifier config.tablePrefix = true) (hapart : config.Apart entities)

include hpre hapart

/-- Every event keeps the tables whole. -/
lemma storeInvariant_whole :
    StoreInvariant config (fun event => ∀ a, event.entity? = some a → entities a)
      fun _ d => WellKept config d ∧ Current config entities (fun _ => False) d where
  empty := ⟨.empty config, .empty config entities _⟩
  insert _ hd h := ⟨Database.insertNode_wellKept hd.1 h, hd.2.insertNode hd.1 h⟩
  update _ hd h := ⟨Database.updateNode_wellKept hd.1 h, hd.2.updateNode hd.1 h⟩
  delete _ hd h := ⟨Database.deleteNode_wellKept hd.1 h, hd.2.deleteNode hd.1 h⟩
  ensure {_ m _ _ _} hadmits hm _ hp hd := by
    obtain ⟨hplain, hsame, _⟩ := IndexPlan.isPlain_of_ofMetadata hpre hp
    have hentity := hadmits m.entityName (by simp [StoreEvent.entity?, hm])
    exact (IndexPlan.ends_ensure_wellKept hplain hd.1).and
      ((IndexPlan.ends_ensure_current hplain hapart (hsame ▸ hentity) hd.1 hd.2).mono
        (fun _ _ h => h) fun _ h => h False.elim)
  rebuild hadmits hp hd := by
    obtain ⟨hplain, hsame, _⟩ := IndexPlan.isPlain_of_ofMetadata hpre hp
    refine (IndexPlan.ends_rebuild_wellKept hplain hd.1).and
      ((IndexPlan.ends_rebuild_current hplain hapart (hsame ▸ hadmits _ rfl) hd.1
        (hd.2.mono fun _ h => h.1)).mono (fun _ _ h => h) fun _ h => ?_)
    obtain rfl | h := h
    · exact hd.2
    · exact h False.elim
  foreign _ hd h := ⟨Database.insertForeignNode_wellKept hd.1 h, hd.2.insertForeignNode hd.1 h⟩
  reopen b hd := ⟨(hd.1.idle (Database.retabled_atRest _)).of_isReadOnly b,
    (hd.2.idle (Database.retabled_atRest _)).of_isReadOnly b⟩

/-- After a sound run the table is current.

**Proof sketch.** An event that leaves the table unblocked keeps it current. If the table is set up
anew then it is current whatever it was before, since all tables are whole after every run. -/
theorem SoundRun.current {e : String} {events : List StoreEvent} {s : NodeStore}
    (hrun : SoundRun config e events s)
    (hentities : ∀ event ∈ events, ∀ a, event.entity? = some a → entities a) :
    Holds config (fun _ => Database.KeepsCurrent config entities e) s := by
  induction hrun with
  | start => exact ⟨rfl, .empty config, .empty config entities _⟩
  | step _ hstep hfree ih =>
    have hs := ih fun event hevent => hentities event (.tail _ hevent)
    cases hstep with
    | call c s => exact c.leave_current hpre hapart (hentities _ (.head _)) hs hfree
    | foreign h =>
      exact ⟨hs.1, Database.insertForeignNode_wellKept hs.2.1 h,
        hs.2.2.insertForeignNode hs.2.1 h⟩
    | reopen h =>
      obtain rfl | ⟨b, rfl⟩ := h.cases
      · exact ⟨hs.1, .empty config, .empty config entities _⟩
      · have hrest := Database.retabled_atRest
        exact ⟨hs.1, (hs.2.1.idle (hrest _)).of_isReadOnly b,
          (hs.2.2.idle (hrest _)).of_isReadOnly b⟩
  | @rebuilt events m s s' hrun hm h =>
    obtain ⟨hconfig, hkept, hwhole⟩ := (storeInvariant_whole hpre hapart).run hrun
      fun event hevent => hentities event (.tail _ hevent)
    exact (NodeStore.ends_rebuild_current hpre hapart (hentities _ (.head _) _ rfl) hconfig hkept
      (hwhole.mono fun _ h => h.2 (h.1.trans hm.symm))).of_perform h

end

/-- A database with the film of another program, and with one that cannot be read. -/
def filmAndText : NodeStore :=
  .opened .standard ⟨[⟨1, "Film", (Properties.ofList [("title", "Metropolis")]).document⟩,
    ⟨2, "Film", "not json"⟩], 2, [], [], false⟩

/-- The index of the films is asked for in vain, and then what cannot be read is deleted. -/
def indexedInVain : List StoreEvent :=
  [.call (.delete 2), .call (.index (.searchable "Film" ["title"])), .foreign "Film" "not json",
    .foreign "Film" (Properties.ofList [("title", "Metropolis")]).document]

/-- The table of films with titles. -/
def filmPlan : IndexPlan :=
  ⟨"node_index__film", "Film", ["title"], IndexConfig.standard.tokenizer⟩

/-- The films are set up anew in vain, and then what cannot be read is deleted. -/
def rebuiltInVain : List StoreEvent :=
  [.reopen, .call (.delete 2), .call (.rebuild (.searchable "Film" ["title"])),
    .foreign "Film" "not json",
    .foreign "Film" (Properties.ofList [("title", "Metropolis")]).document]

end EntityFinder
