import EntityFinder.NodeStore.NodeIndex
import EntityFinder.NodeStore.Opening
import EntityFinder.Proofs.Statements

set_option autoImplicit false

/-!
# Runs of a store

A run is a list of things that happen to a store one after the other: calls, whether they succeed or
fail, nodes that other programs store in its database, and the store being closed and opened again.

## Main definitions

* `EntityFinder.StoreCall`, `EntityFinder.StoreEvent`: what can happen.
* `EntityFinder.NodeStore.Reopens`: a store as it is after it was opened again.
* `EntityFinder.StoreStep`, `EntityFinder.StoreRun`: one event, and any number of them.
* `EntityFinder.NodeStore.after`: a new store after some events of its own.
* `EntityFinder.CallInvariant`, `EntityFinder.StoreInvariant`: what is kept on behalf of some calls,
  and of some events.

## Main results

* `EntityFinder.NodeStore.readDatabase_eq_ok`: what it takes to read a database.
* `EntityFinder.NodeStore.Reopens.cases`: an opened store has the contents of the closed one, or
  none.
* `EntityFinder.StoreInvariant.run`: what every statement and setup keeps, a store has after every
  run.
-/

namespace EntityFinder

open EntityFinder.Action (Ends)

/-! ## Reading a database -/

namespace NodeStore

variable {name : String} {l : Location} {tree : FileTree} {p : FilePath} {d : Database}

/-- A database that is set up is the one that was found, at rest, or a new one. -/
lemma setUp_ok {isFixed : Bool} {found : Option Database} (h : setUp isFixed found = .ok d) :
    found = none ∧ d = .empty ∨
      ∃ d₀, found = some d₀ ∧ d = { d₀.atRest with isReadOnly := isFixed } := by
  unfold setUp at h
  split at h
  · next d₀ =>
    cases h
    exact .inr ⟨d₀, rfl, rfl⟩
  · split_ifs at h
    cases h
    exact .inl ⟨rfl, rfl⟩

/-- A file that holds a database that was set up contains this. -/
lemma eq_of_databaseIn? {content : FileContent} (h : databaseIn? content = .ok (some d)) :
    content = .database d := by
  unfold databaseIn? at h
  split at h
  · cases h
    rfl
  · split_ifs at h
    cases h
  · split_ifs at h
    cases h

/-- What it takes to read the database of a location. -/
lemma readDatabase_eq_ok : readDatabase l name tree = .ok (p, d) ↔
    placeOf? tree l.path = some p ∧ ∃ content found,
      contentAt l name tree p = .ok content ∧ databaseIn? content = .ok found ∧
      checkCompanions tree p found.isSome = .ok () ∧
      setUp (isFixed l tree p) found = .ok d := by
  unfold readDatabase
  cases placeOf? tree l.path with
  | none => simp
  | some q =>
    simp only [Option.some.injEq]
    constructor
    · intro h
      obtain ⟨content, hcontent, h⟩ := bind_eq_ok.mp h
      obtain ⟨found, hfound, h⟩ := bind_eq_ok.mp h
      obtain ⟨_, hcheck, h⟩ := bind_eq_ok.mp h
      obtain ⟨_, hsetUp, h⟩ := bind_eq_ok.mp h
      cases h
      exact ⟨rfl, content, found, hcontent, hfound, hcheck, hsetUp⟩
    · rintro ⟨rfl, content, found, hcontent, hfound, hcheck, hsetUp⟩
      simp only [hcontent, hfound, hcheck, hsetUp, bind, Except.bind]

end NodeStore

/-! ## Databases among the files -/

namespace FileTree

/-- Every database among the files is of a kind. -/
def AllDatabases (P : Database → Prop) (tree : FileTree) : Prop :=
  ∀ p d, (p, .file (.database d)) ∈ tree.entries → P d

variable {P : Database → Prop} {tree : FileTree}

/-- A database that is found at a place is one of them. -/
lemma AllDatabases.of_entry? (h : tree.AllDatabases P) {p : FilePath} {d : Database}
    (hp : tree.entry? p = some (.file (.database d))) : P d := by
  unfold entry? at hp
  split_ifs at hp
  · cases hp
  · obtain ⟨before, after, heq, _⟩ := List.lookup_eq_some_iff.mp hp
    exact h p d (by simp [heq])

/-- A database that a file contains is one of them. -/
lemma AllDatabases.of_contentAt (h : tree.AllDatabases P) {l : Location} {name : String}
    {p : FilePath} {d : Database}
    (hcontent : NodeStore.contentAt l name tree p = .ok (.database d)) : P d := by
  unfold NodeStore.contentAt at hcontent
  split at hcontent
  · next hentry =>
    cases hcontent
    exact h.of_entry? hentry
  · split_ifs at hcontent
  · split at hcontent
    · split_ifs at hcontent
      cases hcontent
    · cases hcontent

/-- A database that is read from a file is one of them at rest, or new. -/
lemma AllDatabases.of_readDatabase (h : tree.AllDatabases P) {l : Location} {name : String}
    {p : FilePath} {d : Database} (hread : NodeStore.readDatabase l name tree = .ok (p, d)) :
    d = .empty ∨ ∃ d₀ b, P d₀ ∧ d = { d₀.atRest with isReadOnly := b } := by
  obtain ⟨_, content, found, hcontent, hfound, _, hsetUp⟩ :=
    NodeStore.readDatabase_eq_ok.mp hread
  obtain ⟨_, hnew⟩ | ⟨d₀, rfl, hold⟩ := NodeStore.setUp_ok hsetUp
  · exact .inl hnew
  · obtain rfl := NodeStore.eq_of_databaseIn? hfound
    exact .inr ⟨d₀, _, h.of_contentAt hcontent, hold⟩

/-- An entry that is put into a tree is there, or an old one. -/
lemma eq_or_mem_of_mem_putEntry {p q : FilePath} {e f : FileEntry}
    {entries : List (FilePath × FileEntry)} (h : (q, f) ∈ putEntry p e entries) :
    f = e ∨ (q, f) ∈ entries := by
  induction entries with
  | nil =>
    simp only [putEntry, List.mem_singleton, Prod.mk.injEq] at h
    exact .inl h.2
  | cons head rest ih =>
    simp only [putEntry] at h
    split_ifs at h
    · rcases List.mem_cons.mp h with h | h
      · exact .inl (congrArg Prod.snd h)
      · exact .inr (.tail _ h)
    · rcases List.mem_cons.mp h with h | h
      · exact .inr (h ▸ .head _)
      · exact (ih h).imp_right (.tail _)

/-- A directory is no database. -/
lemma AllDatabases.put_directory (h : tree.AllDatabases P) (p : FilePath) :
    (tree.put p .directory).AllDatabases P := by
  intro q d hd
  rcases eq_or_mem_of_mem_putEntry hd with heq | hd
  · cases heq
  · exact h q d hd

/-- Creating a directory creates no database. -/
lemma AllDatabases.createMissing (h : tree.AllDatabases P) (path : String) :
    (tree.createMissing path).2.AllDatabases P := by
  unfold FileTree.createMissing
  split
  · next created hc =>
    obtain ⟨names, _, hc⟩ := bind_eq_ok.mp hc
    split at hc
    · cases hc
    · obtain ⟨_, _, hc⟩ := bind_eq_ok.mp hc
      obtain ⟨_, _, hc⟩ := bind_eq_ok.mp hc
      split_ifs at hc
      cases hc
      exact h.put_directory _
  · exact h

/-- Creating several directories creates no database. -/
lemma AllDatabases.createInside (h : tree.AllDatabases P) (paths : List String) :
    (FileTree.createInside paths tree).2.AllDatabases P := by
  induction paths with
  | nil => exact h
  | cons path above ih =>
    unfold FileTree.createInside
    split
    · split
      · next created hc =>
        rw [hc] at ih
        exact ih.createMissing path
      · next created hc =>
        rw [hc] at ih
        exact ih
    · exact h.createMissing path

/-- Creating a directory and those above it creates no database. -/
lemma AllDatabases.ensureDirectory (h : tree.AllDatabases P) (path : String) :
    (FileTree.ensureDirectory path tree).2.AllDatabases P := by
  unfold FileTree.ensureDirectory
  split_ifs
  · exact h
  · exact h.createInside _

end FileTree

/-! ## Opening again -/

namespace NodeStore

/-- The contents of a store as its file has them. -/
def kept (s : NodeStore) : Database :=
  { s.database with isReadOnly := false }

/-- A store has been closed and opened again. The only database among the files is its own; the
name may also lead elsewhere, and then the store is a new one. -/
def Reopens (s s' : NodeStore) : Prop :=
  ∃ name tree tree', tree.AllDatabases (· = s.kept) ∧
    (openFile s.config name).perform tree = (.ok s', tree')

/-- A database that is opened has been among the files, or is new. -/
lemma openDatabase_ok {P : Database → Prop} {name : String} {tree tree' : FileTree} {d : Database}
    (hall : tree.AllDatabases P) (h : openDatabase name tree = .ok (d, tree')) :
    d = .empty ∨ ∃ d₀ b, P d₀ ∧ d = { d₀.atRest with isReadOnly := b } := by
  obtain ⟨l, _, h⟩ := bind_eq_ok.mp h
  split_ifs at h
  · obtain ⟨_, hsetUp, h⟩ := bind_eq_ok.mp h
    cases h
    obtain ⟨_, hnew⟩ | ⟨_, ⟨⟩, _⟩ := setUp_ok hsetUp
    exact .inl hnew
  · obtain ⟨⟨p, _⟩, hread, h⟩ := bind_eq_ok.mp h
    cases h
    exact hall.of_readDatabase hread

/-- The database of a file is opened once the directory of the file has been created. -/
lemma ends_openFile {config : IndexConfig} {name : String} {tree : FileTree}
    {I : FileTree → Prop} {Q : NodeStore → FileTree → Prop} (htree : I tree)
    (hensured : ∀ path, I (FileTree.ensureDirectory path tree).2)
    (hopened : ∀ t d t', I t → openDatabase name t = .ok (d, t') → Q (opened config d) t') :
    Ends (openFile config name) tree Q fun _ => True := by
  have hparent : Ends (ensureParent name) tree (fun _ => I) fun _ => True := by
    unfold ensureParent
    simp only
    split_ifs
    · exact htree
    · exact Action.ends_attempt (fun _ _ => hensured _) trivial
  refine Action.ends_bind (hparent.mono (fun _ t ht => ?_) fun _ h => h)
  refine Action.ends_bind (Action.ends_atomic (fun d t' hd => ?_) trivial)
  exact hopened t d t' ht (mapError_eq_ok.mp hd)

/-- A store that is opened again has the contents of the closed one, or none. -/
theorem Reopens.cases {s s' : NodeStore} (h : Reopens s s') :
    s' = opened s.config .empty ∨
      ∃ b, s' = opened s.config { s.database.atRest with isReadOnly := b } := by
  obtain ⟨name, tree, tree', hall, h⟩ := h
  have hends : Ends (openFile s.config name) tree
      (fun s' _ => s' = opened s.config .empty ∨
        ∃ b, s' = opened s.config { s.database.atRest with isReadOnly := b })
      fun _ => True := by
    refine ends_openFile hall hall.ensureDirectory fun t d t' ht hd => ?_
    obtain rfl | ⟨_, b, rfl, rfl⟩ := openDatabase_ok ht hd
    · exact .inl rfl
    · exact .inr ⟨b, rfl⟩
  exact hends.of_perform h

/-- A store as it is after it was opened again with its contents. -/
def reopened (s : NodeStore) : NodeStore :=
  opened s.config { s.database.atRest with isReadOnly := false }

/-- A store whose database is the only file is opened by the name of this file. -/
lemma perform_openFile_kept (config : IndexConfig) (s : NodeStore) :
    (openFile config "d").perform ⟨[(["d"], .file (.database s.kept))]⟩ =
      (.ok (opened config { s.database.atRest with isReadOnly := false }),
        ⟨[(["d"], .file (.database s.kept.atRest))]⟩) := by
  -- the name is one of a file whose directory is there
  have hnames : namesOf "d" = ["d"] := by cbv
  have hname : Location.ofName "d" = .ok ⟨"d", .creating, false⟩ := rfl
  have hparent : ensureParent "d" = pure () := rfl
  have hread : readDatabase ⟨"d", .creating, false⟩ "d" ⟨[(["d"], .file (.database s.kept))]⟩ =
      .ok (["d"], { s.kept.atRest with isReadOnly := false }) := by
    rw [readDatabase, placeOf?, hnames]
    rfl
  have hopen : openDatabase "d" ⟨[(["d"], .file (.database s.kept))]⟩ =
      .ok ({ s.kept.atRest with isReadOnly := false },
        ⟨[(["d"], .file (.database s.kept.atRest))]⟩) := by
    simp only [openDatabase, hname, hread, bind, Except.bind]
    rfl
  have hpure : (pure () : Action FileTree Unit).perform ⟨[(["d"], .file (.database s.kept))]⟩ =
      (.ok (), ⟨[(["d"], .file (.database s.kept))]⟩) := rfl
  simp only [openFile, hparent, Action.perform_bind, hpure, Action.atomic,
    Action.perform_ofFunction, hopen, Except.mapError]
  rfl

/-- Any store can be opened again with its contents. -/
lemma reopens_reopened (s : NodeStore) : s.Reopens s.reopened := by
  refine ⟨"d", ⟨[(["d"], .file (.database s.kept))]⟩, _, fun p d hd => ?_,
    perform_openFile_kept s.config s⟩
  simp only [List.mem_singleton, Prod.mk.injEq, FileEntry.file.injEq,
    FileContent.database.injEq] at hd
  exact hd.2

end NodeStore

/-! ## Events -/

/-- A call on a store. -/
inductive StoreCall where
  /-- A node is stored. -/
  | insert (m : EntityMetadata) (p : Properties)
  /-- A node gets other properties. -/
  | update (m : EntityMetadata) (id : Int) (p : Properties)
  /-- A node is looked up. -/
  | get (id : Int)
  /-- A node is deleted. -/
  | delete (id : Int)
  /-- A table is set up anew. -/
  | rebuild (m : EntityMetadata)
  /-- The index of an entity is asked for. -/
  | index (m : EntityMetadata)
  /-- The state of a table is asked for. -/
  | stats (m : EntityMetadata)
  /-- An index is searched. -/
  | query (index : NodeIndex) (text : String)
  /-- A property is searched. -/
  | findOne (index : NodeIndex) (property value : String)
  deriving DecidableEq

namespace StoreCall

/-- The state in which a call leaves a store, whether it succeeds or fails. -/
def leave (s : NodeStore) : StoreCall → NodeStore
  | insert m p => ((NodeStore.insert m p).perform s).2
  | update m id p => ((NodeStore.update m id p).perform s).2
  | get id => ((NodeStore.get id).perform s).2
  | delete id => ((NodeStore.delete id).perform s).2
  | rebuild m => ((NodeStore.rebuild m).perform s).2
  | index m => ((NodeStore.index m).perform s).2
  | stats m => ((NodeStore.stats m).perform s).2
  | query i text => ((i.query text).perform s).2
  | findOne i property value => ((i.findOne property value).perform s).2

/-- The metadata that a call brings along. -/
def metadata? : StoreCall → Option EntityMetadata
  | insert m _ | update m _ _ | rebuild m | index m | stats m => some m
  | get _ | delete _ | query .. | findOne .. => none

end StoreCall

/-- What can happen to a store. -/
inductive StoreEvent where
  /-- A call, which may fail. -/
  | call (c : StoreCall)
  /-- Another program stores a node in the database. -/
  | foreign (entity document : String)
  /-- The store is closed and opened again. -/
  | reopen
  deriving DecidableEq

namespace StoreEvent

/-- The entity that an event names in its metadata. -/
def entity? : StoreEvent → Option String
  | call c => c.metadata?.map (·.entityName)
  | foreign .. | reopen => none

/-- Whether an event is due to the store itself. -/
def IsOwn : StoreEvent → Prop
  | call _ | reopen => True
  | foreign .. => False

end StoreEvent

/-- What one event makes of a store. -/
inductive StoreStep : StoreEvent → NodeStore → NodeStore → Prop
  /-- A call leaves a store in some state. -/
  | call (c : StoreCall) (s : NodeStore) : StoreStep (.call c) s (c.leave s)
  /-- Another program stores a node. -/
  | foreign {entity document : String} {s : NodeStore} {id : Int} {d : Database} :
      s.database.insertForeignNode entity document = .ok (id, d) →
      StoreStep (.foreign entity document) s { s with database := d }
  /-- The store is opened again. -/
  | reopen {s s' : NodeStore} : s.Reopens s' → StoreStep .reopen s s'

/-- A run of a store that is new at first, the latest event in front. -/
inductive StoreRun (config : IndexConfig) : List StoreEvent → NodeStore → Prop
  /-- Nothing has happened. -/
  | start : StoreRun config [] (NodeStore.opened config .empty)
  /-- One more event. -/
  | step {events : List StoreEvent} {event : StoreEvent} {s s' : NodeStore} :
      StoreRun config events s → StoreStep event s s' → StoreRun config (event :: events) s'

/-- The state in which an event of its own leaves a store that keeps its file. -/
def StoreEvent.leave (s : NodeStore) : StoreEvent → NodeStore
  | call c => c.leave s
  | reopen => s.reopened
  | foreign .. => s

/-- A new store after some events of its own, the latest one in front. -/
def NodeStore.after (config : IndexConfig) : List StoreEvent → NodeStore
  | [] => opened config .empty
  | event :: events => event.leave (after config events)

/-- Events of a store itself are a run. -/
lemma StoreRun.of_own (config : IndexConfig) {events : List StoreEvent}
    (h : ∀ event ∈ events, event.IsOwn) : StoreRun config events (NodeStore.after config events) := by
  induction events with
  | nil => exact .start
  | cons event events ih =>
    have hrun := ih fun e he => h e (.tail _ he)
    cases event with
    | call c => exact .step hrun (.call c _)
    | reopen => exact .step hrun (.reopen (NodeStore.reopens_reopened _))
    | foreign entity document => exact (h _ (.head _)).elim

/-- The metadata of an entity all of whose properties are searchable. -/
def EntityMetadata.searchable (entity : String) (names : List String) : EntityMetadata :=
  ⟨⟨.node, entity⟩, names.map fun name => ⟨name, true⟩⟩

/-! ## What runs keep -/

/-- What every statement and setup of a call keeps, on behalf of the calls that are admitted. It may
depend on which entities have been prepared. -/
structure CallInvariant (config : IndexConfig) (admits : StoreEvent → Prop)
    (I : List String → Database → Prop) : Prop where
  /-- Storing a node keeps it. -/
  insert {m : EntityMetadata} {p : Properties} {id : Int} {prepared : List String}
    {d d' : Database} :
    admits (.call (.insert m p)) → I prepared d →
      d.insertNode m.entityName p.document = .ok (id, d') → I prepared d'
  /-- Giving a node other properties keeps it. -/
  update {m : EntityMetadata} {p : Properties} {id : Int} {found : Bool} {prepared : List String}
    {d d' : Database} :
    admits (.call (.update m id p)) → I prepared d →
      d.updateNode id m.entityName p.document = .ok (found, d') → I prepared d'
  /-- Deleting a node keeps it. -/
  delete {id : Int} {found : Bool} {prepared : List String} {d d' : Database} :
    admits (.call (.delete id)) → I prepared d → d.deleteNode id = .ok (found, d') → I prepared d'
  /-- Setting the table of an entity up that has not been prepared keeps it, however this ends. -/
  ensure {c : StoreCall} {m : EntityMetadata} {p : IndexPlan} {prepared : List String}
    {d : Database} :
    admits (.call c) → c.metadata? = some m → m.entityName ∉ prepared →
      IndexPlan.ofMetadata config m = .ok p → I prepared d →
      Ends p.ensure d (fun _ => I (prepared.insert m.entityName)) (I prepared)
  /-- Setting a table up anew keeps it, however this ends. -/
  rebuild {m : EntityMetadata} {p : IndexPlan} {prepared : List String} {d : Database} :
    admits (.call (.rebuild m)) → IndexPlan.ofMetadata config m = .ok p → I prepared d →
      Ends p.rebuild d (fun _ => I (prepared.insert m.entityName)) (I prepared)

/-- What every event keeps, on behalf of the events that are admitted. -/
structure StoreInvariant (config : IndexConfig) (admits : StoreEvent → Prop)
    (I : List String → Database → Prop) : Prop extends CallInvariant config admits I where
  /-- A new database has it. -/
  empty : I [] .empty
  /-- A node of another program keeps it. -/
  foreign {entity document : String} {id : Int} {prepared : List String} {d d' : Database} :
    admits (.foreign entity document) → I prepared d →
      d.insertForeignNode entity document = .ok (id, d') → I prepared d'
  /-- Opening the database again keeps it. -/
  reopen {prepared : List String} {d : Database} (b : Bool) :
    I prepared d → I [] { d.atRest with isReadOnly := b }

namespace CallInvariant

variable {config : IndexConfig} {admits : StoreEvent → Prop} {I : List String → Database → Prop}

/-- A store whose configuration and database are as they have to be. -/
def Holds (config : IndexConfig) (I : List String → Database → Prop) (s : NodeStore) : Prop :=
  s.config = config ∧ I s.prepared s.database

variable (hI : CallInvariant config admits I) {s : NodeStore}

include hI

/-- Setting up the table of an entity, if that has to be done, keeps what a setup keeps. -/
lemma ends_prepare {c : StoreCall} {m : EntityMetadata} (hadmits : admits (.call c))
    (hm : c.metadata? = some m) (hs : Holds config I s) :
    Ends (NodeStore.prepare m) s (fun _ => Holds config I) (Holds config I) := by
  obtain ⟨rfl, hdatabase⟩ := hs
  unfold NodeStore.prepare
  refine Action.ends_bind (Action.ends_get ?_)
  split_ifs with hnew
  · have hnew : m.entityName ∉ s.prepared := by simpa using hnew
    refine Action.ends_bind (Action.ends_query (fun p hp => ?_) ⟨rfl, hdatabase⟩)
    refine Action.ends_bind (Action.ends_onPart ?_)
    exact (hI.ensure hadmits hm hnew hp hdatabase).mono (fun _ _ h => ⟨rfl, h⟩) fun _ h => ⟨rfl, h⟩
  · exact ⟨rfl, hdatabase⟩

omit hI in
/-- A statement on the database of a store keeps what it keeps there. -/
lemma ends_execute {α : Type} {statement : Database → Except DatabaseFault (α × Database)}
    (hs : Holds config I s)
    (hstatement : ∀ x d', statement s.database = .ok (x, d') → I s.prepared d') :
    Ends (NodeStore.onDatabase (Database.execute statement)) s (fun _ => Holds config I)
      (Holds config I) := by
  obtain ⟨rfl, hdatabase⟩ := hs
  refine Action.ends_onPart (Database.ends_execute ⟨rfl, hdatabase⟩ fun x d' h _ => ?_)
  exact ⟨rfl, hstatement x d' h⟩

/-- Every call keeps what statements and setups keep. -/
lemma leave (c : StoreCall) (hadmits : admits (.call c)) (hs : Holds config I s) :
    Holds config I (c.leave s) := by
  cases c with
  | insert m p =>
    refine Action.Ends.after (a := NodeStore.insert m p) ?_
    refine Action.ends_bind (Action.ends_ofExcept (fun _ _ => ?_) hs)
    refine Action.ends_bind ((hI.ends_prepare hadmits rfl hs).mono (fun _ s₁ hs₁ => ?_) fun _ h => h)
    exact ends_execute hs₁ fun _ _ h => hI.insert hadmits hs₁.2 h
  | update m id p =>
    refine Action.Ends.after (a := NodeStore.update m id p) ?_
    refine Action.ends_bind (Action.ends_ofExcept (fun _ _ => ?_) hs)
    refine Action.ends_bind ((hI.ends_prepare hadmits rfl hs).mono (fun _ s₁ hs₁ => ?_) fun _ h => h)
    exact ends_execute hs₁ fun _ _ h => hI.update hadmits hs₁.2 h
  | get id => exact hs
  | delete id =>
    refine Action.Ends.after (a := NodeStore.delete id) ?_
    exact ends_execute hs fun _ _ h => hI.delete hadmits hs.2 h
  | rebuild m =>
    refine Action.Ends.after (a := NodeStore.rebuild m) ?_
    refine Action.ends_bind (Action.ends_query (fun p hp => ?_) hs)
    obtain ⟨rfl, hdatabase⟩ := hs
    refine Action.ends_bind (Action.ends_onPart ?_)
    exact (hI.rebuild hadmits hp hdatabase).mono (fun _ _ h => ⟨rfl, h⟩) fun _ h => ⟨rfl, h⟩
  | index m =>
    refine Action.Ends.after (a := NodeStore.index m) ?_
    refine Action.ends_bind ((hI.ends_prepare hadmits rfl hs).mono (fun _ s₁ hs₁ => ?_) fun _ h => h)
    exact Action.ends_bind (Action.ends_query (fun _ _ => hs₁) hs₁)
  | stats m =>
    refine Action.Ends.after (a := NodeStore.stats m) ?_
    exact Action.ends_bind (Action.ends_query (fun _ _ => Action.ends_query (fun _ _ => hs) hs) hs)
  | query i text => exact hs
  | findOne i property value =>
    refine Action.Ends.after (a := i.findOne property value) ?_
    refine Action.ends_bind (Action.ends_ofExcept (fun _ _ => ?_) hs)
    exact Action.ends_query (fun _ _ => hs) hs

end CallInvariant

namespace StoreInvariant

open CallInvariant (Holds)

variable {config : IndexConfig} {admits : StoreEvent → Prop} {I : List String → Database → Prop}
variable (hI : StoreInvariant config admits I) {s : NodeStore}

include hI

/-- Every event that is admitted keeps what statements and setups keep. -/
lemma step {event : StoreEvent} {s' : NodeStore} (hadmits : admits event) (hs : Holds config I s)
    (h : StoreStep event s s') : Holds config I s' := by
  cases h with
  | call c _ => exact hI.leave c hadmits hs
  | foreign h => exact ⟨hs.1, hI.foreign hadmits hs.2 h⟩
  | reopen h =>
    obtain rfl | ⟨b, rfl⟩ := h.cases
    · exact ⟨hs.1, hI.empty⟩
    · exact ⟨hs.1, hI.reopen b hs.2⟩

/-- What every statement and setup keeps, a store has after every run. -/
theorem run {events : List StoreEvent} (h : StoreRun config events s)
    (hadmits : ∀ event ∈ events, admits event) : Holds config I s := by
  induction h with
  | start => exact ⟨rfl, hI.empty⟩
  | step _ hs ih =>
    exact hI.step (hadmits _ (.head _)) (ih fun e he => hadmits e (.tail _ he)) hs

end StoreInvariant

end EntityFinder
