import EntityFinder.CommandLine.Run
import EntityFinder.Proofs.Commands.Places

set_option autoImplicit false

/-!
# Commands that are run one after the other

Each run begins with reading the schemas and opening the file of the nodes, and ends with leaving
the nodes in this file. Nothing else is left behind. So the next run finds the same schemas, and the
nodes as the one before has left them.

## Main definitions

* `EntityFinder.CommandLine.session`: what a run begins with.
* `EntityFinder.CommandLine.carryOut`: what a command makes of what a run has found.
* `EntityFinder.CommandLine.Finds`: files among which everything is there, whatever the database
  contains.
* `EntityFinder.CommandLine.Offers`: files among which runs find schemas and a store.
* `EntityFinder.CommandLine.WorksOn`: a command line that works on a directory and a file.
* `EntityFinder.CommandLine.filesAfter`: the files after some command lines.

## Main results

* `EntityFinder.CommandLine.offers_of_session`: a store that is found once can be found again, unless
  its file is new and a name on the way to it goes back.
* `EntityFinder.CommandLine.Offers.runInside`: a run on such files, and that the files it leaves are
  such files again.
* `EntityFinder.CommandLine.Offers.after_lines`: what every command keeps of a store, is kept by any
  number of command lines.
-/

namespace EntityFinder

open NodeStore (IsAt keep openDatabase opened)

/-- A store as it is found again after it has been closed. -/
def NodeStore.resumed (s : NodeStore) : NodeStore :=
  opened .standard { s.database.atRest with isReadOnly := false }

namespace CommandLine

/-! ## The beginning of a run -/

/-- What a run does before it opens its file: it reads the schemas of a directory, and creates the
directory of the file if there is none. -/
def groundwork (dir db : String) : Action FileTree SchemaLibrary := do
  let library ← SchemaLibrary.fromDirectory dir
  NodeStore.ensureParent db
  return library

/-- What a run begins with: it reads the schemas of a directory and opens the store in a file. -/
def session (dir db : String) : Action FileTree (SchemaLibrary × NodeStore) := do
  let library ← SchemaLibrary.fromDirectory dir
  let store ← NodeStore.openFile .standard db
  return (library, store)

variable {dir db : String} {library : SchemaLibrary} {s : NodeStore} {tree tree' : FileTree}

/-- Before a file is opened directories are added at most. -/
lemma extends_groundwork (dir db : String) (tree : FileTree) :
    tree.Extends ((groundwork dir db).perform tree).2 := by
  have hread := SchemaLibrary.extends_fromDirectory dir tree
  rw [groundwork, Action.perform_bind]
  rcases hlibrary : (SchemaLibrary.fromDirectory dir).perform tree with ⟨_ | library, t⟩ <;>
    rw [hlibrary] at hread
  · exact hread
  · have hparent := NodeStore.extends_ensureParent db t
    simp only [Action.perform_bind]
    rcases hcreated : (NodeStore.ensureParent db).perform t with ⟨_ | _, t'⟩ <;>
      rw [hcreated] at hparent <;> exact hread.trans hparent

/-- What was done before a file was opened is done again, and nothing has to be created for it. -/
lemma groundwork_again {found : FileTree}
    (h : (groundwork dir db).perform tree = (.ok library, found)) (hstands : found.Stands tree') :
    (groundwork dir db).perform tree' = (.ok library, tree') := by
  obtain ⟨library', t, hlibrary, h⟩ := Action.perform_bind_eq_ok.mp h
  obtain ⟨_, t', hparent, h⟩ := Action.perform_bind_eq_ok.mp h
  cases h
  have hextends := NodeStore.extends_ensureParent db t
  rw [hparent] at hextends
  refine Action.perform_bind_eq_ok.mpr ⟨library, tree', ?_, ?_⟩
  · exact SchemaLibrary.fromDirectory_again hlibrary (hextends.stands.trans hstands)
  · refine Action.perform_bind_eq_ok.mpr ⟨(), tree', ?_, rfl⟩
    exact NodeStore.ensureParent_again hparent hstands.toSustains

/-- A run has begun when the directories are there and the database has been opened. -/
lemma session_eq_ok : (session dir db).perform tree = (.ok (library, s), tree') ↔
    ∃ t d, (groundwork dir db).perform tree = (.ok library, t) ∧
      openDatabase db t = .ok (d, tree') ∧ s = opened .standard d := by
  constructor
  · intro h
    obtain ⟨library', t₁, hlibrary, h⟩ := Action.perform_bind_eq_ok.mp h
    obtain ⟨s', t₃, hopen, h⟩ := Action.perform_bind_eq_ok.mp h
    cases h
    obtain ⟨_, t₂, hparent, hopen⟩ := Action.perform_bind_eq_ok.mp hopen
    obtain ⟨d, t₄, hdatabase, hopen⟩ := Action.perform_bind_eq_ok.mp hopen
    cases hopen
    refine ⟨t₂, d, ?_, ?_, rfl⟩
    · refine Action.perform_bind_eq_ok.mpr ⟨library, t₁, hlibrary, ?_⟩
      exact Action.perform_bind_eq_ok.mpr ⟨(), t₂, hparent, rfl⟩
    · rw [Action.atomic, Action.perform_ofFunction] at hdatabase
      split at hdatabase
      · next hok =>
        cases hdatabase
        exact mapError_eq_ok.mp hok
      · cases hdatabase
  · rintro ⟨t, d, hground, hdatabase, rfl⟩
    obtain ⟨_, t₁, hlibrary, h⟩ := Action.perform_bind_eq_ok.mp hground
    obtain ⟨_, t₂, hparent, h⟩ := Action.perform_bind_eq_ok.mp h
    cases h
    refine Action.perform_bind_eq_ok.mpr ⟨library, t₁, hlibrary, ?_⟩
    refine Action.perform_bind_eq_ok.mpr ⟨opened .standard d, tree', ?_, rfl⟩
    refine Action.perform_bind_eq_ok.mpr ⟨(), t, hparent, ?_⟩
    refine Action.perform_bind_eq_ok.mpr ⟨d, tree', ?_, rfl⟩
    simp only [Action.atomic, Action.perform_ofFunction, hdatabase, Except.mapError]

/-- Where the schemas can be listed, and no directory has to be created for the file, a run has
begun when the database has been read. -/
lemma session_of_list {files : List (String × FileEntry)} {l : Location} {p : FilePath}
    {d : Database} (hlist : tree.list dir = .ok files) (hparent : (parentText? db).getD "" = "")
    (hname : Location.ofName db = .ok l) (hfile : l.isNowhere = false)
    (hread : NodeStore.readDatabase l db tree = .ok (p, d)) :
    (session dir db).perform tree =
      (.ok (⟨dir, SchemaLibrary.load dir files⟩, opened .standard d), keep d p tree) := by
  refine session_eq_ok.mpr ⟨tree, d, ?_, ?_, rfl⟩
  · refine Action.perform_bind_eq_ok.mpr ⟨_, tree, SchemaLibrary.perform_fromDirectory
      (FileTree.contains_of_list hlist) hlist, ?_⟩
    refine Action.perform_bind_eq_ok.mpr ⟨(), tree, ?_, rfl⟩
    rw [NodeStore.ensureParent]
    simp only [hparent, if_true]
    rfl
  · simp only [openDatabase, hname, bind, Except.bind, hfile, Bool.false_eq_true, if_false, hread]

/-- How a run comes out whose command has been carried out. -/
def Outcome.ofAnswer : Except FinderError String → Outcome
  | .ok output => .success output
  | .error e => .failure (.finding e)

/-- What a command makes of a library and a store that have just been found. -/
def carryOut (c : Command) (library : SchemaLibrary) (s : NodeStore) :
    Except FinderError String × World :=
  (perform c).perform ((.empty, library), s)

/-- A run that has begun carries its command out, and leaves the store in the file. -/
lemma runInside_eq {i : Invocation}
    (h : (session i.schemaDir i.db).perform tree = (.ok (library, s), tree')) :
    i.runInside tree = (.ofAnswer (carryOut i.command library s).1,
      (carryOut i.command library s).2.2.save i.db tree') := by
  obtain ⟨library', t, hlibrary, h⟩ := Action.perform_bind_eq_ok.mp h
  obtain ⟨s', t', hopen, h⟩ := Action.perform_bind_eq_ok.mp h
  cases h
  simp only [Invocation.runInside, hlibrary, hopen, carryOut]
  rcases (perform i.command).perform ((.empty, library), s) with ⟨_ | _, _⟩ <;> rfl

/-! ## Files that are found again -/

/-- Runs find a library among some files, and a store with whatever database the file at a place
holds. -/
structure Finds (dir db : String) (library : SchemaLibrary) (p : FilePath) (tree : FileTree) :
    Prop where
  /-- The schemas are those of the library, and all directories are there. -/
  groundwork : (groundwork dir db).perform tree = (.ok library, tree)
  /-- The store is in the file at the place. -/
  isAt : ∃ l, IsAt db l tree p

/-- What runs find does not depend on what the database contains. -/
lemma Finds.keep {p : FilePath} {d : Database} (h : Finds dir db library p tree)
    (hp : tree.entry? p = some (.file (.database d))) (d' : Database) :
    Finds dir db library p (keep d' p tree) := by
  obtain ⟨l, hisAt⟩ := h.isAt
  have hstands : tree.Stands (NodeStore.keep d' p tree) := by
    refine FileTree.stands_put (by simp [hp]) fun e he => ?_
    cases hp.symm.trans he
    exact NodeStore.not_declares_of_databaseIn? rfl
  exact ⟨groundwork_again h.groundwork hstands, l, hisAt.of_sameKinds (FileTree.sameKinds_put hp)⟩

/-- Runs find a library of schemas and a store among some files. -/
structure Offers (dir db : String) (library : SchemaLibrary) (s : NodeStore) (tree : FileTree) :
    Prop where
  /-- The nodes of the store can be changed. -/
  writable : s.database.isReadOnly = false
  /-- Schemas and store are found, the store outlasts its use, and its path leads to it still. -/
  found : ∃ l tree', Location.ofName db = .ok l ∧ l.isNowhere = false ∧
    (session dir db).perform tree = (.ok (library, s), tree') ∧
    (NodeStore.placeOf? tree' l.path).isSome

/-- A store that is found is offered, unless its file is new and a name on the way to it goes
back. -/
theorem offers_of_session {l : Location} (hname : Location.ofName db = .ok l)
    (hfile : l.isNowhere = false) (hwritable : s.database.isReadOnly = false)
    (hpath : (tree.entry? (FilePath.ofText l.path)).isSome ∨ FilePath.back ∉ namesOf l.path)
    (h : (session dir db).perform tree = (.ok (library, s), tree')) :
    Offers dir db library s tree := by
  refine ⟨hwritable, l, tree', hname, hfile, h, ?_⟩
  obtain ⟨t, d, hground, hopen, rfl⟩ := session_eq_ok.mp h
  obtain ⟨hread, rfl⟩ := NodeStore.of_openDatabase hname hfile hopen
  have hextends := extends_groundwork dir db tree
  rw [hground] at hextends
  rw [NodeStore.placeOf?_keep hread (hpath.imp_left (hextends.sustains.isSome _))]
  rfl

/-- Once schemas and a store have been found, they are found whatever the database contains. -/
lemma Offers.finds (h : Offers dir db library s tree) : ∃ p tree',
    (session dir db).perform tree = (.ok (library, s), tree') ∧
      tree'.entry? p = some (.file (.database s.kept)) ∧ Finds dir db library p tree' := by
  obtain ⟨hwritable, l, tree', hname, hfile, hsession, hplace⟩ := h
  obtain ⟨t, d, hground, hopen, rfl⟩ := session_eq_ok.mp hsession
  obtain ⟨hread, rfl⟩ := NodeStore.of_openDatabase hname hfile hopen
  refine ⟨_, _, hsession, NodeStore.entry?_keep (NodeStore.entry?_ne_directory hread), ?_⟩
  exact ⟨groundwork_again hground (NodeStore.stands_keep hread), l,
    IsAt.of_readDatabase hname hfile hread hwritable hplace⟩

/-- Files among which a store is found, offer the one that is left in its place. -/
lemma Finds.offers {p : FilePath} {d : Database} (h : Finds dir db library p tree)
    (hp : tree.entry? p = some (.file (.database d))) (s : NodeStore) :
    Offers dir db library s.resumed (s.save db tree) := by
  obtain ⟨l, hisAt⟩ := h.isAt
  have hfile : tree.entry? p ≠ some .directory := by simp [hp]
  have hkept := NodeStore.entry?_keep (d := s.database) hfile
  rw [hisAt.save_eq hp s]
  have hagain := h.keep hp s.database
  obtain ⟨l, hisAt⟩ := hagain.isAt
  have hopen := hisAt.openDatabase_eq hkept
  obtain ⟨l', hisAt'⟩ := (hagain.keep hkept { s.database.atRest with isReadOnly := false }).isAt
  refine ⟨rfl, l', _, hisAt'.named, hisAt'.kept, ?_, by rw [hisAt'.place]; rfl⟩
  exact session_eq_ok.mpr ⟨_, _, hagain.groundwork, hopen, rfl⟩

/-- A run of a command that needs schemas and a store comes out as the command does, and leaves the
files with the store that the command has left. -/
theorem Offers.runInside {c : Command} (h : Offers dir db library s tree) :
    (Invocation.runInside ⟨dir, db, c⟩ tree).1 = .ofAnswer (carryOut c library s).1 ∧
      Offers dir db library (carryOut c library s).2.2.resumed
        (Invocation.runInside ⟨dir, db, c⟩ tree).2 := by
  obtain ⟨p, tree', hsession, hentry, hfinds⟩ := h.finds
  rw [@runInside_eq _ _ _ _ ⟨dir, db, c⟩ hsession]
  exact ⟨rfl, hfinds.offers hentry _⟩

/-! ## Command lines -/

/-- A command line works on a directory and a file, unless it is refused. -/
def WorksOn (dir db : String) (line : List String) : Prop :=
  ∀ i, Invocation.ofArguments line = .ok i → i.schemaDir = dir ∧ i.db = db

/-- The files after some command lines have been run one after the other. -/
def filesAfter (tree : FileTree) (lines : List (List String)) : FileTree :=
  lines.foldl (fun tree line => (run line tree).2) tree

/-- The commands that need schemas and a store. -/
def Command.NeedsStore (c : Command) : Prop :=
  ∀ criteria, c ≠ .compile criteria

variable {line : List String} {lines : List (List String)}

/-- A command line that asks for such a command carries it out. -/
lemma run_eq_runInside {c : Command} (hline : Invocation.ofArguments line = .ok ⟨dir, db, c⟩)
    (hc : c.NeedsStore) (tree : FileTree) :
    run line tree = Invocation.runInside ⟨dir, db, c⟩ tree := by
  rw [run, hline]
  cases c with
  | compile criteria => exact absurd rfl (hc criteria)
  | _ => rfl

/-- A command line leaves the files as they are, or with the store that a command has left. -/
theorem Offers.after_line (h : Offers dir db library s tree) (hline : WorksOn dir db line) :
    (run line tree).2 = tree ∨ ∃ c, Offers dir db library (carryOut c library s).2.2.resumed
      (run line tree).2 := by
  rcases hread : Invocation.ofArguments line with f | ⟨dir', db', c⟩
  · exact .inl (by rw [run, hread])
  · obtain ⟨rfl, rfl⟩ := hline _ hread
    by_cases hc : c.NeedsStore
    · rw [run_eq_runInside hread hc]
      exact .inr ⟨c, h.runInside.2⟩
    · obtain ⟨criteria, rfl⟩ : ∃ criteria, c = .compile criteria := by
        simpa [Command.NeedsStore] using hc
      refine .inl ?_
      rw [run, hread]
      simp only [Invocation.run]
      split <;> rfl

/-- What every command keeps of a store, is kept by any number of command lines. -/
theorem Offers.after_lines {P : NodeStore → Prop}
    (hstep : ∀ c s, P s → P (carryOut c library s).2.2.resumed) (h : Offers dir db library s tree)
    (hs : P s) (hlines : ∀ line ∈ lines, WorksOn dir db line) :
    ∃ s', Offers dir db library s' (filesAfter tree lines) ∧ P s' := by
  induction lines generalizing s tree with
  | nil => exact ⟨s, h, hs⟩
  | cons line lines ih =>
    have hrest : ∀ line ∈ lines, WorksOn dir db line := fun l hl => hlines l (.tail _ hl)
    rw [filesAfter, List.foldl_cons]
    obtain hsame | ⟨c, hc⟩ := h.after_line (hlines line (.head _))
    · rw [hsame]
      exact ih h hs hrest
    · exact ih hc (hstep c s hs) hrest

end CommandLine

end EntityFinder
