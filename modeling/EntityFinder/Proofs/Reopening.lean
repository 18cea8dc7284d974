import EntityFinder.Proofs.Runs

set_option autoImplicit false

/-!
# Opening the same file again

A store that is opened by a name of its own file has the contents of the closed one, with no table
in use. What is created on the way are directories, and these are in the way of no file.

## Main definitions

* `EntityFinder.FileTree.KeepsFiles`: no file has become another one.
* `EntityFinder.FileTree.Extends`: nothing but directories has been added.
* `EntityFinder.NodeStore.ReopensFile`: a store as it is after its file was opened again.

## Main results

* `EntityFinder.FileTree.extends_ensureDirectory`: creating a directory and those above it adds
  directories at most.
* `EntityFinder.NodeStore.ReopensFile.exists_eq`: what such a store is.
* `EntityFinder.NodeStore.reopensFile_kept`: every store can be opened again.
-/

namespace EntityFinder

open EntityFinder.Action (Ends)

/-! ## Files that stay -/

namespace FileTree

/-- What is a file in one tree is the same file in the other one. -/
def KeepsFiles (tree tree' : FileTree) : Prop :=
  ∀ p content, tree.entry? p = some (.file content) → tree'.entry? p = some (.file content)

variable {tree tree' tree'' : FileTree}

/-- What is found at a place is what was put there last. -/
lemma lookup_putEntry (p q : FilePath) (e : FileEntry) (entries : List (FilePath × FileEntry)) :
    (putEntry p e entries).lookup q = if q = p then some e else entries.lookup q := by
  induction entries with
  | nil =>
    by_cases h : q = p
    · simp [putEntry, h]
    · simp [putEntry, h, List.lookup_cons, beq_eq_false_iff_ne.mpr h]
  | cons head rest ih =>
    obtain ⟨r, old⟩ := head
    rw [putEntry]
    split_ifs with hr hq hq
    · simp [hr, hq]
    · subst hr
      simp [List.lookup_cons, beq_eq_false_iff_ne.mpr hq]
    · subst hq
      have hne : (q == r) = false := beq_eq_false_iff_ne.mpr (Ne.symm hr)
      rw [List.lookup_cons, hne, ih, if_pos rfl]
    · rw [List.lookup_cons, List.lookup_cons, ih, if_neg hq]

/-! ## Directories that are added -/

/-- Nothing but directories has been added to a tree. -/
def Extends (tree tree' : FileTree) : Prop :=
  ∃ places : List FilePath, tree'.entries = tree.entries ++ places.map fun p => (p, .directory)

/-- Nothing has been added to a tree that is the same. -/
lemma Extends.refl (tree : FileTree) : Extends tree tree :=
  ⟨[], by simp⟩

/-- Adding directories passes on. -/
lemma Extends.trans (h : Extends tree tree') (h' : Extends tree' tree'') : Extends tree tree'' := by
  obtain ⟨places, h⟩ := h
  obtain ⟨places', h'⟩ := h'
  exact ⟨places ++ places', by rw [h', h, List.append_assoc, ← List.map_append]⟩

/-- What there is stays where it is when directories are added. -/
lemma Extends.entry? (h : Extends tree tree') {p : FilePath} {e : FileEntry}
    (hp : tree.entry? p = some e) : tree'.entry? p = some e := by
  obtain ⟨places, h⟩ := h
  unfold FileTree.entry? at hp ⊢
  split_ifs at hp ⊢
  · exact hp
  · rw [h, List.lookup_append, hp]
    rfl

/-- Adding directories keeps all files. -/
lemma Extends.keepsFiles (h : Extends tree tree') : KeepsFiles tree tree' :=
  fun _ _ hp => h.entry? hp

/-- A directory is added where nothing was. -/
lemma extends_put {q : FilePath} (h : tree.entry? q = none) :
    Extends tree (tree.put q .directory) := by
  have hentries : ∀ entries : List (FilePath × FileEntry), entries.lookup q = none →
      putEntry q .directory entries = entries ++ [(q, .directory)] := by
    intro entries hlookup
    induction entries with
    | nil => rfl
    | cons head rest ih =>
      obtain ⟨r, old⟩ := head
      rw [List.lookup_cons] at hlookup
      split at hlookup
      · cases hlookup
      · next hne =>
        rw [putEntry, if_neg (Ne.symm (beq_eq_false_iff_ne.mp hne)), ih hlookup, List.cons_append]
  unfold FileTree.entry? at h
  split_ifs at h
  exact ⟨[q], hentries tree.entries h⟩

/-- Creating a directory adds directories at most. -/
lemma extends_createMissing (path : String) : Extends tree (tree.createMissing path).2 := by
  unfold FileTree.createMissing
  split
  · next created hc =>
    obtain ⟨names, _, hc⟩ := bind_eq_ok.mp hc
    split at hc
    · cases hc
    · obtain ⟨_, _, hc⟩ := bind_eq_ok.mp hc
      obtain ⟨q, _, hc⟩ := bind_eq_ok.mp hc
      split_ifs at hc with hsome
      cases hc
      exact extends_put (by simpa using hsome)
  · exact .refl tree

/-- Creating several directories adds directories at most. -/
lemma extends_createInside (paths : List String) :
    Extends tree (FileTree.createInside paths tree).2 := by
  induction paths with
  | nil => exact .refl tree
  | cons path above ih =>
    unfold FileTree.createInside
    split
    · split
      · next created hc =>
        rw [hc] at ih
        exact ih.trans (extends_createMissing path)
      · next created hc =>
        rw [hc] at ih
        exact ih
    · exact extends_createMissing path

/-- Creating a directory and those above it adds directories at most. -/
lemma extends_ensureDirectory (path : String) :
    Extends tree (FileTree.ensureDirectory path tree).2 := by
  unfold FileTree.ensureDirectory
  split_ifs
  · exact .refl tree
  · exact extends_createInside _

end FileTree

/-! ## Opening again -/

namespace NodeStore

/-- The place of a file is told by its path. -/
lemma placeOf?_eq_some {tree : FileTree} {path : String} {p : FilePath}
    (h : placeOf? tree path = some p) : p = FilePath.ofText path := by
  have hstep : ∀ (names : List String) (q : FilePath),
      names.foldlM (approach tree) q = some p → p = names.foldl FilePath.step q := by
    intro names
    induction names with
    | nil =>
      intro q hq
      cases hq
      rfl
    | cons name names ih =>
      intro q hq
      rw [List.foldlM_cons, Option.bind_eq_bind, Option.bind_eq_some_iff] at hq
      obtain ⟨q', hq', hrest⟩ := hq
      have hname : q' = q.step name := by
        unfold approach at hq'
        simp only at hq'
        split_ifs at hq'
        split at hq'
        · exact (Option.some.inj hq').symm
        · exact (Option.some.inj hq').symm
        · cases hq'
      rw [List.foldl_cons, ← hname]
      exact ih q' hrest
  exact hstep _ _ h

/-- The store has been closed and then opened by a name of its own file, which holds it. -/
def ReopensFile (config : IndexConfig) (s s' : NodeStore) : Prop :=
  ∃ name l p tree tree', Location.ofName name = .ok l ∧ l.isNowhere = false ∧
    placeOf? tree l.path = some p ∧ tree.entry? p = some (.file (.database s.kept)) ∧
    (openFile config name).perform tree = (.ok s', tree')

variable {config : IndexConfig} {s s' : NodeStore}

/-- A database that is read from a file is the one that the file holds. -/
lemma readDatabase_ok {l : Location} {name : String} {tree : FileTree} {p : FilePath}
    {d d' : Database} (hp : tree.entry? (FilePath.ofText l.path) = some (.file (.database d)))
    (h : readDatabase l name tree = .ok (p, d')) : ∃ b, d' = { d.atRest with isReadOnly := b } := by
  obtain ⟨hplace, content, found, hcontent, hfound, _, hsetUp⟩ := readDatabase_eq_ok.mp h
  rw [contentAt, placeOf?_eq_some hplace, hp] at hcontent
  cases hcontent
  cases hfound
  cases hsetUp
  exact ⟨_, rfl⟩

/-- A store whose file was opened again has the contents of the closed one, with no table in use and
no entity prepared. -/
theorem ReopensFile.exists_eq (h : s.ReopensFile config s') :
    ∃ b, s' = opened config { s.database.atRest with isReadOnly := b } := by
  obtain ⟨name, l, p, tree, tree', hname, hfile, hplace, hentry, h⟩ := h
  rw [placeOf?_eq_some hplace] at hentry
  have hends : Ends (openFile config name) tree
      (fun s' _ => ∃ b, s' = opened config { s.database.atRest with isReadOnly := b })
      fun _ => True := by
    refine ends_openFile (I := fun tree => tree.entry? _ = some _) hentry
      (fun path => (FileTree.extends_ensureDirectory path).keepsFiles _ _ hentry)
      fun t d t' htree hd => ?_
    obtain ⟨l', hl', hd⟩ := bind_eq_ok.mp hd
    rw [hname] at hl'
    cases hl'
    rw [hfile] at hd
    obtain ⟨⟨q, d₁⟩, h₁, hd⟩ := bind_eq_ok.mp hd
    cases hd
    obtain ⟨b, rfl⟩ := readDatabase_ok htree h₁
    exact ⟨b, rfl⟩
  exact hends.of_perform h

/-- Every store can be closed and its file opened again, with any configuration. -/
lemma reopensFile_kept (config : IndexConfig) (s : NodeStore) :
    s.ReopensFile config (opened config { s.database.atRest with isReadOnly := false }) := by
  have hnames : namesOf "d" = ["d"] := by cbv
  have hplace : placeOf? ⟨[(["d"], .file (.database s.kept))]⟩ "d" = some ["d"] := by
    rw [placeOf?, hnames]
    rfl
  exact ⟨"d", ⟨"d", .creating, false⟩, ["d"], ⟨[(["d"], .file (.database s.kept))]⟩, _, rfl, rfl,
    hplace, rfl, perform_openFile_kept config s⟩

end NodeStore

end EntityFinder
