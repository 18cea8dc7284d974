import EntityFinder.Proofs.Reopening
import EntityFinder.Proofs.Schemas.Libraries
import EntityFinder.Proofs.TableNames

set_option autoImplicit false

/-!
# What is found again

A program that opens a database creates directories, and leaves the database in its file. Paths lead
where they have led before, directories that were created need not be created again, and the schemas
in a directory are the same ones. So the program finds all that it has found.

## Main definitions

* `EntityFinder.FileTree.SameKinds`: two trees with files, and with directories, in the same places.
* `EntityFinder.FileTree.Sustains`: directories are where they were, and nothing has gone.
* `EntityFinder.FileTree.Stands`: what was found in one tree is found in the other one.
* `EntityFinder.NodeStore.IsAt`: the file of a name is at a place and can be changed.

## Main results

* `EntityFinder.FileTree.Extends.stands`, `EntityFinder.FileTree.stands_put`: adding directories,
  and putting a database where nothing else is, leave everything to be found.
* `EntityFinder.SchemaLibrary.fromDirectory_again`, `EntityFinder.NodeStore.ensureParent_again`: the
  schemas are read again, and the directory of a file is there.
* `EntityFinder.NodeStore.IsAt.of_openDatabase`: a database that was opened can be opened again.
-/

namespace EntityFinder

/-! ## Files and directories in the same places -/

namespace FileTree

/-- Two trees have files in the same places, and directories in the same places. -/
structure SameKinds (tree tree' : FileTree) : Prop where
  /-- What is a directory in one is a directory in the other. -/
  directory_iff : ∀ p, tree'.entry? p = some .directory ↔ tree.entry? p = some .directory
  /-- There is something in the same places. -/
  isSome_iff : ∀ p, (tree'.entry? p).isSome ↔ (tree.entry? p).isSome

variable {tree tree' tree'' : FileTree}

/-- What there is after an entry has been put. -/
lemma entry?_put {p : FilePath} (q : FilePath) (e : FileEntry) (hp : p ≠ []) :
    FileTree.entry? (tree.put p e) q = if q = p then some e else tree.entry? q := by
  unfold entry?
  rcases q with _ | ⟨name, q⟩
  · rw [if_neg (Ne.symm hp)]
    rfl
  · exact lookup_putEntry p (name :: q) e tree.entries

/-- A place where no directory is, is not the first one. -/
lemma ne_nil_of_not_directory {p : FilePath} (hp : tree.entry? p ≠ some .directory) : p ≠ [] := by
  rintro rfl
  exact hp rfl

/-- Putting a file where no directory is leaves all directories, and adds none. -/
lemma entry?_put_file {p : FilePath} {content : FileContent}
    (hp : tree.entry? p ≠ some .directory) (q : FilePath) :
    FileTree.entry? (tree.put p (.file content)) q = some .directory ↔
      tree.entry? q = some .directory := by
  rw [entry?_put q _ (ne_nil_of_not_directory hp)]
  split_ifs with hq
  · subst hq
    simp [hp]
  · rfl

/-- Putting a file in place of a file changes no kind. -/
lemma sameKinds_put {p : FilePath} {old new : FileContent}
    (hp : tree.entry? p = some (.file old)) : SameKinds tree (tree.put p (.file new)) := by
  have hfile : tree.entry? p ≠ some .directory := by simp [hp]
  refine ⟨entry?_put_file hfile, fun q => ?_⟩
  rw [entry?_put q _ (ne_nil_of_not_directory hfile)]
  split_ifs with hq
  · simp [hq, hp]
  · rfl

namespace SameKinds

variable (h : SameKinds tree tree')

include h

/-- Going one name further does not depend on what files contain. -/
lemma enter_eq (p : FilePath) (name : String) : tree'.enter p name = tree.enter p name := by
  have hdirectory := h.directory_iff p
  have hsome := h.isSome_iff p
  rw [enter, enter]
  generalize tree.entry? p = e at hdirectory hsome
  generalize tree'.entry? p = e' at hdirectory hsome
  rcases e with _ | _ | _ <;> rcases e' with _ | _ | _ <;> simp_all

/-- Following names does not depend on what files contain. -/
lemma walk_eq (names : List String) : tree'.walk names = tree.walk names := by
  have hsame : tree'.enter = tree.enter := funext fun p => funext fun name => h.enter_eq p name
  rw [walk, walk, hsame]

/-- The place of a file does not depend on what files contain. -/
lemma placeOf?_eq (path : String) :
    NodeStore.placeOf? tree' path = NodeStore.placeOf? tree path := by
  have hsame : NodeStore.approach tree' = NodeStore.approach tree := by
    funext p name
    rw [NodeStore.approach, NodeStore.approach, h.walk_eq]
  rw [NodeStore.placeOf?, NodeStore.placeOf?, hsame]

end SameKinds

/-! ## Paths that can still be followed -/

/-- Directories are where they were, and nothing has gone. -/
structure Sustains (tree tree' : FileTree) : Prop where
  /-- Directories are directories still. -/
  directory : ∀ p, tree.entry? p = some .directory → tree'.entry? p = some .directory
  /-- Where something was there is something. -/
  isSome : ∀ p, (tree.entry? p).isSome → (tree'.entry? p).isSome

/-- Adding directories leaves everything where it was. -/
lemma Extends.sustains (h : Extends tree tree') : Sustains tree tree' where
  directory _ hp := h.entry? hp
  isSome p hp := by
    obtain ⟨e, he⟩ := Option.isSome_iff_exists.mp hp
    rw [h.entry? he]
    rfl

/-- Putting a file where no directory is leaves everything else where it was. -/
lemma sustains_put {p : FilePath} {content : FileContent} (hp : tree.entry? p ≠ some .directory) :
    Sustains tree (tree.put p (.file content)) where
  directory q := (entry?_put_file hp q).mpr
  isSome q hq := by
    rw [entry?_put q _ (ne_nil_of_not_directory hp)]
    split_ifs
    · rfl
    · exact hq

namespace Sustains

variable (h : Sustains tree tree')

include h

/-- A name that could be followed can be followed. -/
lemma enter_eq {p q : FilePath} {name : String} (hq : tree.enter p name = .ok q) :
    tree'.enter p name = .ok q := by
  unfold enter at hq ⊢
  split at hq
  · cases hq
  · cases hq
  · next hp => rwa [h.directory p hp]

/-- Names that could be followed can be followed. -/
lemma walk_eq {names : List String} {p : FilePath} (hp : tree.walk names = .ok p) :
    tree'.walk names = .ok p := by
  have hfrom : ∀ (names : List String) (q : FilePath),
      names.foldlM tree.enter q = .ok p → names.foldlM tree'.enter q = .ok p := by
    intro names
    induction names with
    | nil => exact fun _ hq => hq
    | cons name names ih =>
      intro q hq
      obtain ⟨r, hr, hrest⟩ := bind_eq_ok.mp hq
      rw [List.foldlM_cons, h.enter_eq hr]
      exact ih r hrest
  exact hfrom names [] hp

/-- A path that led somewhere leads there. -/
lemma locate_eq {path : String} {p : FilePath} (hp : tree.locate path = .ok p) :
    tree'.locate path = .ok p := by
  obtain ⟨names, hnames, hp⟩ := bind_eq_ok.mp hp
  rw [locate, hnames]
  exact h.walk_eq hp

/-- A path that led to something leads to something. -/
lemma contains_eq {path : String} (hp : tree.contains path = true) :
    tree'.contains path = true := by
  unfold contains at hp ⊢
  split at hp
  · next e he =>
    obtain ⟨p, hlocate, he⟩ := bind_eq_ok.mp he
    have hsome : (tree.entry? p).isSome := by
      split at he
      · next hentry => rw [hentry]; rfl
      · cases he
    obtain ⟨e', he'⟩ := Option.isSome_iff_exists.mp (h.isSome p hsome)
    rw [find, h.locate_eq hlocate]
    simp only [bind, Except.bind, he']
  · cases hp

end Sustains

/-- A directory that can be listed can be found. -/
lemma contains_of_list {path : String} {files : List (String × FileEntry)}
    (h : tree.list path = .ok files) : tree.contains path = true := by
  obtain ⟨p, hp, hentry⟩ := bind_eq_ok.mp h
  rw [contains, find, hp]
  simp only [bind, Except.bind]
  split at hentry
  · next hdirectory => rw [hdirectory]
  · cases hentry
  · cases hentry

/-! ## The schemas of a directory -/

/-- What stands at no place of a list makes no difference to what is selected from it. -/
lemma filterMap_putEntry {β : Type} {f : FilePath × FileEntry → Option β} {p : FilePath}
    {e : FileEntry} {entries : List (FilePath × FileEntry)} (hnew : f (p, e) = none)
    (hold : ∀ old, entries.lookup p = some old → f (p, old) = none) :
    (putEntry p e entries).filterMap f = entries.filterMap f := by
  induction entries with
  | nil => rw [putEntry, List.filterMap_cons, hnew]
  | cons head rest ih =>
    obtain ⟨q, old⟩ := head
    rw [putEntry]
    split_ifs with hq
    · subst hq
      rw [List.filterMap_cons, List.filterMap_cons, hnew, hold old (by simp)]
    · rw [List.filterMap_cons, List.filterMap_cons, ih fun old' hlookup => hold old' ?_]
      rw [List.lookup_cons, beq_eq_false_iff_ne.mpr (Ne.symm hq), hlookup]

/-- What the entries at the places of a directory declare. -/
private def declaredAt (directory : String) (p : FilePath) :
    FilePath × FileEntry → Option EntitySchema := fun (q, e) =>
  (match q.getLast? with
    | some name => if q.dropLast = p then some (name, e) else none
    | none => none).bind (schemaOfFile? directory)

/-- What is listed declares what the entries at its places declare. -/
private lemma exists_declared {directory : String} {p : FilePath}
    (hp : tree.locate directory = .ok p) (hdirectory : tree.entry? p = some .directory) : ∃ files, tree.list directory = .ok files ∧
      SchemaLibrary.declared directory files =
        tree.entries.filterMap (declaredAt directory p) := by
  rw [list, hp]
  simp only [bind, Except.bind, hdirectory]
  exact ⟨_, rfl, List.filterMap_filterMap⟩

/-- What was found in one tree is found in the other one, and the same schemas are declared. -/
structure Stands (tree tree' : FileTree) : Prop extends Sustains tree tree' where
  /-- A directory that was listed declares the same schemas. -/
  declared : ∀ directory files, tree.list directory = .ok files →
    ∃ files', tree'.list directory = .ok files' ∧
      SchemaLibrary.declared directory files' = SchemaLibrary.declared directory files

/-- What is found in three trees. -/
lemma Stands.trans (h : Stands tree tree') (h' : Stands tree' tree'') : Stands tree tree'' where
  directory p hp := h'.directory p (h.directory p hp)
  isSome p hp := h'.isSome p (h.isSome p hp)
  declared directory files hfiles := by
    obtain ⟨files', hfiles', hsame⟩ := h.declared directory files hfiles
    obtain ⟨files'', hfiles'', hsame'⟩ := h'.declared directory files' hfiles'
    exact ⟨files'', hfiles'', hsame'.trans hsame⟩

/-- Schemas are declared as before when the entries of directories declare what they did. -/
private lemma Sustains.stands (h : Sustains tree tree')
    (hentries : ∀ directory p, tree'.entries.filterMap (declaredAt directory p) =
      tree.entries.filterMap (declaredAt directory p)) : Stands tree tree' := by
  refine ⟨h, fun directory files hlist => ?_⟩
  obtain ⟨p, hlocate, hp⟩ := bind_eq_ok.mp hlist
  have hdirectory : tree.entry? p = some .directory := by
    split at hp
    · next hdirectory => exact hdirectory
    · cases hp
    · cases hp
  obtain ⟨_, hlist', hdeclared⟩ := exists_declared hlocate hdirectory
  cases hlist.symm.trans hlist'
  obtain ⟨files', hlist', hdeclared'⟩ :=
    exists_declared (h.locate_eq hlocate) (h.directory p hdirectory)
  exact ⟨files', hlist', by rw [hdeclared', hdeclared, hentries]⟩

/-- An entry that declares no schema declares none at its place. -/
private lemma declaredAt_eq_none {directory : String} {p q : FilePath} {e : FileEntry}
    (he : ∀ name s, ¬Declares (name, e) s) : declaredAt directory p (q, e) = none := by
  have hnone : ∀ name, schemaOfFile? directory (name, e) = none := fun name =>
    Option.eq_none_iff_forall_ne_some.mpr fun s hs => he name s (schemaOfFile?_eq_some.mp hs)
  simp only [declaredAt]
  cases q.getLast? with
  | none => rfl
  | some name =>
    dsimp only
    split_ifs
    · exact hnone name
    · rfl

/-- Added directories declare nothing. -/
lemma Extends.stands (h : Extends tree tree') : Stands tree tree' := by
  refine h.sustains.stands fun directory p => ?_
  obtain ⟨places, hplaces⟩ := h
  have hnone : (places.map fun p => (p, FileEntry.directory)).filterMap
      (declaredAt directory p) = [] := by
    rw [List.filterMap_map, List.filterMap_eq_nil_iff]
    intro q _
    exact declaredAt_eq_none fun name s hs => by
      obtain ⟨_, hcontent, _⟩ := hs.content
      cases hcontent
  rw [hplaces, List.filterMap_append, hnone, List.append_nil]

/-- A database may be put where nothing is that declares a schema. -/
lemma stands_put {p : FilePath} {d : Database} (hp : tree.entry? p ≠ some .directory)
    (hnone : ∀ e, tree.entry? p = some e → ∀ name s, ¬Declares (name, e) s) :
    Stands tree (tree.put p (.file (.database d))) := by
  refine (sustains_put hp).stands fun directory q => filterMap_putEntry ?_ fun old hold => ?_
  · exact declaredAt_eq_none fun name s hs => by
      obtain ⟨_, hcontent, _⟩ := hs.content
      cases hcontent
  · refine declaredAt_eq_none (hnone old ?_)
    unfold entry?
    rw [if_neg (by simpa using ne_nil_of_not_directory hp), hold]

/-! ## Directories that have been created -/

/-- Empty names stay in a directory. -/
lemma foldlM_enter_blanks {q : FilePath} (hq : tree.entry? q = some .directory)
    {blanks : List String} (hblanks : ∀ name ∈ blanks, name = "") :
    blanks.foldlM tree.enter q = .ok q := by
  induction blanks with
  | nil => rfl
  | cons name blanks ih =>
    obtain rfl := hblanks name (.head _)
    rw [List.foldlM_cons, enter, hq]
    exact ih fun name hname => hblanks name (.tail _ hname)

/-- A directory that was created can be found. -/
lemma contains_of_createDirectory {path : String} (h : tree.createDirectory path = .ok tree') :
    tree'.contains path = true := by
  obtain ⟨names, hnames, h⟩ := bind_eq_ok.mp h
  split at h
  · cases h
  · next last above hsplit =>
    obtain ⟨p, hp, h⟩ := bind_eq_ok.mp h
    obtain ⟨q, hq, h⟩ := bind_eq_ok.mp h
    split_ifs at h with hsome
    cases h
    have hnone : tree.entry? q = none := by simpa using hsome
    have hsustains := (extends_put hnone).sustains
    have hroot : q ≠ [] := fun hq => by
      rw [hq] at hnone
      cases hnone
    have hdirectory : FileTree.entry? (tree.put q .directory) q = some .directory := by
      rw [entry?_put q _ hroot, if_pos rfl]
    have hall : names = above.reverse ++ last :: (names.reverse.takeWhile (· == "")).reverse := by
      have hreverse := congrArg List.reverse
        (List.takeWhile_append_dropWhile (p := (· == "")) (l := names.reverse))
      rw [hsplit] at hreverse
      simpa using hreverse.symm
    have hblanks : ∀ name ∈ (names.reverse.takeWhile (· == "")).reverse, name = "" := by
      intro name hname
      have hblank := List.mem_takeWhile_imp (List.mem_reverse.mp hname)
      simpa using hblank
    have hwalk : (tree.put q .directory).walk names = .ok q := by
      rw [hall, walk, List.foldlM_append, ← walk, hsustains.walk_eq hp]
      simp only [bind, Except.bind, List.foldlM_cons, hsustains.enter_eq hq]
      exact foldlM_enter_blanks hdirectory hblanks
    rw [contains, find, locate, hnames]
    simp only [bind, Except.bind, hwalk, hdirectory]

/-- A directory that was created unless it existed can be found. -/
lemma contains_of_createMissing {path : String} (h : createMissing path tree = (.ok (), tree')) :
    tree'.contains path = true := by
  unfold createMissing at h
  split at h
  · next created hcreated =>
    cases h
    exact contains_of_createDirectory hcreated
  · rw [Prod.mk.injEq] at h
    obtain ⟨hok, rfl⟩ := h
    split_ifs at hok with hdirectory
    unfold isDirectory at hdirectory
    unfold contains
    split at hdirectory
    · next hfound => rw [hfound]
    · cases hdirectory

/-- The directory that was to be there can be found. -/
lemma contains_of_ensureDirectory {path : String} (hpath : path ≠ "")
    (h : ensureDirectory path tree = (.ok (), tree')) : tree'.contains path = true := by
  unfold ensureDirectory at h
  split_ifs at h with hcontains
  · cases h
    exact hcontains
  · rw [createDirectories, ancestors, ancestorsWithin, if_neg hpath, createInside] at h
    split at h
    · split at h
      · exact contains_of_createMissing h
      · cases h
    · exact contains_of_createMissing h

end FileTree

/-! ## Doing it again -/

/-- Reading a schema directory adds directories at most. -/
lemma SchemaLibrary.extends_fromDirectory (directory : String) (tree : FileTree) :
    tree.Extends ((fromDirectory directory).perform tree).2 := by
  have hcreated := @FileTree.extends_ensureDirectory tree directory
  rw [fromDirectory, Action.perform_bind, Action.perform_attempt]
  rcases hensure : FileTree.ensureDirectory directory tree with ⟨_ | _, created⟩ <;>
    rw [hensure] at hcreated
  · exact hcreated
  · simp only [Except.mapError, Action.perform_bind, Action.perform_get]
    rcases (reload created).perform (unloaded directory) with ⟨_ | _, _⟩ <;> exact hcreated

/-- The schemas that were read are read again, and nothing has to be created for it. -/
theorem SchemaLibrary.fromDirectory_again {directory : String} {library : SchemaLibrary}
    {tree found tree' : FileTree}
    (h : (fromDirectory directory).perform tree = (.ok library, found))
    (hstands : found.Stands tree') :
    (fromDirectory directory).perform tree' = (.ok library, tree') := by
  obtain ⟨_, created, _, h⟩ := Action.perform_bind_eq_ok.mp h
  simp only [Action.perform_bind, Action.perform_get, reload, Action.perform_ofFunction,
    unloaded] at h
  cases hlist : created.list directory with
  | error e => simp [hlist, Action.ofExcept] at h
  | ok files =>
    simp only [hlist, Action.ofExcept, Action.perform_ofFunction, Action.perform_pure,
      Prod.mk.injEq, Except.ok.injEq] at h
    obtain ⟨rfl, rfl⟩ := h
    obtain ⟨files', hlist', hdeclared⟩ := hstands.declared directory files hlist
    have hcontains := FileTree.contains_of_list hlist
    rw [perform_fromDirectory (hstands.contains_eq hcontains) hlist', load, hdeclared, load]

namespace NodeStore

/-- The directory of a file that was created is there. -/
theorem ensureParent_again {path : String} {tree found tree' : FileTree}
    (h : (ensureParent path).perform tree = (.ok (), found)) (hsustains : found.Sustains tree') :
    (ensureParent path).perform tree' = (.ok (), tree') := by
  unfold ensureParent at h ⊢
  simp only at h ⊢
  split_ifs at h ⊢ with hempty
  · rfl
  · rw [Action.perform_attempt, Prod.mk.injEq] at h
    obtain ⟨hok, rfl⟩ := h
    have hcontains := hsustains.contains_eq
      (FileTree.contains_of_ensureDirectory hempty (Prod.ext (mapError_eq_ok.mp hok) rfl))
    rw [Action.perform_attempt, FileTree.ensureDirectory, if_pos hcontains]
    rfl

/-- Creating the directory of a file adds directories at most. -/
lemma extends_ensureParent (path : String) (tree : FileTree) :
    tree.Extends ((ensureParent path).perform tree).2 := by
  unfold ensureParent
  simp only
  split_ifs
  · exact .refl tree
  · rw [Action.perform_attempt]
    exact FileTree.extends_ensureDirectory _

/-! ## Opening a file -/

variable {name : String} {l : Location} {tree tree' : FileTree} {p : FilePath}
variable {d d' : Database}

/-- A file that is opened is there, or can be created. -/
lemma of_contentAt {content : FileContent} (h : contentAt l name tree p = .ok content) :
    tree.entry? p = some (.file content) ∨
      tree.entry? p = none ∧ ∃ q, tree.walk p = .ok q := by
  unfold contentAt at h
  split at h
  · next hp =>
    cases h
    exact .inl hp
  · cases h
  · next hp =>
    split at h
    · next q hq => exact .inr ⟨hp, q, hq⟩
    · cases h

/-- A text that is not read declares no schema. -/
lemma not_declares_of_negligible {text : String} (h : text.utf8ByteSize ≤ negligibleSize)
    (file : String) (s : EntitySchema) : ¬Declares (file, .file (.text text)) s := by
  have hempty : (ofJson EntitySchema.decoder "").toOption = none := by decide +kernel
  have hsingle : ∀ n : Fin 128,
      (ofJson EntitySchema.decoder (String.ofList [Char.ofNat n])).toOption = none := by
    decide +kernel
  intro hs
  obtain ⟨_, hcontent, hdecode⟩ := hs.content
  cases hcontent
  obtain ⟨cs, rfl⟩ : ∃ cs, text = String.ofList cs := ⟨text.toList, by simp⟩
  rw [String.utf8ByteSize_ofList, negligibleSize] at h
  rcases cs with _ | ⟨c, _ | ⟨c', cs⟩⟩
  · rw [show String.ofList [] = "" from rfl] at hdecode
    rw [hdecode] at hempty
    cases hempty
  · have hsize := c.utf8Size_pos
    have hascii : c.val ≤ 127 := Char.utf8Size_eq_one_iff.mp (by
      simp only [String.utf8Len] at h
      omega)
    have hnone := Text.forall_ascii
      (p := fun c => (ofJson EntitySchema.decoder (String.ofList [c])).toOption = none) hsingle
      (c := c) (Nat.lt_of_le_of_lt (UInt32.le_iff_toNat_le.mp hascii) (by decide))
    rw [hdecode] at hnone
    cases hnone
  · have hsize := c.utf8Size_pos
    have hsize' := c'.utf8Size_pos
    simp only [String.utf8Len] at h
    omega

/-- A file that can be opened declares no schema. -/
lemma not_declares_of_databaseIn? {content : FileContent} {found : Option Database}
    (h : databaseIn? content = .ok found) (file : String) (s : EntitySchema) :
    ¬Declares (file, .file content) s := by
  cases content with
  | text text =>
    simp only [databaseIn?] at h
    split_ifs at h with hsize
    exact not_declares_of_negligible hsize file s
  | bytes size =>
    intro hs
    obtain ⟨_, hcontent, _⟩ := hs.content
    cases hcontent
  | database d =>
    intro hs
    obtain ⟨_, hcontent, _⟩ := hs.content
    cases hcontent

/-- Where a database can be opened there is no directory. -/
lemma entry?_ne_directory (h : readDatabase l name tree = .ok (p, d)) :
    tree.entry? p ≠ some .directory := by
  obtain ⟨_, content, _, hcontent, _⟩ := readDatabase_eq_ok.mp h
  rcases of_contentAt hcontent with hp | ⟨hp, _⟩ <;> simp [hp]

/-- Opening a database leaves everything to be found. -/
theorem stands_keep (h : readDatabase l name tree = .ok (p, d)) :
    tree.Stands (keep d p tree) := by
  refine FileTree.stands_put (entry?_ne_directory h) fun e he => ?_
  obtain ⟨_, content, found, hcontent, hfound, _⟩ := readDatabase_eq_ok.mp h
  rcases of_contentAt hcontent with hp | ⟨hp, _⟩
  · cases hp.symm.trans he
    exact not_declares_of_databaseIn? hfound
  · cases hp.symm.trans he

/-! ## The way to a file -/

/-- A step on the way to a file. -/
lemma of_approach {q : FilePath} {step : String} (h : approach tree p step = some q) :
    q = p.step step ∧ ¬longestPlace < (p.step step).text.utf8ByteSize := by
  unfold approach at h
  simp only at h
  split_ifs at h with hlong
  split at h
  · cases h
    exact ⟨rfl, hlong⟩
  · cases h
    exact ⟨rfl, hlong⟩
  · cases h

/-- A name that does not go back leaves the place behind it. -/
lemma prefix_step (p : FilePath) {step : String} (h : step ≠ FilePath.back) :
    p <+: p.step step := by
  unfold FilePath.step
  rw [if_neg h]
  split_ifs
  · exact List.prefix_rfl
  · exact List.prefix_append p [step]

/-- A path on which no name goes back leads to its place through the directories above it. -/
lemma placeOf?_of_walk {path : String} {q : FilePath} (hback : FilePath.back ∉ namesOf path)
    (h : placeOf? tree path = some p) (hwalk : tree'.walk p = .ok q) :
    placeOf? tree' path = some p := by
  -- Every place on the way is the front of the place, so it can be followed as well.
  have hway : ∀ (names : List String) (r : FilePath), FilePath.back ∉ names →
      names.foldlM (approach tree) r = some p →
      r <+: p ∧ names.foldlM (approach tree') r = some p := by
    intro names
    induction names with
    | nil =>
      intro r _ hr
      cases hr
      exact ⟨List.prefix_rfl, rfl⟩
    | cons name names ih =>
      intro r hnames hr
      rw [List.mem_cons, not_or] at hnames
      obtain ⟨hname, hrest⟩ := hnames
      rw [List.foldlM_cons, Option.bind_eq_bind, Option.bind_eq_some_iff] at hr
      obtain ⟨r', hr', hr⟩ := hr
      obtain ⟨hfront, hagain⟩ := ih r' hrest hr
      obtain ⟨rfl, hlong⟩ := of_approach hr'
      obtain ⟨rest, hp⟩ := hfront
      have hwalked : ∃ q', tree'.walk (r.step name) = .ok q' := by
        rw [← hp, FileTree.walk, List.foldlM_append] at hwalk
        obtain ⟨q', hq', _⟩ := bind_eq_ok.mp hwalk
        exact ⟨q', hq'⟩
      obtain ⟨q', hq'⟩ := hwalked
      refine ⟨(prefix_step r (Ne.symm hname)).trans ⟨rest, hp⟩, ?_⟩
      rw [List.foldlM_cons, approach, if_neg hlong, hq']
      exact hagain
  exact (hway (namesOf path) [] hback h).2

/-- The path of a file that was opened leads to it, unless the file is new and a name on the way
goes back. -/
lemma placeOf?_keep (h : readDatabase l name tree = .ok (p, d))
    (hpath : (tree.entry? p).isSome ∨ FilePath.back ∉ namesOf l.path) :
    placeOf? (keep d p tree) l.path = some p := by
  obtain ⟨hplace, content, _, hcontent, _⟩ := readDatabase_eq_ok.mp h
  rcases of_contentAt hcontent with hp | ⟨hp, q, hq⟩
  · exact ((FileTree.sameKinds_put hp).placeOf?_eq l.path).trans hplace
  · rw [hp] at hpath
    have hback := hpath.resolve_left (by simp)
    exact placeOf?_of_walk hback hplace ((stands_keep h).walk_eq hq)

/-! ## Opening a file again -/

/-- A name stands for the file at a place, where a database can be opened and changed. -/
structure IsAt (name : String) (l : Location) (tree : FileTree) (p : FilePath) : Prop where
  /-- The name is that of a location. -/
  named : Location.ofName name = .ok l
  /-- What is there outlasts its use. -/
  kept : l.isNowhere = false
  /-- The path leads to the place. -/
  place : placeOf? tree l.path = some p
  /-- Nothing is in the way of the companions of a database. -/
  companions : checkCompanions tree p true = .ok ()
  /-- The database can be changed. -/
  changeable : isFixed l tree p = false

/-- What is in the way of companions are directories. -/
lemma isTaken_eq (h : ∀ q, tree'.entry? q = some .directory ↔ tree.entry? q = some .directory) :
    isTaken tree' = isTaken tree := by
  funext q ending
  rw [Bool.eq_iff_iff, isTaken, isTaken, beq_iff_eq, beq_iff_eq]
  exact h _

/-- Whether a file can be opened and changed does not depend on what files contain. -/
lemma IsAt.of_sameKinds (h : IsAt name l tree p) (hsame : tree.SameKinds tree') :
    IsAt name l tree' p := by
  have htaken := isTaken_eq hsame.directory_iff
  have hcompanions : checkCompanions tree' p true = checkCompanions tree p true := by
    rw [checkCompanions, checkCompanions, htaken]
  have hfixed : isFixed l tree' p = isFixed l tree p := by
    rw [isFixed, isFixed, htaken]
  exact ⟨h.named, h.kept, (hsame.placeOf?_eq _).trans h.place, hcompanions ▸ h.companions,
    hfixed ▸ h.changeable⟩

/-- What is opened is the database that the file holds. -/
lemma IsAt.openDatabase_eq (h : IsAt name l tree p)
    (hp : tree.entry? p = some (.file (.database d))) :
    openDatabase name tree = .ok ({ d.atRest with isReadOnly := false },
      keep { d.atRest with isReadOnly := false } p tree) := by
  have hread : readDatabase l name tree = .ok (p, { d.atRest with isReadOnly := false }) := by
    simp only [readDatabase, h.place, contentAt, hp, databaseIn?, bind, Except.bind,
      Option.isSome_some, h.companions, setUp, h.changeable]
  simp only [openDatabase, h.named, bind, Except.bind, h.kept, Bool.false_eq_true, if_false, hread]

/-- A store that is closed leaves its contents in the file. -/
lemma IsAt.save_eq (h : IsAt name l tree p) (hp : tree.entry? p = some (.file (.database d)))
    (s : NodeStore) : s.save name tree = keep s.database p tree := by
  simp only [save, h.named, h.kept, Bool.false_eq_true, if_false, h.place, hp]

/-- What is kept at a place where no directory is, is found there. -/
lemma entry?_keep (hp : tree.entry? p ≠ some .directory) :
    FileTree.entry? (keep d p tree) p =
      some (.file (.database { d with isReadOnly := false })) := by
  rw [keep, FileTree.entry?_put p _ (FileTree.ne_nil_of_not_directory hp), if_pos rfl]

/-- A database that is opened in a file is read from its place and kept there. -/
lemma of_openDatabase (hname : Location.ofName name = .ok l) (hfile : l.isNowhere = false)
    (h : openDatabase name tree = .ok (d, tree')) :
    readDatabase l name tree = .ok (FilePath.ofText l.path, d) ∧
      tree' = keep d (FilePath.ofText l.path) tree := by
  simp only [openDatabase, hname, bind, Except.bind, hfile, Bool.false_eq_true, if_false] at h
  split at h
  · cases h
  · next found hread =>
    obtain ⟨p, d₁⟩ := found
    cases h
    obtain ⟨hplace, _⟩ := readDatabase_eq_ok.mp hread
    obtain rfl := placeOf?_eq_some hplace
    exact ⟨hread, rfl⟩

/-- A file in which a database was opened can be opened and changed again, if its path leads to
anything. -/
theorem IsAt.of_readDatabase (hname : Location.ofName name = .ok l) (hfile : l.isNowhere = false)
    (h : readDatabase l name tree = .ok (p, d)) (hwritable : d.isReadOnly = false)
    (hplace : (placeOf? (keep d p tree) l.path).isSome) : IsAt name l (keep d p tree) p := by
  obtain ⟨hplace', _, found, _, _, hcheck, hsetUp⟩ := readDatabase_eq_ok.mp h
  have htaken : isTaken (keep d p tree) = isTaken tree :=
    isTaken_eq (FileTree.entry?_put_file (entry?_ne_directory h))
  obtain ⟨q, hq⟩ := Option.isSome_iff_exists.mp hplace
  obtain rfl : q = p := (placeOf?_eq_some hq).trans (placeOf?_eq_some hplace').symm
  refine ⟨hname, hfile, hq, ?_, ?_⟩
  · unfold checkCompanions at hcheck ⊢
    rw [htaken]
    split_ifs at hcheck ⊢
    rfl
  · have hfixed : isFixed l tree q = false := by
      cases found with
      | none =>
        unfold setUp at hsetUp
        split_ifs at hsetUp with hfixed
        simpa using hfixed
      | some d₀ =>
        cases hsetUp
        exact hwritable
    rw [isFixed, htaken, ← isFixed, hfixed]

end NodeStore

end EntityFinder
