import EntityFinder.Proofs.Resolutions
import EntityFinder.Proofs.Schemas.Files
import Mathlib

set_option autoImplicit false

/-!
# What a schema directory serves

A directory is read again and again, while its files change in between. What it serves afterwards
are the sound schemas that its entries declared when it was read last: one for each declared entity,
and nothing of what was read before. All other entries make no difference.

## Main definitions

* `EntityFinder.FileTree.entriesIn`: the entries of a directory, as far as it can be read.
* `EntityFinder.LibraryHistory`: the libraries that a directory gives, reading after reading.
* `EntityFinder.SchemaLibrary.Serves`: what a library tells of the entries of its directory.

## Main results

* `EntityFinder.SchemaLibrary.isSelection_load`: one schema is loaded for each declared entity.
* `EntityFinder.SchemaLibrary.serves_load`: what is loaded is served.
* `EntityFinder.LibraryHistory.serves_lastRead`: a library serves what has been read last, whatever
  there was before.
-/

namespace EntityFinder

namespace SchemaLibrary

/-! ## One schema for each entity -/

/-- Some of the schemas that are declared, one for each entity. -/
structure IsSelection (known declared : List EntitySchema) : Prop where
  /-- No entity has two of them. -/
  nodup : (known.map (·.name)).Nodup
  /-- They are declared. -/
  subset : ∀ s ∈ known, s ∈ declared
  /-- No entity is left out. -/
  complete : ∀ s ∈ declared, s.name ∈ known.map (·.name)

/-- A schema is added for an entity that had none, or it takes the place of another one. -/
lemma names_addSchema (s : EntitySchema) (known : List EntitySchema) :
    (addSchema s known).map (·.name) =
      if s.name ∈ known.map (·.name) then known.map (·.name)
      else known.map (·.name) ++ [s.name] := by
  induction known with
  | nil => simp [addSchema]
  | cons old rest ih =>
    rw [addSchema]
    by_cases hold : old.name = s.name
    · simp [hold]
    · rw [if_neg hold, List.map_cons, ih]
      by_cases hmem : s.name ∈ rest.map (·.name)
      · simp [hmem]
      · simp [hmem, Ne.symm hold]

/-- Adding a schema takes no entity away. -/
lemma mem_names_addSchema {s : EntitySchema} {known : List EntitySchema} {name : String} :
    name ∈ (addSchema s known).map (·.name) ↔ name ∈ known.map (·.name) ∨ name = s.name := by
  rw [names_addSchema]
  split_ifs with hmem
  · constructor
    · exact .inl
    · rintro (hname | rfl)
      · exact hname
      · exact hmem
  · rw [List.mem_append, List.mem_singleton]

/-- What is there after a schema has been added is this schema or was there before. -/
lemma mem_of_mem_addSchema {s t : EntitySchema} {known : List EntitySchema}
    (h : t ∈ addSchema s known) : t = s ∨ t ∈ known := by
  induction known with
  | nil => exact .inl (List.mem_singleton.mp h)
  | cons old rest ih =>
    rw [addSchema] at h
    split_ifs at h with hold
    · rcases List.mem_cons.mp h with rfl | hrest
      · exact .inl rfl
      · exact .inr (.tail _ hrest)
    · rcases List.mem_cons.mp h with rfl | hrest
      · exact .inr (.head _)
      · exact (ih hrest).imp_right (.tail _)

/-- One more schema is declared and added. -/
lemma IsSelection.add {known declared : List EntitySchema} (h : IsSelection known declared)
    (s : EntitySchema) : IsSelection (addSchema s known) (declared ++ [s]) where
  nodup := by
    rw [names_addSchema]
    split_ifs with hmem
    · exact h.nodup
    · rw [List.nodup_append]
      refine ⟨h.nodup, List.nodup_singleton _, ?_⟩
      intro name hname name' hname'
      rw [List.mem_singleton.mp hname']
      exact ne_of_mem_of_not_mem hname hmem
  subset t ht := by
    rcases mem_of_mem_addSchema ht with rfl | hknown
    · exact List.mem_append_right _ (List.mem_singleton_self _)
    · exact List.mem_append_left _ (h.subset t hknown)
  complete t ht := by
    rw [mem_names_addSchema]
    rcases List.mem_append.mp ht with hdeclared | hs
    · exact .inl (h.complete t hdeclared)
    · exact .inr (congrArg EntitySchema.name (List.mem_singleton.mp hs))

/-- One schema is loaded for each entity that is declared. -/
theorem isSelection_load (directory : String) (files : List (String × FileEntry)) :
    IsSelection (load directory files) (declared directory files) := by
  rw [load]
  -- The schemas are added one after the other, so each step is that of the last one.
  induction declared directory files using List.reverseRecOn with
  | nil => exact ⟨List.nodup_nil, by simp, by simp⟩
  | append_singleton declared s ih =>
    rw [List.foldl_concat]
    exact ih.add s

/-- A schema is declared in a directory if one of the entries declares it. -/
lemma mem_declared {directory : String} {files : List (String × FileEntry)} {s : EntitySchema} :
    s ∈ declared directory files ↔ ∃ file ∈ files, Declares file s := by
  rw [declared, List.mem_filterMap]
  simp only [schemaOfFile?_eq_some]

/-- Entries that declare nothing can be left out. -/
lemma declared_filter {directory : String} {files : List (String × FileEntry)}
    {keeps : String × FileEntry → Bool} (h : ∀ file, keeps file = false → ∀ s, ¬Declares file s) :
    declared directory (files.filter keeps) = declared directory files := by
  rw [declared, List.filterMap_filter, declared]
  apply List.filterMap_congr
  intro file _
  cases hkeeps : keeps file with
  | true => rfl
  | false =>
    rw [if_neg Bool.false_ne_true, eq_comm, Option.eq_none_iff_forall_ne_some]
    intro s hs
    exact h file hkeeps s (schemaOfFile?_eq_some.mp hs)

/-! ## Asking a library -/

section

variable {library : SchemaLibrary} {name : String} {s : EntitySchema}

/-- The entities that are listed are those that have a schema. -/
lemma mem_entityNames : name ∈ library.entityNames ↔ name ∈ library.schemas.map (·.name) := by
  rw [entityNames, List.mem_mergeSort]

/-- The entities are listed in the order of their names, each once. -/
lemma pairwise_entityNames (h : (library.schemas.map (·.name)).Nodup) :
    library.entityNames.Pairwise (· < ·) := by
  have hsorted : library.entityNames.Pairwise (· ≤ ·) := by
    refine (List.pairwise_mergeSort ?_ ?_ _).imp ?_
    · intro a b c hab hbc
      simp only [decide_eq_true_eq] at hab hbc ⊢
      exact String.le_trans hab hbc
    · intro a b
      simpa using String.le_total a b
    · intro a b hab
      simpa using hab
  have hnodup : library.entityNames.Nodup := (List.mergeSort_perm _ _).nodup_iff.mpr h
  refine hsorted.imp₂ ?_ hnodup
  intro a b hab hne
  apply String.not_le.mp
  intro hba
  exact hne (String.le_antisymm hab hba)

/-- The schema that is served for an entity is one of those that are loaded. -/
lemma of_schema? (h : library.schema? name = some s) : s ∈ library.schemas ∧ s.name = name := by
  rw [schema?] at h
  exact ⟨List.mem_of_find?_eq_some h, by simpa using List.find?_some h⟩

/-- No schema is served for an entity if none is listed. -/
lemma schema?_eq_none : library.schema? name = none ↔ name ∉ library.entityNames := by
  rw [schema?, List.find?_eq_none, mem_entityNames, List.mem_map]
  simp

end

/-- How general objects of a name are resolved that have not been resolved before. -/
structure Resolves (library : SchemaLibrary) (cache : MetadataCache) (name : String) : Prop where
  /-- The properties are those of the schema, in order, and the metadata is kept. -/
  found : ∀ s, library.schema? name = some s → s.properties ≠ [] →
    (MetadataCache.resolve source ⟨.node, name⟩).perform (cache, library) =
      (.ok ⟨⟨.node, name⟩, s.properties⟩, cache.keep ⟨⟨.node, name⟩, s.properties⟩, library)
  /-- A schema without properties makes no metadata. -/
  empty : ∀ s, library.schema? name = some s → s.properties = [] →
    (MetadataCache.resolve source ⟨.node, name⟩).perform (cache, library) =
      (.error (.metadata name "introspection yielded no properties"), cache, library)
  /-- Nothing is known of an entity without a schema. -/
  missing : library.schema? name = none →
    (MetadataCache.resolve source ⟨.node, name⟩).perform (cache, library) =
      (.error (.metadata name ("no schema file in " ++ library.directory)), cache, library)

/-- General objects are resolved by the schema of their name, if that is sound. -/
lemma resolves {library : SchemaLibrary} {cache : MetadataCache} {name : String}
    (hsound : ∀ s, library.schema? name = some s → s.IsSound)
    (hnew : cache.find? ⟨.node, name⟩ = none) : library.Resolves cache name := by
  have hasked : ∀ answer, library.declarations ⟨.node, name⟩ = answer →
      (MetadataCache.resolve source ⟨.node, name⟩).perform (cache, library) =
        (answer >>= MetadataCache.build ⟨.node, name⟩,
          cache.learn (answer >>= MetadataCache.build ⟨.node, name⟩), library) := by
    rintro answer rfl
    exact MetadataCache.perform_resolve_new hnew library
  refine ⟨fun s hs hsome => ?_, fun s hs hnone => ?_, fun hnone => ?_⟩
  · have hbuild := MetadataCache.build_eq_ok.mpr
      ⟨hsome, ((hsound s hs).ofDeclarations ⟨.node, name⟩).symm⟩
    rw [hasked (.ok s.properties) (by simp [declarations, hs]), bind_eq_ok.mpr ⟨_, rfl, hbuild⟩]
    rfl
  · rw [hasked (.ok []) (by simp [declarations, hs, hnone])]
    rfl
  · rw [hasked (.error (.metadata name ("no schema file in " ++ library.directory)))
      (by simp [declarations, hnone])]
    rfl

/-! ## Serving -/

/-- What a library tells of the entries that its directory had when it was read. -/
structure Serves (library : SchemaLibrary) (files : List (String × FileEntry)) : Prop where
  /-- The entities are listed in the order of their names, each once. -/
  sorted : library.entityNames.Pairwise (· < ·)
  /-- They are the entities that are declared. -/
  mem_entityNames : ∀ name,
    name ∈ library.entityNames ↔ ∃ file ∈ files, ∃ s, Declares file s ∧ s.name = name
  /-- There is a schema for each of them. -/
  listed : ∀ name, name ∈ library.entityNames ↔ ∃ s, library.schema? name = some s
  /-- A schema declares the entity that it is served for, does not contradict itself, and is that of
  an entry. -/
  declared : ∀ name s, library.schema? name = some s →
    s.name = name ∧ s.IsSound ∧ ∃ file ∈ files, Declares file s
  /-- General objects that have not been resolved before are resolved by their schema. -/
  resolves : ∀ cache : MetadataCache, ∀ name, cache.find? ⟨.node, name⟩ = none →
    library.Resolves cache name
  /-- Entries that declare nothing make no difference, whatever becomes of them. -/
  undisturbed : ∀ keeps : String × FileEntry → Bool,
    (∀ file, keeps file = false → ∀ s, ¬Declares file s) →
    ∀ (tree : FileTree) (files' : List (String × FileEntry)),
      tree.list library.directory = .ok files' → files'.filter keeps = files.filter keeps →
      ((reload tree).perform library).2 = library

end SchemaLibrary

/-- The entries of a directory; a directory that cannot be read has none. -/
def FileTree.entriesIn (tree : FileTree) (directory : String) : List (String × FileEntry) :=
  match tree.list directory with
  | .ok files => files
  | .error _ => []

namespace SchemaLibrary

/-- Reading a directory again forgets what has been read before. -/
lemma perform_reload (tree : FileTree) (library : SchemaLibrary) :
    ((reload tree).perform library).2 =
      ⟨library.directory, load library.directory (tree.entriesIn library.directory)⟩ := by
  rw [reload, Action.perform_ofFunction, FileTree.entriesIn]
  cases tree.list library.directory <;> rfl

/-- A reading that succeeds counts the entries that declare an entity, and loads their schemas. -/
lemma perform_reload_eq_ok {tree : FileTree} {library read : SchemaLibrary} {count : Nat} :
    (reload tree).perform library = (.ok count, read) ↔
      ∃ files, tree.list library.directory = .ok files ∧
        count = (declared library.directory files).length ∧
        read = ⟨library.directory, load library.directory files⟩ := by
  rw [reload, Action.perform_ofFunction]
  cases hlist : tree.list library.directory with
  | ok files =>
    constructor
    · intro h
      obtain ⟨hcount, rfl⟩ := Prod.mk.inj h
      exact ⟨files, rfl, (Except.ok.inj hcount).symm, rfl⟩
    · rintro ⟨_, ⟨⟩, rfl, rfl⟩
      rfl
  | error reason => simp

/-- A directory that there is need not be created. -/
lemma perform_fromDirectory {directory : String} {tree : FileTree}
    {files : List (String × FileEntry)} (h : tree.contains directory = true)
    (hlist : tree.list directory = .ok files) :
    (fromDirectory directory).perform tree = (.ok ⟨directory, load directory files⟩, tree) := by
  have hread : (reload tree).perform (unloaded directory) =
      (.ok (declared directory files).length, ⟨directory, load directory files⟩) :=
    perform_reload_eq_ok.mpr ⟨files, hlist, rfl, rfl⟩
  rw [fromDirectory, Action.perform_bind, Action.perform_attempt, FileTree.ensureDirectory,
    if_pos h]
  simp only [Except.mapError, Action.perform_bind, Action.perform_get, hread]
  rfl

/-- What is loaded from a directory is served. -/
theorem serves_load (directory : String) (files : List (String × FileEntry)) :
    Serves ⟨directory, load directory files⟩ files := by
  have hload := isSelection_load directory files
  have hdeclared : ∀ name s, schema? ⟨directory, load directory files⟩ name = some s →
      s.name = name ∧ s.IsSound ∧ ∃ file ∈ files, Declares file s := by
    intro name s hs
    obtain ⟨hmem, hname⟩ := of_schema? hs
    obtain ⟨file, hfile, hfs⟩ := mem_declared.mp (hload.subset s hmem)
    exact ⟨hname, hfs.sound, file, hfile, hfs⟩
  refine ⟨pairwise_entityNames hload.nodup, fun name => ?_, fun name => ?_, hdeclared, ?_, ?_⟩
  · rw [mem_entityNames]
    constructor
    · intro hname
      obtain ⟨s, hs, rfl⟩ := List.mem_map.mp hname
      obtain ⟨file, hfile, hfs⟩ := mem_declared.mp (hload.subset s hs)
      exact ⟨file, hfile, s, hfs, rfl⟩
    · rintro ⟨file, hfile, s, hfs, rfl⟩
      exact hload.complete s (mem_declared.mpr ⟨file, hfile, hfs⟩)
  · rw [← not_iff_not, ← schema?_eq_none, Option.eq_none_iff_forall_ne_some, not_exists]
  · intro cache name hnew
    exact SchemaLibrary.resolves (fun s hs => (hdeclared name s hs).2.1) hnew
  · intro keeps hkeeps tree files' hlist hsame
    have hload' : load directory files' = load directory files := by
      rw [load, ← declared_filter hkeeps, hsame, declared_filter hkeeps, load]
    rw [perform_reload, FileTree.entriesIn, hlist, ← hload']

end SchemaLibrary

/-! ## Reading a directory again and again -/

/-- What comes of reading a directory again and again: the files as they are, the files as they were
when the directory was read last, and the library. -/
inductive LibraryHistory (directory : String) : FileTree → FileTree → SchemaLibrary → Prop
  /-- The directory is read for the first time. -/
  | opened {tree tree' : FileTree} {library : SchemaLibrary} :
    (SchemaLibrary.fromDirectory directory).perform tree = (.ok library, tree') →
      LibraryHistory directory tree' tree' library
  /-- Files change, in the directory or elsewhere; so may the order in which they are listed. -/
  | changed {tree seen : FileTree} {library : SchemaLibrary} (tree' : FileTree) :
    LibraryHistory directory tree seen library → LibraryHistory directory tree' seen library
  /-- The directory is read again. -/
  | reloaded {tree seen : FileTree} {library : SchemaLibrary} :
    LibraryHistory directory tree seen library →
      LibraryHistory directory tree tree ((SchemaLibrary.reload tree).perform library).2

namespace LibraryHistory

variable {directory : String} {tree seen : FileTree} {library : SchemaLibrary}

/-- A library is what has been read last. -/
theorem eq_load (h : LibraryHistory directory tree seen library) :
    library = ⟨directory, SchemaLibrary.load directory (seen.entriesIn directory)⟩ := by
  induction h with
  | @opened tree tree' library h =>
    rw [SchemaLibrary.fromDirectory] at h
    obtain ⟨_, created, _, h⟩ := Action.perform_bind_eq_ok.mp h
    obtain ⟨_, _, hget, h⟩ := Action.perform_bind_eq_ok.mp h
    cases hget
    obtain ⟨_, _, hread, h⟩ := Action.perform_bind_eq_ok.mp h
    obtain rfl := (Prod.mk.inj hread).2
    cases h
    exact SchemaLibrary.perform_reload _ _
  | changed tree' _ ih => exact ih
  | reloaded _ ih =>
    rw [SchemaLibrary.perform_reload, ih]

/-- **A library serves what has been read last**, whatever there was before. -/
theorem serves_lastRead (h : LibraryHistory directory tree seen library) :
    library.Serves (seen.entriesIn directory) := by
  rw [h.eq_load]
  exact SchemaLibrary.serves_load directory (seen.entriesIn directory)

end LibraryHistory

/-! ### A directory of films -/

/-- A text that holds a schema of films. -/
def filmText : String :=
  "\x7b\"name\":\"Film\",\"properties\":[[\"title\",true],\x7b\"name\":\"budget\"\x7d]\x7d"

/-- The schema of films. -/
def filmSchema : EntitySchema := ⟨"Film", [⟨"title", true⟩, ⟨"budget", false⟩]⟩

/-- The text is read as the schema. -/
lemma ofJson_filmText : ofJson EntitySchema.decoder filmText = .ok filmSchema := by cbv

/-- A file with this text declares films if it is named for a schema. -/
lemma declares_filmText {name : String} (h : ∃ stem, stem ≠ "" ∧ name = stem ++ ".json") :
    Declares (name, .file (.text filmText)) filmSchema :=
  ⟨h, ⟨filmText, rfl, ofJson_filmText⟩, by decide, by decide, by decide⟩

/-- A directory with this text, next to a broken file and a directory that is named like one. -/
def filmFiles : FileTree :=
  ⟨[(["d"], .directory), (["d", "broken.json"], .file (.text "[")),
    (["d", "film.json"], .file (.text filmText)), (["d", "old.json"], .directory)]⟩

/-- A path of one name leads to the entry of this name. -/
lemma FileTree.locate_d (tree : FileTree) : tree.locate "d" = .ok ["d"] := by
  have hnames : namesOf "d" = ["d"] := by cbv
  rw [locate, followed, hnames]
  rfl

/-- A directory without entries is read for the first time. -/
lemma LibraryHistory.emptyDirectory :
    LibraryHistory "d" ⟨[(["d"], .directory)]⟩ ⟨[(["d"], .directory)]⟩ ⟨"d", []⟩ := by
  have hexists : FileTree.contains ⟨[(["d"], .directory)]⟩ "d" = true := by
    rw [FileTree.contains, FileTree.find, FileTree.locate_d]
    rfl
  have hlist : FileTree.list ⟨[(["d"], .directory)]⟩ "d" = .ok [] := by
    rw [FileTree.list, FileTree.locate_d]
    rfl
  exact .opened (SchemaLibrary.perform_fromDirectory hexists hlist)

/-- The directory, empty at first, is filled and read again. -/
lemma LibraryHistory.films : ∃ library, LibraryHistory "d" filmFiles filmFiles library :=
  ⟨_, .reloaded (.changed filmFiles .emptyDirectory)⟩

/-- What the directory of films holds. -/
lemma entriesIn_filmFiles : filmFiles.entriesIn "d" = [("broken.json", .file (.text "[")),
    ("film.json", .file (.text filmText)), ("old.json", .directory)] := by
  rw [FileTree.entriesIn, FileTree.list, FileTree.locate_d]
  rfl

/-- The schema of films is the only one that is declared. -/
lemma declares_filmFiles {s : EntitySchema} :
    (∃ file ∈ filmFiles.entriesIn "d", Declares file s) ↔ s = filmSchema := by
  have hbroken : ofJson EntitySchema.decoder "[" =
      .error (.json Json.Fault.truncated.category) := by cbv
  rw [entriesIn_filmFiles]
  constructor
  · rintro ⟨file, hfile, hdeclares⟩
    obtain ⟨text, htext, hdecode⟩ := hdeclares.content
    simp only [List.mem_cons, List.not_mem_nil, or_false] at hfile
    rcases hfile with rfl | rfl | rfl
    · cases htext
      cases hbroken.symm.trans hdecode
    · cases htext
      cases ofJson_filmText.symm.trans hdecode
      rfl
    · cases htext
  · rintro rfl
    exact ⟨("film.json", .file (.text filmText)), by simp,
      declares_filmText ⟨"film", by decide, by decide⟩⟩

/-- Films are served and resolved after the directory has been read again, whatever else it holds. -/
theorem LibraryHistory.serves_films : ∃ library,
    LibraryHistory "d" filmFiles filmFiles library ∧ library.schema? "Film" = some filmSchema ∧
      (MetadataCache.resolve SchemaLibrary.source ⟨.node, "Film"⟩).outcome (.empty, library) =
        .ok ⟨⟨.node, "Film"⟩, [⟨"title", true⟩, ⟨"budget", false⟩]⟩ := by
  obtain ⟨library, h⟩ := films
  obtain ⟨file, hfile, hdeclares⟩ := declares_filmFiles.mpr rfl
  have hlisted : "Film" ∈ library.entityNames :=
    (h.serves_lastRead.mem_entityNames "Film").mpr ⟨file, hfile, filmSchema, hdeclares, rfl⟩
  obtain ⟨s, hs⟩ := (h.serves_lastRead.listed "Film").mp hlisted
  obtain ⟨_, _, hdeclared⟩ := h.serves_lastRead.declared "Film" s hs
  obtain rfl := declares_filmFiles.mp hdeclared
  have hresolved := (h.serves_lastRead.resolves .empty "Film" rfl).found filmSchema hs (by decide)
  exact ⟨library, h, hs, congrArg Prod.fst hresolved⟩

end EntityFinder
