import EntityFinder.Proofs.Schemas.Libraries

set_option autoImplicit false

/-!
# Schema directories that can no longer be read

A library gives up what it has loaded before it looks at its directory again. If the directory is
gone by then, or is no directory any more, nothing takes the place of what was given up: the library
declares no entity until a reading succeeds. It is left as it was only if there was nothing to lose.

## Main results

* `EntityFinder.SchemaLibrary.perform_reload_eq_error`: when a reading fails, and what it reports.
* `EntityFinder.SchemaLibrary.tfae_unloaded`: the libraries that an empty one can replace.
* `EntityFinder.LibraryHistory.tfae_kept`: the libraries that a reading that fails leaves as they
  were.
* `EntityFinder.LibraryHistory.exists_forgotten`: a schema of films that is lost.
-/

namespace EntityFinder

namespace SchemaLibrary

variable {library library' : SchemaLibrary} {tree : FileTree} {e : FinderError}

/-- A reading fails if the directory cannot be listed. The error names the directory and the reason,
and what was loaded is given up. -/
lemma perform_reload_eq_error : (reload tree).perform library = (.error e, library') ↔
    ∃ reason, tree.list library.directory = .error reason ∧
      e = .io ("Failed to read schema directory: " ++ reason.message) (some library.directory) ∧
      library' = unloaded library.directory := by
  rw [reload, Action.perform_ofFunction]
  cases hlist : tree.list library.directory with
  | ok files => simp
  | error reason =>
    constructor
    · intro h
      obtain ⟨he, rfl⟩ := Prod.mk.inj h
      exact ⟨reason, rfl, (Except.error.inj he).symm, rfl⟩
    · rintro ⟨_, ⟨⟩, rfl, rfl⟩
      rfl

/-- No entity is declared where nothing is loaded. -/
lemma schema?_unloaded (directory name : String) : (unloaded directory).schema? name = none := rfl

/-- The next reading sees the directory only, not what was loaded. -/
lemma perform_reload_unloaded (tree : FileTree) (library : SchemaLibrary) :
    (reload tree).perform (unloaded library.directory) = (reload tree).perform library := rfl

/-- **A library that an empty one can replace is empty**, whichever way it is asked: by its list of
entities, for the schema of each entity, or for the properties of each type. -/
theorem tfae_unloaded (library : SchemaLibrary) : List.TFAE [
    library.schemas = [],
    unloaded library.directory = library,
    (unloaded library.directory).entityNames = library.entityNames,
    ∀ name, (unloaded library.directory).schema? name = library.schema? name,
    ∀ type, (source.introspect type).outcome (unloaded library.directory) =
      (source.introspect type).outcome library] := by
  tfae_have 1 → 2 := by
    intro hnil
    rw [unloaded, ← hnil]
  tfae_have 2 → 3 := congrArg entityNames
  tfae_have 3 → 4 := by
    intro hnames name
    have hunlisted : name ∉ library.entityNames :=
      hnames ▸ schema?_eq_none.mp (schema?_unloaded library.directory name)
    rw [schema?_unloaded, schema?_eq_none.mpr hunlisted]
  tfae_have 4 → 5 := by
    intro hschema type
    have hdeclarations : (unloaded library.directory).declarations type =
        library.declarations type := by
      rw [declarations, declarations, hschema]
      rfl
    exact hdeclarations
  tfae_have 5 → 1 := by
    intro hasked
    rw [List.eq_nil_iff_forall_not_mem]
    intro s hs
    obtain ⟨t, ht⟩ : ∃ t, library.schema? s.name = some t := by
      rw [← Option.isSome_iff_exists, schema?, List.find?_isSome]
      exact ⟨s, hs, beq_self_eq_true _⟩
    -- The entity of a loaded schema is one whose properties an empty library does not know.
    have hfound : (source.introspect ⟨.node, s.name⟩).outcome library = .ok t.properties := by
      change library.declarations ⟨.node, s.name⟩ = .ok t.properties
      simp [declarations, ht]
    cases (hasked ⟨.node, s.name⟩).trans hfound
  tfae_finish

end SchemaLibrary

namespace LibraryHistory

variable {directory : String} {tree seen : FileTree} {library library' : SchemaLibrary}
  {e : FinderError}

/-- Nothing is loaded if nothing was declared when the directory was read last. -/
lemma schemas_eq_nil (h : LibraryHistory directory tree seen library) :
    library.schemas = [] ↔ ∀ file ∈ seen.entriesIn directory, ∀ s, ¬Declares file s := by
  have hserves := SchemaLibrary.serves_load directory (seen.entriesIn directory)
  rw [← h.eq_load] at hserves
  have hlisted : library.schemas = [] ↔ ∀ name, name ∉ library.entityNames := by
    simp only [SchemaLibrary.mem_entityNames, ← List.eq_nil_iff_forall_not_mem, List.map_eq_nil_iff]
  rw [hlisted]
  simp only [hserves.mem_entityNames]
  constructor
  · intro hnone file hfile s hs
    exact hnone s.name ⟨file, hfile, s, hs, rfl⟩
  · rintro hnone name ⟨file, hfile, s, hs, -⟩
    exact hnone file hfile s hs

/-- **What a reading that fails leaves of a library.** It reports why the directory could not be
listed. The library is as before only if no entry had declared a schema when the directory was read
last; this can be told from its list of entities, from the schemas it serves, or from the properties
it knows of each type. Metadata that was resolved before is remembered all the same, and the next
reading that succeeds loads what it would have loaded anyway. -/
theorem tfae_kept (h : LibraryHistory directory tree seen library)
    (hfailed : (SchemaLibrary.reload tree).perform library = (.error e, library')) :
    (∃ reason, tree.list directory = .error reason ∧
      e = .io ("Failed to read schema directory: " ++ reason.message) (some directory)) ∧
    List.TFAE [
      ∀ file ∈ seen.entriesIn directory, ∀ s, ¬Declares file s,
      library' = library,
      library'.entityNames = library.entityNames,
      ∀ name, library'.schema? name = library.schema? name,
      ∀ type, (SchemaLibrary.source.introspect type).outcome library' =
        (SchemaLibrary.source.introspect type).outcome library] ∧
    (∀ (cache : MetadataCache) (type : EntityType) (m : EntityMetadata),
      cache.find? type = some m →
        (MetadataCache.resolve SchemaLibrary.source type).perform (cache, library') =
          (.ok m, cache, library')) ∧
    ∀ tree', (SchemaLibrary.reload tree').perform library' =
      (SchemaLibrary.reload tree').perform library := by
  obtain ⟨reason, hlist, rfl, rfl⟩ := SchemaLibrary.perform_reload_eq_error.mp hfailed
  have hdirectory : library.directory = directory := by rw [h.eq_load]
  refine ⟨⟨reason, hdirectory ▸ hlist, by rw [hdirectory]⟩, ?_, ?_, ?_⟩
  · rw [← h.schemas_eq_nil]
    exact library.tfae_unloaded
  · intro cache type m hknown
    exact MetadataCache.perform_resolve_known hknown _
  · intro tree'
    exact SchemaLibrary.perform_reload_unloaded tree' library

/-! ### A directory that is taken away -/

/-- A library whose directory has been taken away loses what was loaded. -/
lemma perform_reload_taken (h : LibraryHistory "d" tree seen library) :
    (SchemaLibrary.reload .empty).perform library =
      (.error (.io "Failed to read schema directory: No such file or directory (os error 2)"
        (some "d")), .unloaded "d") := by
  have hlist : FileTree.empty.list "d" = .error .notFound := by
    rw [FileTree.list, FileTree.locate_d]
    rfl
  rw [h.eq_load]
  exact SchemaLibrary.perform_reload_eq_error.mpr ⟨.notFound, hlist, rfl, rfl⟩

/-- A directory that had no entries when it was read is taken away: the library is left as it was,
and films that were resolved by other means are remembered. -/
theorem tfae_kept_nothing :
    LibraryHistory "d" .empty ⟨[(["d"], .directory)]⟩ ⟨"d", []⟩ ∧
    ∃ e library', (SchemaLibrary.reload .empty).perform ⟨"d", []⟩ = (.error e, library') ∧
      library' = ⟨"d", []⟩ ∧
      (MetadataCache.resolve SchemaLibrary.source filmType).perform
        (⟨[⟨filmType, [⟨"title", true⟩]⟩]⟩, library') =
          (.ok ⟨filmType, [⟨"title", true⟩]⟩, ⟨[⟨filmType, [⟨"title", true⟩]⟩]⟩, library') := by
  have hnone : ∀ file ∈ FileTree.entriesIn ⟨[(["d"], .directory)]⟩ "d", ∀ s,
      ¬Declares file s := by
    have hempty : FileTree.entriesIn ⟨[(["d"], .directory)]⟩ "d" = [] := by
      rw [FileTree.entriesIn, FileTree.list, FileTree.locate_d]
      rfl
    simp [hempty]
  have hhistory := LibraryHistory.changed .empty .emptyDirectory
  obtain ⟨-, hkept, hknown, -⟩ := tfae_kept hhistory (perform_reload_taken hhistory)
  exact ⟨hhistory, _, _, perform_reload_taken hhistory, (hkept.out 0 1).mp hnone,
    hknown _ _ _ rfl⟩

/-- Only the schema of films is loaded from the directory of films. -/
lemma load_filmFiles : SchemaLibrary.load "d" (filmFiles.entriesIn "d") = [filmSchema] := by
  have hselection := SchemaLibrary.isSelection_load "d" (filmFiles.entriesIn "d")
  have hall : ∀ s ∈ SchemaLibrary.load "d" (filmFiles.entriesIn "d"), s = filmSchema :=
    fun s hs => declares_filmFiles.mp (SchemaLibrary.mem_declared.mp (hselection.subset s hs))
  have hfilm := hselection.complete filmSchema
    (SchemaLibrary.mem_declared.mpr (declares_filmFiles.mpr rfl))
  have hnodup := hselection.nodup
  generalize SchemaLibrary.load "d" (filmFiles.entriesIn "d") = schemas at hall hfilm hnodup
  cases schemas with
  | nil => cases hfilm
  | cons s rest =>
    obtain rfl := hall s (.head _)
    have hrest : rest = [] := by
      rw [List.eq_nil_iff_forall_not_mem]
      intro t ht
      obtain rfl := hall t (.tail _ ht)
      exact (List.nodup_cons.mp hnodup).1 (List.mem_map_of_mem ht)
    rw [hrest]

/-- **A reading that fails loses what was loaded.** A library serves the schema of films. Its
directory is taken away, reading it again fails, and then the library knows no entity. -/
theorem exists_forgotten : ∃ library e library',
    LibraryHistory "d" .empty filmFiles library ∧
      library.schema? "Film" = some filmSchema ∧ library.entityNames = ["Film"] ∧
      (SchemaLibrary.source.introspect filmType).outcome library = .ok filmSchema.properties ∧
      (SchemaLibrary.reload .empty).perform library = (.error e, library') ∧
      library'.schema? "Film" = none ∧ library'.entityNames = [] ∧
      (SchemaLibrary.source.introspect filmType).outcome library' =
        .error (.metadata "Film" "no schema file in d") := by
  obtain ⟨library, hfilms⟩ := films
  have hhistory := LibraryHistory.changed .empty hfilms
  have hloaded : library = ⟨"d", [filmSchema]⟩ := by rw [hfilms.eq_load, load_filmFiles]
  refine ⟨library, _, _, hhistory, ?_, ?_, ?_, perform_reload_taken hhistory, rfl,
    List.mergeSort_nil, rfl⟩
  · rw [hloaded]
    rfl
  · rw [hloaded]
    exact List.mergeSort_singleton "Film"
  · rw [hloaded]
    rfl

end LibraryHistory

end EntityFinder
