import EntityFinder.Proofs.Schemas.Libraries

set_option autoImplicit false

/-!
# The order in which a directory is listed

A directory may list its entries in any order. Which entities are loaded, and how many entries declare
one, does not depend on it. But if two entries declare one entity, both of them are counted, and the
schema of the one that is listed last is served.

## Main definitions

* `EntityFinder.DeclareOnce`, `EntityFinder.DeclareAlike`: no entity is declared by two entries, or
  none is declared differently.

## Main results

* `EntityFinder.SchemaLibrary.schema?_load`: the schema that is listed last is served.
* `EntityFinder.SchemaLibrary.length_declared_iff`: when entries are counted as often as entities.
* `EntityFinder.SchemaLibrary.schema?_load_perm_iff`: when all orders lead to the same schemas.
* `EntityFinder.SchemaLibrary.reload_in_two_orders`: what two readings have in common.
* `EntityFinder.SchemaLibrary.exists_reload_in_two_orders`: two readings that differ.
-/

namespace EntityFinder

/-- No two entries declare the same entity. -/
def DeclareOnce (files : List (String × FileEntry)) : Prop :=
  files.Pairwise fun a b => ∀ s, Declares a s → ∀ t, Declares b t → s.name ≠ t.name

/-- Entries that declare the same entity declare the same schema. -/
def DeclareAlike (files : List (String × FileEntry)) : Prop :=
  ∀ a ∈ files, ∀ b ∈ files, ∀ s t, Declares a s → Declares b t → s.name = t.name → s = t

namespace SchemaLibrary

variable {directory name : String} {files files' : List (String × FileEntry)}

/-! ## The last schema counts -/

/-- A schema that is added is served for its entity. -/
lemma schema?_addSchema (directory : String) (s : EntitySchema) (known : List EntitySchema)
    (name : String) :
    schema? ⟨directory, addSchema s known⟩ name =
      if s.name = name then some s else schema? ⟨directory, known⟩ name := by
  induction known with
  | nil =>
    rw [addSchema, schema?, List.find?_singleton]
    simp [schema?]
  | cons old rest ih =>
    simp only [schema?] at ih ⊢
    rw [addSchema]
    split_ifs with hold hname hname
    · simp [hname]
    · rw [List.find?_cons_of_neg (by simpa using hname),
        List.find?_cons_of_neg (by simpa [hold] using hname)]
    · subst hname
      rw [List.find?_cons_of_neg (by simpa using hold), ih, if_pos rfl]
    · rw [List.find?_cons, List.find?_cons, ih, if_neg hname]

/-- **The schema that is listed last is served** for its entity. -/
theorem schema?_load (directory : String) (files : List (String × FileEntry)) (name : String) :
    schema? ⟨directory, load directory files⟩ name =
      (declared directory files).reverse.find? (·.name == name) := by
  rw [load]
  -- The last one of the schemas is added last.
  induction declared directory files using List.reverseRecOn with
  | nil => rfl
  | append_singleton declared s ih =>
    rw [List.foldl_concat, schema?_addSchema, ih, List.reverse_concat]
    split_ifs with hname
    · rw [List.find?_cons_of_pos (by simpa using hname)]
    · rw [List.find?_cons_of_neg (by simpa using hname)]

/-- An entry that is listed last has its schema served. -/
lemma schema?_load_concat {file : String × FileEntry} {s : EntitySchema} (h : Declares file s) :
    schema? ⟨directory, load directory (files ++ [file])⟩ s.name = some s := by
  have hlast : declared directory [file] = [s] := by
    rw [declared, List.filterMap_cons, schemaOfFile?_eq_some.mpr h, List.filterMap_nil]
  have hdeclared : declared directory (files ++ [file]) = declared directory files ++ [s] := by
    rw [declared, List.filterMap_append, ← declared, ← declared, hlast]
  rw [schema?_load, hdeclared, List.reverse_concat, List.find?_cons_of_pos (by simp)]

/-! ## Counting -/

/-- No entity is declared twice if the names of the schemas are different. -/
lemma nodup_declared_iff : ((declared directory files).map (·.name)).Nodup ↔ DeclareOnce files := by
  rw [List.Nodup, List.pairwise_map, declared, List.pairwise_filterMap, DeclareOnce]
  simp only [schemaOfFile?_eq_some]

/-- If no entity is declared twice, none is declared differently. -/
lemma declareAlike_of_declareOnce (h : DeclareOnce files) : DeclareAlike files := by
  intro a ha b hb s t hs ht hname
  have hnodup := (@nodup_declared_iff "" files).mpr h
  exact List.inj_on_of_nodup_map hnodup (mem_declared.mpr ⟨a, ha, hs⟩)
    (mem_declared.mpr ⟨b, hb, ht⟩) hname

/-- The entities that are listed are those that are declared, each once. -/
lemma entityNames_load_perm (directory : String) (files : List (String × FileEntry)) :
    (entityNames ⟨directory, load directory files⟩).Perm
      ((declared directory files).map (·.name)).dedup := by
  have hload := isSelection_load directory files
  refine (List.mergeSort_perm _ _).trans
    ((List.perm_ext_iff_of_nodup hload.nodup (List.nodup_dedup _)).mpr fun name => ?_)
  rw [List.mem_dedup]
  constructor
  · intro hname
    obtain ⟨s, hs, rfl⟩ := List.mem_map.mp hname
    exact List.mem_map_of_mem (hload.subset s hs)
  · intro hname
    obtain ⟨s, hs, rfl⟩ := List.mem_map.mp hname
    exact hload.complete s hs

/-- **When entries are counted as often as entities**: exactly if no entity is declared twice. -/
theorem length_declared_iff (directory : String) (files : List (String × FileEntry)) :
    (declared directory files).length =
        (entityNames ⟨directory, load directory files⟩).length ↔ DeclareOnce files := by
  rw [(entityNames_load_perm directory files).length_eq, ← nodup_declared_iff,
    ← List.dedup_eq_self, ← List.length_map (·.name)]
  constructor
  · intro hlength
    exact (List.dedup_sublist _).eq_of_length hlength.symm
  · intro hsame
    rw [hsame]

/-! ## Changing the order -/

/-- The entities that are listed do not depend on the order of the entries. -/
lemma entityNames_load_of_perm (h : files'.Perm files) :
    entityNames ⟨directory, load directory files'⟩ =
      entityNames ⟨directory, load directory files⟩ := by
  have hnames : ((declared directory files').map (·.name)).Perm
      ((declared directory files).map (·.name)) := (h.filterMap _).map _
  have hperm := (entityNames_load_perm directory files').trans
    (hnames.dedup.trans (entityNames_load_perm directory files).symm)
  refine hperm.eq_of_pairwise (fun a b _ _ hab hba => ?_) (serves_load directory files').sorted
    (serves_load directory files).sorted
  exact absurd (String.lt_trans hab hba) (String.lt_irrefl a)

/-- If entities are declared alike, their schemas are those of whichever entries. -/
lemma schema?_load_eq_some (h : DeclareAlike files) {s : EntitySchema} :
    schema? ⟨directory, load directory files⟩ name = some s ↔
      s.name = name ∧ ∃ file ∈ files, Declares file s := by
  have hserves := serves_load directory files
  constructor
  · intro hs
    obtain ⟨hname, _, hdeclared⟩ := hserves.declared name s hs
    exact ⟨hname, hdeclared⟩
  · rintro ⟨rfl, file, hfile, hfs⟩
    obtain ⟨t, ht⟩ := (hserves.listed s.name).mp
      ((hserves.mem_entityNames s.name).mpr ⟨file, hfile, s, hfs, rfl⟩)
    obtain ⟨hname, _, file', hfile', hft⟩ := hserves.declared s.name t ht
    rw [ht, h file' hfile' file hfile t s hft hfs hname]

/-- **When all orders lead to the same schemas**: exactly if entries that declare the same entity
declare it alike. -/
theorem schema?_load_perm_iff (directory : String) (files : List (String × FileEntry)) :
    (∀ files', files'.Perm files → ∀ name,
      schema? ⟨directory, load directory files'⟩ name =
        schema? ⟨directory, load directory files⟩ name) ↔ DeclareAlike files := by
  constructor
  · intro hsame
    -- Any entry can be listed last, and then its schema is served.
    have hserved : ∀ file ∈ files, ∀ s, Declares file s →
        schema? ⟨directory, load directory files⟩ s.name = some s := by
      intro file hfile s hs
      obtain ⟨before, after, rfl⟩ := List.append_of_mem hfile
      have hperm : (before ++ after ++ [file]).Perm (before ++ file :: after) :=
        (List.perm_append_singleton _ _).trans List.perm_middle.symm
      rw [← hsame _ hperm, schema?_load_concat hs]
    intro a ha b hb s t hs ht hname
    have hsome := (hserved a ha s hs).symm
    rw [hname, hserved b hb t ht] at hsome
    exact Option.some.inj hsome
  · intro halike files' hperm name
    have halike' : DeclareAlike files' := fun a ha b hb =>
      halike a (hperm.mem_iff.mp ha) b (hperm.mem_iff.mp hb)
    refine Option.ext fun s => ?_
    rw [schema?_load_eq_some halike', schema?_load_eq_some halike]
    simp only [hperm.mem_iff]

/-! ## Two readings -/

/-- **What two readings of a directory have in common** that list the same entries in different
orders, whatever there was before. Both count the same and list the same entities. The count is the
number of these entities exactly if no two entries declare the same entity. The same schemas are
served if entries that declare the same entity declare it alike, and only then they are served in
every order. -/
theorem reload_in_two_orders {tree tree' : FileTree} {library library' read read' : SchemaLibrary}
    {count count' : Nat} {files files' : List (String × FileEntry)}
    (hsame : library'.directory = library.directory)
    (hlist : tree.list library.directory = .ok files)
    (hlist' : tree'.list library.directory = .ok files') (hperm : files'.Perm files)
    (hread : (reload tree).perform library = (.ok count, read))
    (hread' : (reload tree').perform library' = (.ok count', read')) :
    (count' = count ∧ read'.entityNames = read.entityNames) ∧
    (count = read.entityNames.length ↔ DeclareOnce files) ∧
    (DeclareAlike files → ∀ name, read'.schema? name = read.schema? name) ∧
    ((∀ files'', files''.Perm files → ∀ name,
      schema? ⟨library.directory, load library.directory files''⟩ name = read.schema? name) ↔
      DeclareAlike files) := by
  obtain ⟨listed, h, rfl, rfl⟩ := perform_reload_eq_ok.mp hread
  obtain rfl : listed = files := Except.ok.inj (h.symm.trans hlist)
  obtain ⟨listed', h', rfl, rfl⟩ := perform_reload_eq_ok.mp hread'
  rw [hsame] at h' ⊢
  obtain rfl : listed' = files' := Except.ok.inj (h'.symm.trans hlist')
  have hcount : (declared library.directory listed').length =
      (declared library.directory listed).length := (hperm.filterMap _).length_eq
  have hiff := schema?_load_perm_iff library.directory listed
  exact ⟨⟨hcount, entityNames_load_of_perm hperm⟩, length_declared_iff _ _,
    fun halike => hiff.mpr halike listed' hperm, hiff⟩

/-! ### Two files in two orders -/

/-- The entries for some texts. -/
def textEntries (texts : List (String × String)) : List (String × FileEntry) :=
  texts.map fun (name, text) => (name, .file (.text text))

/-- A directory of texts, listed in their order. -/
def textFiles (texts : List (String × String)) : FileTree :=
  ⟨(["d"], .directory) :: (textEntries texts).map fun (name, entry) => (["d", name], entry)⟩

/-- What a directory of texts lists. -/
lemma list_textFiles (texts : List (String × String)) :
    (textFiles texts).list "d" = .ok (textEntries texts) := by
  rw [FileTree.list, FileTree.locate_d]
  change Except.ok (((textFiles texts).entries).filterMap _) = _
  simp [textFiles, textEntries, List.filterMap_map]

/-- What is loaded from a directory of texts. -/
lemma perform_reload_textFiles (texts : List (String × String)) :
    (reload (textFiles texts)).perform (unloaded "d") =
      (.ok (declared "d" (textEntries texts)).length, ⟨"d", load "d" (textEntries texts)⟩) :=
  perform_reload_eq_ok.mpr ⟨_, list_textFiles texts, rfl, rfl⟩

/-- A text that declares an entity without properties. -/
def bareText (entity : String) : String :=
  "\x7b\"name\":\"" ++ entity ++ "\",\"properties\":[]\x7d"

/-- The text that declares films with properties, and one that declares an entity without. -/
def filmsAnd (entity : String) : List (String × String) :=
  [("a.json", filmText), ("b.json", bareText entity)]

/-- What these texts declare, in either order. -/
lemma declared_filmsAnd : ∀ entity ∈ ["City", "Film"],
    declared "d" (textEntries (filmsAnd entity)) = [filmSchema, ⟨entity, []⟩] ∧
      declared "d" (textEntries (filmsAnd entity).reverse) = [⟨entity, []⟩, filmSchema] := by
  intro entity hentity
  simp only [List.mem_cons, List.not_mem_nil, or_false] at hentity
  have hread : ofJson EntitySchema.decoder (bareText entity) = .ok ⟨entity, []⟩ := by
    rcases hentity with rfl | rfl
    · cbv
    · cbv
  have hsound : EntitySchema.IsSound ⟨entity, []⟩ := by
    rcases hentity with rfl | rfl
    · exact ⟨by decide, by simp, List.nodup_nil⟩
    · exact ⟨by decide, by simp, List.nodup_nil⟩
  have hnamed : "b.json" = "b" ++ ".json" := by decide
  have hfilm : schemaOfFile? "d" ("a.json", .file (.text filmText)) = some filmSchema :=
    schemaOfFile?_eq_some.mpr (declares_filmText ⟨"a", by decide, by decide⟩)
  have hbare : schemaOfFile? "d" ("b.json", .file (.text (bareText entity))) =
      some ⟨entity, []⟩ :=
    schemaOfFile?_eq_some.mpr ⟨⟨"b", by decide, hnamed⟩, ⟨_, rfl, hread⟩, hsound⟩
  simp [declared, textEntries, filmsAnd, hfilm, hbare]

/-- Films and cities are counted and served in both orders. -/
theorem reload_in_two_orders_apart : ∃ count read read',
    (reload (textFiles (filmsAnd "City"))).perform (unloaded "d") = (.ok count, read) ∧
      (reload (textFiles (filmsAnd "City").reverse)).perform (unloaded "d") =
        (.ok count, read') ∧
      count = read.entityNames.length ∧ ∀ name, read'.schema? name = read.schema? name := by
  obtain ⟨hdeclared, _⟩ := declared_filmsAnd "City" (.head _)
  have honce : DeclareOnce (textEntries (filmsAnd "City")) :=
    (@nodup_declared_iff "d" _).mp (by rw [hdeclared]; decide)
  have hperm : (textEntries (filmsAnd "City").reverse).Perm (textEntries (filmsAnd "City")) :=
    (List.reverse_perm _).map _
  have hlist : ∀ texts, (textFiles texts).list (unloaded "d").directory = .ok (textEntries texts) :=
    list_textFiles
  have hread := perform_reload_textFiles (filmsAnd "City")
  have hread' := perform_reload_textFiles (filmsAnd "City").reverse
  obtain ⟨⟨hsame, -⟩, hcount, hserved, -⟩ :=
    reload_in_two_orders rfl (hlist _) (hlist _) hperm hread hread'
  exact ⟨_, _, _, hread, hsame ▸ hread', hcount.mpr honce,
    hserved (declareAlike_of_declareOnce honce)⟩

/-- **Two readings that differ.** Two files declare films, one of them without properties. Both are
counted although one entity is listed, and which of them is served is up to the order in which the
directory lists them. -/
theorem exists_reload_in_two_orders : ∃ read read',
    (reload (textFiles (filmsAnd "Film"))).perform (unloaded "d") = (.ok 2, read) ∧
      (reload (textFiles (filmsAnd "Film").reverse)).perform (unloaded "d") = (.ok 2, read') ∧
      read.entityNames = ["Film"] ∧ read'.entityNames = ["Film"] ∧
      read.schema? "Film" = some ⟨"Film", []⟩ ∧ read'.schema? "Film" = some filmSchema := by
  obtain ⟨hdeclared, hdeclared'⟩ := declared_filmsAnd "Film" (.tail _ (.head _))
  have hread := perform_reload_textFiles (filmsAnd "Film")
  have hread' := perform_reload_textFiles (filmsAnd "Film").reverse
  rw [load, hdeclared] at hread
  rw [load, hdeclared'] at hread'
  exact ⟨_, _, hread, hread', List.mergeSort_singleton "Film", List.mergeSort_singleton "Film",
    rfl, rfl⟩

end SchemaLibrary

end EntityFinder
