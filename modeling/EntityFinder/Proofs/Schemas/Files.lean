import EntityFinder.Metadata.SchemaLibrary
import EntityFinder.Proofs.Actions
import EntityFinder.Proofs.Declarations

set_option autoImplicit false

/-!
# What files declare

Of the entries of a schema directory those declare an entity that are text files, are named for it,
and hold a schema that does not contradict itself. All other entries are passed over.

## Main definitions

* `EntityFinder.EntitySchema.IsSound`: no name is blank, and no property is declared twice.
* `EntityFinder.Declares`: an entry of a directory declares a schema.

## Main results

* `EntityFinder.extension?_eq_some`: the extension of a file name is what follows its last dot.
* `EntityFinder.EntitySchema.validate_eq_ok`: the schemas that are not refused are the sound ones.
* `EntityFinder.schemaOfFile?_eq_some`: the schema of an entry is the one that it declares.
* `EntityFinder.EntitySchema.IsSound.ofDeclarations`: metadata has all that a sound schema declares.
-/

namespace EntityFinder

/-! ## Names of files -/

/-- An extension is what follows the last dot of a name, if something comes before that dot. -/
lemma extension?_eq_some {name ext : String} :
    extension? name = some ext ↔
      '.' ∉ ext.toList ∧ ∃ stem, stem ≠ "" ∧ name = stem ++ "." ++ ext := by
  rw [extension?, List.span_eq_takeWhile_dropWhile]
  constructor
  · intro h
    have hsplit := List.takeWhile_append_dropWhile (p := (· != '.')) (l := name.toList.reverse)
    have hdots := List.all_takeWhile (p := (· != '.')) (l := name.toList.reverse)
    have hhead := List.head?_dropWhile_not (· != '.') name.toList.reverse
    -- the reversed name is split at its first dot, and has something behind it
    rcases hdrop : name.toList.reverse.dropWhile (· != '.') with _ | ⟨c, _ | ⟨d, rest⟩⟩
    · simp [hdrop] at h
    · obtain rfl : c = '.' := by simpa [hdrop] using hhead
      simp [hdrop] at h
    · obtain rfl : c = '.' := by simpa [hdrop] using hhead
      obtain rfl : String.ofList (name.toList.reverse.takeWhile (· != '.')).reverse = ext := by
        simpa [hdrop] using h
      refine ⟨?_, String.ofList (d :: rest).reverse, by simp, ?_⟩
      · intro hmem
        rw [String.toList_ofList, List.mem_reverse] at hmem
        simpa using List.all_eq_true.mp hdots '.' hmem
      · rw [hdrop] at hsplit
        apply String.toList_inj.mp
        simpa using (congrArg List.reverse hsplit).symm
  · rintro ⟨hdot, stem, hstem, rfl⟩
    have hext : ∀ c ∈ ext.toList.reverse, (c != '.') = true := by
      intro c hc
      rw [List.mem_reverse] at hc
      simpa using ne_of_mem_of_not_mem hc hdot
    have hreverse : (stem ++ "." ++ ext).toList.reverse =
        ext.toList.reverse ++ '.' :: stem.toList.reverse := by simp
    rw [hreverse, List.takeWhile_append_of_pos hext, List.dropWhile_append_of_pos hext]
    rcases hstem' : stem.toList.reverse with _ | ⟨c, rest⟩
    · simp at hstem'
      exact absurd hstem' hstem
    · simp

/-! ## Sound schemas -/

namespace EntitySchema

/-- A schema that does not contradict itself. -/
structure IsSound (s : EntitySchema) : Prop where
  /-- The entity has a name. -/
  name : Text.isAllBlank s.name = false
  /-- All properties have names. -/
  properties : ∀ p ∈ s.properties, Text.isAllBlank p.name = false
  /-- No property is declared twice. -/
  nodup : (s.properties.map (·.name)).Nodup

/-- Properties are not refused if they have names that differ from each other and from those that
have been seen. -/
lemma validateProperties_eq_ok {schema : String} {seen : List String}
    {properties : List PropertyDeclaration} :
    validateProperties schema seen properties = .ok () ↔
      (∀ p ∈ properties, Text.isAllBlank p.name = false) ∧
        (properties.map (·.name)).Nodup ∧ ∀ p ∈ properties, p.name ∉ seen := by
  induction properties generalizing seen with
  | nil => simp [validateProperties]
  | cons p properties ih =>
    rw [validateProperties]
    by_cases hblank : Text.isAllBlank p.name
    · simp [hblank]
    · by_cases hseen : p.name ∈ seen
      · simp [hblank, hseen]
      · rw [if_neg hblank, if_neg (by simpa using hseen), ih, List.map_cons, List.nodup_cons]
        constructor
        · rintro ⟨hnames, hnodup, hnew⟩
          have hp : p.name ∉ properties.map (·.name) := by
            intro hmem
            obtain ⟨q, hq, hname⟩ := List.mem_map.mp hmem
            exact hnew q hq (hname ▸ .head _)
          refine ⟨List.forall_mem_cons.mpr ⟨by simpa using hblank, hnames⟩, ⟨hp, hnodup⟩,
            List.forall_mem_cons.mpr ⟨hseen, fun q hq hmem => hnew q hq (.tail _ hmem)⟩⟩
        · rintro ⟨hnames, ⟨hp, hnodup⟩, hnew⟩
          refine ⟨fun q hq => hnames q (.tail _ hq), hnodup, fun q hq hmem => ?_⟩
          rcases List.mem_cons.mp hmem with hname | hmem
          · exact hp (hname ▸ List.mem_map_of_mem hq)
          · exact hnew q (.tail _ hq) hmem

/-- A schema is not refused if it is sound. -/
theorem validate_eq_ok {s : EntitySchema} {path : String} :
    s.validate path = .ok () ↔ s.IsSound := by
  rw [validate]
  by_cases hblank : Text.isAllBlank s.name
  · rw [if_pos hblank]
    constructor
    · intro h
      cases h
    · intro h
      simp [h.name] at hblank
  · rw [if_neg hblank, validateProperties_eq_ok]
    constructor
    · rintro ⟨hproperties, hnodup, _⟩
      exact ⟨by simpa using hblank, hproperties, hnodup⟩
    · intro h
      exact ⟨h.properties, h.nodup, by simp⟩

/-- A text holds the schema that is read from it, if that is sound. -/
lemma ofText_eq_ok {path text : String} {s : EntitySchema} :
    ofText path text = .ok s ↔ ofJson decoder text = .ok s ∧ s.IsSound := by
  rw [ofText, bind_eq_ok]
  constructor
  · rintro ⟨s', hread, h⟩
    obtain ⟨_, hvalid, h⟩ := bind_eq_ok.mp h
    cases h
    exact ⟨hread, validate_eq_ok.mp hvalid⟩
  · rintro ⟨hread, hsound⟩
    exact ⟨s, hread, bind_eq_ok.mpr ⟨(), validate_eq_ok.mpr hsound, rfl⟩⟩

/-- The metadata of a sound schema has all that the schema declares, in order. -/
theorem IsSound.ofDeclarations {s : EntitySchema} (h : s.IsSound) (type : EntityType) :
    EntityMetadata.ofDeclarations type s.properties = ⟨type, s.properties⟩ :=
  EntityMetadata.ofDeclarations_of_nodup type h.nodup

end EntitySchema

/-! ## Entries of a directory -/

/-- An entry of a directory declares a schema. -/
structure Declares (file : String × FileEntry) (s : EntitySchema) : Prop where
  /-- It is named for it. -/
  named : ∃ stem, stem ≠ "" ∧ file.1 = stem ++ ".json"
  /-- It is a file with a text that holds the schema. -/
  content : ∃ text, file.2 = .file (.text text) ∧ ofJson EntitySchema.decoder text = .ok s
  /-- The schema does not contradict itself. -/
  sound : s.IsSound

/-- The extension of schema files is the one that entries are named for. -/
lemma extension?_eq_schemaExtension {name : String} :
    extension? name = some schemaExtension ↔ ∃ stem, stem ≠ "" ∧ name = stem ++ ".json" := by
  have hdot : '.' ∉ schemaExtension.toList := by decide
  have hjson : "." ++ schemaExtension = ".json" := by decide
  rw [extension?_eq_some]
  simp only [hdot, not_false_eq_true, true_and, String.append_assoc, hjson]

/-- The schema of an entry is the one that it declares. -/
theorem schemaOfFile?_eq_some {directory : String} {file : String × FileEntry} {s : EntitySchema} :
    schemaOfFile? directory file = some s ↔ Declares file s := by
  constructor
  · intro h
    unfold schemaOfFile? at h
    split at h
    · rename_i name text
      split_ifs at h with hext
      cases hread : EntitySchema.ofText (directory ++ "/" ++ name) text with
      | error e => simp [hread] at h
      | ok s' =>
        obtain rfl : s' = s := by simpa [hread] using h
        obtain ⟨hdecode, hsound⟩ := EntitySchema.ofText_eq_ok.mp hread
        exact ⟨extension?_eq_schemaExtension.mp hext, ⟨text, rfl, hdecode⟩, hsound⟩
    · cases h
  · obtain ⟨name, entry⟩ := file
    rintro ⟨hnamed, ⟨text, rfl, hdecode⟩, hsound⟩
    rw [schemaOfFile?, if_pos (extension?_eq_schemaExtension.mpr hnamed),
      EntitySchema.ofText_eq_ok.mpr ⟨hdecode, hsound⟩]

end EntityFinder
