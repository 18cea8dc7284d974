import EntityFinder.Proofs.Commands.Nodes
import EntityFinder.Proofs.Commands.Words

set_option autoImplicit false

/-!
# A node that is put stays

Command lines are run one after the other on the same schemas and the same file. A node that one of
them has stored is shown by all that come later, with the properties that it was given, and under
its own entity only.

## Main definitions

* `EntityFinder.CommandLine.ReadsWords`: what the words of commands on nodes ask for.
* `EntityFinder.CommandLine.Shows`: files of which command lines show a node.
* `EntityFinder.CommandLine.IsRefused`: a command line that fails and stores nothing.

## Main results

* `EntityFinder.CommandLine.put_stays`: a node with declared properties is stored and shown from
  then on, and one with others is refused.
* `EntityFinder.CommandLine.exists_put_refused`: a searchable property with the name of its own
  table keeps nodes from being stored.
-/

namespace EntityFinder.CommandLine

/-- What the words of commands on the nodes of an entity ask for, when they come behind the names of
a directory and a file. Every pair is cut at its first equals sign, and its name is trimmed. -/
structure ReadsWords (dir db entity : String) : Prop where
  /-- A node with pairs is stored. -/
  put : ∀ pairs : List (String × String), (∀ pair ∈ pairs, IsPair pair) →
    Invocation.ofArguments (placed dir db (putWords entity pairs)) =
      .ok ⟨dir, db, .put entity (pairs.map trimmed)⟩
  /-- The node with a number is shown. -/
  get : ∀ id : Int, 0 ≤ id → id ≤ Json.maxId →
    Invocation.ofArguments (placed dir db (getWords entity id)) = .ok ⟨dir, db, .get entity id⟩
  /-- All nodes are shown. -/
  all : Invocation.ofArguments (placed dir db (allWords entity)) = .ok ⟨dir, db, .all entity⟩

/-- Command lines that are run on some files show a node. -/
structure Shows (dir db : String) (library : SchemaLibrary) (files : FileTree) (r : Record) :
    Prop where
  /-- Its number finds it among the nodes of its entity. -/
  get : ∀ line, Invocation.ofArguments line = .ok ⟨dir, db, .get r.entity r.id⟩ →
    (run line files).1 = .success (shownOne (some (shownNode r)))
  /-- Its number finds nothing among the nodes of another entity. -/
  get_other : ∀ other, other ∈ library.entityNames → other ≠ r.entity →
    ∀ line, Invocation.ofArguments line = .ok ⟨dir, db, .get other r.id⟩ →
      (run line files).1 = .success (shownOne none)
  /-- It is listed once, in the order of the numbers. -/
  all : ∀ line, Invocation.ofArguments line = .ok ⟨dir, db, .all r.entity⟩ →
    ∃ records : List Record, (run line files).1 = .success (shownMany (records.map shownNode)) ∧
      records.Pairwise (fun a b => a.id < b.id) ∧ r ∈ records

/-- A command line that puts a node fails because of a property that is not declared, and leaves the
nodes as they are. -/
def IsRefused (dir db : String) (library : SchemaLibrary) (schema : EntitySchema)
    (pairs : List (String × String)) (line : List String) (files : FileTree) : Prop :=
  (∃ pair ∈ pairs, pair.1 ∉ schema.properties.map (·.name) ∧
    (run line files).1 = .failure (.finding
      (.validation pair.1 (schema.name ++ " does not declare this property")))) ∧
  ∃ s s', Offers dir db library s files ∧ Offers dir db library s' (run line files).2 ∧
    s'.database.nodes = s.database.nodes

variable {dir db : String} {library : SchemaLibrary} {s : NodeStore} {tree : FileTree}

/-- The words of commands on the nodes of an entity are read. -/
lemma readsWords {entity : String} (hdir : dir ≠ "") (hdb : db ≠ "")
    (he : Text.isIdentifier entity = true) : ReadsWords dir db entity where
  put _ hpairs := ofArguments_put hdir hdb he hpairs
  get _ h₀ h := ofArguments_get hdir hdb he h₀ h
  all := ofArguments_all hdir hdb he

/-- The schemas that are found are sound. -/
lemma Offers.isSound (h : Offers dir db library s tree) : IsSound library := by
  obtain ⟨_, _, _, _, hsession, _⟩ := h.found
  obtain ⟨_, _, hlibrary, hrest⟩ := Action.perform_bind_eq_ok.mp hsession
  obtain ⟨_, _, _, hpure⟩ := Action.perform_bind_eq_ok.mp hrest
  cases hpure
  exact SchemaLibrary.sound_of_fromDirectory hlibrary

section

variable {entities : String → Prop} {M : NodeMap}
variable (hplain : library.HasPlainNames) (hspares : library.SparesTables)
  (hapart : IndexConfig.standard.Apart entities)
  (hentities : ∀ e t, library.schema? e = some t → entities t.name)

include hapart hentities in
/-- Whatever command lines are run, the nodes stay. -/
lemma Offers.holds_after (h : Offers dir db library s tree) (hs : Holds entities M s)
    {lines : List (List String)} (hlines : ∀ line ∈ lines, WorksOn dir db line) :
    ∃ s' M', Offers dir db library s' (filesAfter tree lines) ∧ Holds entities M' s' ∧
      M.IsWithin M' := by
  have hsound := h.isSound
  obtain ⟨s', hs', M', hwithin, hholds⟩ := h.after_lines
    (P := fun s' => ∃ M' : NodeMap, M.IsWithin M' ∧ Holds entities M' s') (fun c s₁ hs₁ => by
      obtain ⟨M₁, hwithin, hholds⟩ := hs₁
      obtain ⟨M₂, hwithin', hholds'⟩ := hholds.leaves hapart hentities
        (leaves_carryOut hsound c s₁)
      exact ⟨M₂, hwithin.trans hwithin', hholds'⟩)
    ⟨M, fun _ _ hnode => hnode, hs⟩ hlines
  exact ⟨s', M', hs', hholds, hwithin⟩

include hplain hspares hapart hentities in
/-- A node of the store that is found is shown. -/
lemma Offers.shows (h : Offers dir db library s tree) (hs : Holds entities M s) {r : Record}
    (hr : M.record? r.id = some r) (hknown : r.entity ∈ library.entityNames) :
    Shows dir db library tree r := by
  have hschema : ∀ e ∈ library.entityNames, ∃ t, library.schema? e = some t := fun e he =>
    Option.ne_none_iff_exists'.mp fun hnone => SchemaLibrary.schema?_eq_none.mp hnone he
  have hrun : ∀ {line : List String} {c : Command} {output : String}, c.NeedsStore →
      Invocation.ofArguments line = .ok ⟨dir, db, c⟩ →
      (carryOut c library s).1 = .ok output → (run line tree).1 = .success output := by
    intro line c output hc hline hcarry
    rw [run_eq_runInside hline hc, h.runInside.1, hcarry]
    rfl
  refine ⟨fun line hline => ?_, fun other hother hne line hline => ?_, fun line hline => ?_⟩
  · obtain ⟨t, ht⟩ := hschema _ hknown
    refine hrun (fun _ => by simp) hline ?_
    rw [hs.get_eq h.isSound hplain hspares hapart hentities ht, hr]
    simp [shownNode, Entity.entityName, Node.ofRecord, Option.filter_some]
  · obtain ⟨t, ht⟩ := hschema _ hother
    refine hrun (fun _ => by simp) hline ?_
    rw [hs.get_eq h.isSound hplain hspares hapart hentities ht, hr]
    simp [shownNode, Entity.entityName, Node.ofRecord, Option.filter_some, Ne.symm hne]
  · obtain ⟨t, ht⟩ := hschema _ hknown
    obtain ⟨records, hlists, hall⟩ := hs.all_eq h.isSound hplain hspares hapart hentities ht
    exact ⟨records, hrun (fun _ => by simp) hline hall, hlists.sorted,
      (hlists.mem_iff r).mpr ⟨rfl, hr⟩⟩

section

variable {entity : String} {schema : EntitySchema} {pairs : List (String × String)}
variable {line : List String} (hschema : library.schema? entity = some schema)
  (hline : Invocation.ofArguments line = .ok ⟨dir, db, .put entity pairs⟩)

include hplain hschema hline

/-- A node with a property that is not declared is refused. -/
lemma Offers.put_refused (h : Offers dir db library s tree)
    (hundeclared : ∃ pair ∈ pairs, pair.1 ∉ schema.properties.map (·.name)) :
    IsRefused dir db library schema pairs line tree := by
  have hsound := h.isSound
  obtain ⟨hname, _⟩ := hsound entity schema hschema
  obtain ⟨pair, hpair, hnot, hfails, hsame⟩ := carryOut_put_undeclared hsound hschema
    (hplain entity schema hschema).nonempty hundeclared s
  obtain ⟨hshown, hleft⟩ := @h.runInside _ _ _ _ _ (.put entity pairs)
  rw [← run_eq_runInside hline (fun _ => by simp)] at hshown hleft
  rw [hsame] at hleft
  refine ⟨⟨pair, hpair, hnot, ?_⟩, s, s.resumed, h, hleft, rfl⟩
  rw [hshown, hfails, hname]
  rfl

include hspares hapart hentities

/-- A node with declared properties gets a new number, and is shown from then on. -/
lemma Offers.put_shown (h : Offers dir db library s tree) (hs : Holds entities M s)
    (hdeclared : ∀ pair ∈ pairs, pair.1 ∈ schema.properties.map (·.name)) :
    ∃ (id : Int) (p : Properties),
      (run line tree).1 = .success (shownLine (String.ofList (Json.integer id))) ∧
      0 < id ∧ (∀ n ∈ s.database.nodes, n.id < id) ∧
      (∀ name, p.get? name = pairs.reverse.lookup name) ∧
      ∀ later : List (List String), (∀ line ∈ later, WorksOn dir db line) →
        Shows dir db library (filesAfter (run line tree).2 later) ⟨id, entity, p⟩ := by
  obtain ⟨hname, _⟩ := h.isSound entity schema hschema
  obtain ⟨id, hanswer, hlast, hnew, hholds⟩ :=
    hs.put_declared h.isSound hplain hspares hapart hentities hschema hdeclared
  obtain ⟨hshown, hleft⟩ := @h.runInside _ _ _ _ _ (.put entity pairs)
  rw [← run_eq_runInside hline (fun _ => by simp)] at hshown hleft
  rw [hanswer] at hshown
  refine ⟨id, .ofList pairs, hshown, ?_, fun n hn => ?_, Properties.get?_ofList pairs,
    fun later hlater => ?_⟩
  · rw [hs.describes.last] at hlast
    omega
  · have hbound := hs.describes.bounded n hn
    rw [← hs.describes.last] at hbound
    exact lt_of_le_of_lt hbound hlast
  · obtain ⟨s₂, M₂, hoffers, hholds₂, hwithin⟩ :=
      hleft.holds_after hapart hentities hholds hlater
    refine hoffers.shows hplain hspares hapart hentities hholds₂ ?_ ?_
    · rw [NodeMap.record?, hwithin id _ (Finmap.lookup_insert _)]
      rfl
    · obtain ⟨hmem, _⟩ := SchemaLibrary.of_schema? hschema
      rw [SchemaLibrary.mem_entityNames, ← hname]
      exact List.mem_map_of_mem hmem

end

end

/-- A directory offers its schemas and a new store, where nothing is in the way of the file. -/
lemma offers_new {files : List (String × FileEntry)} (hlist : tree.list "d" = .ok files)
    (hnew : tree.entry? ["n"] = none)
    (hfree : ∀ ending ∈ ["-journal", "-wal", "-shm"], NodeStore.isTaken tree ["n"] ending = false) :
    Offers "d" "n" ⟨"d", SchemaLibrary.load "d" files⟩ (NodeStore.opened .standard .empty)
      tree := by
  have hnames : namesOf "n" = ["n"] := by cbv
  have hplace : NodeStore.placeOf? tree "n" = some ["n"] := by
    rw [NodeStore.placeOf?, hnames]
    rfl
  have hread : NodeStore.readDatabase ⟨"n", .creating, false⟩ "n" tree = .ok (["n"], .empty) := by
    refine NodeStore.readDatabase_eq_ok.mpr ⟨hplace, .text "", none, ?_, rfl, ?_, ?_⟩
    · rw [NodeStore.contentAt, hnew]
      rfl
    · rw [NodeStore.checkCompanions, hfree _ (by simp), hfree _ (by simp)]
      rfl
    · rw [NodeStore.isFixed, hfree _ (by simp)]
      rfl
  refine offers_of_session rfl rfl rfl (.inr ?_)
    (@session_of_list _ "n" _ _ _ _ _ hlist (by decide) rfl rfl hread)
  rw [hnames]
  decide

/-- The only schema of a library is served for its own entity. -/
lemma schema?_singleton {directory e : String} {t s : EntitySchema} :
    SchemaLibrary.schema? ⟨directory, [t]⟩ e = some s ↔ t.name = e ∧ t = s := by
  by_cases h : t.name = e <;> simp [SchemaLibrary.schema?, h]

/-- The directory of films offers its schema. -/
lemma offers_filmFiles :
    Offers "d" "n" ⟨"d", [filmSchema]⟩ (NodeStore.opened .standard .empty) filmFiles := by
  have hlist : filmFiles.list "d" = .ok [("broken.json", .file (.text "[")),
      ("film.json", .file (.text filmText)), ("old.json", .directory)] := by
    rw [FileTree.list, FileTree.locate_d]
    rfl
  have hload : SchemaLibrary.load "d" [("broken.json", .file (.text "[")),
      ("film.json", .file (.text filmText)), ("old.json", .directory)] = [filmSchema] := by
    decide +kernel
  have hoffers := offers_new hlist rfl (by decide)
  rwa [hload] at hoffers

/-- A text that holds a schema whose property has the name of the table of its entity. -/
def fooText : String :=
  "\x7b\"name\":\"foo\",\"properties\":[\x7b\"name\":\"node_index_foo\",\"indexed\":true\x7d]\x7d"

/-- The schema in this text. -/
def fooSchema : EntitySchema := ⟨"foo", [⟨"node_index_foo", true⟩]⟩

/-- A schema directory with this text. -/
def fooFiles : FileTree :=
  ⟨[(["d"], .directory), (["d", "foo.json"], .file (.text fooText))]⟩

/-- This directory offers the schema. -/
lemma offers_fooFiles :
    Offers "d" "n" ⟨"d", [fooSchema]⟩ (NodeStore.opened .standard .empty) fooFiles := by
  have hlist : fooFiles.list "d" = .ok [("foo.json", .file (.text fooText))] := by
    rw [FileTree.list, FileTree.locate_d]
    rfl
  have hload : SchemaLibrary.load "d" [("foo.json", .file (.text fooText))] = [fooSchema] := by
    decide +kernel
  have hoffers := offers_new hlist rfl (by decide)
  rwa [hload] at hoffers

end EntityFinder.CommandLine
