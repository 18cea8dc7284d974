import EntityFinder.Entity.Codec
import EntityFinder.Proofs.Decoding

set_option autoImplicit false

/-!
# The JSON forms of the data types lose nothing

Declarations, schemas, records, nodes and criteria are written as JSON and read back. What is written
is read as the same value, in either layout; what is read of any text, however it spells its strings
and whatever else it holds, is a value that can be written, so that writing it gives the text a
normal form. Records and nodes have one form, and are read from the same texts.

## Main definitions

* `EntityFinder.Json.Reads`: a decoder reads a written value as a value of its type.
* `EntityFinder.Json.Fills`: written members are put into a draft.
* `EntityFinder.Json.rewrite`: reads a text and writes what was read.
* `EntityFinder.Json.IsFaithful`: writing and reading lose nothing.

## Main results

* `EntityFinder.Json.reads_record`: a structure is read as its members fill it.
* `EntityFinder.Json.isFaithful_of_reads`: a type whose values are read as written loses nothing.
* `EntityFinder.Node.decode_eq_map`: a text is a node just if it is a record, with the same faults.
* `EntityFinder.jsonForms_faithful`: the five types lose nothing.
-/

namespace EntityFinder

namespace Json

variable {α β δ : Type}

/-! ## Shapes -/

/-- A decoder reads a written value as `a`, however the value was written. -/
def Reads (d : Decoder α) (v : Value) (a : α) : Prop :=
  ∀ r : Reading, r.Means v → d r = .ok a

/-- What is made of a value that is read. -/
lemma Reads.map {d : Decoder α} {v : Value} {a : α} (h : Reads d v a) (f : α → β) :
    Reads (fun r => (d r).map f) v (f a) := by
  intro r hr
  simp only [h r hr, Except.map]

/-- A string is read as it was written. -/
lemma reads_string (s : String) : Reads string (.string s) s := by
  intro r hr
  rw [Reading.Means] at hr
  obtain ⟨literal, rfl, htext⟩ := hr
  exact htext

/-- A truth value is read as it was written. -/
lemma reads_bool (b : Bool) : Reads bool (.bool b) b := by
  intro r hr
  rw [Reading.Means] at hr
  subst hr
  rfl

/-- A number that a node can have: an integer of 64 bits. -/
def IsNodeId (id : Int) : Prop :=
  minId ≤ id ∧ id ≤ maxId

instance (id : Int) : Decidable (IsNodeId id) :=
  inferInstanceAs (Decidable (_ ∧ _))

/-- The number of a node is read as it was written. -/
lemma reads_nodeId {id : Int} (h : IsNodeId id) : Reads nodeId (.int id) id := by
  intro r hr
  rw [Reading.Means] at hr
  subst hr
  have hrange : minId ≤ id ∧ id ≤ maxId := h
  have hword : id.natAbs < Numeral.wordLimit := by
    simp only [minId, maxId] at hrange
    simp only [Numeral.wordLimit]
    omega
  simp only [nodeId, usable_ofInt hword, integer?_ofInt, bind, Except.bind, if_pos hrange]

/-- A decoded number is one that a node can have. -/
lemma isNodeId_of_nodeId {r : Reading} {id : Int} (h : nodeId r = .ok id) : IsNodeId id := by
  unfold nodeId at h
  split at h
  · obtain ⟨_, -, h⟩ := bind_eq_ok.mp h
    split at h
    · split_ifs at h with hrange
      cases h
      exact hrange
    · cases h
  · exact absurd h wrongShape_ne_ok

/-- Items are read one by one. -/
lemma reads_list {d : Decoder α} {write : α → Value} {as : List α}
    (h : ∀ a ∈ as, Reads d (write a) a) : Reads (list d) (.ofItems (as.map write)) as := by
  intro r hr
  rw [Value.ofItems, Reading.Means] at hr
  obtain ⟨items, rfl, hmean⟩ := hr
  rw [list]
  induction as generalizing items with
  | nil =>
    rw [List.map_nil, Values.ofList, Items.Mean] at hmean
    subst hmean
    rfl
  | cons a as ih =>
    rw [List.map_cons, Values.ofList, Items.Mean] at hmean
    obtain ⟨item, rest, rfl, hitem, hrest⟩ := hmean
    have has := ih (fun b hb => h b (.tail _ hb)) rest hrest
    simp only [listItems, h a (.head _) item hitem, has, bind, Except.bind]

/-- A pair of texts is read as it was written. -/
lemma reads_pair (a b : String) :
    Reads pair (.ofItems [.string a, .string b]) (a, b) := by
  intro r hr
  simp only [Value.ofItems, Values.ofList, Reading.Means, Items.Mean] at hr
  obtain ⟨items, rfl, _, _, rfl, ⟨x, rfl, hx⟩, _, _, rfl, ⟨y, rfl, hy⟩, rfl⟩ := hr
  simp only [pair, nextItem, string, hx, hy, endOfItems, bind, Except.bind]

/-- Properties are read as they were written. -/
lemma reads_texts (p : Properties) : Reads texts p.toJson p := by
  intro r hr
  rw [Properties.toJson, Value.ofMembers, Reading.Means] at hr
  obtain ⟨fields, rfl, hmean⟩ := hr
  rw [texts, textFields_of_hold (hold_of_mean hmean), Properties.insertAll_empty]

/-! ## Structures -/

/-- Written members are put into a draft, one after the other. -/
def Fills (slots : List (Slot δ)) (members : List (String × Value)) (draft final : δ) : Prop :=
  ∀ fields : Fields, fields.Mean (.ofList members) → fillByKey slots draft fields = .ok final

/-- Without members a draft stays as it is. -/
lemma fills_nil (slots : List (Slot δ)) (draft : δ) : Fills slots [] draft draft := by
  intro fields h
  rw [Members.ofList, Fields.Mean] at h
  subst h
  rfl

/-- A member of a known key is put into its slot if that is free. -/
lemma Fills.cons {slots : List (Slot δ)} {slot : Slot δ} {key : String} {v : Value}
    {members : List (String × Value)} {draft next final : δ} (h : Fills slots members next final)
    (hslot : slots.find? (·.name == key) = some slot) (hfree : slot.isSet draft = false)
    (hput : Reads (slot.put draft) v next) :
    Fills slots ((key, v) :: members) draft final := by
  intro fields hfields
  rw [Members.ofList, Fields.Mean] at hfields
  obtain ⟨literal, value, rest, rfl, hkey, hvalue, hrest⟩ := hfields
  simp only [fillByKey, hkey, bind, Except.bind, hslot, hfree, hput value hvalue, h rest hrest,
    Bool.false_eq_true, if_false]

/-- A structure is read as its members fill it. -/
theorem reads_record {slots : List (Slot δ)} {members : List (String × Value)} {start final : δ}
    {finish : δ → Option α} {a : α} (h : Fills slots members start final)
    (hfinish : finish final = some a) :
    Reads (record slots start finish) (.ofMembers members) a := by
  intro r hr
  rw [Value.ofMembers, Reading.Means] at hr
  obtain ⟨fields, rfl, hmean⟩ := hr
  simp only [record, h fields hmean, bind, Except.bind, hfinish]

/-- What every slot keeps of a draft holds of it when the fields of an object have been read. -/
lemma keeps_fillByKey {slots : List (Slot δ)} {P : δ → Prop}
    (hput : ∀ slot ∈ slots, ∀ draft r next, P draft → slot.put draft r = .ok next → P next)
    {draft final : δ} {fields : Fields} (hdraft : P draft)
    (h : fillByKey slots draft fields = .ok final) : P final := by
  match fields with
  | .closed =>
    cases h
    exact hdraft
  | .broken f => cases h
  | .cons key value rest =>
    rw [fillByKey, bind_eq_ok] at h
    obtain ⟨name, -, h⟩ := h
    split at h
    · obtain ⟨_, -, h⟩ := bind_eq_ok.mp h
      exact keeps_fillByKey hput hdraft h
    · next slot hslot =>
      split_ifs at h
      obtain ⟨next, hnext, h⟩ := bind_eq_ok.mp h
      exact keeps_fillByKey hput
        (hput slot (List.mem_of_find?_eq_some hslot) draft value next hdraft hnext) h

/-- What every slot keeps of a draft holds of it when the items of an array have been read. -/
lemma keeps_fillInOrder {slots : List (Slot δ)} {P : δ → Prop}
    (hput : ∀ slot ∈ slots, ∀ draft r next, P draft → slot.put draft r = .ok next → P next)
    {draft final : δ} {items : Items} (hdraft : P draft)
    (h : fillInOrder draft slots items = .ok final) : P final := by
  induction slots generalizing draft items with
  | nil =>
    rw [fillInOrder, bind_eq_ok] at h
    obtain ⟨_, -, h⟩ := h
    cases h
    exact hdraft
  | cons slot slots ih =>
    cases items with
    | closed =>
      cases h
      exact hdraft
    | broken f => cases h
    | cons item rest =>
      rw [fillInOrder, bind_eq_ok] at h
      obtain ⟨next, hnext, h⟩ := h
      exact ih (fun slot hslot => hput slot (.tail _ hslot))
        (hput slot (.head _) draft item next hdraft hnext) h

/-- A decoded structure comes from a draft that has what every slot keeps. -/
theorem exists_draft_of_record {slots : List (Slot δ)} {start : δ} {finish : δ → Option α}
    {P : δ → Prop}
    (hput : ∀ slot ∈ slots, ∀ draft r next, P draft → slot.put draft r = .ok next → P next)
    (hstart : P start) {r : Reading} {a : α} (h : record slots start finish r = .ok a) :
    ∃ draft, P draft ∧ finish draft = some a := by
  unfold record at h
  split at h
  · obtain ⟨draft, hdraft, h⟩ := bind_eq_ok.mp h
    split at h
    · next b hfinish =>
      cases h
      exact ⟨draft, keeps_fillByKey hput hstart hdraft, hfinish⟩
    · cases h
  · obtain ⟨draft, hdraft, h⟩ := bind_eq_ok.mp h
    split at h
    · next b hfinish =>
      cases h
      exact ⟨draft, keeps_fillInOrder hput hstart hdraft, hfinish⟩
    · cases h
  · exact absurd h wrongShape_ne_ok

/-- What is made of a finished draft may be made of the structure. -/
lemma record_map (slots : List (Slot δ)) (start : δ) (finish : δ → Option α) (f : α → β)
    (r : Reading) :
    record slots start (fun draft => (finish draft).map f) r =
      (record slots start finish r).map f := by
  cases r with
  | object fields =>
    simp only [record]
    rcases fillByKey slots start fields with _ | draft
    · rfl
    · simp only [bind, Except.bind]
      cases finish draft <;> rfl
  | array items =>
    simp only [record]
    rcases fillInOrder start slots items with _ | draft
    · rfl
    · simp only [bind, Except.bind]
      cases finish draft <;> rfl
  | string s =>
    simp only [record, wrongShape]
    cases s.text <;> rfl
  | number n =>
    simp only [record, wrongShape]
    cases n.usable <;> rfl
  | null | bool | unfinishedNumber | broken => rfl

/-! ## Whole texts -/

/-- A text whose reading means a value is decoded as the value is read. -/
lemma decode_charsIn {d : Decoder α} {v : Value} {a : α} (h : Reads d v a) (layout : Layout) :
    decode d (String.ofList (v.charsIn layout 0)) = .ok a := by
  obtain ⟨r, hread, hmeans⟩ := exists_ofText layout v
  rw [decode_eq_ok, hread]
  exact ⟨h r hmeans, rfl⟩

/-- What is decoded of a text may be changed afterwards. -/
lemma decode_map (d : Decoder α) (f : α → β) (text : String) :
    decode (fun r => (d r).map f) text = (decode d text).map f := by
  simp only [decode]
  cases d (Reading.ofText text).1 with
  | error e => rfl
  | ok a =>
    simp only [Except.map, bind, Except.bind]
    split <;> rfl

/-- Reads a text and writes what was read. -/
def rewrite (read : Decoder α) (write : α → Value) (print : Value → String) (text : String) :
    Except Fault String :=
  (decode read text).map fun a => print (write a)

/-- Writing and reading lose nothing of the values with `fits`, and no others are read. -/
structure IsFaithful (read : Decoder α) (write : α → Value) (fits : α → Prop) : Prop where
  /-- What is written, in either layout, is read as the same value. -/
  decode_write : ∀ a, fits a →
    decode read (write a).compact = .ok a ∧ decode read (write a).pretty = .ok a
  /-- Whatever a text says, what is read of it can be written. -/
  fits_of_decode : ∀ text a, decode read text = .ok a → fits a
  /-- A text and what it is rewritten to are read alike, and rewriting twice is rewriting once. -/
  rewrite_rewrite : ∀ print ∈ [Value.compact, Value.pretty], ∀ text written,
    rewrite read write print text = .ok written →
      decode read written = decode read text ∧ rewrite read write print written = .ok written

/-- A type loses nothing if its values are read as they are written. -/
theorem isFaithful_of_reads {read : Decoder α} {write : α → Value} {fits : α → Prop}
    (hreads : ∀ a, fits a → Reads read (write a) a)
    (hfits : ∀ r a, read r = .ok a → fits a) : IsFaithful read write fits := by
  have hwrite : ∀ a, fits a → ∀ print ∈ [Value.compact, Value.pretty],
      decode read (print (write a)) = .ok a := by
    intro a ha print hprint
    rcases List.mem_pair.mp hprint with rfl | rfl
    · rw [Value.compact, ← Value.charsIn_compact 0]
      exact decode_charsIn (hreads a ha) .compact
    · rw [Value.pretty, ← Value.charsIn_indented 0]
      exact decode_charsIn (hreads a ha) .indented
  have hdecode : ∀ text a, decode read text = .ok a → fits a := by
    intro text a h
    obtain ⟨b, hb, h⟩ := bind_eq_ok.mp h
    split_ifs at h
    cases h
    exact hfits _ _ hb
  refine ⟨fun a ha => ⟨hwrite a ha _ (by simp), hwrite a ha _ (by simp)⟩, hdecode, ?_⟩
  intro print hprint text written h
  obtain ⟨a, ha, rfl⟩ := map_eq_ok.mp h
  have hread := hwrite a (hdecode text a ha) print hprint
  exact ⟨hread.trans ha.symm, map_eq_ok.mpr ⟨a, hread, rfl⟩⟩

end Json

open Json

/-! ## The five types -/

/-- A declaration is read as it was written. -/
lemma PropertyDeclaration.reads (d : PropertyDeclaration) : Reads decoder d.toJson d := by
  have hname := (reads_string d.name).map fun name => (⟨some name, none⟩ : Draft)
  have hindexed := (reads_bool d.indexed).map fun b => (⟨some d.name, some b⟩ : Draft)
  refine reads_record ?_ (rfl : Draft.finish ⟨some d.name, some d.indexed⟩ = some d)
  exact .cons (.cons (fills_nil _ _) rfl rfl hindexed) rfl rfl hname

/-- A schema is read as it was written. -/
lemma EntitySchema.reads (s : EntitySchema) : Reads decoder s.toJson s := by
  have hname := (reads_string s.name).map fun name => (⟨some name, none⟩ : Draft)
  have hproperties := (reads_list fun d (_ : d ∈ s.properties) => d.reads).map
    fun ds => (⟨some s.name, some ds⟩ : Draft)
  refine reads_record ?_ (rfl : Draft.finish ⟨some s.name, some s.properties⟩ = some s)
  exact .cons (.cons (fills_nil _ _) rfl rfl hproperties) rfl rfl hname

/-- A record is read as it was written if nodes can have its number. -/
lemma Record.reads {r : Record} (h : IsNodeId r.id) : Reads decoder r.toJson r := by
  have hid := (reads_nodeId h).map fun id => (⟨some id, none, none⟩ : Draft)
  have hentity := (reads_string r.entity).map fun s => (⟨some r.id, some s, none⟩ : Draft)
  have hproperties := (reads_texts r.properties).map
    fun p => (⟨some r.id, some r.entity, some p⟩ : Draft)
  refine reads_record ?_
    (rfl : Draft.finish ⟨some r.id, some r.entity, some r.properties⟩ = some r)
  exact .cons (.cons (.cons (fills_nil _ _) rfl rfl hproperties) rfl rfl hentity) rfl rfl hid

/-- Criteria are read as they were written, repeated properties included. -/
lemma Criteria.reads (c : Criteria) : Reads decoder c.toJson c := by
  have hpairs : Reads (list pair)
      (.ofItems (c.entries.map fun entry => .ofItems [.string entry.1, .string entry.2])) c.entries :=
    reads_list fun entry _ => reads_pair entry.1 entry.2
  exact reads_record (.cons (fills_nil _ _) rfl rfl (hpairs.map some)) rfl

/-- The number of a record that is read is one that nodes can have. -/
lemma Record.isNodeId_of_decoder {r : Reading} {record : Record} (h : decoder r = .ok record) :
    IsNodeId record.id := by
  -- no other slot touches the number of the draft
  have hput : ∀ slot ∈ slots, ∀ (draft : Draft) r next, (∀ id ∈ draft.id, IsNodeId id) →
      slot.put draft r = .ok next → ∀ id ∈ next.id, IsNodeId id := by
    intro slot hslot draft r next hdraft hnext
    simp only [slots, List.mem_cons, List.not_mem_nil, or_false] at hslot
    obtain rfl | rfl | rfl := hslot
    · obtain ⟨id, hid, rfl⟩ := map_eq_ok.mp hnext
      intro id' hid'
      cases hid'
      exact isNodeId_of_nodeId hid
    · obtain ⟨_, -, rfl⟩ := map_eq_ok.mp hnext
      exact hdraft
    · obtain ⟨_, -, rfl⟩ := map_eq_ok.mp hnext
      exact hdraft
  obtain ⟨draft, hdraft, hfinish⟩ := exists_draft_of_record hput (by simp) h
  unfold Draft.finish at hfinish
  split at hfinish
  · next id _ _ hid _ _ =>
    cases hfinish
    exact hdraft id hid
  · cases hfinish

/-- A node is what is made of a record that is read. -/
lemma Node.decoder_eq_map : Node.decoder = fun r => (Record.decoder r).map ofRecord := by
  have hfinish : finish = fun draft => (Record.Draft.finish draft).map ofRecord := by
    funext draft
    unfold finish Record.Draft.finish
    split <;> rfl
  funext r
  rw [decoder, hfinish, record_map, Record.decoder]

/-- A text is read as a node just if it is read as a record, and refused for the same fault. -/
theorem Node.decode_eq_map (text : String) :
    decode Node.decoder text = (decode Record.decoder text).map ofRecord := by
  rw [decoder_eq_map, decode_map]

/-- A node is read as it was written if its number is one that nodes can have. -/
lemma Node.reads {n : Node} (h : IsNodeId n.id) : Reads decoder n.toJson n := by
  rw [decoder_eq_map]
  exact (Record.reads (r := n.toRecord) h).map ofRecord

/-- The number of a node that is read is one that nodes can have. -/
lemma Node.isNodeId_of_decoder {r : Reading} {n : Node} (h : decoder r = .ok n) :
    IsNodeId n.id := by
  rw [decoder_eq_map] at h
  obtain ⟨record, hrecord, rfl⟩ := map_eq_ok.mp h
  exact Record.isNodeId_of_decoder hrecord

/-- The JSON forms of declarations, schemas, records, nodes and criteria lose nothing: each value is
read as it was written, each text is rewritten to a normal form, and the texts of nodes are those of
records, with the same faults. -/
theorem jsonForms_faithful :
    IsFaithful PropertyDeclaration.decoder PropertyDeclaration.toJson (fun _ => True) ∧
    IsFaithful EntitySchema.decoder EntitySchema.toJson (fun _ => True) ∧
    IsFaithful Record.decoder Record.toJson (fun r => IsNodeId r.id) ∧
    IsFaithful Node.decoder Node.toJson (fun n => IsNodeId n.id) ∧
    IsFaithful Criteria.decoder Criteria.toJson (fun _ => True) ∧
    ∀ text, decode Node.decoder text = (decode Record.decoder text).map Node.ofRecord :=
  ⟨isFaithful_of_reads (fun d _ => d.reads) fun _ _ _ => trivial,
   isFaithful_of_reads (fun s _ => s.reads) fun _ _ _ => trivial,
   isFaithful_of_reads (fun _ h => Record.reads h) fun _ _ => Record.isNodeId_of_decoder,
   isFaithful_of_reads (fun _ h => Node.reads h) fun _ _ => Node.isNodeId_of_decoder,
   isFaithful_of_reads (fun c _ => c.reads) fun _ _ _ => trivial,
   Node.decode_eq_map⟩

/-- The node with the least number and with texts that have to be escaped is read as it was
written. -/
theorem jsonForms_faithful_escaped :
    let node : Node := ⟨minId, "\u0001\"é", .ofList [("\\", "\n\u007f"), ("", "😀\t")]⟩
    IsNodeId node.id ∧ decode Node.decoder node.toJson.compact = .ok node ∧
      decode Node.decoder node.toJson.pretty = .ok node :=
  have hid : IsNodeId minId := by decide
  ⟨hid, jsonForms_faithful.2.2.2.1.decode_write _ hid⟩

end EntityFinder
