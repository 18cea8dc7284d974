import EntityFinder.Proofs.Upkeep.Basic

set_option autoImplicit false

/-!
# Changes of the nodes

Whatever happens to a node happens to its row in the table of its entity, and to no other row.

## Main results

* `EntityFinder.Database.insertNode_wellKept`, `EntityFinder.Database.insertForeignNode_wellKept`,
  `EntityFinder.Database.updateNode_wellKept`, `EntityFinder.Database.deleteNode_wellKept`: a
  database keeps to everything when its nodes change.
-/

namespace EntityFinder.Database

variable {config : IndexConfig} {d d' : Database}

/-- Storing a node keeps to everything. -/
theorem insertNode_wellKept {entity document : String} {id : Int} (hd : WellKept config d)
    (h : insertNode entity document d = .ok (id, d')) : WellKept config d' := by
  obtain ⟨d₁, h₁, h⟩ := bind_eq_ok.mp h
  obtain ⟨d₂, h₂, h⟩ := bind_eq_ok.mp h
  cases h
  have hstored := (hd.idle (ready_ok h₁)).addNode
    (n := ⟨(d₁.lastId + 1 : Nat), entity, document⟩) rfl
  obtain ⟨rfl, _⟩ | ⟨t, ht, _, hentity, hr⟩ := hstored.triggers.fireAll_ok h₂
  · exact hstored
  · exact hstored.fired ht (List.mem_append_right _ (.head _)) hentity hr

/-- A node that another program stores keeps to everything. -/
theorem insertForeignNode_wellKept {entity document : String} {id : Int} (hd : WellKept config d)
    (h : insertForeignNode entity document d = .ok (id, d')) : WellKept config d' := by
  obtain ⟨d₁, h₁, hidle⟩ := insertForeignNode_ok h
  exact (insertNode_wellKept (hd.idle (retabled_atRest d)) h₁).idle hidle

/-- Another document for a node keeps to everything. -/
theorem updateNode_wellKept {id : Int} {entity document : String} {found : Bool}
    (hd : WellKept config d) (h : updateNode id entity document d = .ok (found, d')) :
    WellKept config d' := by
  obtain ⟨d₁, h₁, h⟩ := bind_eq_ok.mp h
  have hready := hd.idle (ready_ok h₁)
  split at h
  · cases h
    exact hready
  · next n hn =>
    obtain ⟨hmem, rfl⟩ := hready.node?_eq_some.mp hn
    split_ifs at h
    · obtain ⟨d₂, h₂, h⟩ := bind_eq_ok.mp h
      cases h
      have hstored := hready.changeNode hmem document
      obtain ⟨rfl, _⟩ | ⟨t, ht, _, hentity, hr⟩ := hstored.triggers.fireAll_ok h₂
      · exact hstored
      · exact hstored.fired ht (List.mem_map.mpr ⟨n, hmem, if_pos rfl⟩) hentity hr
    · cases h
      exact hready

/-- Deleting a node keeps to everything: its row goes with it. -/
theorem deleteNode_wellKept {id : Int} {found : Bool} (hd : WellKept config d)
    (h : deleteNode id d = .ok (found, d')) : WellKept config d' := by
  obtain ⟨d₁, h₁, h⟩ := bind_eq_ok.mp h
  have hready := hd.idle (ready_ok h₁)
  split at h
  · cases h
    exact hready
  · next n hn =>
    obtain ⟨hmem, rfl⟩ := hready.node?_eq_some.mp hn
    obtain ⟨d₂, h₂, h⟩ := bind_eq_ok.mp h
    cases h
    -- only the table of the entity can have a row of the node
    have hown : ∀ t ∈ d₁.tables, ∀ r ∈ t.rows, r.id = n.id →
        IsEntityName n.entity ∧ config.tableName n.entity = t.name := by
      intro t ht r hr hid
      obtain ⟨m, hm, hmid, hback⟩ := hready.rows_backed t ht r hr
      rwa [hready.node_eq hm hmem (hmid.trans hid)] at hback
    have htriggers : TriggersKept config
        ({ d₁ with nodes := d₁.nodes.filter (·.id != n.id) } : Database).triggers :=
      hready.triggers
    obtain ⟨rfl, hnone⟩ | ⟨t, ht, hevent, hentity, hr⟩ := htriggers.fireAll_ok h₂
    · refine hready.removeNode fun table htable r hr hid => ?_
      obtain ⟨hvalid, hname⟩ := hown table htable r hr hid
      obtain ⟨t, ht, hat, hevent⟩ := hasTrigger_iff.mp
        (hready.rows_guarded table htable (List.ne_nil_of_mem hr))
      exact hnone t ht hevent (hready.triggers.entity_eq ht hvalid (hat.trans hname.symm))
    · have hr' : Retabled (At t.table (Fired n t)) d₁ { d' with nodes := d₁.nodes } :=
        ⟨rfl, hr.lastId, hr.triggers, hr.isReadOnly, hr.tables⟩
      have hfired := @WellKept.removeNode _ _ (hready.fired ht hmem hentity hr') n.id ?_
      · have hnodes : d'.nodes = d₁.nodes.filter (·.id != n.id) := hr.nodes
        simpa only [← hnodes] using hfired
      · intro table' htable' r hr'' hid
        obtain ⟨table, htable, hat⟩ := hr'.origin htable'
        unfold At at hat
        split_ifs at hat with hname
        · obtain ⟨hne, _⟩ | ⟨_, hne⟩ := (hat.mem_iff (hready.rows_sorted table htable)).mp hr''
          · exact hne hevent
          · exact hne hid
        · subst hat
          obtain ⟨_, hname'⟩ := hown table' htable r hr'' hid
          refine hname ?_
          rw [← hname', (hready.triggers.named t ht).2, hentity]

end EntityFinder.Database
