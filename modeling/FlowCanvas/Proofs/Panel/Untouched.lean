import FlowCanvas.Proofs.Canvas.Reach
import FlowCanvas.Proofs.Panel.Applying
import FlowCanvas.Proofs.Panel.Filling
import FlowCanvas.Proofs.Panel.TableEdits
import Mathlib

/-!
# Saving an untouched table

A panel of a decision table that is filled from a stored node and saved again leaves the two further
routes as they are, and the routes of the groups exactly if groups with the same role lead to the
same node (`Canvas.Reached.save_untouched_iff`). Otherwise the groups with a role all get the route
of the first of them (`TableEditor.groups_merge_ofTable`), because a group is looked up by its role
when its stored route is written back. Only a node without a name stays as it is in any case, as its
panel has a complaint.
-/

set_option autoImplicit false

namespace FlowCanvas

open FlowCanvas.Json (Value)
open FlowCanvas.Form (Field)

/-- Groups that share a role lead to the same node. -/
def DecisionTable.RoutesAgree (t : DecisionTable) : Prop :=
  ∀ g ∈ t.groups, ∀ h ∈ t.groups, g.role = h.role → g.next = h.next

instance (t : DecisionTable) : Decidable t.RoutesAgree :=
  inferInstanceAs (Decidable (∀ g ∈ t.groups, ∀ h ∈ t.groups, g.role = h.role → g.next = h.next))

/-! ## Merging an untouched working copy -/

namespace TableEditor

variable {t : DecisionTable} {groups : List ConditionGroup} {g : ConditionGroup}

/-- What is known of the route of a group when a working copy is made. -/
def loadedMark (g : ConditionGroup) : RouteMark := ⟨some g.role, false⟩

/-- Groups with the marks that they are loaded with are merged one by one. -/
theorem mergeGroups_map_loadedMark (stored groups : List ConditionGroup) :
    mergeGroups stored groups (groups.map loadedMark) =
      groups.map fun g => mergeGroup stored g (loadedMark g) := by
  induction groups with
  | nil => rfl
  | cons g rest ih => rw [List.map_cons, List.map_cons, mergeGroups, ih]

/-- In an untouched working copy of a table, the groups with a role get the route of the first of
them when it is merged into the table. -/
theorem groups_merge_ofTable (ht : t.IsFresh) :
    ((ofTable t).merge t).groups = t.groups.map fun g => mergeGroup t.groups g (loadedMark g) := by
  rw [← mergeGroups_map_loadedMark]
  unfold merge ofTable
  rw [ht.revalidate_eq]
  rfl

/-- A group with the mark that it is loaded with gets the route of the first group with its role. -/
theorem exists_mergeGroup_loadedMark (hg : g ∈ groups) :
    ∃ first, groups.find? (·.role == g.role) = some first ∧ first ∈ groups ∧
      first.role = g.role ∧ mergeGroup groups g (loadedMark g) = { g with next := first.next } := by
  cases hFind : groups.find? (·.role == g.role) with
  | none => exact absurd (List.find?_eq_none.1 hFind g hg) (by simp)
  | some first =>
    have hRole : first.role = g.role := by simpa using List.find?_some hFind
    exact ⟨first, rfl, List.mem_of_find?_eq_some hFind, hRole, mergeGroup_of_find? hFind g⟩

/-- Merging leaves the groups of an untouched working copy as they are exactly if those that share a
role lead to the same node. -/
theorem groups_merge_ofTable_eq_iff (ht : t.IsFresh) :
    ((ofTable t).merge t).groups = t.groups ↔ t.RoutesAgree := by
  rw [groups_merge_ofTable ht]
  constructor
  · intro hSame g hg h hh hRole
    have hEach : ∀ k ∈ t.groups, mergeGroup t.groups k (loadedMark k) = k :=
      List.map_inj_left.1 (hSame.trans (List.map_id _).symm)
    obtain ⟨first, hFind, -, -, hMerged⟩ := exists_mergeGroup_loadedMark hg
    obtain ⟨first', hFind', -, -, hMerged'⟩ := exists_mergeGroup_loadedMark hh
    -- both groups are given the route of the same group
    rw [hRole, hFind'] at hFind
    cases hFind
    rw [hEach g hg] at hMerged
    rw [hEach h hh] at hMerged'
    rw [hMerged, hMerged']
  · intro hAgree
    apply Lists.map_eq_self
    intro g hg
    obtain ⟨first, -, hFirst, hRole, hMerged⟩ := exists_mergeGroup_loadedMark hg
    rw [hMerged, hAgree first hFirst g hg hRole]

end TableEditor

/-! ## The panel of a table -/

namespace Panel

variable {p : Panel} {n : Node} {t : DecisionTable}

/-- The panel of a decision table has a working copy. -/
theorem exists_editor (hKind : p.kind = .decisionTable) : ∃ e, p.content = .decisionTable e := by
  obtain ⟨form, inputs, content⟩ := p
  cases content with
  | decisionTable e => exact ⟨e, rfl⟩
  | start unreadable => cases hKind
  | finish outputs => cases hKind
  | form kind =>
    cases kind with
    | _ => cases hKind

/-- A panel that is filled from a decision table gets a working copy of it. -/
theorem content_load_table (hKind : p.kind = .decisionTable) (hData : n.data = .decisionTable t) :
    (p.load n).content = .decisionTable (.ofTable t) := by
  obtain ⟨e, hContent⟩ := exists_editor hKind
  show p.content.load n.data = _
  rw [hContent, hData]
  rfl

/-- A panel that is filled from a decision table shows its names. -/
theorem lookup_load_table (hKind : p.kind = .decisionTable) (hData : n.data = .decisionTable t) :
    (p.load n).form.values.lookup "node_name" = some (.string n.name) ∧
      (p.load n).form.values.lookup "output_variable_path" =
        some (.string (n.outputPath.getD "")) ∧
      (p.load n).form.values.lookup "table_name" = some (.string t.name) := by
  obtain ⟨e, hContent⟩ := exists_editor hKind
  refine ⟨lookup_ofContent_of_mem List.mem_cons_self,
    lookup_ofContent_of_mem (List.mem_cons_of_mem _ List.mem_cons_self),
    lookup_ofContent_of_mem (List.mem_append_right _ ?_)⟩
  rw [hContent, Content.values, hData]
  exact List.mem_cons_self

/-- A panel that is filled from a decision table has a complaint exactly if the node has no name. -/
theorem isValid_load_table (hKind : p.kind = .decisionTable) (hData : n.data = .decisionTable t) :
    (p.load n).form.isValid = true ↔ Text.isBlank n.name = false := by
  have hFields : sharedFields ++ (p.load n).content.fields =
      [(Field.text "node_name").required, Field.text "output_variable_path",
        Field.text "table_name"] := by
    rw [content_load_table hKind hData]
    rfl
  have hCurrent : (p.load n).form.current "node_name" = .string n.name :=
    current_ofContent_of_mem List.mem_cons_self
  have hName : (∀ rule ∈ (Field.text "node_name").required.validators,
      rule.check? ((p.load n).form.current "node_name") = none) ↔ Text.isBlank n.name = false := by
    rw [hCurrent, ← Form.check?_required_string_iff]
    exact List.forall_mem_singleton
  have hFor : (p.load n).IsFor p.kind := isFor_ofContent p.content n
  rw [hFor.isValid_iff, hFields, ← hName]
  -- only the first of the three fields has a rule
  constructor
  · exact fun hPasses => hPasses _ List.mem_cons_self
  · intro hPasses
    exact List.forall_mem_cons.2 ⟨hPasses, List.forall_mem_cons.2
      ⟨List.forall_mem_nil _, List.forall_mem_singleton.2 (List.forall_mem_nil _)⟩⟩

/-- A decision table whose node has no name is not saved. -/
theorem save_load_of_isBlank (hKind : p.kind = .decisionTable) (hData : n.data = .decisionTable t)
    (hBlank : Text.isBlank n.name = true) : (p.load n).save n = n := by
  apply save_of_isValid_eq_false
  rw [← Bool.not_eq_true, isValid_load_table hKind hData, hBlank]
  exact Bool.noConfusion

/-- All that a form reads has just been filled in, so a save takes the working copy over. -/
theorem data_save_load (hKind : p.kind = .decisionTable) (hData : n.data = .decisionTable t)
    (hNamed : Text.isBlank n.name = false) :
    ((p.load n).save n).data =
      .decisionTable { (TableEditor.ofTable t).merge t with name := t.name } := by
  obtain ⟨hName, hPath, hTable⟩ := lookup_load_table hKind hData
  have hRead : (p.load n).content.read (p.load n).form n.data =
      .ok (.decisionTable { (TableEditor.ofTable t).merge t with name := t.name }) := by
    rw [content_load_table hKind hData, hData]
    exact read_table_iff.2 ⟨t.name, Form.text_of_lookup hTable, rfl⟩
  have hApply := apply_eq_ok_iff.2
    ⟨_, _, _, hRead, Form.text_of_lookup hName, Form.optionalText_of_lookup hPath, rfl⟩
  rw [save_of_apply ((isValid_load_table hKind hData).2 hNamed) hApply, data_written]

end Panel

namespace Canvas

/-- An untouched panel of a stored decision table writes back the two further routes, and the groups
as they are exactly if those that share a role lead to the same node or the node has no name. -/
theorem Reached.save_untouched_iff {c : Canvas} (hc : Reached c) {n : Node}
    (hn : n ∈ c.graph.nodes.toList) {t : DecisionTable} (hData : n.data = .decisionTable t)
    {p : Panel} (hKind : p.kind = .decisionTable) :
    ∃ u, ((p.load n).save n).data = .decisionTable u ∧
      u.defaultNext = t.defaultNext ∧ u.errorNext = t.errorNext ∧
      (u.groups = t.groups ↔ Text.isBlank n.name = true ∨ t.RoutesAgree) := by
  have hFresh : t.IsFresh := (hc.isStorable.nodes n hn).isFresh hData
  cases hName : Text.isBlank n.name with
  | true =>
    rw [Panel.save_load_of_isBlank hKind hData hName]
    exact ⟨t, hData, rfl, rfl, fun _ => .inl rfl, fun _ => rfl⟩
  | false =>
    refine ⟨_, Panel.data_save_load hKind hData hName, rfl, rfl, ?_⟩
    rw [or_iff_right Bool.false_ne_true]
    exact TableEditor.groups_merge_ofTable_eq_iff hFresh

/-- A table of which two groups have names that make the same role. -/
def twinTable (first second : String) : DecisionTable :=
  { groups :=
      [{ name := "A", expression := "x", next := some first },
        { name := "a", expression := "y", next := some second },
        { name := "b", expression := "z", next := some "other" }] }

/-- The node of the table as it is stored. -/
def twinNode (first second : String) : Node :=
  (Node.new ⟨"t"⟩ "table" (.decisionTable (twinTable first second))).prepare

/-- The data of the node are the table with fresh flags. -/
theorem data_twinNode (first second : String) :
    (twinNode first second).data = .decisionTable (twinTable first second).revalidate := by
  rw [twinNode, Node.prepare_table rfl]

/-- A canvas with nothing but the table. -/
def twins (first second : String) : Canvas := Canvas.perform {} (.addNode (twinNode first second))

/-- The node is on the canvas. -/
theorem twinNode_mem_twins (first second : String) :
    twinNode first second ∈ (twins first second).graph.nodes.toList := by
  have hStored : (twins first second).graph.nodes.toList = [(twinNode first second).prepare] := rfl
  rw [hStored, List.mem_singleton]
  exact (Node.isStorable_prepare _).symm

/-- The panel of a decision table before it is filled. -/
def emptyTablePanel : Panel :=
  { form := Form.new [], inputs := Rows.initial, content := .decisionTable (.ofTable {}) }

/-- Groups with one role that lead to the same node are written back as they are. -/
theorem Reached.save_untouched_iff_twins :
    (twinTable "p" "p").groups.map ConditionGroup.role =
        [.ofGroupName "a", .ofGroupName "a", .ofGroupName "b"] ∧
      ∃ u, ((emptyTablePanel.load (twinNode "p" "p")).save (twinNode "p" "p")).data =
          .decisionTable u ∧
        u.defaultNext = none ∧ u.errorNext = none ∧
        u.groups = (twinTable "p" "p").revalidate.groups := by
  have hReached : Reached (twins "p" "p") := (Reached.start {}).edit _
  obtain ⟨u, hSaved, hDefault, hError, hGroups⟩ :=
    hReached.save_untouched_iff (twinNode_mem_twins "p" "p") (data_twinNode "p" "p")
      (show emptyTablePanel.kind = .decisionTable from rfl)
  exact ⟨by decide, u, hSaved, hDefault, hError, hGroups.2 (.inr (by decide))⟩

/-- Of two groups with one role that lead to different nodes, the second one is given the route of
the first. -/
theorem not_forall_save_untouched :
    ¬ ∀ (c : Canvas) (n : Node) (t : DecisionTable) (p : Panel), Reached c →
      n ∈ c.graph.nodes.toList → n.data = .decisionTable t → p.kind = .decisionTable →
        ∃ u, ((p.load n).save n).data = .decisionTable u ∧ u.groups = t.groups ∧
          u.defaultNext = t.defaultNext ∧ u.errorNext = t.errorNext := by
  intro hAll
  have hReached : Reached (twins "p" "q") := (Reached.start {}).edit _
  obtain ⟨u, hSaved, hGroups, -, -⟩ := hAll _ _ _ emptyTablePanel hReached
    (twinNode_mem_twins "p" "q") (data_twinNode "p" "q") rfl
  have hWritten : (((emptyTablePanel.load (twinNode "p" "q")).save
      (twinNode "p" "q")).data.table?.map fun u => u.groups.map ConditionGroup.next) =
        some [some "p", some "p", some "other"] := by decide
  rw [hSaved] at hWritten
  change some (u.groups.map ConditionGroup.next) = _ at hWritten
  rw [hGroups] at hWritten
  exact absurd hWritten (by decide)

end Canvas

end FlowCanvas
