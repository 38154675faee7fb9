import FlowCanvas.Proofs.Panel.Discarding
import FlowCanvas.Proofs.Panel.Untouched
import FlowCanvas.Proofs.Table.Cells
import Mathlib

/-!
# Merging routes

While the panel of a decision table is open, its working copy is edited, and routes are written into
the stored table. A save merges the two (`Panel.save_merges`): the groups are those of the panel,
and a route comes from the panel if it has been set there or its group has been added there. All
other routes are the stored ones, each that of the group which the panel's group has been loaded
from, wherever this is now and whatever it is called now.

The panel knows where a group comes from by its mark. Marks that say that a route has been left
alone move with the groups (`TableEditor.IsTidy.marks_editAll`), and there are no others of this
sort (`TableEditor.IsTidy.exists_of_marks_editAll`). A mark leads back to one group only if the
groups of the loaded table have different roles.
-/

set_option autoImplicit false

namespace FlowCanvas

/-- What becomes of a stored table when a working copy is saved that has been edited since it was
loaded. The saved table has the groups that the panel shows. -/
structure TableEdit.Merges (edits : List TableEdit) (shown stored saved : DecisionTable) :
    Prop where
  length_groups : saved.groups.length = shown.groups.length
  /-- A group that has been loaded, and whose route has not been set, gets the stored route of the
  group that it was loaded from. -/
  left : ∀ {i j : Nat} {k g : ConditionGroup}, placeAfter? edits i = some j →
    stored.groups[i]? = some k → shown.groups[j]? = some g →
    saved.groups[j]? = some { g with next := k.next }
  /-- Any other group has been added, or its route has been set. It is as the panel shows it. -/
  routed : ∀ {j : Nat} {g : ConditionGroup},
    (∀ i < stored.groups.length, placeAfter? edits i ≠ some j) → shown.groups[j]? = some g →
    saved.groups[j]? = some g
  defaultNext : saved.defaultNext =
    if edits.any routesDefault then shown.defaultNext else stored.defaultNext
  errorNext : saved.errorNext = if edits.any routesError then shown.errorNext else stored.errorNext
  isFresh : saved.IsFresh

namespace TableEditor

variable {e : TableEditor} {t stored : DecisionTable} {edits : List TableEdit}

/-! ## Where marks come from -/

/-- Removing a group leaves at each place what was known about the group that moves there. -/
theorem IsTidy.exists_of_marks_removeGroup (he : e.IsTidy) {gone j : Nat} {m : RouteMark}
    (hMark : ((e.removeGroup? gone).getD e).marks[j]? = some m) :
    ∃ i, (TableEdit.removeGroup gone).place? i = some j ∧ e.marks[i]? = some m := by
  unfold removeGroup? at hMark
  split at hMark
  · change (e.marks.eraseIdx gone)[j]? = some m at hMark
    rw [List.getElem?_eraseIdx] at hMark
    split at hMark
    · exact ⟨j, by simp [TableEdit.place?]; omega, hMark⟩
    · exact ⟨j + 1, by simp [TableEdit.place?]; omega, hMark⟩
  · -- the index is behind all groups, and so behind this one
    rw [Option.getD_none] at hMark
    obtain ⟨hIndex, -⟩ := List.getElem?_eq_some_iff.1 hMark
    rw [he.length_marks] at hIndex
    exact ⟨j, by simp [TableEdit.place?]; omega, hMark⟩

/-- A mark that is unedited after a route has been set was there before, at the place that the edit
moves to its own. -/
theorem IsTidy.exists_of_marks_setNext (he : e.IsTidy) {routed j : Nat} {next : Option String}
    {m : RouteMark} (hMark : ((e.setNext? routed next).getD e).marks[j]? = some m)
    (hLeft : m.edited = false) :
    ∃ i, (TableEdit.setNext routed next).place? i = some j ∧ e.marks[i]? = some m := by
  unfold setNext? editGroup? at hMark
  split at hMark
  · change (e.marks.modify routed fun m => { m with edited := true })[j]? = some m at hMark
    rw [List.getElem?_modify] at hMark
    obtain ⟨old, hOld, rfl⟩ := Option.map_eq_some_iff.1 hMark
    split at hLeft
    · cases hLeft
    · rename_i hOther
      refine ⟨j, if_neg (Ne.symm hOther), ?_⟩
      rwa [if_neg hOther]
  · change e.marks[j]? = some m at hMark
    obtain ⟨hIndex, -⟩ := List.getElem?_eq_some_iff.1 hMark
    rw [he.length_marks] at hIndex
    exact ⟨j, if_neg (by omega), hMark⟩

/-- What is known about a route that has been left alone was known before an edit, about the group
that is at this place now. -/
theorem IsTidy.exists_of_marks_edit (he : e.IsTidy) {x : TableEdit} {j : Nat} {m : RouteMark}
    (hMark : (e.edit x).marks[j]? = some m) (hLeft : m.edited = false) :
    ∃ i, x.place? i = some j ∧ e.marks[i]? = some m := by
  cases x with
  | addGroup name =>
    have hAdded : (e.marks ++ [⟨none, true⟩])[j]? = some m := hMark
    rw [List.getElem?_append] at hAdded
    split at hAdded
    · exact ⟨j, rfl, hAdded⟩
    · rw [List.mem_singleton.1 (List.mem_of_getElem? hAdded)] at hLeft
      cases hLeft
  | removeGroup gone => exact he.exists_of_marks_removeGroup hMark
  | setNext routed next => exact he.exists_of_marks_setNext hMark hLeft
  | removeCondition index condition =>
    exact ⟨j, rfl, (he.keeps_removeCondition? index condition).marks_eq ▸ hMark⟩
  | setDefault next => exact ⟨j, rfl, hMark⟩
  | setError next => exact ⟨j, rfl, hMark⟩
  | _ => exact ⟨j, rfl, (he.keeps_editGroup? _ _).marks_eq ▸ hMark⟩

/-- What is known about a route that has been left alone was known from the start, about the group
that is at this place in the end. -/
theorem IsTidy.exists_of_marks_editAll (he : e.IsTidy) {j : Nat} {m : RouteMark}
    (hMark : (e.editAll edits).marks[j]? = some m) (hLeft : m.edited = false) :
    ∃ i, TableEdit.placeAfter? edits i = some j ∧ e.marks[i]? = some m := by
  induction edits generalizing e with
  | nil => exact ⟨j, rfl, hMark⟩
  | cons x rest ih =>
    obtain ⟨k, hRest, hStep⟩ := ih (he.edit x) hMark
    obtain ⟨i, hPlace, hFirst⟩ := he.exists_of_marks_edit hStep hLeft
    refine ⟨i, ?_, hFirst⟩
    unfold TableEdit.placeAfter?
    rw [List.foldlM_cons, hPlace]
    exact hRest

/-- The marks of a working copy are those of any table with the same roles. -/
theorem marks_ofTable
    (hRoles : stored.groups.map ConditionGroup.role = t.groups.map ConditionGroup.role) :
    (ofTable t).marks = stored.groups.map loadedMark := by
  have hMarks : ∀ groups : List ConditionGroup, groups.map loadedMark =
      (groups.map ConditionGroup.role).map fun role => ⟨some role, false⟩ := by
    intro groups
    rw [List.map_map]
    rfl
  show (DecisionTable.revalidateGroups t.groups).map loadedMark = stored.groups.map loadedMark
  rw [hMarks, hMarks, DecisionTable.map_role_revalidateGroups, hRoles]

/-! ## The merged table -/

/-- If all roles are different, the first stored group with a role is the one that a group has been
loaded from. -/
theorem mergeGroup_loadedMark (hDistinct : (stored.groups.map ConditionGroup.role).Nodup)
    {k : ConditionGroup} (hk : k ∈ stored.groups) (g : ConditionGroup) :
    mergeGroup stored.groups g (loadedMark k) = { g with next := k.next } :=
  mergeGroup_of_find? (Lists.find?_key_of_count hk
    (List.count_eq_one_of_mem hDistinct (List.mem_map_of_mem hk))) g

/-- A group whose route has been edited is merged as it is. -/
theorem mergeGroup_of_edited {groups : List ConditionGroup} {m : RouteMark}
    (hEdited : m.edited = true) (g : ConditionGroup) : mergeGroup groups g m = g := by
  rw [mergeGroup, if_pos hEdited]

/-- A working copy of a table with different roles merges into any table with the same roles. -/
theorem merges_merge (hDistinct : (t.groups.map ConditionGroup.role).Nodup)
    (hRoles : stored.groups.map ConditionGroup.role = t.groups.map ConditionGroup.role)
    (edits : List TableEdit) :
    TableEdit.Merges edits ((ofTable t).editAll edits).table stored
      (((ofTable t).editAll edits).merge stored) := by
  have hStart := isTidy_ofTable t
  have hMarks := marks_ofTable hRoles
  have hEnd := hStart.editAll edits
  obtain ⟨hDefault, hError⟩ := hStart.edited_editAll edits
  constructor
  case length_groups =>
    show (mergeGroups stored.groups _ _).length = _
    simpa using congrArg List.length (map_role_mergeGroups stored.groups
      ((ofTable t).editAll edits).table.groups ((ofTable t).editAll edits).marks)
  case left =>
    intro i j k g hPlace hStored hShown
    have hMark : (ofTable t).marks[i]? = some (loadedMark k) := by
      rw [hMarks, List.getElem?_map, hStored, Option.map_some]
    rw [← mergeGroup_loadedMark (hRoles ▸ hDistinct) (List.mem_of_getElem? hStored) g]
    exact getElem?_mergeGroups hShown (hStart.marks_editAll hMark hPlace)
  case routed =>
    intro j g hNowhere hShown
    obtain ⟨hIndex, -⟩ := List.getElem?_eq_some_iff.1 hShown
    rw [← hEnd.length_marks] at hIndex
    have hMark := List.getElem?_eq_getElem hIndex
    -- the mark of a route that has been left alone would lead back to a loaded group
    have hEdited : ((ofTable t).editAll edits).marks[j].edited = true := by
      by_contra hNot
      obtain ⟨i, hPlace, hFirst⟩ :=
        hStart.exists_of_marks_editAll hMark (Bool.eq_false_of_not_eq_true hNot)
      obtain ⟨hLoaded, -⟩ := List.getElem?_eq_some_iff.1 hFirst
      rw [hMarks, List.length_map] at hLoaded
      exact hNowhere i hLoaded hPlace
    rw [← mergeGroup_of_edited hEdited g]
    exact getElem?_mergeGroups hShown hMark
  case defaultNext => rw [merge, hDefault]; rfl
  case errorNext => rw [merge, hError]; rfl
  case isFresh => exact hEnd.isFresh_merge stored

end TableEditor

/-- The name of a table plays no part in what is merged. -/
theorem TableEdit.Merges.of_name {edits : List TableEdit} {shown stored saved : DecisionTable}
    (h : Merges edits shown stored saved) (name : String) :
    Merges edits shown stored { saved with name } :=
  { h with isFresh := h.isFresh.of_groups_eq rfl }

/-! ## The panel -/

/-- What an edit of a panel does to the working copy of a table. -/
def PanelEdit.table? : PanelEdit → Option TableEdit
  | editTable x => some x
  | _ => none

namespace Panel

open FlowCanvas.Form (IsPlain)

variable {p : Panel} {n s : Node} {t : DecisionTable} {edits : List PanelEdit}

/-- The working copy in a panel goes through the edits that are meant for it. -/
theorem content_editAll_table {e : TableEditor} (h : p.content = .decisionTable e)
    (edits : List PanelEdit) : (p.editAll edits).content =
      .decisionTable (e.editAll (edits.filterMap PanelEdit.table?)) := by
  induction edits generalizing p e with
  | nil => exact h
  | cons x rest ih =>
    cases x with
    | editTable x =>
      refine ih (e := e.edit x) ?_
      show (p.editTable x).content = _
      unfold editTable
      rw [h]
    | editOutputs x =>
      refine ih ?_
      show (p.editOutputs x).content = _
      unfold editOutputs
      rw [h]
      exact h
    | setField id value => exact ih h
    | editInputs x => exact ih h

/-- A panel of a decision table has been loaded and edited, while routes have been written into the
stored table. If the panel has no complaints, a save merges its working copy into the stored table,
and the node gets the ports of the table that results. -/
theorem save_merges (hKind : p.kind = .decisionTable) (hLoaded : n.data = .decisionTable t)
    (hDistinct : (t.groups.map ConditionGroup.role).Nodup)
    (hPlain : ∀ x ∈ edits, x.Gives fun _ => IsPlain)
    (hValid : ((p.load n).editAll edits).form.isValid = true)
    {routes : List (Role × Option String)}
    (hStored : s.data = .decisionTable (t.rebindAll routes)) :
    let q := (p.load n).editAll edits
    let tableEdits := edits.filterMap PanelEdit.table?
    let e := (TableEditor.ofTable t).editAll tableEdits
    q.content = .decisionTable e ∧ ∃ u, (q.save s).data = .decisionTable u ∧
      TableEdit.Merges tableEdits e.table (t.rebindAll routes) u ∧
      q.form.text "table_name" = .ok u.name ∧ (q.save s).ports = u.ports s.id := by
  intro q tableEdits e
  have hContent : q.content = .decisionTable e :=
    content_editAll_table (content_load_table hKind hLoaded) edits
  refine ⟨hContent, ?_⟩
  have hFor : q.IsFor s.kind := by
    have hSame : s.kind = p.kind := (congrArg Payload.kind hStored).trans hKind.symm
    rw [hSame]
    exact (isFor_ofContent p.content n).editAll edits
  have hValues : q.form.AllValues fun _ => IsPlain :=
    (allValues_ofContent p.content n).editAll hPlain
  obtain ⟨u, hApply⟩ : ∃ u, q.apply s = .ok u := by
    rw [hFor.exists_apply_iff hValues hValid, hContent]
    exact List.forall_mem_nil _
  rw [save_of_apply hValid hApply]
  obtain ⟨data, name, outputPath, hRead, -, -, rfl⟩ := apply_eq_ok_iff.1 hApply
  rw [hContent, hStored] at hRead
  obtain ⟨tableName, hName, rfl⟩ := read_table_iff.1 hRead
  have hMerges := TableEditor.merges_merge hDistinct (t.map_role_rebindAll routes) tableEdits
  exact ⟨_, data_written _ _ _ _ _, hMerges.of_name tableName, hName, rfl⟩

/-- A table of three rows. -/
def threeRows : DecisionTable :=
  { groups := [{ name := "A", expression := "a" }, { name := "B", expression := "b" },
      { name := "C", expression := "c", next := some "Old" }] }

/-- In the panel the first row gives its name to a new one, the second row is removed, and the third
one is routed. -/
def rowEdits : List PanelEdit :=
  [.editTable (.rename 0 "Z"), .editTable (.addGroup "A"), .setField "table_name" (.string "rows"),
    .editTable (.removeGroup 1), .editTable (.setNext 1 (some "Mine")),
    .editTable (.removeGroup 7), .editTable (.setError (some "Log"))]

/-- What is written into the stored table in the meantime. -/
def rowRoutes : List (Role × Option String) :=
  [(⟨"decision-out-a"⟩, some "First"), (⟨"decision-out-b"⟩, some "Second"),
    (⟨"Decision-Out-C"⟩, some "Third"), (Role.decisionDefault, some "Rest"),
    (Role.decisionError, some "Fix"), (⟨"decision-out-b"⟩, none)]

/-- The stored route of the first row goes to that row, not to the new one with its name. -/
theorem save_merges_threeRows :
    let n := Node.new ⟨"t"⟩ "table" (.decisionTable threeRows)
    let s := { n with data := .decisionTable (threeRows.rebindAll rowRoutes) }
    let q := ((ofContent (.decisionTable (.ofTable {})) n).load n).editAll rowEdits
    let tableEdits := rowEdits.filterMap PanelEdit.table?
    (threeRows.groups.map ConditionGroup.role).Nodup ∧ q.form.isValid = true ∧
      ((q.save s).data.table?.map fun u =>
        (u.groups.map fun g => (g.name, g.next), u.defaultNext, u.errorNext)) =
        some ([("Z", some "First"), ("C", some "Mine"), ("A", none)], some "Rest", some "Log") ∧
      ∃ u, (q.save s).data = .decisionTable u ∧
        TableEdit.Merges tableEdits ((TableEditor.ofTable threeRows).editAll tableEdits).table
          (threeRows.rebindAll rowRoutes) u ∧ (q.save s).ports = u.ports s.id := by
  intro n s q tableEdits
  have hDistinct : (threeRows.groups.map ConditionGroup.role).Nodup := by decide +kernel
  have hPlain : ∀ x ∈ rowEdits, x.Gives fun _ => IsPlain := by
    unfold rowEdits
    simp [PanelEdit.Gives, IsPlain]
  have hValid : q.form.isValid = true := by decide +kernel
  have hStored : s.data = .decisionTable (threeRows.rebindAll rowRoutes) := rfl
  obtain ⟨-, u, hData, hMerges, -, hPorts⟩ :=
    save_merges (n := n) rfl rfl hDistinct hPlain hValid hStored
  exact ⟨hDistinct, hValid, by decide +kernel, u, hData, hMerges, hPorts⟩

end Panel

end FlowCanvas
