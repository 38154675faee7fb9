import FlowCanvas.Panel.TableEditor
import FlowCanvas.Proofs.Table.Binding
import Mathlib

/-!
# Edits of decision tables

Everything that is done to the working copy of a decision table is a `TableEdit`. The working copy
stays tidy (`TableEditor.IsTidy`), and what it knows about the route of a group moves with the group
(`TableEditor.IsTidy.marks_editAll`). Hence a route that has been left alone is the stored one when
the working copy is merged into the stored table (`TableEditor.mem_bindings_merge`).
-/

set_option autoImplicit false

namespace FlowCanvas

/-- What can be done to the working copy of a decision table. What is meant for a group or a
condition that is not there does nothing. -/
inductive TableEdit where
  | addGroup (name : String)
  | removeGroup (index : Nat)
  | rename (index : Nat) (name : String)
  | setExpression (index : Nat) (expression : String)
  | setKind (index : Nat) (kind : GroupKind)
  | setManipulation (index : Nat) (manipulation : Option String)
  | setNext (index : Nat) (next : Option String)
  | setOrder (index : Nat) (order : UInt32)
  | addCondition (index : Nat) (condition : Condition)
  | removeCondition (index condition : Nat)
  | setDefault (next : Option String)
  | setError (next : Option String)

namespace TableEdit

/-- Where the group at an index is after an edit. Nowhere, if the edit removes it or sets its
route. -/
def place? : TableEdit → Nat → Option Nat
  | removeGroup gone, i => if i = gone then none else some (if gone < i then i - 1 else i)
  | setNext routed _, i => if i = routed then none else some i
  | _, i => some i

/-- Where the group at an index is after edits, none of which removes it or sets its route. -/
def placeAfter? (edits : List TableEdit) (i : Nat) : Option Nat :=
  edits.foldlM (fun i x => x.place? i) i

/-- Whether the edit sets where the table leads to when no group applies. -/
def routesDefault : TableEdit → Bool
  | setDefault _ => true
  | _ => false

/-- Whether the edit sets where the table leads to on an error. -/
def routesError : TableEdit → Bool
  | setError _ => true
  | _ => false

end TableEdit

/-- Flags that are fresh depend on the groups only. -/
theorem DecisionTable.IsFresh.of_groups_eq {t u : DecisionTable} (h : t.IsFresh)
    (hGroups : u.groups = t.groups) : u.IsFresh := by
  rw [isFresh_iff, hGroups]
  exact isFresh_iff.1 h

/-- Flags stay fresh when a group is replaced by one with the same texts. -/
theorem DecisionTable.IsFresh.setGroup {t : DecisionTable} (h : t.IsFresh) {index : Nat}
    {g g' : ConditionGroup} (hGroup : t.groups[index]? = some g) (hName : g'.name = g.name)
    (hExpression : g'.expression = g.expression) (hValid : g'.valid = g.valid) :
    IsFresh { t with groups := t.groups.set index g' } := by
  obtain ⟨hIndex, rfl⟩ := List.getElem?_eq_some_iff.1 hGroup
  have hRole : g'.role = t.groups[index].role := congrArg Role.ofGroupName hName
  have hRoles : (t.groups.set index g').map ConditionGroup.role =
      t.groups.map ConditionGroup.role := by
    have hLength : index < (t.groups.map ConditionGroup.role).length := by rwa [List.length_map]
    rw [List.map_set, hRole, ← List.getElem_map ConditionGroup.role (h := hLength),
      List.set_getElem_self]
  rw [isFresh_iff] at h ⊢
  intro k hk
  rcases List.mem_or_eq_of_mem_set hk with hOld | rfl
  · exact (h k hOld).trans (isValidAmong_congr hRoles.symm rfl rfl)
  · rw [hValid, h _ (List.getElem_mem hIndex)]
    exact isValidAmong_congr hRoles.symm hName.symm hExpression.symm

namespace DecisionTable

variable {t : DecisionTable}

/-- The route of any output but the two further ones is that of a valid group. -/
theorem exists_of_mem_bindings {r : Role} {next : Option String} (h : (r, next) ∈ t.bindings)
    (hDefault : r ≠ Role.decisionDefault) (hError : r ≠ Role.decisionError) :
    ∃ g ∈ t.groups, g.valid = true ∧ g.role = r ∧ g.next = next := by
  rcases List.mem_append.1 h with hGroup | hFixed
  · obtain ⟨g, hg, hEntry⟩ := List.mem_map.1 hGroup
    obtain ⟨hMem, hValid⟩ := mem_validGroups.1 hg
    rw [Prod.mk.injEq] at hEntry
    exact ⟨g, hMem, hValid, hEntry⟩
  · simp [hDefault, hError] at hFixed

/-- The default output is bound to where the table leads by default. -/
theorem mem_bindings_default_iff {next : Option String} :
    (Role.decisionDefault, next) ∈ t.bindings ↔ next = t.defaultNext := by
  have hGroups : ∀ g : ConditionGroup, g.role ≠ Role.decisionDefault := fun g =>
    Role.ofGroupName_ne_decisionDefault g.name
  simp [bindings, hGroups, decisionError_ne_decisionDefault.symm]

/-- The error output is bound to where the table leads on an error. -/
theorem mem_bindings_error_iff {next : Option String} :
    (Role.decisionError, next) ∈ t.bindings ↔ next = t.errorNext := by
  have hGroups : ∀ g : ConditionGroup, g.role ≠ Role.decisionError := fun g =>
    Role.ofGroupName_ne_decisionError g.name
  simp [bindings, hGroups, decisionError_ne_decisionDefault]

/-- A valid group is the first one with its role. -/
theorem IsFresh.find?_role (h : t.IsFresh) {g : ConditionGroup} (hg : g ∈ t.groups)
    (hValid : g.valid = true) : t.groups.find? (·.role == g.role) = some g :=
  Lists.find?_key_of_count hg (h.count_role hg hValid)

end DecisionTable

namespace TableEditor

/-- The working copy after an edit. -/
def edit (e : TableEditor) : TableEdit → TableEditor
  | .addGroup name => (e.addGroup name).1
  | .removeGroup index => (e.removeGroup? index).getD e
  | .rename index name => (e.editGroup? index fun g => { g with name }).getD e
  | .setExpression index expression => (e.editGroup? index fun g => { g with expression }).getD e
  | .setKind index kind => (e.editGroup? index fun g => { g with kind }).getD e
  | .setManipulation index manipulation =>
    (e.editGroup? index fun g => { g with manipulation }).getD e
  | .setNext index next => (e.setNext? index next).getD e
  | .setOrder index order => (e.editGroup? index fun g => { g with order }).getD e
  | .addCondition index condition => (e.addCondition? index condition).getD e
  | .removeCondition index condition => (e.removeCondition? index condition).getD e
  | .setDefault next => e.setDefault next
  | .setError next => e.setError next

/-- The working copy after edits, made one after the other. -/
def editAll (e : TableEditor) (edits : List TableEdit) : TableEditor := edits.foldl edit e

end TableEditor

/-- The route of an output of a decision table is left alone by edits of a working copy: it is not
set, and the group that the output is for is still there, has the role that it started with, and is
valid. -/
inductive TableEdit.LeaveRoute (t : DecisionTable) (edits : List TableEdit) : Role → Prop
  | atDefault (hLeft : ∀ x ∈ edits, x.routesDefault = false) :
    LeaveRoute t edits Role.decisionDefault
  | atError (hLeft : ∀ x ∈ edits, x.routesError = false) : LeaveRoute t edits Role.decisionError
  | ofGroup {i j : Nat} {g₀ g : ConditionGroup} (hLoaded : t.groups[i]? = some g₀)
    (hPlace : TableEdit.placeAfter? edits i = some j)
    (hShown : ((TableEditor.ofTable t).editAll edits).table.groups[j]? = some g)
    (hRole : g.role = g₀.role) (hValid : g.valid = true) : LeaveRoute t edits g.role

namespace TableEditor

/-- A working copy with fresh flags and with what is known about the route of each group. -/
structure IsTidy (e : TableEditor) : Prop where
  isFresh : e.table.IsFresh
  length_marks : e.marks.length = e.table.groups.length

variable {e : TableEditor}

/-- A working copy that has just been made is tidy. -/
theorem isTidy_ofTable (t : DecisionTable) : (ofTable t).IsTidy :=
  ⟨t.isFresh_revalidate, by simp [ofTable]⟩

/-- A working copy with as many marks as groups is tidy. -/
theorem isTidy_withGroups (e : TableEditor) {groups : List ConditionGroup} {marks : List RouteMark}
    (h : marks.length = groups.length) : IsTidy { e.withGroups groups with marks } := by
  refine ⟨DecisionTable.isFresh_revalidate _, ?_⟩
  simpa [withGroups, DecisionTable.revalidate, DecisionTable.revalidateGroups] using h

/-! ## Edits that leave all routes alone -/

/-- What an edit does that neither moves a group nor sets a route. -/
structure Keeps (e e' : TableEditor) : Prop where
  isTidy : e'.IsTidy
  marks_eq : e'.marks = e.marks
  defaultEdited_eq : e'.defaultEdited = e.defaultEdited
  errorEdited_eq : e'.errorEdited = e.errorEdited

namespace IsTidy

/-- A tidy working copy keeps what it has. -/
theorem keeps_self (he : e.IsTidy) : e.Keeps e := ⟨he, rfl, rfl, rfl⟩

/-- Changing one group keeps the marks and the routes. -/
theorem keeps_editGroup? (he : e.IsTidy) (index : Nat) (change : ConditionGroup → ConditionGroup) :
    e.Keeps ((e.editGroup? index change).getD e) := by
  unfold editGroup?
  split
  · have hLength : e.marks.length = (e.table.groups.modify index change).length := by
      rw [List.length_modify, he.length_marks]
    exact ⟨e.isTidy_withGroups hLength, rfl, rfl, rfl⟩
  · exact he.keeps_self

/-- Removing a condition leaves the flags as they are, because they do not depend on conditions. -/
theorem keeps_removeCondition? (he : e.IsTidy) (index condition : Nat) :
    e.Keeps ((e.removeCondition? index condition).getD e) := by
  unfold removeCondition?
  split
  · exact he.keeps_self
  · rename_i g hGroup
    split
    · refine ⟨⟨he.isFresh.setGroup hGroup rfl rfl rfl, ?_⟩, rfl, rfl, rfl⟩
      simpa using he.length_marks
    · exact he.keeps_self

end IsTidy

/-! ## What is known of the routes -/

/-- Every edit leaves the working copy tidy. -/
theorem IsTidy.edit (he : e.IsTidy) (x : TableEdit) : (e.edit x).IsTidy := by
  cases x with
  | addGroup name =>
    refine e.isTidy_withGroups ?_
    simp [he.length_marks]
  | removeGroup index =>
    show ((e.removeGroup? index).getD e).IsTidy
    unfold removeGroup?
    split
    · refine e.isTidy_withGroups ?_
      rw [List.length_eraseIdx, List.length_eraseIdx, he.length_marks]
    · exact he
  | setNext index next =>
    show ((e.setNext? index next).getD e).IsTidy
    unfold setNext? editGroup?
    split
    · refine e.isTidy_withGroups ?_
      simp [withGroups, he.length_marks]
    · exact he
  | removeCondition index condition => exact (he.keeps_removeCondition? index condition).isTidy
  | setDefault next => exact ⟨he.isFresh.of_groups_eq rfl, he.length_marks⟩
  | setError next => exact ⟨he.isFresh.of_groups_eq rfl, he.length_marks⟩
  | _ => exact (he.keeps_editGroup? _ _).isTidy

/-- When another group is removed, what is known of the route of a group moves with the group. -/
theorem IsTidy.marks_removeGroup (he : e.IsTidy) {gone i : Nat} {m : RouteMark}
    (hMark : e.marks[i]? = some m) (hOther : i ≠ gone) :
    ((e.removeGroup? gone).getD e).marks[if gone < i then i - 1 else i]? = some m := by
  obtain ⟨hIndex, -⟩ := List.getElem?_eq_some_iff.1 hMark
  rw [he.length_marks] at hIndex
  unfold removeGroup?
  split
  · show (e.marks.eraseIdx gone)[_]? = some m
    rw [List.getElem?_eraseIdx]
    split_ifs with hBehind hBefore
    · omega
    · rwa [Nat.sub_add_cancel (by omega)]
    · exact hMark
    · omega
  · rename_i hNone
    rw [Option.getD_none, if_neg (by omega)]
    exact hMark

/-- Setting a route leaves the marks of all other groups. -/
theorem marks_setNext {routed i : Nat} {next : Option String} {m : RouteMark}
    (hMark : e.marks[i]? = some m) (hOther : i ≠ routed) :
    ((e.setNext? routed next).getD e).marks[i]? = some m := by
  unfold setNext? editGroup?
  split
  · show (e.marks.modify routed _)[i]? = some m
    rw [List.getElem?_modify_ne _ _ (Ne.symm hOther)]
    exact hMark
  · exact hMark

/-- What is known of the route of a group moves with the group. -/
theorem IsTidy.marks_edit (he : e.IsTidy) {x : TableEdit} {i j : Nat} {m : RouteMark}
    (hMark : e.marks[i]? = some m) (hPlace : x.place? i = some j) :
    (e.edit x).marks[j]? = some m := by
  cases x with
  | addGroup name =>
    cases hPlace
    obtain ⟨hIndex, -⟩ := List.getElem?_eq_some_iff.1 hMark
    show (e.marks ++ [_])[i]? = some m
    rwa [List.getElem?_append_left hIndex]
  | removeGroup gone =>
    obtain ⟨hOther, rfl⟩ : i ≠ gone ∧ (if gone < i then i - 1 else i) = j := by
      simpa [TableEdit.place?] using hPlace
    exact he.marks_removeGroup hMark hOther
  | setNext routed next =>
    obtain ⟨hOther, rfl⟩ : i ≠ routed ∧ i = j := by simpa [TableEdit.place?] using hPlace
    exact marks_setNext hMark hOther
  | removeCondition index condition =>
    cases hPlace
    exact (he.keeps_removeCondition? index condition).marks_eq ▸ hMark
  | setDefault next =>
    cases hPlace
    exact hMark
  | setError next =>
    cases hPlace
    exact hMark
  | _ =>
    cases hPlace
    exact (he.keeps_editGroup? _ _).marks_eq ▸ hMark

/-- Only the setters of the two further routes mark these as set. -/
theorem IsTidy.edited_edit (he : e.IsTidy) (x : TableEdit) :
    (e.edit x).defaultEdited = (e.defaultEdited || x.routesDefault) ∧
      (e.edit x).errorEdited = (e.errorEdited || x.routesError) := by
  have hNeither : ∀ {e' : TableEditor}, e'.defaultEdited = e.defaultEdited →
      e'.errorEdited = e.errorEdited → e'.defaultEdited = (e.defaultEdited || false) ∧
        e'.errorEdited = (e.errorEdited || false) := by
    intro e' hDefault hError
    rw [hDefault, hError, Bool.or_false, Bool.or_false]
    exact ⟨rfl, rfl⟩
  cases x with
  | addGroup name => exact hNeither rfl rfl
  | removeGroup gone =>
    simp only [TableEditor.edit, removeGroup?]
    split
    · exact hNeither rfl rfl
    · exact hNeither rfl rfl
  | setNext routed next =>
    simp only [TableEditor.edit, setNext?, editGroup?]
    split
    · exact hNeither rfl rfl
    · exact hNeither rfl rfl
  | removeCondition index condition =>
    have hKeeps := he.keeps_removeCondition? index condition
    exact hNeither hKeeps.defaultEdited_eq hKeeps.errorEdited_eq
  | setDefault next => exact ⟨(Bool.or_true _).symm, (Bool.or_false _).symm⟩
  | setError next => exact ⟨(Bool.or_false _).symm, (Bool.or_true _).symm⟩
  | _ =>
    exact hNeither (he.keeps_editGroup? _ _).defaultEdited_eq
      (he.keeps_editGroup? _ _).errorEdited_eq

/-! ## All edits -/

/-- A working copy stays tidy whatever is edited. -/
theorem IsTidy.editAll (he : e.IsTidy) (edits : List TableEdit) : (e.editAll edits).IsTidy := by
  induction edits generalizing e with
  | nil => exact he
  | cons x rest ih => exact ih (he.edit x)

/-- The mark of a group goes along with it through edits. -/
theorem IsTidy.marks_editAll (he : e.IsTidy) {edits : List TableEdit} {i j : Nat} {m : RouteMark}
    (hMark : e.marks[i]? = some m) (hPlace : TableEdit.placeAfter? edits i = some j) :
    (e.editAll edits).marks[j]? = some m := by
  induction edits generalizing e i with
  | nil =>
    cases hPlace
    exact hMark
  | cons x rest ih =>
    unfold TableEdit.placeAfter? at hPlace
    rw [List.foldlM_cons] at hPlace
    obtain ⟨k, hStep, hRest⟩ := Option.bind_eq_some_iff.1 hPlace
    exact ih (he.edit x) (he.marks_edit hMark hStep) hRest

/-- It is known whether a further route has been set. -/
theorem IsTidy.edited_editAll (he : e.IsTidy) (edits : List TableEdit) :
    (e.editAll edits).defaultEdited = (e.defaultEdited || edits.any TableEdit.routesDefault) ∧
      (e.editAll edits).errorEdited = (e.errorEdited || edits.any TableEdit.routesError) := by
  induction edits generalizing e with
  | nil => exact ⟨(Bool.or_false _).symm, (Bool.or_false _).symm⟩
  | cons x rest ih =>
    obtain ⟨hDefault, hError⟩ := he.edited_edit x
    rw [List.any_cons, List.any_cons, ← Bool.or_assoc, ← Bool.or_assoc, ← hDefault, ← hError]
    exact ih (he.edit x)

/-- The default route is unedited after edits that do not set it. -/
theorem IsTidy.defaultEdited_editAll (he : e.IsTidy) {edits : List TableEdit}
    (h : ∀ x ∈ edits, x.routesDefault = false) :
    (e.editAll edits).defaultEdited = e.defaultEdited := by
  have hNone : edits.any TableEdit.routesDefault = false :=
    List.any_eq_false.2 fun x hx => Bool.eq_false_iff.1 (h x hx)
  rw [(he.edited_editAll edits).1, hNone, Bool.or_false]

/-- The error route is unedited after edits that do not set it. -/
theorem IsTidy.errorEdited_editAll (he : e.IsTidy) {edits : List TableEdit}
    (h : ∀ x ∈ edits, x.routesError = false) :
    (e.editAll edits).errorEdited = e.errorEdited := by
  have hNone : edits.any TableEdit.routesError = false :=
    List.any_eq_false.2 fun x hx => Bool.eq_false_iff.1 (h x hx)
  rw [(he.edited_editAll edits).2, hNone, Bool.or_false]

/-! ## Merging -/

variable {stored : DecisionTable}

/-- Merging sets nothing but the route of a group. -/
theorem exists_mergeGroup (groups : List ConditionGroup) (g : ConditionGroup) (mark : RouteMark) :
    ∃ next, mergeGroup groups g mark = { g with next } := by
  unfold mergeGroup
  split
  · exact ⟨g.next, rfl⟩
  · split
    · exact ⟨_, rfl⟩
    · exact ⟨g.next, rfl⟩

/-- A route that has been left alone is that of the first stored group with the role that the group
was loaded with. -/
theorem mergeGroup_of_find? {stored : List ConditionGroup} {role : Role} {k : ConditionGroup}
    (hFind : stored.find? (·.role == role) = some k) (g : ConditionGroup) :
    mergeGroup stored g ⟨some role, false⟩ = { g with next := k.next } := by
  unfold mergeGroup
  simp only [Bool.false_eq_true, if_false, Option.bind_some, hFind]

/-- Merging keeps the roles of the groups that are shown. -/
theorem map_role_mergeGroups (stored groups : List ConditionGroup) (marks : List RouteMark) :
    (mergeGroups stored groups marks).map ConditionGroup.role = groups.map ConditionGroup.role := by
  induction groups generalizing marks with
  | nil => rfl
  | cons g rest ih =>
    cases marks with
    | nil => rfl
    | cons mark marks =>
      obtain ⟨next, hNext⟩ := exists_mergeGroup stored g mark
      rw [mergeGroups, List.map_cons, List.map_cons, ih, hNext]
      rfl

/-- A merged group is one that is shown, apart from its route. -/
theorem exists_of_mem_mergeGroups {stored groups : List ConditionGroup} {marks : List RouteMark}
    {g' : ConditionGroup} (h : g' ∈ mergeGroups stored groups marks) :
    ∃ g ∈ groups, ∃ next, g' = { g with next } := by
  induction groups generalizing marks with
  | nil => simp [mergeGroups] at h
  | cons g rest ih =>
    cases marks with
    | nil => exact ⟨g', h, g'.next, rfl⟩
    | cons mark marks =>
      rcases List.mem_cons.1 h with rfl | hRest
      · exact ⟨g, List.mem_cons_self, exists_mergeGroup stored g mark⟩
      · obtain ⟨k, hk, hNext⟩ := ih hRest
        exact ⟨k, List.mem_cons_of_mem _ hk, hNext⟩

/-- Groups are merged place by place. -/
theorem getElem?_mergeGroups {stored groups : List ConditionGroup} {marks : List RouteMark}
    {i : Nat} {g : ConditionGroup} {mark : RouteMark} (hGroup : groups[i]? = some g)
    (hMark : marks[i]? = some mark) :
    (mergeGroups stored groups marks)[i]? = some (mergeGroup stored g mark) := by
  induction groups generalizing marks i with
  | nil => simp at hGroup
  | cons k rest ih =>
    cases marks with
    | nil => simp at hMark
    | cons mark' marks =>
      cases i with
      | zero =>
        cases hGroup
        cases hMark
        rfl
      | succ i => exact ih (i := i) hGroup hMark

/-- Merging keeps the flags fresh, because they do not depend on routes. -/
theorem IsTidy.isFresh_merge (he : e.IsTidy) (stored : DecisionTable) :
    (e.merge stored).IsFresh := by
  rw [DecisionTable.isFresh_iff]
  intro g' hg'
  obtain ⟨g, hg, next, rfl⟩ := exists_of_mem_mergeGroups hg'
  rw [DecisionTable.isFresh_iff.1 he.isFresh g hg]
  exact DecisionTable.isValidAmong_congr (map_role_mergeGroups _ _ _).symm rfl rfl

/-- The route of a group that has not been set in the working copy is the stored one. -/
theorem mem_bindings_merge_group (hStored : stored.IsFresh) {i : Nat} {g : ConditionGroup}
    (hGroup : e.table.groups[i]? = some g) (hMark : e.marks[i]? = some ⟨some g.role, false⟩)
    (hValid : g.valid = true) {name : String} (hRoute : (g.role, some name) ∈ stored.bindings) :
    (g.role, some name) ∈ (e.merge stored).bindings := by
  obtain ⟨k, hk, hkValid, hkRole, hkNext⟩ := DecisionTable.exists_of_mem_bindings hRoute
    (Role.ofGroupName_ne_decisionDefault _) (Role.ofGroupName_ne_decisionError _)
  have hFind : stored.groups.find? (·.role == g.role) = some k :=
    hkRole ▸ hStored.find?_role hk hkValid
  have hMem : mergeGroup stored.groups g ⟨some g.role, false⟩ ∈ (e.merge stored).groups :=
    List.mem_of_getElem? (getElem?_mergeGroups hGroup hMark)
  rw [mergeGroup_of_find? hFind, hkNext] at hMem
  have hValidGroup := DecisionTable.mem_validGroups.2
    (⟨hMem, hValid⟩ : { g with next := some name } ∈ (e.merge stored).groups ∧ _)
  exact List.mem_append_left _ (List.mem_map_of_mem hValidGroup)

/-- A default route that has not been edited is what is stored. -/
theorem mem_bindings_merge_default (hDefault : e.defaultEdited = false) {next : Option String}
    (hRoute : (Role.decisionDefault, next) ∈ stored.bindings) :
    (Role.decisionDefault, next) ∈ (e.merge stored).bindings := by
  rw [DecisionTable.mem_bindings_default_iff] at hRoute ⊢
  rw [hRoute, merge, hDefault]
  rfl

/-- An error route that has not been edited is what is stored. -/
theorem mem_bindings_merge_error (hError : e.errorEdited = false) {next : Option String}
    (hRoute : (Role.decisionError, next) ∈ stored.bindings) :
    (Role.decisionError, next) ∈ (e.merge stored).bindings := by
  rw [DecisionTable.mem_bindings_error_iff] at hRoute ⊢
  rw [hRoute, merge, hError]
  rfl

/-- A route that has been left alone since the working copy was made of some table is the stored one
after merging. -/
theorem mem_bindings_merge {t : DecisionTable} {edits : List TableEdit} {r : Role}
    (hRoute : TableEdit.LeaveRoute t edits r) (hStored : stored.IsFresh) {name : String}
    (hMem : (r, some name) ∈ stored.bindings) :
    (r, some name) ∈ (((ofTable t).editAll edits).merge stored).bindings := by
  have hTidy := isTidy_ofTable t
  cases hRoute with
  | atDefault hLeft =>
    exact mem_bindings_merge_default (hTidy.defaultEdited_editAll hLeft) hMem
  | atError hLeft =>
    exact mem_bindings_merge_error (hTidy.errorEdited_editAll hLeft) hMem
  | @ofGroup i j g₀ g hLoaded hPlace hShown hRole hValid =>
    have hMark : (ofTable t).marks[i]? = some ⟨some g₀.role, false⟩ := by
      unfold ofTable DecisionTable.revalidate DecisionTable.revalidateGroups
      simp only [List.getElem?_map, hLoaded, Option.map_some]
      rfl
    rw [← hRole] at hMark
    exact mem_bindings_merge_group hStored hShown (hTidy.marks_editAll hMark hPlace) hValid hMem

end TableEditor

end FlowCanvas
