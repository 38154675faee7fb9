import FlowCanvas.Proofs.Table.Outputs
import FlowCanvas.Proofs.Text.Trimming
import Mathlib

/-!
# Flags of groups

Whether a group of a decision table is valid depends on its own texts and on whether its role occurs
elsewhere in the table, in a valid group or not, and on nothing else: neither on the flags that the
groups had before nor on the order in which they stand (`DecisionTable.hasExactFlags`).
-/

set_option autoImplicit false

namespace FlowCanvas

namespace DecisionTable

variable {groups others : List ConditionGroup} {g : ConditionGroup} {places : List Nat}

/-! ## Groups in another order -/

/-- The items at some places of a list, in the order of the places. -/
def atPlaces {α : Type} (places : List Nat) (items : List α) : List α :=
  places.filterMap fun i => items[i]?

/-- Items can be changed before or after they are taken from their places. -/
theorem atPlaces_map {α β : Type} (f : α → β) (places : List Nat) (items : List α) :
    atPlaces places (items.map f) = (atPlaces places items).map f := by
  unfold atPlaces
  rw [List.map_filterMap]
  apply List.filterMap_congr
  intro i _
  exact List.getElem?_map

/-- The items at all places in turn are the whole list. -/
theorem atPlaces_range {α : Type} (items : List α) :
    atPlaces (List.range items.length) items = items := by
  induction items with
  | nil => rfl
  | cons a rest ih =>
    conv_rhs => rw [← ih]
    unfold atPlaces
    rw [List.length_cons, List.range_succ_eq_map]
    simp only [List.filterMap_cons, List.getElem?_cons_zero, List.filterMap_map]
    rfl

/-- If all places are listed once each, the items are merely moved. -/
theorem atPlaces_perm {α : Type} {items : List α} (h : places.Perm (List.range items.length)) :
    (atPlaces places items).Perm items := by
  have hMoved : (atPlaces places items).Perm (atPlaces (List.range items.length) items) :=
    h.filterMap _
  rwa [atPlaces_range] at hMoved

/-! ## What a flag says -/

/-- The order of the groups makes no difference to a flag. -/
theorem isValidAmong_perm (h : groups.Perm others) (g : ConditionGroup) :
    isValidAmong groups g = isValidAmong others g := by
  unfold isValidAmong
  rw [h.countP_eq]

/-- A group is valid if it has a name and an expression and no group at another place has its
role. -/
theorem isValidAmong_iff {i : Nat} (hi : groups[i]? = some g) :
    isValidAmong groups g = true ↔ Text.trim g.name ≠ "" ∧ Text.trim g.expression ≠ "" ∧
      ∀ j other, groups[j]? = some other → other.role = g.role → j = i := by
  have hAlone := Lists.countP_eq_one_iff (p := fun other => other.role == g.role) hi BEq.rfl
  simp only [beq_iff_eq] at hAlone
  rw [isValidAmong, Bool.and_eq_true, Bool.and_eq_true, beq_iff_eq, hAlone, ne_eq, ne_eq,
    Text.trim_eq_empty_iff, Text.trim_eq_empty_iff, Bool.not_eq_true', Bool.not_eq_true',
    Bool.not_eq_true, Bool.not_eq_true, and_assoc]

/-- Fresh flags move with their groups. -/
theorem revalidateGroups_atPlaces (h : places.Perm (List.range groups.length)) :
    revalidateGroups (atPlaces places groups) = atPlaces places (revalidateGroups groups) := by
  unfold revalidateGroups
  rw [atPlaces_map]
  apply List.map_congr_left
  intro g _
  rw [isValidAmong_perm (atPlaces_perm h)]

/-- Taking the flags of a table afresh says which groups are valid, and does no more. -/
structure HasExactFlags (t : DecisionTable) : Prop where
  /-- Outside the groups nothing changes, and no group comes or goes. -/
  keeps : t.revalidate = { t with groups := t.revalidate.groups } ∧
    t.revalidate.groups.length = t.groups.length
  /-- A group keeps its place and everything but its flag. The flag is set if the group has a name
  and an expression and no group at another place has its role. -/
  flags : ∀ (i : Nat) (g : ConditionGroup), t.groups[i]? = some g →
    ∃ valid : Bool, t.revalidate.groups[i]? = some { g with valid } ∧
      (valid = true ↔ Text.trim g.name ≠ "" ∧ Text.trim g.expression ≠ "" ∧
        ∀ (j : Nat) (other : ConditionGroup), t.groups[j]? = some other →
          other.role = g.role → j = i)
  /-- Valid groups have pairwise distinct roles. -/
  nodup : ((t.revalidate.groups.filter (·.valid)).map ConditionGroup.role).Nodup
  /-- A second time nothing changes. -/
  final : t.revalidate.revalidate = t.revalidate
  /-- If the groups are put in another order, their flags go with them. -/
  moves : ∀ places, places.Perm (List.range t.groups.length) →
    revalidate { t with groups := atPlaces places t.groups } =
      { t.revalidate with groups := atPlaces places t.revalidate.groups }

/-- The fresh flags of a table say exactly which of its groups are valid. -/
theorem hasExactFlags (t : DecisionTable) : t.HasExactFlags where
  keeps := ⟨rfl, List.length_map _⟩
  flags := by
    intro i g hi
    refine ⟨isValidAmong t.groups g, ?_, isValidAmong_iff hi⟩
    unfold revalidate revalidateGroups
    rw [List.getElem?_map, hi]
    rfl
  nodup := (isFresh_revalidate t).nodup_valid
  final := isFresh_revalidate t
  moves := by
    intro places hPlaces
    unfold revalidate
    simp only [revalidateGroups_atPlaces hPlaces]

/-- Names that differ in their letters' case alone stand in each other's way, whether or not the
groups are complete. -/
example :
    let groups : List ConditionGroup := [{ name := "Approve", expression := "score > 5" },
      { name := " ", expression := "x", valid := true }, { name := "Reject", expression := " " },
      { name := "dup", expression := "a" }, { name := "DUP", expression := "" }]
    (revalidateGroups groups).map (·.valid) = [true, false, false, false, false] ∧
      (revalidateGroups (atPlaces [4, 0, 2, 1, 3] groups)).map (·.valid) =
        [false, true, false, false, false] := by
  decide

end DecisionTable

end FlowCanvas
