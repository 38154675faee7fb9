import FlowCanvas.Flow.DecisionTable
import Mathlib

/-!
# The order of the groups

The outputs of a decision table stand in the order of its groups, which are sorted by a number that
several of them may share. Sorting keeps such groups in the order in which they were written
(`DecisionTable.isStableSort_sortByOrder`).
-/

set_option autoImplicit false

namespace FlowCanvas

namespace DecisionTable

/-- One list of groups is another one sorted by the orders, with the groups of each order as they
stood. -/
structure IsStableSort (groups sorted : List ConditionGroup) : Prop where
  perm : sorted.Perm groups
  ascending : sorted.Pairwise fun a b => a.order ≤ b.order
  stable : ∀ order, sorted.filter (·.order == order) = groups.filter (·.order == order)

variable {g : ConditionGroup} {groups : List ConditionGroup}

/-- Sorting a group into an ascending list leaves it ascending. -/
theorem ascending_insertByOrder (h : groups.Pairwise fun a b => a.order ≤ b.order) :
    (insertByOrder g groups).Pairwise fun a b => a.order ≤ b.order := by
  induction groups with
  | nil => exact List.pairwise_singleton _ g
  | cons first rest ih =>
    obtain ⟨hFirst, hRest⟩ := List.pairwise_cons.1 h
    unfold insertByOrder
    split
    · rename_i hBefore
      refine List.pairwise_cons.2 ⟨List.forall_mem_cons.2 ⟨hBefore, fun b hb => ?_⟩, h⟩
      exact UInt32.le_trans hBefore (hFirst b hb)
    · rename_i hAfter
      refine List.pairwise_cons.2 ⟨fun b hb => ?_, ih hRest⟩
      rcases List.mem_cons.1 ((insertByOrder_perm g rest).mem_iff.1 hb) with rfl | hb
      · exact UInt32.le_of_lt (UInt32.not_le.1 hAfter)
      · exact hFirst b hb

/-- A group is put before all others of its order, and the groups of other orders stay. -/
theorem filter_insertByOrder (order : UInt32) :
    (insertByOrder g groups).filter (·.order == order) =
      (g :: groups).filter (·.order == order) := by
  induction groups with
  | nil => rfl
  | cons first rest ih =>
    unfold insertByOrder
    split
    · rfl
    · rename_i hAfter
      -- the group passes the first one only if their orders differ
      have hDistinct : ¬ (g.order = order ∧ first.order = order) := by
        rintro ⟨rfl, hFirst⟩
        exact hAfter (hFirst ▸ UInt32.le_refl _)
      rw [List.filter_cons, ih, List.filter_cons, List.filter_cons, List.filter_cons]
      by_cases hFirst : first.order = order
      · have hGroup : g.order ≠ order := fun h => hDistinct ⟨h, hFirst⟩
        simp [hFirst, hGroup]
      · simp [hFirst]

/-- Sorting is stable. -/
theorem isStableSort_sortByOrder (groups : List ConditionGroup) :
    IsStableSort groups (sortByOrder groups) := by
  induction groups with
  | nil => exact ⟨List.Perm.refl _, List.Pairwise.nil, fun _ => rfl⟩
  | cons g groups ih =>
    refine ⟨sortByOrder_perm _, ascending_insertByOrder ih.ascending, fun order => ?_⟩
    calc (insertByOrder g (sortByOrder groups)).filter (·.order == order)
        = (g :: sortByOrder groups).filter (·.order == order) := filter_insertByOrder order
      _ = (g :: groups).filter (·.order == order) := by
          rw [List.filter_cons, ih.stable, List.filter_cons]

end DecisionTable

end FlowCanvas
