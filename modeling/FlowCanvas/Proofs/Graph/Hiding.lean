import FlowCanvas.Proofs.Graph.Searching
import Mathlib

/-!
# Hidden items

What is hidden is found by climbing from an item to a collapsed group, what is below a group by
going down from it. Both find the same (`Graph.hidesExactly_visible`), because a climb passes all
that is above an item (`Graph.mem_ancestors_iff`). It does so even where parents form a circle,
although it stops there at the first group that it has passed before: what it has passed by then has
its parents among what it has passed (`Graph.mem_ancestorsUpTo_of_isParentOn`).
-/

set_option autoImplicit false

namespace FlowCanvas

namespace Graph

variable {g : Graph} {link : Option ItemId} {id : ItemId} {h k : Group} {n : Node}

/-! ## The climb on any graph -/

/-- A climb meets only groups that are above its start. -/
theorem above_of_mem_ancestorsUpTo {steps : Nat} {passed : List ItemId}
    (hh : h ∈ g.ancestorsUpTo steps passed link) : g.Above link h := by
  induction steps generalizing passed link with
  | zero => cases hh
  | succ steps ih =>
    obtain ⟨hStops, -⟩ | ⟨inner, rfl, hGroup, -, hGoes⟩ := g.ancestorsUpTo_cases passed link
    · rw [hStops] at hh
      cases hh
    · rw [hGoes] at hh
      rcases List.mem_cons.1 hh with rfl | hOuter
      · exact .parent hGroup
      · exact .outer hGroup (ih hOuter)

/-- An id is the parent that a climb starts from, or that of a group which it passes. -/
def IsParentOn (link : Option ItemId) (groups : List Group) (id : ItemId) : Prop :=
  link = some id ∨ ∃ k ∈ groups, k.parent = some id

/-- With enough steps for the groups that have not been passed, a climb leaves out no group that is
the parent of one on it, apart from those that have been passed. -/
theorem mem_ancestorsUpTo_of_isParentOn {steps : Nat} {passed : List ItemId}
    (hSteps : g.missing passed ≤ steps)
    (hParent : IsParentOn link (g.ancestorsUpTo steps passed link) id)
    (hStored : g.group? id = some h) :
    h ∈ g.ancestorsUpTo steps passed link ∨ id ∈ passed := by
  induction steps generalizing passed link with
  | zero =>
    obtain ⟨hMem, rfl⟩ := group?_eq_some.1 hStored
    exact .inr (mem_of_missing_eq_zero (Nat.le_zero.1 hSteps) hMem)
  | succ steps ih =>
    obtain ⟨hStops, hPassed⟩ | ⟨inner, rfl, hGroup, hNew, hGoes⟩ :=
      g.ancestorsUpTo_cases passed link
    · rw [hStops] at hParent
      obtain hLink | ⟨k, hk, -⟩ := hParent
      · exact .inr (hPassed id h hLink hStored)
      · cases hk
    · rw [hGoes] at hParent ⊢
      have hFewer := missing_cons_lt hGroup hNew
      by_cases hSame : id = inner.id
      · rw [hSame, hGroup] at hStored
        cases hStored
        exact .inl List.mem_cons_self
      · have hRest : IsParentOn inner.parent
            (g.ancestorsUpTo steps (inner.id :: passed) inner.parent) id := by
          obtain hLink | ⟨k, hk, hLink⟩ := hParent
          · cases hLink
            exact absurd rfl hSame
          · rcases List.mem_cons.1 hk with rfl | hOuter
            · exact .inl hLink
            · exact .inr ⟨k, hOuter, hLink⟩
        rcases ih (by omega) hRest with hOuter | hOld
        · exact .inl (List.mem_cons_of_mem _ hOuter)
        · exact .inr ((List.mem_cons.1 hOld).resolve_left hSame)

/-- With enough steps for the groups that have not been passed, one more step changes nothing. -/
theorem ancestorsUpTo_succ {steps : Nat} {passed : List ItemId}
    (hSteps : g.missing passed ≤ steps) :
    g.ancestorsUpTo (steps + 1) passed link = g.ancestorsUpTo steps passed link := by
  induction steps generalizing passed link with
  | zero =>
    obtain ⟨hStops, -⟩ | ⟨inner, rfl, hGroup, hNew, -⟩ := g.ancestorsUpTo_cases passed link
    · rw [hStops, hStops]
    · have hFound := mem_of_missing_eq_zero (Nat.le_zero.1 hSteps) (group?_eq_some.1 hGroup).1
      exact absurd hFound hNew
  | succ steps ih =>
    obtain ⟨hStops, -⟩ | ⟨inner, rfl, hGroup, hNew, hGoes⟩ := g.ancestorsUpTo_cases passed link
    · rw [hStops, hStops]
    · have hFewer : g.missing (inner.id :: passed) < g.missing passed :=
        missing_lt (List.subset_cons_self _ _) (group?_eq_some.1 hGroup).1 hNew List.mem_cons_self
      rw [hGoes, hGoes, ih (by omega)]

/-- A climb has come to its end after as many steps as there are groups. -/
theorem ancestorsUpTo_eq_ancestors {steps : Nat} (hSteps : g.groups.toList.length ≤ steps) :
    g.ancestorsUpTo steps [] link = g.ancestors link := by
  induction steps, hSteps using Nat.le_induction with
  | base => rfl
  | succ steps hSteps ih =>
    have hMissing := g.missing_le []
    rw [ancestorsUpTo_succ (by omega), ih]

/-- A climb passes exactly the groups above an item, on any graph. -/
theorem mem_ancestors_iff : h ∈ g.ancestors link ↔ g.Above link h := by
  constructor
  · exact above_of_mem_ancestorsUpTo
  · intro hAbove
    have hParent : ∀ id k, IsParentOn link (g.ancestors link) id → g.group? id = some k →
        k ∈ g.ancestors link := by
      intro id k hOn hStored
      have hFound := mem_ancestorsUpTo_of_isParentOn (g.missing_le []) hOn hStored
      exact hFound.resolve_right List.not_mem_nil
    have hClosed : ∀ upper x, g.Above upper x →
        (∀ id, upper = some id → IsParentOn link (g.ancestors link) id) → x ∈ g.ancestors link := by
      intro upper x hx
      induction hx with
      | parent hGroup =>
        intro hUpper
        exact hParent _ _ (hUpper _ rfl) hGroup
      | outer hGroup _ ih =>
        intro hUpper
        apply ih
        intro id hLink
        exact .inr ⟨_, hParent _ _ (hUpper _ rfl) hGroup, hLink⟩
    apply hClosed link h hAbove
    intro id hLink
    exact .inl hLink

/-! ## What is hidden -/

/-- No group stands for an item exactly if all groups above it are expanded. -/
theorem coverOf?_eq_none_iff :
    g.coverOf? link = none ↔ ∀ h, g.Above link h → h.collapsed = false := by
  unfold coverOf?
  rw [Option.map_eq_none_iff, List.getLast?_eq_none_iff, List.filter_eq_nil_iff]
  simp only [mem_ancestors_iff, Bool.not_eq_true]

/-- A group stands for an item exactly if one of the groups above it is collapsed. -/
theorem exists_collapsed_of_coverOf? :
    (g.coverOf? link).isNone = false ↔ ∃ h, g.Above link h ∧ h.collapsed = true := by
  rw [← Bool.not_eq_true, Option.isNone_iff_eq_none, coverOf?_eq_none_iff]
  push Not
  simp only [ne_eq, Bool.not_eq_false]

/-- A view hides exactly what is below a collapsed group, and both ways to find that come to their
ends on any graph. -/
structure HidesExactly (g : Graph) (view : Visible) : Prop where
  nodes : ∀ n ∈ g.nodes.toList, n ∉ view.nodes ↔
    ∃ h ∈ g.groups.toList, h.collapsed = true ∧ n.id ∈ g.nodesBelow h.id
  groups : g.IsAcyclic → ∀ k ∈ g.groups.toList, k ∉ view.groups ↔
    ∃ h ∈ g.groups.toList, h.collapsed = true ∧ k.id ∈ g.groupsBelow h.id
  /-- Climbing for longer than there are groups leads to no further group. -/
  up_ends : ∀ (link : Option ItemId) (steps : Nat), g.groups.toList.length ≤ steps →
    g.ancestorsUpTo steps [] link = g.ancestors link
  /-- Nor does going down for longer. -/
  down_ends : ∀ (id : ItemId) (levels : Nat), g.groups.toList.length ≤ levels →
    g.descendBy levels [id] = g.groupsFrom id
  /-- Going down group by group comes to an end too, with the same groups. -/
  search_ends : ∀ id, ((Search.start id).run g (g.groups.toList.length + 1)).waiting = [] ∧
    ∀ k, k ∈ ((Search.start id).run g (g.groups.toList.length + 1)).found ↔ k ∈ g.groupsFrom id

/-- A node is hidden exactly if it is found by descending from a collapsed group. -/
theorem notMem_nodes_visible_iff (hn : n ∈ g.nodes.toList) :
    n ∉ g.visible.nodes ↔
      ∃ h ∈ g.groups.toList, h.collapsed = true ∧ n.id ∈ g.nodesBelow h.id := by
  have hHidden : n ∉ g.visible.nodes ↔ (g.coverOf? n.parent).isNone = false := by
    show n ∉ g.nodes.toList.filter _ ↔ _
    rw [List.mem_filter, and_iff_right hn, Bool.not_eq_true]
  rw [hHidden, exists_collapsed_of_coverOf?]
  constructor
  · rintro ⟨h, hAbove, hCollapsed⟩
    have hStored : g.group? h.id = some h := group?_eq_some.2 ⟨hAbove.mem, rfl⟩
    exact ⟨h, hAbove.mem, hCollapsed, (mem_nodesBelow_iff hStored).2 ⟨n, hn, rfl, hAbove⟩⟩
  · rintro ⟨h, hh, hCollapsed, hBelow⟩
    have hStored : g.group? h.id = some h := group?_eq_some.2 ⟨hh, rfl⟩
    obtain ⟨m, hm, hId, hAbove⟩ := (mem_nodesBelow_iff hStored).1 hBelow
    rw [Roster.eq_of_key_eq hm hn hId] at hAbove
    exact ⟨h, hAbove, hCollapsed⟩

/-- A group in a circle is above itself, but it is not among the groups below itself. -/
theorem notMem_groups_visible_iff (hg : g.IsAcyclic) (hk : k ∈ g.groups.toList) :
    k ∉ g.visible.groups ↔
      ∃ h ∈ g.groups.toList, h.collapsed = true ∧ k.id ∈ g.groupsBelow h.id := by
  have hHidden : k ∉ g.visible.groups ↔ (g.coverOf? k.parent).isNone = false := by
    show k ∉ g.groups.toList.filter _ ↔ _
    rw [List.mem_filter, and_iff_right hk, Bool.not_eq_true]
  rw [hHidden, exists_collapsed_of_coverOf?]
  constructor
  · rintro ⟨h, hAbove, hCollapsed⟩
    have hStored : g.group? h.id = some h := group?_eq_some.2 ⟨hAbove.mem, rfl⟩
    have hOther : k.id ≠ h.id := by
      intro hSame
      rw [Roster.eq_of_key_eq hk hAbove.mem hSame] at hAbove
      exact hg h hAbove.mem hAbove
    exact ⟨h, hAbove.mem, hCollapsed, (mem_groupsBelow_iff hStored).2 ⟨hOther, k, hk, rfl, hAbove⟩⟩
  · rintro ⟨h, hh, hCollapsed, hBelow⟩
    have hStored : g.group? h.id = some h := group?_eq_some.2 ⟨hh, rfl⟩
    obtain ⟨-, l, hl, hId, hAbove⟩ := (mem_groupsBelow_iff hStored).1 hBelow
    rw [Roster.eq_of_key_eq hl hk hId] at hAbove
    exact ⟨h, hAbove, hCollapsed⟩

/-- What a graph shows hides exactly what is below its collapsed groups. -/
theorem hidesExactly_visible (g : Graph) : g.HidesExactly g.visible where
  nodes := fun _ hn => notMem_nodes_visible_iff hn
  groups := fun hg _ hk => notMem_groups_visible_iff hg hk
  up_ends := fun _ _ hSteps => ancestorsUpTo_eq_ancestors hSteps
  down_ends := fun _ _ hLevels => descendBy_eq_groupsFrom hLevels
  search_ends := Search.finds_groupsFrom g

end Graph

end FlowCanvas
