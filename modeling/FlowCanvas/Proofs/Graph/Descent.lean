import FlowCanvas.Canvas.Nesting
import FlowCanvas.Proofs.Graph.Ancestry
import Mathlib

/-!
# What is below a group

Parent links are followed upwards from an item (`Graph.Above`), and the walk down from a group takes
in level by level what is directly in one of the groups passed so far. No chain of groups is longer
than there are groups, so after that many levels nothing is missing
(`Graph.isClosedBelow_descendBy`) and the walk has found exactly what the group is above
(`Graph.mem_nodesBelow_iff`), on any graph, even where parents form a circle.
-/

set_option autoImplicit false

namespace FlowCanvas

namespace Graph

variable {g : Graph} {ids : List ItemId} {id k : ItemId} {h : Group}

/-- Every group that is directly in one of the given groups is one of them. -/
def IsClosedBelow (g : Graph) (ids : List ItemId) : Prop :=
  ∀ group ∈ g.groups.toList, ∀ parent ∈ ids, group.parent = some parent → group.id ∈ ids

/-- A link leads into a list of ids if the parent that it names is in it. -/
theorem any_contains_iff {link : Option ItemId} :
    link.any ids.contains = true ↔ ∃ parent ∈ ids, link = some parent := by
  cases link <;> simp

/-! ## One level down -/

/-- One descent adds the groups that are directly in one of those that are there. -/
theorem mem_descend :
    k ∈ g.descend ids ↔
      k ∈ ids ∨ ∃ group ∈ g.groups.toList, group.id = k ∧ ∃ parent ∈ ids,
        group.parent = some parent := by
  unfold descend
  simp only [List.mem_append, List.mem_map, List.mem_filter, Bool.and_eq_true, any_contains_iff,
    Bool.not_eq_true', List.contains_eq_mem, decide_eq_false_iff_not]
  constructor
  · rintro (hOld | ⟨group, ⟨hGroup, hIn, -⟩, rfl⟩)
    · exact .inl hOld
    · exact .inr ⟨group, hGroup, rfl, hIn⟩
  · rintro (hOld | ⟨group, hGroup, rfl, hIn⟩)
    · exact .inl hOld
    · by_cases hOld : group.id ∈ ids
      · exact .inl hOld
      · exact .inr ⟨group, ⟨hGroup, hIn, hOld⟩, rfl⟩

/-- A descent adds nothing where nothing is further below. -/
theorem descend_eq_self (hClosed : g.IsClosedBelow ids) : g.descend ids = ids := by
  unfold descend
  rw [List.filter_eq_nil_iff.2, List.map_nil, List.append_nil]
  intro group hGroup hNew
  rw [Bool.and_eq_true, any_contains_iff] at hNew
  obtain ⟨⟨parent, hParent, hLink⟩, hAbsent⟩ := hNew
  simp [hClosed group hGroup parent hParent hLink] at hAbsent

/-- Where the list is not closed, going one level down finds a missing group. -/
theorem missing_descend_lt (hOpen : ¬ g.IsClosedBelow ids) :
    g.missing (g.descend ids) < g.missing ids := by
  unfold IsClosedBelow at hOpen
  push Not at hOpen
  obtain ⟨group, hGroup, parent, hParent, hLink, hAbsent⟩ := hOpen
  have hFound : group.id ∈ g.descend ids :=
    mem_descend.2 (.inr ⟨group, hGroup, rfl, parent, hParent, hLink⟩)
  exact missing_lt (fun k hk => mem_descend.2 (.inl hk)) hGroup hAbsent hFound

/-! ## Level by level -/

/-- Any number of descents adds nothing where nothing is further below. -/
theorem descendBy_eq_self (hClosed : g.IsClosedBelow ids) (levels : Nat) :
    g.descendBy levels ids = ids := by
  induction levels with
  | zero => rfl
  | succ levels ih => rw [descendBy, descend_eq_self hClosed, ih]

/-- Each level finds a missing group or is the last one, so there are enough levels if there are as
many as groups are missing. -/
theorem isClosedBelow_descendBy {levels : Nat} (hLevels : g.missing ids ≤ levels) :
    g.IsClosedBelow (g.descendBy levels ids) := by
  induction levels generalizing ids with
  | zero =>
    intro group hGroup _ _ _
    exact mem_of_missing_eq_zero (Nat.le_zero.1 hLevels) hGroup
  | succ levels ih =>
    by_cases hClosed : g.IsClosedBelow ids
    · rwa [descendBy_eq_self hClosed]
    · have hLess := missing_descend_lt hClosed
      exact ih (by omega)

/-- Descents can be counted together. -/
theorem descendBy_add (g : Graph) (levels more : Nat) (ids : List ItemId) :
    g.descendBy (levels + more) ids = g.descendBy more (g.descendBy levels ids) := by
  induction levels generalizing ids with
  | zero => rw [Nat.zero_add, descendBy]
  | succ levels ih => rw [Nat.add_right_comm, descendBy, descendBy, ih]

/-- Descents lose nothing. -/
theorem subset_descendBy (levels : Nat) : ids ⊆ g.descendBy levels ids := by
  induction levels generalizing ids with
  | zero => exact fun _ hk => hk
  | succ levels ih => exact fun k hk => ih (mem_descend.2 (.inl hk))

/-- Descents do not leave a list below which there is nothing else. -/
theorem descendBy_subset {all : List ItemId} (hClosed : g.IsClosedBelow all) (hIds : ids ⊆ all)
    (levels : Nat) : g.descendBy levels ids ⊆ all := by
  induction levels generalizing ids with
  | zero => exact hIds
  | succ levels ih =>
    apply ih
    intro k hk
    rcases mem_descend.1 hk with hOld | ⟨group, hGroup, rfl, parent, hParent, hLink⟩
    · exact hIds hOld
    · exact hClosed group hGroup parent (hIds hParent) hLink

/-- Only groups below the first ones are found. -/
theorem above_of_mem_descendBy {levels : Nat} (hStored : g.group? id = some h)
    (hIds : ∀ k ∈ ids, k = id ∨ ∃ group ∈ g.groups.toList, group.id = k ∧ g.Above group.parent h)
    (hk : k ∈ g.descendBy levels ids) :
    k = id ∨ ∃ group ∈ g.groups.toList, group.id = k ∧ g.Above group.parent h := by
  induction levels generalizing ids with
  | zero => exact hIds k hk
  | succ levels ih =>
    refine ih ?_ hk
    intro l hl
    rcases mem_descend.1 hl with hOld | ⟨group, hGroup, rfl, parent, hParent, hLink⟩
    · exact hIds l hOld
    · refine .inr ⟨group, hGroup, rfl, ?_⟩
      rw [hLink]
      rcases hIds parent hParent with rfl | ⟨inner, hInner, rfl, hOuter⟩
      · exact .parent hStored
      · exact .outer (group?_eq_some.2 ⟨hInner, rfl⟩) hOuter

/-- What a closed list holds the ids of is closed upwards: an item below one of its groups has its
parent in it. -/
theorem exists_mem_of_above (hClosed : g.IsClosedBelow ids) (hStart : h.id ∈ ids)
    {link : Option ItemId} (hAbove : g.Above link h) : ∃ parent ∈ ids, link = some parent := by
  induction hAbove with
  | parent hParent =>
    rw [(group?_eq_some.1 hParent).2] at hStart
    exact ⟨_, hStart, rfl⟩
  | outer hParent _ ih =>
    obtain ⟨hInner, rfl⟩ := group?_eq_some.1 hParent
    obtain ⟨outer, hOuter, hLink⟩ := ih hStart
    exact ⟨_, hClosed _ hInner outer hOuter hLink, rfl⟩

/-! ## All levels -/

/-- Below the groups that a graph finds below an id there are no further ones. -/
theorem isClosedBelow_groupsFrom (g : Graph) (id : ItemId) : g.IsClosedBelow (g.groupsFrom id) :=
  isClosedBelow_descendBy (g.missing_le [id])

/-- An id counts among the groups below itself. -/
theorem self_mem_groupsFrom (g : Graph) (id : ItemId) : id ∈ g.groupsFrom id :=
  subset_descendBy _ (List.mem_singleton.2 rfl)

/-- The walk down has come to its end after as many levels as there are groups. -/
theorem descendBy_eq_groupsFrom {levels : Nat} (hLevels : g.groups.toList.length ≤ levels) :
    g.descendBy levels [id] = g.groupsFrom id := by
  obtain ⟨more, rfl⟩ := Nat.exists_eq_add_of_le hLevels
  rw [descendBy_add]
  exact descendBy_eq_self (g.isClosedBelow_groupsFrom id) more

/-- The groups found from a stored group are that group and the groups below it. -/
theorem mem_groupsFrom_iff (hStored : g.group? id = some h) :
    k ∈ g.groupsFrom id ↔
      k = id ∨ ∃ group ∈ g.groups.toList, group.id = k ∧ g.Above group.parent h := by
  obtain ⟨hGroup, rfl⟩ := group?_eq_some.1 hStored
  have hStart := g.self_mem_groupsFrom h.id
  constructor
  · exact above_of_mem_descendBy hStored fun k hk => .inl (List.mem_singleton.1 hk)
  · rintro (rfl | ⟨group, hk, rfl, hAbove⟩)
    · exact hStart
    · have hClosed := g.isClosedBelow_groupsFrom h.id
      obtain ⟨parent, hParent, hLink⟩ := exists_mem_of_above hClosed hStart hAbove
      exact hClosed group hk parent hParent hLink

/-- The groups below a stored group are those that it is above, except itself. -/
theorem mem_groupsBelow_iff (hStored : g.group? id = some h) :
    k ∈ g.groupsBelow id ↔
      k ≠ id ∧ ∃ group ∈ g.groups.toList, group.id = k ∧ g.Above group.parent h := by
  unfold groupsBelow
  rw [List.mem_filter, mem_groupsFrom_iff hStored, bne_iff_ne]
  tauto

/-- The nodes below a stored group are those that it is above. -/
theorem mem_nodesBelow_iff (hStored : g.group? id = some h) :
    k ∈ g.nodesBelow id ↔ ∃ n ∈ g.nodes.toList, n.id = k ∧ g.Above n.parent h := by
  have hLink : ∀ link : Option ItemId,
      (∃ parent ∈ g.groupsFrom id, link = some parent) ↔ g.Above link h := by
    intro link
    constructor
    · rintro ⟨parent, hParent, rfl⟩
      rcases (mem_groupsFrom_iff hStored).1 hParent with rfl | ⟨group, hGroup, rfl, hAbove⟩
      · exact .parent hStored
      · exact .outer (group?_eq_some.2 ⟨hGroup, rfl⟩) hAbove
    · intro hAbove
      cases hAbove with
      | parent hParent =>
        refine ⟨_, (mem_groupsFrom_iff hStored).2 (.inl ?_), rfl⟩
        rw [← (group?_eq_some.1 hParent).2, (group?_eq_some.1 hStored).2]
      | outer hParent hOuter =>
        obtain ⟨hInner, hId⟩ := group?_eq_some.1 hParent
        exact ⟨_, (mem_groupsFrom_iff hStored).2 (.inr ⟨_, hInner, hId, hOuter⟩), rfl⟩
  unfold nodesBelow
  simp only [List.mem_map, List.mem_filter, any_contains_iff, hLink]
  constructor
  · rintro ⟨n, ⟨hn, hAbove⟩, rfl⟩
    exact ⟨n, hn, rfl, hAbove⟩
  · rintro ⟨n, hn, rfl, hAbove⟩
    exact ⟨n, ⟨hn, hAbove⟩, rfl⟩

end Graph

end FlowCanvas
