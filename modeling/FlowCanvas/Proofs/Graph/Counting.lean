import FlowCanvas.Proofs.Graph.Shrinking
import Mathlib

/-!
# Groups that are missing from a list

A walk through the groups of a graph keeps a list of those that it has passed. How many groups are
missing from the list (`Graph.missing`) is what every such walk counts down, so it is over after as
many rounds as there are groups, even where parents form a circle.
-/

set_option autoImplicit false

namespace FlowCanvas

namespace Graph

variable {g : Graph} {ids : List ItemId} {id : ItemId} {h : Group}

/-- How many groups are not in a list of ids. -/
def missing (g : Graph) (ids : List ItemId) : Nat :=
  g.groups.toList.countP fun h => !ids.contains h.id

/-- The groups with a property that are not in a list of ids. -/
def newGroups (g : Graph) (ids : List ItemId) (p : Group → Bool) : List Group :=
  g.groups.toList.filter fun h => p h && !ids.contains h.id

/-- The new groups are the stored ones with the property that are not in the list. -/
theorem mem_newGroups {p : Group → Bool} :
    h ∈ g.newGroups ids p ↔ h ∈ g.groups.toList ∧ p h = true ∧ h.id ∉ ids := by
  unfold newGroups
  rw [List.mem_filter, Bool.and_eq_true]
  simp

/-- No more groups can be missing than are stored. -/
theorem missing_le (g : Graph) (ids : List ItemId) : g.missing ids ≤ g.groups.toList.length :=
  List.countP_le_length

/-- If no group is missing, every stored one is in the list. -/
theorem mem_of_missing_eq_zero (hNone : g.missing ids = 0) (hStored : h ∈ g.groups.toList) :
    h.id ∈ ids := by
  have hFound := List.countP_eq_zero.1 hNone h hStored
  simpa using hFound

/-- Groups that are added to a list are missing no longer. -/
theorem missing_append (g : Graph) (ids : List ItemId) (p : Group → Bool) :
    g.missing (ids ++ (g.newGroups ids p).map Group.id) + (g.newGroups ids p).length =
      g.missing ids := by
  have hNew : (g.newGroups ids p).countP (fun h => !ids.contains h.id) =
      (g.newGroups ids p).length := by
    rw [List.countP_eq_length]
    intro h hh
    simpa using (mem_newGroups.1 hh).2.2
  have hRest : g.missing (ids ++ (g.newGroups ids p).map Group.id) =
      (g.groups.toList.filter fun h => !(p h && !ids.contains h.id)).countP
        fun h => !ids.contains h.id := by
    unfold missing
    rw [List.countP_filter]
    apply List.countP_congr
    intro h hStored
    -- a stored group is added exactly if it is selected, because ids are distinct
    have hAdded : h.id ∈ (g.newGroups ids p).map Group.id ↔ p h = true ∧ h.id ∉ ids := by
      constructor
      · intro hIn
        obtain ⟨k, hk, hId⟩ := List.mem_map.1 hIn
        obtain ⟨hkStored, hkSelected⟩ := mem_newGroups.1 hk
        rwa [Roster.eq_of_key_eq hkStored hStored hId] at hkSelected
      · intro hSelected
        exact List.mem_map_of_mem (mem_newGroups.2 ⟨hStored, hSelected⟩)
    rw [Bool.not_eq_true', List.contains_eq_mem, decide_eq_false_iff_not, List.mem_append, hAdded]
    simp only [Bool.and_eq_true, Bool.not_eq_true', Bool.and_eq_false_iff, List.contains_eq_mem,
      decide_eq_false_iff_not, Bool.not_eq_false', decide_eq_true_iff]
    cases p h <;> simp
  have hSplit : g.missing ids = (g.newGroups ids p).countP (fun h => !ids.contains h.id) +
      (g.groups.toList.filter fun h => !(p h && !ids.contains h.id)).countP
        fun h => !ids.contains h.id :=
    List.countP_eq_countP_filter_add _ _ _
  omega

/-- Of a longer list fewer groups are missing if it has one that was missing before. -/
theorem missing_lt {more : List ItemId} (hMore : ids ⊆ more) (hStored : h ∈ g.groups.toList)
    (hOld : h.id ∉ ids) (hNew : h.id ∈ more) : g.missing more < g.missing ids := by
  have hSublist : (g.groups.toList.filter fun k => !more.contains k.id).Sublist
      (g.groups.toList.filter fun k => !ids.contains k.id) := by
    apply List.monotone_filter_right
    intro k hk
    simp only [List.contains_eq_mem, Bool.not_eq_true', decide_eq_false_iff_not] at hk ⊢
    exact fun hIn => hk (hMore hIn)
  unfold missing
  rw [List.countP_eq_length_filter, List.countP_eq_length_filter]
  apply lt_of_le_of_ne hSublist.length_le
  intro hSame
  have hMissing : h ∈ g.groups.toList.filter fun k => !ids.contains k.id :=
    List.mem_filter.2 ⟨hStored, by simpa using hOld⟩
  rw [← hSublist.eq_of_length hSame] at hMissing
  simp [hNew] at hMissing

/-- A stored group that was missing is missing no more once it is in the list. -/
theorem missing_cons_lt (hStored : g.group? id = some h) (hOld : h.id ∉ ids) :
    g.missing (h.id :: ids) < g.missing ids :=
  missing_lt (List.subset_cons_self _ _) (group?_eq_some.1 hStored).1 hOld List.mem_cons_self

end Graph

end FlowCanvas
