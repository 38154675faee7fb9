import FlowCanvas.Proofs.Graph.Descent
import Mathlib

/-!
# Searching group by group

The groups below a group can also be found without going down level by level: a search takes one
found group at a time and looks for what is directly in it (`Graph.Search`). Every round either
finds a missing group or leaves one group less to look at, so the search comes to its end on any
graph, with the groups that the walk down finds (`Graph.Search.finds_groupsFrom`).
-/

set_option autoImplicit false

namespace FlowCanvas

namespace Graph

/-- A search for groups. -/
structure Search where
  /-- The ids that have been found. -/
  found : List ItemId
  /-- Those of them at which the search has still to look, the last one found first. -/
  waiting : List ItemId

namespace Search

/-- The search for what is below an id. -/
def start (id : ItemId) : Search := ⟨[id], [id]⟩

/-- One round of a search, in which it looks for the groups directly in the one that comes first. -/
def next (g : Graph) (s : Search) : Search :=
  match s.waiting with
  | [] => s
  | id :: rest =>
    let new := (g.newGroups s.found fun h => h.parent == some id).map Group.id
    ⟨s.found ++ new, new.reverse ++ rest⟩

/-- A search after some rounds. -/
def run (g : Graph) : Nat → Search → Search
  | 0, s => s
  | rounds + 1, s => run g rounds (s.next g)

variable {g : Graph} {s : Search} {id : ItemId}

/-! ## The end of a search -/

/-- A search with nothing left to look at stays as it is. -/
theorem run_of_waiting_eq_nil (hNone : s.waiting = []) (rounds : Nat) : s.run g rounds = s := by
  have hNext : s.next g = s := by
    unfold next
    rw [hNone]
  induction rounds with
  | zero => rfl
  | succ rounds ih => rw [run, hNext, ih]

/-- A search is over once there have been as many rounds as groups are missing and waiting. -/
theorem waiting_run {rounds : Nat} (hRounds : g.missing s.found + s.waiting.length ≤ rounds) :
    (s.run g rounds).waiting = [] := by
  induction rounds generalizing s with
  | zero =>
    apply List.length_eq_zero_iff.1
    show s.waiting.length = 0
    omega
  | succ rounds ih =>
    cases hWaiting : s.waiting with
    | nil => rw [run_of_waiting_eq_nil hWaiting, hWaiting]
    | cons first rest =>
      have hAppend := g.missing_append s.found fun h => h.parent == some first
      rw [hWaiting, List.length_cons] at hRounds
      apply ih
      unfold next
      simp only [hWaiting, List.length_append, List.length_reverse, List.length_map]
      omega

/-! ## What a search finds -/

/-- What holds of a search for what is below an id, after any number of rounds. -/
structure IsBelow (g : Graph) (id : ItemId) (s : Search) : Prop where
  start_mem : id ∈ s.found
  waiting_subset : s.waiting ⊆ s.found
  found_subset : s.found ⊆ g.groupsFrom id
  /-- Nothing is missing directly in a group at which the search has looked. -/
  looked : ∀ group ∈ g.groups.toList, ∀ parent ∈ s.found, parent ∉ s.waiting →
    group.parent = some parent → group.id ∈ s.found

/-- At the start a search has found the id itself. -/
theorem isBelow_start (g : Graph) (id : ItemId) : (start id).IsBelow g id where
  start_mem := List.mem_singleton.2 rfl
  waiting_subset := List.Subset.refl _
  found_subset := by
    intro k hk
    rw [List.mem_singleton.1 hk]
    exact g.self_mem_groupsFrom id
  looked := by
    intro group _ parent hFound hLooked
    exact absurd hFound hLooked

/-- A round of a search finds only what is below the id, and passes nothing over. -/
theorem IsBelow.next (hs : s.IsBelow g id) : (s.next g).IsBelow g id := by
  unfold Search.next
  cases hWaiting : s.waiting with
  | nil => exact hs
  | cons first rest =>
    have hFirst : first ∈ s.found := hs.waiting_subset (hWaiting ▸ List.mem_cons_self)
    have hRest : rest ⊆ s.found := fun k hk =>
      hs.waiting_subset (hWaiting ▸ List.mem_cons_of_mem _ hk)
    refine ⟨List.mem_append_left _ hs.start_mem, ?_, ?_, ?_⟩
    · intro k hk
      rcases List.mem_append.1 hk with hNew | hOld
      · exact List.mem_append_right _ (List.mem_reverse.1 hNew)
      · exact List.mem_append_left _ (hRest hOld)
    · intro k hk
      rcases List.mem_append.1 hk with hOld | hNew
      · exact hs.found_subset hOld
      · obtain ⟨group, hGroup, rfl⟩ := List.mem_map.1 hNew
        obtain ⟨hStored, hLink, -⟩ := mem_newGroups.1 hGroup
        exact g.isClosedBelow_groupsFrom id group hStored first (hs.found_subset hFirst)
          (by simpa using hLink)
    · intro group hGroup parent hFound hLooked hLink
      simp only [List.mem_append, List.mem_reverse, not_or] at hFound hLooked
      have hOld : parent ∈ s.found := hFound.resolve_right hLooked.1
      by_cases hKnown : group.id ∈ s.found
      · exact List.mem_append_left _ hKnown
      · by_cases hHere : parent = first
        · have hSelected : (group.parent == some first) = true := by
            rw [hLink, hHere, beq_self_eq_true]
          exact List.mem_append_right _
            (List.mem_map_of_mem (mem_newGroups.2 ⟨hGroup, hSelected, hKnown⟩))
        · apply List.mem_append_left
          apply hs.looked group hGroup parent hOld _ hLink
          rw [hWaiting, List.mem_cons, not_or]
          exact ⟨hHere, hLooked.2⟩

/-- Any number of rounds find only what is below the id, and pass nothing over. -/
theorem IsBelow.run (hs : s.IsBelow g id) (rounds : Nat) : (s.run g rounds).IsBelow g id := by
  induction rounds generalizing s with
  | zero => exact hs
  | succ rounds ih => exact ih hs.next

/-- A search ends, and what it has found then is what is found level by level. -/
theorem finds_groupsFrom (g : Graph) (id : ItemId) :
    ((start id).run g (g.groups.toList.length + 1)).waiting = [] ∧
      ∀ k, k ∈ ((start id).run g (g.groups.toList.length + 1)).found ↔ k ∈ g.groupsFrom id := by
  have hEnd : ((start id).run g (g.groups.toList.length + 1)).waiting = [] := by
    apply waiting_run
    have hMissing := g.missing_le [id]
    show g.missing [id] + 1 ≤ _
    omega
  have hBelow := (isBelow_start g id).run (g.groups.toList.length + 1)
  refine ⟨hEnd, fun k => ⟨fun hk => hBelow.found_subset hk, fun hk => ?_⟩⟩
  have hClosed : g.IsClosedBelow ((start id).run g (g.groups.toList.length + 1)).found := by
    intro group hGroup parent hParent hLink
    apply hBelow.looked group hGroup parent hParent _ hLink
    rw [hEnd]
    exact List.not_mem_nil
  exact descendBy_subset hClosed (by simpa using hBelow.start_mem) _ hk

end Search

end Graph

end FlowCanvas
