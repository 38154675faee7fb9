import FlowCanvas.Canvas.Visibility
import FlowCanvas.Proofs.Graph.Counting
import Mathlib

/-!
# Groups above an item

Parent links lead from an item up through groups (`Graph.Above`). As long as no group is above
itself (`Graph.IsAcyclic`), the walk up from an item passes exactly the groups above it, the nearest
first (`Graph.chain_ancestors`), although it makes only as many steps as there are groups. So the
last collapsed group on the walk is the outermost one (`Graph.coverOf?_eq_some_iff`).
-/

set_option autoImplicit false

namespace FlowCanvas

namespace Graph

variable {g : Graph} {link : Option ItemId} {id : ItemId} {h k inner : Group} {groups : List Group}

/-- A group is above an item with a given parent. -/
inductive Above (g : Graph) : Option ItemId → Group → Prop
  | parent {id : ItemId} {h : Group} (hParent : g.group? id = some h) : g.Above (some id) h
  | outer {id : ItemId} {inner h : Group} (hParent : g.group? id = some inner)
      (hOuter : g.Above inner.parent h) : g.Above (some id) h

/-- No group is above itself. -/
def IsAcyclic (g : Graph) : Prop := ∀ h ∈ g.groups.toList, ¬ g.Above h.parent h

/-- What is above an item is a stored group. -/
theorem Above.mem (hAbove : g.Above link h) : h ∈ g.groups.toList := by
  induction hAbove with
  | parent hParent => exact (group?_eq_some.1 hParent).1
  | outer _ _ ih => exact ih

/-- Nothing is above an item on the top level. -/
theorem not_above_none : ¬ g.Above none h := fun hAbove => nomatch hAbove

/-- Nothing is above an item whose parent is not stored. -/
theorem not_above_of_group?_eq_none (hNone : g.group? id = none) : ¬ g.Above (some id) h := by
  intro hAbove
  cases hAbove with
  | parent hParent => simp [hNone] at hParent
  | outer hParent _ => simp [hNone] at hParent

/-- What is above an item is its parent and what is above that. -/
theorem above_iff (hParent : g.group? id = some inner) :
    g.Above (some id) h ↔ h = inner ∨ g.Above inner.parent h := by
  constructor
  · intro hAbove
    cases hAbove with
    | parent hSame => exact .inl (Option.some.inj (hSame.symm.trans hParent))
    | outer hSame hOuter =>
      rw [hParent, Option.some.injEq] at hSame
      exact .inr (hSame ▸ hOuter)
  · rintro (rfl | hOuter)
    · exact .parent hParent
    · exact .outer hParent hOuter

/-- No group is above itself if every group has a lower rank than what is directly in it. -/
theorem isAcyclic_of_rank (rank : ItemId → Nat)
    (hRank : ∀ h ∈ g.groups.toList, ∀ k ∈ g.groups.toList, h.parent = some k.id →
      rank k.id < rank h.id) : g.IsAcyclic := by
  have hBelow : ∀ link h, g.Above link h → ∀ inner ∈ g.groups.toList, inner.parent = link →
      rank h.id < rank inner.id := by
    intro link h hAbove
    induction hAbove with
    | parent hParent =>
      intro inner hInner hLink
      obtain ⟨hMem, rfl⟩ := group?_eq_some.1 hParent
      exact hRank inner hInner _ hMem hLink
    | outer hParent _ ih =>
      intro inner hInner hLink
      obtain ⟨hMem, rfl⟩ := group?_eq_some.1 hParent
      have hNext := ih _ hMem rfl
      have hStep := hRank inner hInner _ hMem hLink
      omega
  intro h hMem hAbove
  exact absurd (hBelow _ h hAbove h hMem rfl) (Nat.lt_irrefl _)

/-! ## The walk up -/

/-- The groups that parent links lead through, the nearest first, up to where there is no further
parent or none that is stored. -/
inductive Chain (g : Graph) : Option ItemId → List Group → Prop
  | top : g.Chain none []
  | unknown {id : ItemId} (hNone : g.group? id = none) : g.Chain (some id) []
  | step {id : ItemId} {inner : Group} {groups : List Group} (hParent : g.group? id = some inner)
      (hRest : g.Chain inner.parent groups) : g.Chain (some id) (inner :: groups)

/-- On the way up are exactly the groups above an item. -/
theorem Chain.mem_iff (hChain : g.Chain link groups) : h ∈ groups ↔ g.Above link h := by
  induction hChain with
  | top => simp [not_above_none]
  | unknown hNone => simp [not_above_of_group?_eq_none hNone]
  | step hParent _ ih => rw [List.mem_cons, ih, above_iff hParent]

/-- A climb stops where there is no further group that has not been passed, or goes on to one. -/
theorem ancestorsUpTo_cases (g : Graph) (passed : List ItemId) (link : Option ItemId) :
    ((∀ steps, g.ancestorsUpTo steps passed link = []) ∧
        ∀ id h, link = some id → g.group? id = some h → id ∈ passed) ∨
      ∃ inner, link = some inner.id ∧ g.group? inner.id = some inner ∧ inner.id ∉ passed ∧
        ∀ steps, g.ancestorsUpTo (steps + 1) passed link =
          inner :: g.ancestorsUpTo steps (inner.id :: passed) inner.parent := by
  cases link with
  | none => exact .inl ⟨fun steps => by cases steps <;> rfl, fun id h hLink => nomatch hLink⟩
  | some id =>
    by_cases hPassed : id ∈ passed
    · refine .inl ⟨fun steps => ?_, fun id' h hLink _ => ?_⟩
      · cases steps with
        | zero => rfl
        | succ steps =>
          unfold ancestorsUpTo
          rw [if_pos (by simpa using hPassed)]
      · cases hLink
        exact hPassed
    · cases hGroup : g.group? id with
      | none =>
        refine .inl ⟨fun steps => ?_, fun id' h hLink hStored => ?_⟩
        · cases steps with
          | zero => rfl
          | succ steps =>
            unfold ancestorsUpTo
            rw [if_neg (by simpa using hPassed), hGroup]
        · cases hLink
          rw [hGroup] at hStored
          cases hStored
      | some inner =>
        obtain ⟨-, rfl⟩ := group?_eq_some.1 hGroup
        refine .inr ⟨inner, rfl, hGroup, hPassed, fun steps => ?_⟩
        conv_lhs => unfold ancestorsUpTo
        rw [if_neg (by simpa using hPassed), hGroup]

/-- The walk up has come to its end where the parent could only be a group that has been passed, and
none of these is above. -/
theorem chain_nil {passed : List ItemId} (hPassed : ∀ h, g.Above link h → h.id ∉ passed)
    (hAll : ∀ id h, link = some id → g.group? id = some h → id ∈ passed) : g.Chain link [] := by
  cases link with
  | none => exact .top
  | some id =>
    apply Chain.unknown
    rw [Option.eq_none_iff_forall_ne_some]
    intro h hGroup
    obtain ⟨-, rfl⟩ := group?_eq_some.1 hGroup
    exact hPassed h (.parent hGroup) (hAll h.id h rfl hGroup)

/-- The walk up with enough steps for the groups that have not been passed. None of those that have
been passed is met again, as long as they are not above what is still to come. -/
theorem chain_ancestorsUpTo (hg : g.IsAcyclic) {steps : Nat} {passed : List ItemId}
    (hPassed : ∀ h, g.Above link h → h.id ∉ passed) (hSteps : g.missing passed ≤ steps) :
    g.Chain link (g.ancestorsUpTo steps passed link) := by
  induction steps generalizing passed link with
  | zero =>
    apply chain_nil hPassed
    intro id h _ hGroup
    obtain ⟨hStored, rfl⟩ := group?_eq_some.1 hGroup
    exact mem_of_missing_eq_zero (Nat.le_zero.1 hSteps) hStored
  | succ steps ih =>
    obtain ⟨hStops, hAll⟩ | ⟨inner, rfl, hGroup, hNew, hGoes⟩ := g.ancestorsUpTo_cases passed link
    · rw [hStops]
      exact chain_nil hPassed hAll
    · have hStored := (group?_eq_some.1 hGroup).1
      have hFewer := missing_cons_lt hGroup hNew
      rw [hGoes]
      apply Chain.step hGroup
      apply ih _ (by omega)
      intro h hAbove hIn
      rcases List.mem_cons.1 hIn with hSame | hOld
      · -- the parent would be above itself
        rw [Roster.eq_of_key_eq hAbove.mem hStored hSame] at hAbove
        exact hg inner hStored hAbove
      · exact hPassed h (.outer hGroup hAbove) hOld

/-- The ancestors that the graph finds are those that parent links lead through. -/
theorem chain_ancestors (hg : g.IsAcyclic) (link : Option ItemId) :
    g.Chain link (g.ancestors link) :=
  chain_ancestorsUpTo hg (fun _ _ => List.not_mem_nil) (g.missing_le [])

/-! ## The outermost collapsed group -/

/-- A group is the outermost collapsed one above an item with a given parent. -/
structure Covers (g : Graph) (link : Option ItemId) (h : Group) : Prop where
  above : g.Above link h
  collapsed : h.collapsed = true
  outermost : ∀ k, g.Above h.parent k → k.collapsed = false

/-- The last collapsed group of a chain is the outermost one that covers its start. -/
theorem Chain.getLast?_filter (hChain : g.Chain link groups) :
    (groups.filter (·.collapsed)).getLast? = some h ↔ g.Covers link h := by
  induction hChain generalizing h with
  | top =>
    refine ⟨fun hNone => ?_, fun hCovers => absurd hCovers.above not_above_none⟩
    cases hNone
  | unknown hNone =>
    refine ⟨fun hNil => ?_, fun hCovers =>
      absurd hCovers.above (not_above_of_group?_eq_none hNone)⟩
    cases hNil
  | @step id inner groups hParent hRest ih =>
    cases hLast : (groups.filter (·.collapsed)).getLast? with
    | none =>
      -- nothing further up is collapsed, so only the parent can be
      rw [List.getLast?_eq_none_iff, List.filter_eq_nil_iff] at hLast
      have hExpanded : ∀ k, g.Above inner.parent k → k.collapsed = false := fun k hAbove => by
        simpa using hLast k (hRest.mem_iff.2 hAbove)
      have hNil : groups.filter (·.collapsed) = [] := List.filter_eq_nil_iff.2 hLast
      rw [List.filter_cons, hNil]
      constructor
      · intro hSome
        split at hSome
        · rename_i hCollapsed
          cases hSome
          exact ⟨.parent hParent, hCollapsed, hExpanded⟩
        · cases hSome
      · rintro ⟨hAbove, hCollapsed, -⟩
        rcases (above_iff hParent).1 hAbove with rfl | hOuter
        · rw [if_pos hCollapsed]
          rfl
        · rw [hExpanded h hOuter] at hCollapsed
          cases hCollapsed
    | some k =>
      -- a collapsed group further up comes after the parent
      have hk : g.Covers inner.parent k := ih.1 hLast
      have hSame : ((inner :: groups).filter (·.collapsed)).getLast? =
          (groups.filter (·.collapsed)).getLast? := by
        rw [List.filter_cons]
        split
        · rw [List.getLast?_cons, hLast, Option.getD_some]
        · rfl
      rw [hSame, ih]
      constructor
      · rintro ⟨hAbove, hCollapsed, hOutermost⟩
        exact ⟨.outer hParent hAbove, hCollapsed, hOutermost⟩
      · rintro ⟨hAbove, hCollapsed, hOutermost⟩
        rcases (above_iff hParent).1 hAbove with rfl | hOuter
        · have hExpanded := hOutermost k hk.above
          rw [hk.collapsed] at hExpanded
          cases hExpanded
        · exact ⟨hOuter, hCollapsed, hOutermost⟩

/-- The group that hides an item is the outermost collapsed one above it. -/
theorem coverOf?_eq_some_iff (hg : g.IsAcyclic) :
    g.coverOf? link = some id ↔ ∃ h, g.Covers link h ∧ h.id = id := by
  unfold coverOf?
  rw [Option.map_eq_some_iff]
  simp only [(chain_ancestors hg link).getLast?_filter]

/-- The outermost collapsed group above an item is not hidden itself. -/
theorem Covers.coverOf?_eq_none (hg : g.IsAcyclic) (hCovers : g.Covers link h) :
    g.coverOf? h.parent = none := by
  rw [Option.eq_none_iff_forall_not_mem]
  intro id hId
  obtain ⟨k, hk, -⟩ := (coverOf?_eq_some_iff hg).1 hId
  have hExpanded := hCovers.outermost k hk.above
  rw [hk.collapsed] at hExpanded
  cases hExpanded

end Graph

end FlowCanvas
