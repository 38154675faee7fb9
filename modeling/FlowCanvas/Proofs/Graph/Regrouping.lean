import FlowCanvas.Proofs.Graph.Descent
import Mathlib

/-!
# Moving items between groups

Items are put into a group one after the other. A group is refused if the place for it is in that
group itself, directly or further down (`Graph.isSome_move?_iff`), which are the moves that would
close a circle of groups (`Graph.isAcyclic_putGroup_iff`). What is above the place does not change
when other items go there, so it does not matter for an item which ones have been moved before it
(`Graph.movable_setParent`), and moving items one after the other is moving all that are not refused
at once (`Graph.moveAll_eq`).
-/

set_option autoImplicit false

namespace FlowCanvas

namespace Graph

variable {g g' : Graph} {link parent : Option ItemId} {id : ItemId} {h k m : Group}

/-- An item that is stored can be put into a group, or onto the top level: it is a node, or it is a
group and not above the place. -/
def Movable (g : Graph) (parent : Option ItemId) (id : ItemId) : Prop :=
  (∃ n, g.node? id = some n) ∨ ∃ h, g.group? id = some h ∧ ¬ g.Above parent h

/-- The graph with some items put into a group, or onto the top level, all at once. Where a node and
a group share an id, it stands for the node. -/
def placed (g : Graph) (parent : Option ItemId) (moves : ItemId → Bool) : Graph :=
  { g with
    nodes := g.nodes.modify (fun n => if moves n.id then { n with parent } else n)
      (fun n => by
        show Node.id _ = Node.id n
        split <;> rfl)
    groups := g.groups.modify
      (fun h => if moves h.id && !g.nodes.contains h.id then { h with parent } else h)
      (fun h => by
        show Group.id _ = Group.id h
        split <;> rfl) }

/-! ## Above -/

/-- What is above a group that is above an item is above the item. -/
theorem Above.trans (hAbove : g.Above link h) (hOuter : g.Above h.parent k) : g.Above link k := by
  induction hAbove with
  | parent hParent => exact .outer hParent hOuter
  | outer hParent _ ih => exact .outer hParent (ih hOuter)

/-- What is above an item depends on the groups only. -/
theorem Above.of_groups_eq (hAbove : g.Above link h) (hGroups : g'.groups = g.groups) :
    g'.Above link h := by
  have hGroup : ∀ id, g'.group? id = g.group? id := fun id => by rw [group?, hGroups, group?]
  induction hAbove with
  | parent hParent => exact .parent ((hGroup _).trans hParent)
  | outer hParent _ ih => exact .outer ((hGroup _).trans hParent) ih

/-- The same groups are above an item in graphs with the same groups. -/
theorem above_congr (hGroups : g'.groups = g.groups) : g'.Above link h ↔ g.Above link h :=
  ⟨fun hAbove => hAbove.of_groups_eq hGroups.symm, fun hAbove => hAbove.of_groups_eq hGroups⟩

/-- After a group has been put in, it is found under its id, and all others stay. -/
theorem group?_putGroup (g : Graph) (group : Group) (id : ItemId) :
    (g.putGroup group).group? id = if group.id = id then some group else g.group? id :=
  Roster.get?_put g.groups group id

/-- Replacing a group changes nothing above the items that it is not above. -/
theorem above_putGroup_iff (hStored : g.group? m.id = some k) (hFree : ¬ g.Above link k) :
    (g.putGroup m).Above link h ↔ g.Above link h := by
  -- the replaced group is not met on the way up
  have hMissed : ∀ id, ¬ g.Above (some id) k → (g.putGroup m).group? id = g.group? id := by
    intro id hFree
    rw [group?_putGroup, if_neg]
    rintro rfl
    exact hFree (.parent hStored)
  constructor
  · intro hAbove
    induction hAbove with
    | parent hParent => exact .parent (hMissed _ hFree ▸ hParent)
    | outer hParent _ ih =>
      rw [hMissed _ hFree] at hParent
      exact .outer hParent (ih fun hOuter => hFree (.outer hParent hOuter))
  · intro hAbove
    induction hAbove with
    | parent hParent => exact .parent ((hMissed _ hFree).trans hParent)
    | outer hParent _ ih =>
      exact .outer ((hMissed _ hFree).trans hParent)
        (ih fun hOuter => hFree (.outer hParent hOuter))

/-- What is put in the place of a group above an item is above the item. -/
theorem Above.putGroup (hAbove : g.Above link k) (hId : m.id = k.id) :
    (g.putGroup m).Above link m := by
  induction hAbove with
  | parent hParent =>
    refine .parent ?_
    rw [group?_putGroup, if_pos (hId.trans (group?_eq_some.1 hParent).2)]
  | @outer id inner k hParent _ ih =>
    by_cases hSame : m.id = id
    · refine .parent ?_
      rw [group?_putGroup, if_pos hSame]
    · have hInner : (g.putGroup m).group? id = some inner := by
        rw [group?_putGroup, if_neg hSame, hParent]
      exact .outer hInner (ih hId)

/-! ## Circles of groups -/

/-- Parent links without a circle stay so if every group keeps its parent or is on the top level. -/
theorem IsAcyclic.of_parents (hg : g.IsAcyclic)
    (hParents : ∀ h' ∈ g'.groups.toList, h'.parent = none ∨
      ∃ h ∈ g.groups.toList, h.id = h'.id ∧ h.parent = h'.parent) : g'.IsAcyclic := by
  have hBefore : ∀ {id h'}, g'.group? id = some h' → h'.parent ≠ none →
      ∃ h, g.group? id = some h ∧ h.parent = h'.parent := by
    intro id h' hGroup hNested
    obtain ⟨hMem, rfl⟩ := group?_eq_some.1 hGroup
    obtain ⟨h, hh, hId, hParent⟩ := (hParents h' hMem).resolve_left hNested
    exact ⟨h, group?_eq_some.2 ⟨hh, hId⟩, hParent⟩
  have hNested : ∀ {link h'}, g'.Above link h' → link ≠ none := by
    rintro _ h' hAbove rfl
    exact not_above_none hAbove
  -- a group on the top level ends every circle, so all links of one have been there before
  have hOld : ∀ {link h'}, g'.Above link h' → h'.parent ≠ none →
      ∃ h, g.Above link h ∧ h.parent = h'.parent := by
    intro link h' hAbove hParent
    induction hAbove with
    | parent hGroup =>
      obtain ⟨h, hh, hSame⟩ := hBefore hGroup hParent
      exact ⟨h, .parent hh, hSame⟩
    | outer hGroup hOuter ih =>
      obtain ⟨h, hAbove, hSame⟩ := ih hParent
      obtain ⟨inner, hInner, hLink⟩ := hBefore hGroup (hNested hOuter)
      exact ⟨h, .outer hInner (hLink ▸ hAbove), hSame⟩
  intro h' hh' hCircle
  obtain ⟨h, hAbove, hSame⟩ := hOld hCircle (hNested hCircle)
  exact hg h hAbove.mem (hSame ▸ hAbove)

/-- What is above an item after a group has been put somewhere else: what was above it, and that
group with what is above its new place. -/
theorem above_putGroup (hStored : g.group? m.id = some k) (hFree : ¬ g.Above m.parent k)
    (hAbove : (g.putGroup m).Above link h) :
    h = m ∨ g.Above link h ∨ g.Above m.parent h := by
  induction hAbove with
  | @parent id h hParent =>
    rw [group?_putGroup] at hParent
    split at hParent
    · exact .inl (Option.some.inj hParent).symm
    · exact .inr (.inl (.parent hParent))
  | @outer id inner h hParent hOuter ih =>
    rw [group?_putGroup] at hParent
    split at hParent
    · obtain rfl := Option.some.inj hParent
      exact .inr (.inr ((above_putGroup_iff hStored hFree).1 hOuter))
    · rcases ih with rfl | hOld | hNew
      · exact .inl rfl
      · exact .inr (.inl (.outer hParent hOld))
      · exact .inr (.inr hNew)

/-- Putting a group somewhere closes a circle exactly if the group is above that place. -/
theorem isAcyclic_putGroup_iff (hg : g.IsAcyclic) (hStored : g.group? m.id = some k) :
    (g.putGroup m).IsAcyclic ↔ ¬ g.Above m.parent k := by
  obtain ⟨-, hId⟩ := group?_eq_some.1 hStored
  constructor
  · intro hAcyclic hAbove
    exact hAcyclic m (Roster.mem_put.2 (.inl rfl)) (hAbove.putGroup hId.symm)
  · intro hFree h hh hCircle
    by_cases hBelow : g.Above h.parent k
    · have hPlace : ¬ g.Above m.parent h := fun hAbove => hFree (hAbove.trans hBelow)
      rcases above_putGroup hStored hFree hCircle with rfl | hOld | hNew
      · exact hFree hBelow
      · exact hg h hOld.mem hOld
      · exact hPlace hNew
    · have hOld := (above_putGroup_iff hStored hBelow).1 hCircle
      exact hg h hOld.mem hOld

/-! ## One item -/

/-- What is refused is exactly to put a group into itself. -/
theorem wouldNest_iff (hStored : g.group? id = some h) :
    g.wouldNest id parent = true ↔ g.Above parent h := by
  obtain ⟨hMem, rfl⟩ := group?_eq_some.1 hStored
  unfold wouldNest
  rw [Option.any_eq_true]
  simp only [Bool.or_eq_true, beq_iff_eq, List.contains_iff_mem, mem_groupsBelow_iff hStored]
  constructor
  · rintro ⟨p, hLink, rfl | ⟨-, inner, hInner, rfl, hAbove⟩⟩
    · exact hLink ▸ .parent hStored
    · exact hLink ▸ .outer (group?_eq_some.2 ⟨hInner, rfl⟩) hAbove
  · intro hAbove
    cases hAbove with
    | @parent p _ hParent => exact ⟨p, rfl, .inl (group?_eq_some.1 hParent).2.symm⟩
    | @outer p inner _ hParent hOuter =>
      refine ⟨p, rfl, or_iff_not_imp_left.2 fun hOther => ?_⟩
      exact ⟨hOther, inner, (group?_eq_some.1 hParent).1, (group?_eq_some.1 hParent).2, hOuter⟩

/-- A move is carried out exactly if the item can be moved. -/
theorem isSome_move?_iff : (g.move? parent id).isSome = true ↔ g.Movable parent id := by
  unfold move? Movable
  cases hNode : g.node? id with
  | some n => simp
  | none =>
    cases hGroup : g.group? id with
    | none => simp
    | some h =>
      have hNest : g.wouldNest id parent = true ↔ g.Above parent h := wouldNest_iff hGroup
      by_cases hAbove : g.Above parent h <;> simp [hAbove, hNest]

/-- The two kinds of moves. -/
theorem move?_eq_some (hMove : g.move? parent id = some g') :
    (∃ n, g.node? id = some n ∧ g' = { g with nodes := g.nodes.put { n with parent } }) ∨
      g.node? id = none ∧ ∃ h, g.group? id = some h ∧ ¬ g.Above parent h ∧
        g' = g.putGroup { h with parent } := by
  unfold move? at hMove
  split at hMove
  · cases hMove
    exact .inl ⟨_, ‹_›, rfl⟩
  · split at hMove
    · cases hMove
    · rename_i h hGroup
      split at hMove
      · cases hMove
      · rename_i hFree
        cases hMove
        exact .inr ⟨‹_›, h, hGroup, fun hAbove => hFree ((wouldNest_iff hGroup).2 hAbove), rfl⟩

/-- A group can be moved exactly if it is not above its new place. -/
theorem movable_iff_of_group (hh : h ∈ g.groups.toList) (hNode : g.node? h.id = none) :
    g.Movable parent h.id ↔ ¬ g.Above parent h := by
  have hGroup : g.group? h.id = some h := group?_eq_some.2 ⟨hh, rfl⟩
  simp [Movable, hNode, hGroup]

instance : Decidable (g.Movable parent id) := decidable_of_iff _ isSome_move?_iff

/-- A graph contains the id of a node that it finds. -/
theorem contains_iff_node? : g.nodes.contains id = true ↔ ∃ n, g.node? id = some n := by
  rw [Roster.contains_eq_isSome, Option.isSome_iff_exists]
  rfl

/-! ## Placing items -/

section

variable {moves moves' : ItemId → Bool}

/-- A graph is determined by its nodes, its connections and its groups. -/
theorem eq_of_toList_eq (hNodes : g'.nodes.toList = g.nodes.toList)
    (hConnections : g'.connections = g.connections)
    (hGroups : g'.groups.toList = g.groups.toList) : g' = g := by
  cases g
  cases g'
  rw [mk.injEq]
  exact ⟨Roster.ext hNodes, hConnections, Roster.ext hGroups⟩

/-- Placing items changes the parents of the nodes among them. -/
theorem nodes_placed : (g.placed parent moves).nodes.toList =
    g.nodes.toList.map fun n => if moves n.id then { n with parent } else n := rfl

/-- Placing items changes the parents of the groups among them, unless a node has the same id. -/
theorem groups_placed : (g.placed parent moves).groups.toList = g.groups.toList.map fun h =>
    if moves h.id && !g.nodes.contains h.id then { h with parent } else h := rfl

/-- Placing items keeps the ids of all nodes. -/
theorem contains_nodes_placed :
    (g.placed parent moves).nodes.contains id = g.nodes.contains id := by
  unfold placed
  rw [Roster.contains_modify]

/-- Placing no items changes nothing. -/
theorem placed_false (g : Graph) (parent : Option ItemId) :
    g.placed parent (fun _ => false) = g :=
  eq_of_toList_eq (by simp [nodes_placed]) rfl (by simp [groups_placed])

/-- Items can be placed at once that are placed after each other. -/
theorem placed_placed : (g.placed parent moves).placed parent moves' =
    g.placed parent (fun id => moves id || moves' id) := by
  apply eq_of_toList_eq
  · rw [nodes_placed, nodes_placed, nodes_placed, List.map_map]
    apply List.map_congr_left
    intro n _
    by_cases hMoves : moves n.id = true <;> simp [hMoves]
  · rfl
  · rw [groups_placed, groups_placed, groups_placed, List.map_map]
    apply List.map_congr_left
    intro h _
    simp only [Function.comp_apply, contains_nodes_placed]
    by_cases hMoves : moves h.id = true <;> by_cases hNode : g.nodes.contains h.id = true <;>
      simp [hMoves, hNode]

end

/-- A move places one item. -/
theorem move?_eq_placed (hMove : g.move? parent id = some g') : g' = g.placed parent (· == id) := by
  rcases move?_eq_some hMove with ⟨n, hNode, rfl⟩ | ⟨hNode, h, hGroup, -, rfl⟩
  · apply eq_of_toList_eq
    · rw [Roster.toList_put_of_get? (fun n : Node => { n with parent }) (fun _ => rfl) hNode,
        nodes_placed]
      simp only [beq_iff_eq]
      rfl
    · rfl
    · rw [groups_placed]
      refine (Lists.map_eq_self fun h _ => if_neg ?_).symm
      rw [Bool.and_eq_true, beq_iff_eq, Bool.not_eq_true']
      rintro ⟨rfl, hNoNode⟩
      rw [contains_iff_node?.2 ⟨n, hNode⟩] at hNoNode
      cases hNoNode
  · have hNoNode : g.nodes.contains id = false := by
      rw [Roster.contains_eq_isSome, Option.isSome_eq_false_iff, Option.isNone_iff_eq_none]
      exact hNode
    apply eq_of_toList_eq
    · rw [nodes_placed]
      refine (Lists.map_eq_self fun n hn => if_neg ?_).symm
      rw [beq_iff_eq]
      exact Roster.contains_eq_false_iff.1 hNoNode n hn
    · rfl
    · show (g.groups.put _).toList = _
      rw [Roster.toList_put_of_get? (fun h : Group => { h with parent }) (fun _ => rfl) hGroup,
        groups_placed]
      apply List.map_congr_left
      intro k _
      by_cases hSame : k.id = id
      · have hKey : Keyed.key k = id := hSame
        simp [hSame, hKey, hNoNode]
      · have hKey : Keyed.key k ≠ id := hSame
        simp [hSame, hKey]

/-- What can be moved to a place does not change when another item is moved there. -/
theorem movable_move? (hMove : g.move? parent id = some g') {other : ItemId} :
    g'.Movable parent other ↔ g.Movable parent other := by
  have hNodes : (∃ n, g'.node? other = some n) ↔ ∃ n, g.node? other = some n := by
    rw [← contains_iff_node?, ← contains_iff_node?, move?_eq_placed hMove, contains_nodes_placed]
  unfold Movable
  rw [hNodes]
  refine or_congr Iff.rfl ?_
  rcases move?_eq_some hMove with ⟨n, -, rfl⟩ | ⟨-, h, hGroup, hFree, rfl⟩
  · have hAbove : ∀ h, Above { g with nodes := g.nodes.put { n with parent } } parent h ↔
        g.Above parent h := fun _ => above_congr rfl
    simp only [hAbove]
    rfl
  · obtain ⟨hMem, rfl⟩ := group?_eq_some.1 hGroup
    simp only [above_putGroup_iff (m := { h with parent }) hGroup hFree, group?_putGroup]
    by_cases hSame : h.id = other
    · subst hSame
      -- the moved group is not above its new place either
      have hMoved : ¬ g.Above parent { h with parent } := by
        intro hAbove
        exact hFree ((Roster.eq_of_key_eq hAbove.mem hMem rfl : { h with parent } = h) ▸ hAbove)
      simp [hGroup, hFree, hMoved]
    · simp [hSame]

/-! ## All items of a list -/

/-- What can be moved to a place does not change when other items are moved there. -/
theorem movable_setParent (g : Graph) (parent : Option ItemId) (ids : List ItemId) (id : ItemId) :
    (g.setParent ids parent).1.Movable parent id ↔ g.Movable parent id :=
  setParent_keeps (P := fun g' => g'.Movable parent id ↔ g.Movable parent id)
    (fun _ _ _ hMove hSame => (movable_move? hMove).trans hSame) ids Iff.rfl

/-- Items that are moved one after the other end up where they would if all of them that can be
moved were moved at once. -/
theorem moveAll_eq (g : Graph) (parent : Option ItemId) (ids : List ItemId) :
    g.moveAll parent ids =
      (g.placed parent (fun id => id ∈ ids ∧ g.Movable parent id),
        ids.countP (g.Movable parent ·)) := by
  induction ids generalizing g with
  | nil => simp [moveAll, placed_false]
  | cons first rest ih =>
    have hFirst : (g.move? parent first).isSome = true ↔ g.Movable parent first :=
      isSome_move?_iff
    unfold moveAll
    cases hMove : g.move? parent first with
    | none =>
      have hStays : ¬ g.Movable parent first := by simpa [hMove] using hFirst
      have hSame : ∀ id, (id ∈ first :: rest ∧ g.Movable parent id) ↔
          id ∈ rest ∧ g.Movable parent id := by
        intro id
        refine and_congr_left fun hMovable => ?_
        rw [List.mem_cons, or_iff_right]
        rintro rfl
        exact hStays hMovable
      simp only [hSame]
      rw [ih g, List.countP_cons_of_neg (by simpa using hStays)]
    | some g' =>
      have hMoves : g.Movable parent first := by simpa [hMove] using hFirst
      have hBoth : ∀ id, decide (id ∈ first :: rest ∧ g.Movable parent id) =
          (id == first || decide (id ∈ rest ∧ g.Movable parent id)) := by
        intro id
        by_cases hFirst : id = first
        · simp [hFirst, hMoves]
        · simp [hFirst]
      simp only [hBoth]
      rw [ih g', List.countP_cons_of_pos (by simpa using hMoves)]
      simp only [movable_move? hMove]
      rw [move?_eq_placed hMove, placed_placed]

/-- Items are moved one by one if the place is there. -/
theorem setParent_of_contains (hParent : ∀ p ∈ parent, g.groups.contains p = true)
    (ids : List ItemId) : g.setParent ids parent = g.moveAll parent ids := by
  refine if_pos ?_
  cases parent with
  | none => rfl
  | some p => exact hParent p rfl

/-! ## Staying without a circle -/

namespace IsAcyclic

/-- No group gets above itself by a move. -/
theorem move? (hg : g.IsAcyclic) (hMove : g.move? parent id = some g') : g'.IsAcyclic := by
  rcases move?_eq_some hMove with ⟨n, -, rfl⟩ | ⟨-, h, hGroup, hFree, rfl⟩
  · exact hg.of_parents fun h hh => .inr ⟨h, hh, rfl, rfl⟩
  · obtain ⟨-, rfl⟩ := group?_eq_some.1 hGroup
    exact (isAcyclic_putGroup_iff (m := { h with parent }) hg hGroup).2 hFree

/-- No group gets above itself by moving items into a group. -/
theorem setParent (hg : g.IsAcyclic) (ids : List ItemId) (parent : Option ItemId) :
    (g.setParent ids parent).1.IsAcyclic :=
  setParent_keeps (fun _ _ _ hMove hg => hg.move? hMove) ids hg

/-- A group on the top level closes no circle, even in the place of another one. -/
theorem putGroup (hg : g.IsAcyclic) (hParent : h.parent = none) : (g.putGroup h).IsAcyclic := by
  refine hg.of_parents fun h' hh' => ?_
  rcases Roster.mem_put.1 hh' with rfl | ⟨hOld, -⟩
  · exact .inl hParent
  · exact .inr ⟨h', hOld, rfl, rfl⟩

/-- No group gets above itself by toggling one. -/
theorem toggle? (hg : g.IsAcyclic) (hToggle : g.toggle? id = some g') : g'.IsAcyclic := by
  obtain ⟨group, hGroup, rfl⟩ := Option.map_eq_some_iff.1 hToggle
  obtain ⟨hMem, -⟩ := group?_eq_some.1 hGroup
  refine hg.of_parents fun h' hh' => .inr ?_
  split at hh' <;>
  · rcases Roster.mem_put.1 hh' with rfl | ⟨hOld, -⟩
    · exact ⟨group, hMem, rfl, rfl⟩
    · exact ⟨h', hOld, rfl, rfl⟩

/-- Groups that a deletion leaves keep their parent or are released onto the top level. -/
theorem delete (hg : g.IsAcyclic) (s : Selection) : (g.delete s).1.IsAcyclic := by
  have hGroups : (g.delete s).1.groups = (g.withoutSelection s).groups :=
    (unrouteAll_keeps _ (g.withoutSelection s)).1
  refine hg.of_parents fun h' hh' => ?_
  rw [hGroups] at hh'
  obtain ⟨released, hReleased, rfl⟩ := List.mem_map.1
    (show h' ∈ (List.filter _ (g.groups.toList.map _)).map _ from hh')
  obtain ⟨h, hh, rfl⟩ := List.mem_map.1 (List.mem_of_mem_filter hReleased)
  split
  · exact .inl rfl
  · exact .inr ⟨h, hh, rfl, rfl⟩

end IsAcyclic

end Graph

end FlowCanvas
