import FlowCanvas.Proofs.Graph.Descent
import FlowCanvas.Proofs.Graph.Records
import FlowCanvas.Proofs.Graph.Storing
import FlowCanvas.Proofs.Keyed.Ascending
import FlowCanvas.Proofs.Table.Forgetting
import Mathlib

/-!
# What a deletion takes along

A deletion takes what is selected, what is below a selected group that is collapsed
(`Graph.IsSwept`) and the connections of the nodes that go, and it reports all of that
(`Graph.Deletes`). What stays keeps its place. It changes only where it refers to what has gone:
items that were in a removed group are on the top level, groups no longer record removed
connections, and decision tables have forgotten the routes of the outputs that have lost their last
connection (`Vacates`).
-/

set_option autoImplicit false

namespace FlowCanvas

/-- A node loses connections that leave it by decision outputs with a role, and none of those that
are left does so. -/
def Vacates (lost left : List Connection) (id : ItemId) (role : Role) : Prop :=
  (∃ c ∈ lost, c.sourceNode = id ∧ c.sourcePort.role.isDecisionOutput = true ∧
    c.sourcePort.role.normalize = role) ∧
  ∀ d ∈ left, d.sourceNode = id → d.sourcePort.role.normalize ≠ role

/-- A node as it was, apart from routes of outputs that are lost, which its decision table may have
forgotten. -/
structure Node.Forgets (lost : Role → Prop) (n n' : Node) : Prop where
  eq : n' = { n with data := n'.data }
  data : n.data.Forgets lost n'.data

/-- What becomes of a node that a deletion leaves: it is on the top level if its group has gone, and
its decision table may have forgotten routes of outputs that are lost. -/
structure Node.Survives (groups : List ItemId) (lost : Role → Prop) (n n' : Node) : Prop where
  eq : n' = { n with parent := n.parent.filter (!groups.contains ·), data := n'.data }
  data : n.data.Forgets lost n'.data

/-- What becomes of a group that a deletion leaves: it is on the top level if its group has gone,
and it has no record of removed connections. -/
def Group.withoutGone (gone : Selection) (h : Group) : Group :=
  { h with
    parent := h.parent.filter (!gone.groups.contains ·)
    hidden := h.hidden.forget gone.connections }

namespace Graph

/-- An item with a given parent is somewhere below a selected group that is collapsed. -/
def IsSwept (g : Graph) (s : Selection) (link : Option ItemId) : Prop :=
  ∃ h ∈ g.groups.toList, h.id ∈ s.groups ∧ h.collapsed = true ∧ g.Above link h

/-- What deleting a selection makes of a graph, and what is gone then. -/
structure Deletes (g : Graph) (s : Selection) (g' : Graph) (gone : Selection) : Prop where
  mem_nodes : ∀ id, id ∈ gone.nodes ↔
    ∃ n ∈ g.nodes.toList, n.id = id ∧ (id ∈ s.nodes ∨ g.IsSwept s n.parent)
  mem_groups : ∀ id, id ∈ gone.groups ↔
    ∃ h ∈ g.groups.toList, h.id = id ∧ (id ∈ s.groups ∨ g.IsSwept s h.parent)
  mem_connections : ∀ id, id ∈ gone.connections ↔ ∃ c ∈ g.connections.toList, c.id = id ∧
    (c.isVirtual = false ∧ id ∈ s.connections ∨ ∃ n ∈ gone.nodes, c.touches n = true)
  nodup : gone.nodes.Nodup ∧ gone.groups.Nodup ∧ gone.connections.Nodup
  /-- The nodes that stay, in the order in which they were. -/
  nodes : List.Forall₂
    (fun n n' => n.Survives gone.groups
      (Vacates (g.connections.toList.filter (gone.connections.contains ·.id))
        g'.connections.toList n.id) n')
    (g.nodes.toList.filter (!gone.nodes.contains ·.id)) g'.nodes.toList
  /-- An output that has lost its last connection leads nowhere. -/
  routes : ∀ n ∈ g'.nodes.toList, ∀ t, n.data = .decisionTable t → ∀ role name,
    Vacates (g.connections.toList.filter (gone.connections.contains ·.id))
      g'.connections.toList n.id role → (role, some name) ∉ t.bindings
  groups : g'.groups.toList =
    (g.groups.toList.filter (!gone.groups.contains ·.id)).map (Group.withoutGone gone)
  connections : g'.connections.toList =
    g.connections.toList.filter (!gone.connections.contains ·.id)
  /-- Nothing that stays is in a group that has gone. -/
  parents : (∀ n ∈ g'.nodes.toList, ∀ parent ∈ n.parent, parent ∉ gone.groups) ∧
    ∀ h ∈ g'.groups.toList, ∀ parent ∈ h.parent, parent ∉ gone.groups
  /-- No connection that stays has an end at a node that has gone. -/
  ends : ∀ c ∈ g'.connections.toList, ∀ n ∈ gone.nodes, c.touches n = false

variable {g g' : Graph} {s : Selection} {c : Connection}

/-! ## Forgetting the routes of removed connections -/

/-- Making a decision table lead nowhere at an output changes the nodes one by one. -/
theorem Redirects.forgets {id : ItemId} {role : Role} (h : g.Redirects id role none g')
    {lost : ItemId → Role → Prop} (hLost : lost id role.normalize) :
    List.Forall₂ (fun n n' => n.Forgets (lost n.id) n') g.nodes.toList g'.nodes.toList := by
  obtain ⟨n, t, t', hNode, hData, hBind, rfl⟩ := h
  obtain ⟨hMem, rfl⟩ := node?_eq_some.1 hNode
  show List.Forall₂ _ _ (g.nodes.put { n with data := .decisionTable t' }).toList
  rw [Roster.toList_put_of_key_eq (a := { n with data := .decisionTable t' }) hMem rfl]
  unfold Roster.replaced
  rw [List.forall₂_map_right_iff, List.forall₂_same]
  intro m hm
  split
  · rename_i hSame
    obtain rfl : m = n := Roster.eq_of_key_eq hm hMem hSame
    exact ⟨rfl, hData ▸ .table (DecisionTable.forgets_bind? hBind hLost)⟩
  · exact ⟨rfl, .same _⟩

/-- Only a connection that leaves a decision output makes a table forget a route. -/
theorem isDecisionOutput_of_unroute? (h : g.unroute? c = some g') :
    c.sourcePort.role.isDecisionOutput = true := by
  unfold unroute? at h
  simp only at h
  split at h
  · cases h
  · rename_i hGuard
    simp only [Bool.or_eq_true, not_or, Bool.not_eq_true', Bool.not_eq_false] at hGuard
    exact hGuard.1

/-- Removed connections make tables forget only routes of outputs that nothing leaves any more. -/
theorem unrouteAll_forgets (removed : List Connection) (g : Graph) (lost : ItemId → Role → Prop)
    (hLost : ∀ c ∈ removed, c.sourcePort.role.isDecisionOutput = true →
      (∀ d ∈ g.connections.toList, d.sourceNode = c.sourceNode →
        d.sourcePort.role.normalize ≠ c.sourcePort.role.normalize) →
      lost c.sourceNode c.sourcePort.role.normalize) :
    List.Forall₂ (fun n n' => n.Forgets (lost n.id) n') g.nodes.toList
      (g.unrouteAll removed).1.nodes.toList := by
  induction removed generalizing g with
  | nil => exact List.forall₂_same.2 fun n _ => ⟨rfl, .same _⟩
  | cons c rest ih =>
    have hRest := fun d hd => hLost d (List.mem_cons_of_mem c hd)
    unfold unrouteAll
    split
    · exact ih g hRest
    · rename_i g' hUnroute
      obtain ⟨hRedirects, hVacant⟩ := unroute?_eq_some hUnroute
      have hHere := hRedirects.forgets (hLost c List.mem_cons_self
        (isDecisionOutput_of_unroute? hUnroute) hVacant)
      have hNodes := ih g' (by rwa [hRedirects.connections_eq])
      refine Lists.forall₂_trans hHere hNodes ?_
      rintro n n' n'' ⟨hEq, hData⟩ ⟨hEq', hData'⟩
      have hId : n'.id = n.id := by rw [hEq]
      rw [hId] at hData'
      refine ⟨?_, hData.trans hData'⟩
      rw [hEq', hEq]

/-- Where a table has an output, removing its last connection makes it forget the route. -/
theorem exists_unroute? {n : Node} {t : DecisionTable} (hNode : g.node? c.sourceNode = some n)
    (hData : n.data = .decisionTable t) (hRole : c.sourcePort.role.isDecisionOutput = true)
    (hVacant : ∀ d ∈ g.connections.toList, d.sourceNode = c.sourceNode →
      d.sourcePort.role.normalize ≠ c.sourcePort.role.normalize)
    (hOutput : c.sourcePort.role.normalize ∈ t.outputRoles) :
    ∃ g', g.unroute? c = some g' := by
  obtain ⟨t', hBind⟩ := Option.isSome_iff_exists.1
    (DecisionTable.bind?_isSome_of_mem_outputRoles none hOutput)
  have hFree : (g.connections.toList.any fun d => d.sourceNode == c.sourceNode &&
      d.sourcePort.role.normalize == c.sourcePort.role.normalize) = false := by
    rw [List.any_eq_false]
    intro d hd hSame
    rw [Bool.and_eq_true, beq_iff_eq, beq_iff_eq] at hSame
    exact hVacant d hd hSame.1 hSame.2
  refine ⟨{ g with nodes := g.nodes.put { n with data := .decisionTable t' } }, ?_⟩
  unfold unroute?
  simp only [hRole, hFree, hNode, Node.table?_eq_some.2 hData, hBind, Bool.not_true, Bool.or_self,
    Bool.false_eq_true, if_false, Option.bind_eq_bind, Option.bind_some, Option.pure_def]

/-- No table leads anywhere from an output that has lost its last connection. -/
theorem notMem_bindings_unrouteAll {removed : List Connection} (hg : g.HasStorableNodes)
    {id : ItemId} {role : Role} (hVacates : Vacates removed g.connections.toList id role)
    {n' : Node} (hn' : n' ∈ (g.unrouteAll removed).1.nodes.toList) (hId : n'.id = id)
    {t' : DecisionTable} (hData' : n'.data = .decisionTable t') (name : String) :
    (role, some name) ∉ t'.bindings := by
  intro hRoute
  obtain ⟨⟨c, hc, hSource, hRole, hSame⟩, hVacant⟩ := hVacates
  -- whatever the tables have been before, they have not been given a route since
  have hBefore : ∀ (g : Graph) (removed : List Connection),
      n' ∈ (g.unrouteAll removed).1.nodes.toList →
        ∃ n t, g.node? id = some n ∧ n.data = .decisionTable t ∧
          (role, some name) ∈ t.bindings := by
    intro g removed hn'
    obtain ⟨n, hn, hEq, hData⟩ := Lists.exists_of_forall₂_right
      (unrouteAll_forgets removed g (fun _ _ => True) fun _ _ _ _ => trivial) hn'
    obtain ⟨t, hTable, hRoutes⟩ := hData.exists_table hData'
    have hIdEq : n.id = n'.id := by rw [hEq]
    exact ⟨n, t, node?_eq_some.2 ⟨hn, hIdEq.trans hId⟩, hTable, hRoutes role name hRoute⟩
  induction removed generalizing g with
  | nil => simp at hc
  | cons d rest ih =>
    obtain ⟨n, t, hNode, hData, hOld⟩ := hBefore g (d :: rest) hn'
    unfold unrouteAll at hn'
    split at hn'
    · rename_i hNone
      rcases List.mem_cons.1 hc with rfl | hRest
      · obtain ⟨g', hSome⟩ := exists_unroute? (hSource ▸ hNode) hData hRole
          (fun d hd hNodeSame => hSame ▸ hVacant d hd (hNodeSame.trans hSource))
          (hSame ▸ List.mem_map_of_mem hOld)
        rw [hNone] at hSome
        cases hSome
      · exact ih hg hn' hVacant hRest
    · rename_i g' hUnroute
      have hRedirects := (unroute?_eq_some hUnroute).1
      rcases List.mem_cons.1 hc with rfl | hRest
      · obtain ⟨m, u, u', hSourceNode, hTable, hBind, rfl⟩ := hRedirects
        obtain ⟨n₁, t₁, hNode₁, hData₁, hKept⟩ := hBefore _ rest hn'
        rw [node?_put, (node?_eq_some.1 hSourceNode).2, if_pos hSource, Option.some.injEq] at hNode₁
        subst hNode₁
        rw [Payload.decisionTable.injEq] at hData₁
        subst hData₁
        have hFresh := (hg m (node?_eq_some.1 hSourceNode).1).isFresh hTable
        exact hFresh.notMem_bindings_bind? hBind (hSame ▸ hKept)
      · refine ih (hRedirects.shrinks.hasStorableNodes hg) hn' ?_ hRest
        rwa [hRedirects.connections_eq]

/-! ## What goes -/

/-- Of some ids those are picked that belong to stored groups that are collapsed, or expanded. -/
theorem mem_groupsThatAre {collapsed : Bool} {ids : List ItemId} {id : ItemId} :
    id ∈ g.groupsThatAre collapsed ids ↔
      id ∈ ids ∧ ∃ h, g.group? id = some h ∧ h.collapsed = collapsed := by
  unfold groupsThatAre
  rw [List.mem_filter, Option.any_eq_true]
  simp only [beq_iff_eq]

/-- What is swept along is what is found below the selected groups that are collapsed. -/
theorem exists_collapsed_iff {below : ItemId → List ItemId} {j : ItemId}
    {P : Group → Prop} (hBelow : ∀ h ∈ g.groups.toList, j ∈ below h.id ↔ P h) :
    j ∈ (g.groupsThatAre true s.groups).flatMap below ↔
      ∃ h ∈ g.groups.toList, h.id ∈ s.groups ∧ h.collapsed = true ∧ P h := by
  rw [List.mem_flatMap]
  constructor
  · rintro ⟨k, hk, hIn⟩
    obtain ⟨hSelected, h, hGroup, hCollapsed⟩ := mem_groupsThatAre.1 hk
    obtain ⟨hMem, rfl⟩ := group?_eq_some.1 hGroup
    exact ⟨h, hMem, hSelected, hCollapsed, (hBelow h hMem).1 hIn⟩
  · rintro ⟨h, hMem, hSelected, hCollapsed, hP⟩
    exact ⟨h.id, mem_groupsThatAre.2 ⟨hSelected, h, group?_eq_some.2 ⟨hMem, rfl⟩, hCollapsed⟩,
      (hBelow h hMem).2 hP⟩

/-- The nodes that a deletion takes are the selected ones and those that it sweeps along. -/
theorem mem_nodes_doomed {id : ItemId} :
    id ∈ (g.doomed s).nodes ↔
      ∃ n ∈ g.nodes.toList, n.id = id ∧ (id ∈ s.nodes ∨ g.IsSwept s n.parent) := by
  have hSwept := exists_collapsed_iff (g := g) (s := s) (j := id) fun h hMem =>
    mem_nodesBelow_iff (k := id) (group?_eq_some.2 ⟨hMem, rfl⟩)
  show id ∈ s.nodes.filter g.nodes.contains ++ (g.groupsThatAre true s.groups).flatMap
    g.nodesBelow ↔ _
  rw [List.mem_append, List.mem_filter, Roster.contains_iff, hSwept]
  constructor
  · rintro (⟨hSelected, hStored⟩ | ⟨h, hMem, hGroup, hCollapsed, n, hn, hId, hAbove⟩)
    · obtain ⟨n, hn, hId⟩ := List.mem_map.1 hStored
      exact ⟨n, hn, hId, .inl hSelected⟩
    · exact ⟨n, hn, hId, .inr ⟨h, hMem, hGroup, hCollapsed, hAbove⟩⟩
  · rintro ⟨n, hn, rfl, hSelected | ⟨h, hMem, hGroup, hCollapsed, hAbove⟩⟩
    · exact .inl ⟨hSelected, List.mem_map_of_mem hn⟩
    · exact .inr ⟨h, hMem, hGroup, hCollapsed, n, hn, rfl, hAbove⟩

/-- The groups that a deletion takes are the selected ones and those that it sweeps along. -/
theorem mem_groups_doomed {id : ItemId} :
    id ∈ (g.doomed s).groups ↔
      ∃ h ∈ g.groups.toList, h.id = id ∧ (id ∈ s.groups ∨ g.IsSwept s h.parent) := by
  have hSwept := exists_collapsed_iff (g := g) (s := s) (j := id) fun h hMem =>
    mem_groupsBelow_iff (k := id) (group?_eq_some.2 ⟨hMem, rfl⟩)
  show id ∈ s.groups.filter g.groups.contains ++ (g.groupsThatAre true s.groups).flatMap
    g.groupsBelow ↔ _
  rw [List.mem_append, List.mem_filter, Roster.contains_iff, hSwept]
  constructor
  · rintro (⟨hSelected, hStored⟩ | ⟨h, hMem, hGroup, hCollapsed, -, k, hk, hId, hAbove⟩)
    · obtain ⟨k, hk, hId⟩ := List.mem_map.1 hStored
      exact ⟨k, hk, hId, .inl hSelected⟩
    · exact ⟨k, hk, hId, .inr ⟨h, hMem, hGroup, hCollapsed, hAbove⟩⟩
  · rintro ⟨k, hk, rfl, hSelected | ⟨h, hMem, hGroup, hCollapsed, hAbove⟩⟩
    · exact .inl ⟨hSelected, List.mem_map_of_mem hk⟩
    · -- in a circle of groups the selected one is below itself, and goes because it is selected
      by_cases hSame : k.id = h.id
      · exact .inl ⟨hSame ▸ hGroup, List.mem_map_of_mem hk⟩
      · exact .inr ⟨h, hMem, hGroup, hCollapsed, hSame, k, hk, rfl, hAbove⟩

/-- The connections that a deletion takes are the selected ones and those at nodes that it takes. -/
theorem mem_connections_doomed (hg : g.IsStorable) {id : ConnectionId} :
    id ∈ (g.doomed s).connections ↔ ∃ c ∈ g.connections.toList, c.id = id ∧
      (c.isVirtual = false ∧ id ∈ s.connections ∨
        ∃ n ∈ (g.doomed s).nodes, c.touches n = true) := by
  have hTouches : ∀ c : Connection, ((g.doomed s).nodes.contains c.sourceNode ||
      (g.doomed s).nodes.contains c.targetNode) = true ↔
        ∃ n ∈ (g.doomed s).nodes, c.touches n = true := by
    intro c
    simp only [Connection.touches, Bool.or_eq_true, List.contains_iff_mem, beq_iff_eq]
    constructor
    · rintro (hSource | hTarget)
      · exact ⟨_, hSource, .inl rfl⟩
      · exact ⟨_, hTarget, .inr rfl⟩
    · rintro ⟨n, hn, rfl | rfl⟩
      · exact .inl hn
      · exact .inr hn
  show id ∈ s.connections.filter (fun id => !id.isVirtual && g.connections.contains id) ++
    (g.connections.toList.filter fun c => (g.doomed s).nodes.contains c.sourceNode ||
      (g.doomed s).nodes.contains c.targetNode).map Connection.id ↔ _
  simp only [List.mem_append, List.mem_filter, List.mem_map, hTouches, Bool.and_eq_true,
    Roster.contains_iff]
  constructor
  · rintro (⟨hSelected, -, c, hc, hId⟩ | ⟨c, ⟨hc, hEnd⟩, hId⟩)
    · exact ⟨c, hc, hId, .inl ⟨hg.isVirtual_eq c hc, hSelected⟩⟩
    · exact ⟨c, hc, hId, .inr hEnd⟩
  · rintro ⟨c, hc, rfl, ⟨hOrdinary, hSelected⟩ | hEnd⟩
    · refine .inl ⟨hSelected, ?_, c, hc, rfl⟩
      unfold Connection.isVirtual at hOrdinary
      rw [Bool.or_eq_false_iff] at hOrdinary
      simp [hOrdinary.2]
    · exact .inr ⟨c, ⟨hc, hEnd⟩, rfl⟩

/-! ## What stays -/

/-- Sorting a selection keeps its nodes. -/
theorem contains_sorted_nodes (s : Selection) : s.sorted.nodes.contains = s.nodes.contains := by
  funext id
  rw [Bool.eq_iff_iff, List.contains_iff_mem, List.contains_iff_mem]
  exact Ordered.mem_ofList

/-- Sorting a selection keeps its groups. -/
theorem contains_sorted_groups (s : Selection) : s.sorted.groups.contains = s.groups.contains := by
  funext id
  rw [Bool.eq_iff_iff, List.contains_iff_mem, List.contains_iff_mem]
  exact Ordered.mem_ofList

/-- An item that is not swept along is released exactly if its group goes. -/
theorem released_eq {link : Option ItemId} (hKept : ¬ g.IsSwept s link) :
    (if link.any (g.groupsThatAre false s.groups).contains then none else link) =
      link.filter (!(g.doomed s).sorted.groups.contains ·) := by
  cases link with
  | none => simp
  | some parent =>
    have hGone : (g.groupsThatAre false s.groups).contains parent = true ↔
        (g.doomed s).groups.contains parent = true := by
      rw [List.contains_iff_mem, List.contains_iff_mem, mem_groupsThatAre, mem_groups_doomed]
      constructor
      · rintro ⟨hSelected, h, hGroup, -⟩
        obtain ⟨hMem, hId⟩ := group?_eq_some.1 hGroup
        exact ⟨h, hMem, hId, .inl hSelected⟩
      · rintro ⟨h, hMem, rfl, hGoes⟩
        have hGroup := group?_eq_some.2 ⟨hMem, rfl⟩
        rcases hGoes with hSelected | ⟨k, hk, hSelected, hCollapsed, hAbove⟩
        · refine ⟨hSelected, h, hGroup, ?_⟩
          by_contra hCollapsed
          exact hKept ⟨h, hMem, hSelected, by simpa using hCollapsed, .parent hGroup⟩
        · exact absurd ⟨k, hk, hSelected, hCollapsed, .outer hGroup hAbove⟩ hKept
    rw [contains_sorted_groups, Option.any_some, Option.filter_some, Bool.eq_iff_iff.2 hGone]
    cases (g.doomed s).groups.contains parent <;> rfl

/-- The nodes that stay, before decision tables forget routes. -/
theorem nodes_withoutSelection (g : Graph) (s : Selection) :
    (g.withoutSelection s).nodes.toList =
      (g.nodes.toList.filter (!(g.doomed s).sorted.nodes.contains ·.id)).map fun n =>
        { n with parent := n.parent.filter (!(g.doomed s).sorted.groups.contains ·) } := by
  show (g.nodes.toList.map _).filter _ = _
  rw [Lists.filter_map_comm fun n => by split <;> rfl]
  apply List.map_congr_left
  intro n hn
  obtain ⟨hMem, hStays⟩ := List.mem_filter.1 hn
  have hKept : ¬ g.IsSwept s n.parent := by
    intro hSwept
    rw [contains_sorted_nodes, Bool.not_eq_true', Bool.eq_false_iff, Ne, List.contains_iff_mem,
      mem_nodes_doomed] at hStays
    exact hStays ⟨n, hMem, rfl, .inr hSwept⟩
  rw [← released_eq hKept]
  split <;> rfl

/-- The groups that stay. -/
theorem groups_withoutSelection (g : Graph) (s : Selection) :
    (g.withoutSelection s).groups.toList =
      (g.groups.toList.filter (!(g.doomed s).sorted.groups.contains ·.id)).map
        (Group.withoutGone (g.doomed s).sorted) := by
  show ((g.groups.toList.map _).filter _).map _ = _
  rw [Lists.filter_map_comm fun h => by split <;> rfl, List.map_map]
  apply List.map_congr_left
  intro h hh
  obtain ⟨hMem, hStays⟩ := List.mem_filter.1 hh
  have hKept : ¬ g.IsSwept s h.parent := by
    intro hSwept
    rw [contains_sorted_groups, Bool.not_eq_true', Bool.eq_false_iff, Ne, List.contains_iff_mem,
      mem_groups_doomed] at hStays
    exact hStays ⟨h, hMem, rfl, .inr hSwept⟩
  rw [Group.withoutGone, ← released_eq hKept, Function.comp_apply]
  split <;> rfl

/-- A deletion leaves the connections that it does not take. -/
theorem connections_withoutSelection (g : Graph) (s : Selection) :
    (g.withoutSelection s).connections.toList =
      g.connections.toList.filter (!(g.doomed s).sorted.connections.contains ·.id) := rfl

/-- The connections that make tables forget routes are those that are removed. -/
theorem mem_filterMap_connection? {ids : List ConnectionId} :
    c ∈ ids.filterMap g.connection? ↔ c ∈ g.connections.toList.filter (ids.contains ·.id) := by
  rw [List.mem_filterMap, List.mem_filter, List.contains_iff_mem]
  constructor
  · rintro ⟨id, hId, hFound⟩
    obtain ⟨hMem, rfl⟩ := Roster.get?_eq_some_iff.1 hFound
    exact ⟨hMem, hId⟩
  · rintro ⟨hMem, hId⟩
    exact ⟨c.id, hId, Roster.get?_key hMem⟩

/-- A connection of a node that goes does not stay. -/
theorem touches_eq_false_of_mem_withoutSelection (hg : g.IsStorable)
    (hc : c ∈ (g.withoutSelection s).connections.toList) {id : ItemId}
    (hId : id ∈ (g.doomed s).nodes) : c.touches id = false := by
  rw [connections_withoutSelection] at hc
  obtain ⟨hMem, hStays⟩ := List.mem_filter.1 hc
  rw [Bool.not_eq_true', Bool.eq_false_iff, Ne, List.contains_iff_mem] at hStays
  by_contra hTouches
  rw [Bool.not_eq_false] at hTouches
  have hDoomed := (mem_connections_doomed hg).2 ⟨c, hMem, rfl, .inr ⟨id, hId, hTouches⟩⟩
  exact hStays (Ordered.mem_ofList.2 hDoomed)

/-- A parent that a deletion leaves is none that has gone. -/
theorem notMem_of_mem_filter {gone : List ItemId} {link : Option ItemId} {parent : ItemId}
    (h : parent ∈ link.filter (!gone.contains ·)) : parent ∉ gone := by
  simpa using (Option.mem_filter_iff.1 h).2

/-- Deleting a selection takes exactly what hangs on it, and leaves the rest as it is. -/
theorem deletes_delete (hg : g.IsStorable) (s : Selection) :
    g.Deletes s (g.delete s).1 (g.delete s).2 := by
  have hGone : (g.delete s).2 = (g.doomed s).sorted := rfl
  have hStorable := (withoutSelection_shrinks g s).drifts.hasStorableNodes hg.nodes
  rw [delete_eq hg.nodes, hGone]
  set gone := (g.doomed s).sorted with hSorted
  set removed := gone.connections.filterMap g.connection? with hRemoved
  have hVacates : ∀ id role, Vacates (g.connections.toList.filter (gone.connections.contains ·.id))
      (g.withoutSelection s).connections.toList id role ↔
        Vacates removed (g.withoutSelection s).connections.toList id role := by
    intro id role
    simp only [Vacates, hRemoved, mem_filterMap_connection?]
  obtain ⟨hGroups, hConnections⟩ := unrouteAll_keeps removed (g.withoutSelection s)
  have hNodes := unrouteAll_forgets removed (g.withoutSelection s)
    (Vacates removed (g.withoutSelection s).connections.toList)
    fun c hc hRole hVacant => ⟨⟨c, hc, rfl, hRole, rfl⟩, hVacant⟩
  have hNodesGone : ∀ id, id ∈ gone.nodes ↔ id ∈ (g.doomed s).nodes := fun _ => Ordered.mem_ofList
  constructor
  case mem_nodes => exact fun id => (hNodesGone id).trans mem_nodes_doomed
  case mem_groups => exact fun id => Ordered.mem_ofList.trans mem_groups_doomed
  case mem_connections =>
    intro id
    simp only [hNodesGone]
    exact Ordered.mem_ofList.trans (mem_connections_doomed hg)
  case nodup =>
    exact ⟨Ordered.nodup_ofList ItemId.isStrict_before _,
      Ordered.nodup_ofList ItemId.isStrict_before _,
      Ordered.nodup_ofList ConnectionId.isStrict_before _⟩
  case groups => rw [hGroups, groups_withoutSelection]
  case connections => rw [hConnections, connections_withoutSelection]
  case nodes =>
    rw [nodes_withoutSelection, List.forall₂_map_left_iff] at hNodes
    refine hNodes.imp fun n n' hForgets => ⟨hForgets.eq, ?_⟩
    rw [hConnections, funext fun role => propext (hVacates n.id role)]
    exact hForgets.data
  case routes =>
    intro n hn t hData role name hLost
    rw [hConnections, hVacates] at hLost
    exact notMem_bindings_unrouteAll hStorable hLost hn rfl hData name
  case parents =>
    constructor
    · intro n' hn' parent hParent
      obtain ⟨m, hm, hForgets⟩ := Lists.exists_of_forall₂_right hNodes hn'
      rw [nodes_withoutSelection] at hm
      obtain ⟨n, -, rfl⟩ := List.mem_map.1 hm
      rw [hForgets.eq] at hParent
      exact notMem_of_mem_filter hParent
    · intro h' hh' parent hParent
      rw [hGroups, groups_withoutSelection] at hh'
      obtain ⟨h, -, rfl⟩ := List.mem_map.1 hh'
      exact notMem_of_mem_filter hParent
  case ends =>
    intro c hc n hn
    exact touches_eq_false_of_mem_withoutSelection hg (hConnections ▸ hc) ((hNodesGone n).1 hn)

end Graph

end FlowCanvas
