import FlowCanvas.Canvas.Deletion
import FlowCanvas.Proofs.Graph.Nodes
import FlowCanvas.Proofs.Keyed.Rosters
import Mathlib

/-!
# Shrinking graphs

All operations on a graph that neither edit a node nor add anything to it shrink it
(`Graph.Shrinks`): the nodes that stay have at most drifted, no connection is new, and no connection
that stays has lost a node at its ends. Making a decision table lead somewhere else
(`Graph.Redirects`) is one of them, moving and deleting items are others.
-/

set_option autoImplicit false

namespace FlowCanvas

namespace Graph

/-- All nodes of a graph have the stored form. -/
def HasStorableNodes (g : Graph) : Prop := ∀ n ∈ g.nodes.toList, n.IsStorable

/-- All nodes of a graph have the stored form, with at most one port for each role. -/
def IsPrepared (g : Graph) : Prop := ∀ n ∈ g.nodes.toList, n.IsPrepared

/-- Prepared nodes have the form in which nodes are stored. -/
theorem IsPrepared.hasStorableNodes {g : Graph} (hg : g.IsPrepared) : g.HasStorableNodes :=
  fun n hn => (hg n hn).isStorable

/-- A node is found under its own id. -/
theorem node?_eq_some {g : Graph} {id : ItemId} {n : Node} :
    g.node? id = some n ↔ n ∈ g.nodes.toList ∧ n.id = id :=
  Roster.get?_eq_some_iff

/-- After a node has been put in as it is, it is found under its id, and all others stay. -/
theorem node?_put (g : Graph) (n : Node) (id : ItemId) :
    node? { g with nodes := g.nodes.put n } id = if n.id = id then some n else g.node? id :=
  Roster.get?_put g.nodes n id

/-- After a node has been put in, it is found under its id in prepared form, and all others stay. -/
theorem node?_putNode (g : Graph) (n : Node) (id : ItemId) :
    (g.putNode n).node? id = if n.id = id then some n.prepare else g.node? id := by
  rw [← n.prepare_id]
  exact node?_put g n.prepare id

/-- A group is found under its own id. -/
theorem group?_eq_some {g : Graph} {id : ItemId} {h : Group} :
    g.group? id = some h ↔ h ∈ g.groups.toList ∧ h.id = id :=
  Roster.get?_eq_some_iff

/-- What an operation does that edits no node and adds nothing, where a relation says what may
become of the nodes. -/
structure Shrinks (g : Graph) (R : Node → Node → Prop) (g' : Graph) : Prop where
  nodes : ∀ n' ∈ g'.nodes.toList, ∃ n ∈ g.nodes.toList, n'.id = n.id ∧ R n n'
  connections : ∀ c ∈ g'.connections.toList, c ∈ g.connections.toList
  ends : ∀ c ∈ g'.connections.toList, ∀ n ∈ g.nodes.toList, c.touches n.id = true →
    ∃ n' ∈ g'.nodes.toList, n'.id = n.id ∧ R n n'

namespace Shrinks

variable {R : Node → Node → Prop} {g g' g'' : Graph}

/-- A graph shrinks if its nodes stay and its connections become fewer. -/
theorem of_nodes_eq [Std.Refl R] (hNodes : g'.nodes = g.nodes)
    (hConnections : ∀ c ∈ g'.connections.toList, c ∈ g.connections.toList) : g.Shrinks R g' where
  nodes n hn := ⟨n, hNodes ▸ hn, rfl, Std.Refl.refl n⟩
  connections := hConnections
  ends _ _ n hn _ := ⟨n, hNodes ▸ hn, rfl, Std.Refl.refl n⟩

/-- A graph that stays as it is shrinks. -/
theorem refl [Std.Refl R] (g : Graph) : g.Shrinks R g := of_nodes_eq rfl fun _ hc => hc

/-- Shrinking twice is shrinking. -/
theorem trans [IsTrans Node R] (h : g.Shrinks R g') (h' : g'.Shrinks R g'') : g.Shrinks R g'' where
  nodes := by
    intro k hk
    obtain ⟨m, hm, hId', hR'⟩ := h'.nodes k hk
    obtain ⟨n, hn, hId, hR⟩ := h.nodes m hm
    exact ⟨n, hn, hId'.trans hId, IsTrans.trans n m k hR hR'⟩
  connections := fun c hc => h.connections c (h'.connections c hc)
  ends := by
    intro c hc n hn hTouches
    obtain ⟨m, hm, hId, hR⟩ := h.ends c (h'.connections c hc) n hn hTouches
    obtain ⟨k, hk, hId', hR'⟩ := h'.ends c hc m hm (hId ▸ hTouches)
    exact ⟨k, hk, hId'.trans hId, IsTrans.trans n m k hR hR'⟩

/-- A graph that shrinks under one relation shrinks under a wider one. -/
theorem mono {R' : Node → Node → Prop} (h : g.Shrinks R g') (hR : ∀ n n', R n n' → R' n n') :
    g.Shrinks R' g' where
  nodes := by
    intro n' hn'
    obtain ⟨n, hn, hId, hRel⟩ := h.nodes n' hn'
    exact ⟨n, hn, hId, hR n n' hRel⟩
  connections := h.connections
  ends := by
    intro c hc n hn hTouches
    obtain ⟨n', hn', hId, hRel⟩ := h.ends c hc n hn hTouches
    exact ⟨n', hn', hId, hR n n' hRel⟩

/-- Where nodes are only moved, none is edited. -/
theorem drifts (h : g.Shrinks Node.Moves g') : g.Shrinks Node.Drifts g' :=
  h.mono fun _ _ => Node.Moves.drifts

/-- Nodes that are not edited keep the form in which nodes are stored. -/
theorem hasStorableNodes (h : g.Shrinks Node.Drifts g') (hg : g.HasStorableNodes) :
    g'.HasStorableNodes := by
  intro n' hn'
  obtain ⟨n, hn, -, hDrift⟩ := h.nodes n' hn'
  exact hDrift.isStorable (hg n hn)

/-- Nodes that are not edited keep at most one port for each role. -/
theorem isPrepared (h : g.Shrinks Node.Drifts g') (hg : g.IsPrepared) : g'.IsPrepared := by
  intro n' hn'
  obtain ⟨n, hn, -, hDrift⟩ := h.nodes n' hn'
  exact hDrift.isPrepared (hg n hn)

/-- Putting in a node that the stored one may have become shrinks the graph. -/
theorem put [Std.Refl R] {n n' : Node} (hn : n ∈ g.nodes.toList) (hId : n'.id = n.id)
    (hR : R n n') : g.Shrinks R { g with nodes := g.nodes.put n' } := by
  refine ⟨?_, fun _ hc => hc, ?_⟩
  · intro k hk
    rcases Roster.mem_put.1 hk with rfl | ⟨hOld, -⟩
    · exact ⟨n, hn, hId, hR⟩
    · exact ⟨k, hOld, rfl, Std.Refl.refl k⟩
  · intro c _ k hk _
    by_cases hSame : k.id = n.id
    · have hk' : k = n := Roster.eq_of_key_eq hk hn hSame
      exact ⟨n', Roster.mem_put.2 (.inl rfl), hk' ▸ hId, hk' ▸ hR⟩
    · refine ⟨k, Roster.mem_put.2 (.inr ⟨hk, ?_⟩), rfl, Std.Refl.refl k⟩
      exact fun h => hSame (h.trans hId)

end Shrinks

/-! ## Redirecting decision tables -/

/-- A decision table of the graph is made to lead somewhere else at the output with a role. -/
def Redirects (g : Graph) (id : ItemId) (role : Role) (next : Option String) (g' : Graph) : Prop :=
  ∃ (n : Node) (t t' : DecisionTable), g.node? id = some n ∧ n.data = .decisionTable t ∧
    t.bind? role next = some t' ∧
    g' = { g with nodes := g.nodes.put { n with data := .decisionTable t' } }

namespace Redirects

variable {g g' : Graph} {id : ItemId} {role : Role} {next : Option String}

/-- Redirecting a route edits no node and adds nothing. -/
theorem shrinks (h : g.Redirects id role next g') : g.Shrinks Node.Drifts g' := by
  obtain ⟨n, t, t', hNode, hData, hBind, rfl⟩ := h
  exact .put (node?_eq_some.1 hNode).1 rfl (.redirected .refl hData hBind)

/-- Redirecting a route keeps the connections. -/
theorem connections_eq (h : g.Redirects id role next g') : g'.connections = g.connections := by
  obtain ⟨n, t, t', -, -, -, rfl⟩ := h
  rfl

/-- Redirecting a route keeps the groups. -/
theorem groups_eq (h : g.Redirects id role next g') : g'.groups = g.groups := by
  obtain ⟨n, t, t', -, -, -, rfl⟩ := h
  rfl

end Redirects

variable {g : Graph}

/-- Storing a connection makes nothing lead anywhere, unless it leaves an output of a decision
table. -/
theorem routeAlong_cases (hg : g.HasStorableNodes) (c : Connection) :
    g.routeAlong c = g ∨ c.sourcePort.role.isDecisionOutput = true ∧
      ∃ target, g.node? c.targetNode = some target ∧
        g.Redirects c.sourceNode c.sourcePort.role (some target.name) (g.routeAlong c) := by
  unfold routeAlong
  split
  · exact .inl rfl
  · rename_i hRole
    rw [Bool.not_eq_true', Bool.not_eq_false] at hRole
    split
    · rename_i target source hTarget hSource
      split
      · exact .inl rfl
      · rename_i t hTable
        have hData := Node.table?_eq_some.1 hTable
        split
        · exact .inl rfl
        · rename_i t' hBind
          refine .inr ⟨hRole, target, hTarget, source, t, t', hSource, hData, hBind, ?_⟩
          have hDrift : source.Drifts { source with data := .decisionTable t' } :=
            .redirected .refl hData hBind
          have hStorable := hDrift.isStorable (hg source (node?_eq_some.1 hSource).1)
          unfold Node.IsStorable at hStorable
          unfold putNode
          rw [hStorable]
    · exact .inl rfl

/-- A route is only forgotten when no connection is left at its output. -/
theorem unroute?_eq_some {g' : Graph} {c : Connection} (h : g.unroute? c = some g') :
    g.Redirects c.sourceNode c.sourcePort.role none g' ∧
      ∀ d ∈ g.connections.toList, d.sourceNode = c.sourceNode →
        d.sourcePort.role.normalize ≠ c.sourcePort.role.normalize := by
  unfold unroute? at h
  simp only at h
  split at h
  · cases h
  · rename_i hGuard
    rw [Bool.or_eq_true, not_or, Bool.not_eq_true, Bool.not_eq_true, List.any_eq_false] at hGuard
    simp only [Option.bind_eq_bind, Option.bind_eq_some_iff, Option.pure_def,
      Option.some.injEq] at h
    obtain ⟨n, hNode, t, hTable, t', hBind, rfl⟩ := h
    refine ⟨⟨n, t, t', hNode, Node.table?_eq_some.1 hTable, hBind, rfl⟩, ?_⟩
    intro d hd hSource hRole
    exact hGuard.2 d hd (by simp [hSource, hRole])

/-- Forgetting the route of a removed connection edits no node otherwise and adds nothing. -/
theorem unroute?_getD_shrinks (g : Graph) (c : Connection) :
    g.Shrinks Node.Drifts ((g.unroute? c).getD g) := by
  cases h : g.unroute? c with
  | none => exact .refl g
  | some g' => exact (unroute?_eq_some h).1.shrinks

/-! ## Taking connections out -/

/-- Dropping connections edits no node and adds nothing. -/
theorem dropConnections_shrinks (g : Graph) (ids : List ConnectionId) :
    g.Shrinks Node.Moves (g.dropConnections ids) := by
  refine .of_nodes_eq rfl fun c hc => ?_
  exact List.mem_of_mem_filter (show c ∈ g.connections.toList.filter _ from hc)

/-- Dropping leaves the connections with other keys. -/
theorem mem_dropConnections {ids : List ConnectionId} {c : Connection} :
    c ∈ (g.dropConnections ids).connections.toList ↔ c ∈ g.connections.toList ∧ c.id ∉ ids := by
  show c ∈ g.connections.toList.filter _ ↔ _
  simp

/-- A connection is removed by dropping it and forgetting its route. -/
theorem removeConnection?_eq_some {id : ConnectionId} {g' : Graph}
    (h : g.removeConnection? id = some g') :
    ∃ c, g.connection? id = some c ∧
      g' = ((g.dropConnections [id]).unroute? c).getD (g.dropConnections [id]) := by
  unfold removeConnection? at h
  split at h
  · cases h
  · obtain ⟨c, hc, rfl⟩ := Option.map_eq_some_iff.1 h
    exact ⟨c, hc, rfl⟩

/-- Removing a connection edits no node otherwise and adds nothing. -/
theorem removeConnection?_shrinks {id : ConnectionId} {g' : Graph}
    (h : g.removeConnection? id = some g') : g.Shrinks Node.Drifts g' := by
  obtain ⟨c, -, rfl⟩ := removeConnection?_eq_some h
  exact (dropConnections_shrinks g [id]).drifts.trans (unroute?_getD_shrinks _ c)

/-- What every single removal keeps is kept when connections are removed one after the other. -/
theorem removeConnections_keeps {P : Graph → Prop}
    (hStep : ∀ g g' id, removeConnection? g id = some g' → P g → P g')
    (ids : List ConnectionId) (hg : P g) : P (g.removeConnections ids).1 := by
  induction ids generalizing g with
  | nil => exact hg
  | cons id rest ih =>
    unfold removeConnections
    split
    · exact ih hg
    · rename_i g' hRemove
      exact ih (hStep g g' id hRemove hg)

/-! ## Moving items -/

/-- Moving an item edits no node and adds nothing. -/
theorem move?_shrinks {parent : Option ItemId} {id : ItemId} {g' : Graph}
    (h : g.move? parent id = some g') : g.Shrinks Node.Moves g' := by
  unfold move? at h
  split at h
  · rename_i n hNode
    cases h
    exact .put (node?_eq_some.1 hNode).1 rfl ⟨parent, rfl⟩
  · split at h
    · cases h
    · split at h
      · cases h
      · cases h
        exact .of_nodes_eq rfl fun _ hc => hc

/-- What every single move keeps is kept when items are moved one after the other. -/
theorem setParent_keeps {P : Graph → Prop} {parent : Option ItemId}
    (hStep : ∀ g g' id, move? g parent id = some g' → P g → P g') (ids : List ItemId) (hg : P g) :
    P (g.setParent ids parent).1 := by
  have hAll : ∀ g, P g → P (g.moveAll parent ids).1 := by
    induction ids with
    | nil => exact fun _ hg => hg
    | cons id rest ih =>
      intro g hg
      unfold moveAll
      split
      · exact ih g hg
      · rename_i g' hMove
        exact ih g' (hStep g g' id hMove hg)
  unfold setParent
  split
  · exact hAll g hg
  · exact hg

/-- Moving items edits no node and adds nothing. -/
theorem setParent_shrinks (g : Graph) (ids : List ItemId) (parent : Option ItemId) :
    g.Shrinks Node.Moves (g.setParent ids parent).1 :=
  setParent_keeps (P := g.Shrinks Node.Moves)
    (fun _ _ _ hMove hg => hg.trans (move?_shrinks hMove)) ids (.refl g)

/-- Putting a group in edits no node and adds no connection. -/
theorem putGroup_shrinks (g : Graph) (group : Group) :
    g.Shrinks Node.Moves (g.putGroup group) :=
  .of_nodes_eq rfl fun _ hc => hc

/-- Toggling a group edits no node and adds no connection. -/
theorem toggle?_shrinks {id : ItemId} {g' : Graph} (h : g.toggle? id = some g') :
    g.Shrinks Node.Moves g' := by
  obtain ⟨group, -, rfl⟩ := Option.map_eq_some_iff.1 h
  split
  · exact putGroup_shrinks g _
  · exact putGroup_shrinks g _

/-! ## Deleting a selection -/

/-- Forgetting the routes of removed connections edits no node otherwise and adds nothing. -/
theorem unrouteAll_shrinks (removed : List Connection) (g : Graph) :
    g.Shrinks Node.Drifts (g.unrouteAll removed).1 := by
  induction removed generalizing g with
  | nil => exact .refl g
  | cons c rest ih =>
    unfold unrouteAll
    split
    · exact ih g
    · rename_i g' hUnroute
      exact (unroute?_eq_some hUnroute).1.shrinks.trans (ih g')

/-- Forgetting routes touches neither groups nor connections. -/
theorem unrouteAll_keeps (removed : List Connection) (g : Graph) :
    (g.unrouteAll removed).1.groups = g.groups ∧
      (g.unrouteAll removed).1.connections = g.connections := by
  induction removed generalizing g with
  | nil => exact ⟨rfl, rfl⟩
  | cons c rest ih =>
    unfold unrouteAll
    split
    · exact ih g
    · rename_i g' hUnroute
      have hRedirects := (unroute?_eq_some hUnroute).1
      exact ⟨(ih g').1.trans hRedirects.groups_eq, (ih g').2.trans hRedirects.connections_eq⟩

/-- Preparing stored nodes afresh changes nothing. -/
theorem prepareAll_eq (hg : g.HasStorableNodes) (ids : List ItemId) : g.prepareAll ids = g := by
  have hSame : g.nodes.toList.map (fun n => if ids.contains n.id then n.prepare else n) =
      g.nodes.toList := by
    apply Lists.map_eq_self
    intro n hn
    split
    · exact hg n hn
    · rfl
  obtain ⟨⟨nodes, hNodup⟩, connections, groups⟩ := g
  simp only [prepareAll, Roster.modify, mk.injEq, and_true]
  exact Roster.ext hSame

/-- The graph after a deletion, before decision tables forget routes. -/
def withoutSelection (g : Graph) (s : Selection) : Graph :=
  let gone := (g.doomed s).sorted
  let released := g.release (g.groupsThatAre false s.groups)
  let rest : Graph :=
    { nodes := released.nodes.filter (fun n => !gone.nodes.contains n.id)
      connections := released.connections
      groups := released.groups.filter (fun h => !gone.groups.contains h.id) }
  rest.dropConnections gone.connections

/-- The nodes that a deletion leaves are stored nodes that are not deleted, some of them moved. -/
theorem mem_nodes_withoutSelection (s : Selection) (n' : Node) :
    n' ∈ (g.withoutSelection s).nodes.toList ↔
      ∃ n ∈ g.nodes.toList, n.id ∉ (g.doomed s).nodes ∧
        n' = if n.parent.any (g.groupsThatAre false s.groups).contains then
          { n with parent := none } else n := by
  show n' ∈ (g.nodes.toList.map _).filter _ ↔ _
  rw [List.mem_filter, List.mem_map]
  have hGone : ∀ id, (g.doomed s).sorted.nodes.contains id = true ↔ id ∈ (g.doomed s).nodes := by
    intro id
    rw [List.contains_iff_mem]
    exact Ordered.mem_ofList
  constructor
  · rintro ⟨⟨n, hn, rfl⟩, hStays⟩
    refine ⟨n, hn, ?_, rfl⟩
    rw [Bool.not_eq_true', Bool.eq_false_iff, Ne, hGone] at hStays
    split at hStays <;> exact hStays
  · rintro ⟨n, hn, hStays, rfl⟩
    refine ⟨⟨n, hn, rfl⟩, ?_⟩
    rw [Bool.not_eq_true', Bool.eq_false_iff, Ne, hGone]
    split <;> exact hStays

/-- What goes when a selection is deleted takes its connections along. -/
theorem withoutSelection_shrinks (g : Graph) (s : Selection) :
    g.Shrinks Node.Moves (g.withoutSelection s) := by
  have hMoves : ∀ n : Node, n.Moves
      (if n.parent.any (g.groupsThatAre false s.groups).contains then { n with parent := none }
        else n) := by
    intro n
    split
    · exact ⟨none, rfl⟩
    · exact Std.Refl.refl n
  refine ⟨?_, ?_, ?_⟩
  · intro n' hn'
    obtain ⟨n, hn, -, rfl⟩ := (mem_nodes_withoutSelection s n').1 hn'
    exact ⟨n, hn, (hMoves n).drifts.id_eq, hMoves n⟩
  · intro c hc
    exact (mem_dropConnections.1 hc).1
  · intro c hc n hn hTouches
    obtain ⟨hStored, hStays⟩ := mem_dropConnections.1 hc
    have hKept : n.id ∉ (g.doomed s).nodes := by
      intro hGone
      refine hStays (Ordered.mem_ofList.2 (List.mem_append_right _ ?_))
      refine List.mem_map_of_mem (List.mem_filter.2 ⟨hStored, ?_⟩)
      rw [Connection.touches, Bool.or_eq_true, beq_iff_eq, beq_iff_eq] at hTouches
      rw [Bool.or_eq_true, List.contains_iff_mem, List.contains_iff_mem]
      rcases hTouches with hSource | hTarget
      · exact .inl (hSource ▸ hGone)
      · exact .inr (hTarget ▸ hGone)
    exact ⟨_, (mem_nodes_withoutSelection s _).2 ⟨n, hn, hKept, rfl⟩, (hMoves n).drifts.id_eq,
      hMoves n⟩

/-- A deletion takes the selection out and then lets tables forget the routes of what has gone. -/
theorem delete_eq (hg : g.HasStorableNodes) (s : Selection) :
    (g.delete s).1 = ((g.withoutSelection s).unrouteAll
      ((g.doomed s).sorted.connections.filterMap g.connection?)).1 := by
  have hRest := (withoutSelection_shrinks g s).drifts.hasStorableNodes hg
  exact prepareAll_eq ((unrouteAll_shrinks _ _).hasStorableNodes hRest) _

/-- A deletion edits no node otherwise and adds nothing. -/
theorem delete_shrinks (hg : g.HasStorableNodes) (s : Selection) :
    g.Shrinks Node.Drifts (g.delete s).1 := by
  rw [delete_eq hg]
  exact (withoutSelection_shrinks g s).drifts.trans (unrouteAll_shrinks _ _)

end Graph

end FlowCanvas
