import FlowCanvas.Proofs.Graph.SingleRoute
import Mathlib

/-!
# One decision table in sync

The connections that leave one decision table are in line with it (`Graph.IsInSyncAt`) if each of
them leaves an output of its own and the table leads where they do. Connecting, disconnecting and
deleting keep that, whatever the rest of the graph is like, and so a connection stays when the table
is edited as long as its route does (`Graph.IsInSyncAt.updateNode?_iff`).
-/

set_option autoImplicit false

namespace FlowCanvas

namespace Graph

/-- The connections that leave a decision table by its outputs are in line with it. -/
structure IsInSyncAt (g : Graph) (id : ItemId) : Prop where
  /-- There is such a table. -/
  isTable : ∃ t, g.tableOf? id = some t
  /-- They leave ports that the table has. -/
  hasPort : ∀ c ∈ g.connections.toList, leaves id c = true →
    ∃ p, g.HasPort id p ∧ p.id = c.sourcePort
  /-- No two of them leave the same port. -/
  eq_of_sourcePort_eq : ∀ c ∈ g.connections.toList, ∀ d ∈ g.connections.toList,
    leaves id c = true → leaves id d = true → d.sourcePort = c.sourcePort → c = d
  /-- The table leads where they do. -/
  follows : ∀ c ∈ g.connections.toList, leaves id c = true → g.Follows c

/-- A connection leaves a decision table, and the table leads from there to the name of the node at
the end of the connection. -/
def IsFollowed (g : Graph) (c : Connection) : Prop :=
  ∃ t target, g.tableOf? c.sourceNode = some t ∧ g.node? c.targetNode = some target ∧
    (c.sourcePort.role, some target.name) ∈ t.bindings

variable {g g' : Graph} {id : ItemId} {c d : Connection}

/-- A connection leaves a table by an output if the table is its source and the role is an
output's. -/
theorem leaves_iff :
    leaves id c = true ↔ c.sourceNode = id ∧ c.sourcePort.role.isDecisionOutput = true := by
  rw [leaves, Bool.and_eq_true, beq_iff_eq]

/-- The decision table of an id is the one in the data of the node with that id. -/
theorem tableOf?_eq_some {t : DecisionTable} :
    g.tableOf? id = some t ↔ ∃ n, g.node? id = some n ∧ n.data = .decisionTable t := by
  unfold tableOf?
  simp only [Option.bind_eq_some_iff, Node.table?_eq_some]

/-- The flags of a stored table are fresh. -/
theorem HasStorableNodes.isFresh (hg : g.HasStorableNodes) {t : DecisionTable}
    (hTable : g.tableOf? id = some t) : t.IsFresh := by
  obtain ⟨n, hNode, hData⟩ := tableOf?_eq_some.1 hTable
  exact (hg n (node?_eq_some.1 hNode).1).isFresh hData

/-- A connection that leaves a table is followed if the table leads to its target. -/
theorem IsFollowed.follows (h : g.IsFollowed c) : g.Follows c := by
  obtain ⟨t, target, hTable, hTarget, hRoute⟩ := h
  obtain ⟨n, hNode, hData⟩ := tableOf?_eq_some.1 hTable
  intro source u hSource hSourceData _
  rw [hNode, Option.some.injEq] at hSource
  subst hSource
  rw [hData, Payload.decisionTable.injEq] at hSourceData
  subst hSourceData
  exact ⟨target, hTarget, hRoute⟩

/-- Whether a connection is followed depends on the nodes only. -/
theorem IsFollowed.of_nodes_eq (h : g.IsFollowed c) (hNodes : g'.nodes = g.nodes) :
    g'.IsFollowed c := by
  unfold IsFollowed tableOf? node? at h ⊢
  rwa [hNodes]

/-- A graph contains the ids of its nodes. -/
theorem contains_nodes_iff : g.nodes.contains id = true ↔ ∃ n ∈ g.nodes.toList, n.id = id := by
  rw [Roster.contains_iff, List.mem_map]
  rfl

/-- A graph contains the id of a decision table that it finds. -/
theorem contains_of_tableOf? {t : DecisionTable} (h : g.tableOf? id = some t) :
    g.nodes.contains id = true := by
  obtain ⟨n, hNode, -⟩ := tableOf?_eq_some.1 h
  exact contains_nodes_iff.2 ⟨n, node?_eq_some.1 hNode⟩

/-- Redirecting a route takes no node away. -/
theorem Redirects.contains_nodes {other : ItemId} {role : Role} {next : Option String}
    (h : g.Redirects other role next g') (hId : g.nodes.contains id = true) :
    g'.nodes.contains id = true := by
  obtain ⟨m, hm, rfl⟩ := contains_nodes_iff.1 hId
  obtain ⟨m', hm', -⟩ := h.name_eq (node?_eq_some.2 ⟨hm, rfl⟩)
  exact contains_nodes_iff.2 ⟨m', node?_eq_some.1 hm'⟩

/-- Routing along a connection takes no node away. -/
theorem contains_routeAlong (hg : g.HasStorableNodes) (c : Connection)
    (hId : g.nodes.contains id = true) : (g.routeAlong c).nodes.contains id = true := by
  rcases routeAlong_cases hg c with hSame | ⟨-, _, -, hRedirects⟩
  · rw [hSame]
    exact hId
  · exact hRedirects.contains_nodes hId

namespace Shrinks

/-- What is left of a decision table is one. -/
theorem exists_tableOf? (h : g.Shrinks Node.Drifts g') {t : DecisionTable}
    (hTable : g.tableOf? id = some t) (hStays : g'.nodes.contains id = true) :
    ∃ u, g'.tableOf? id = some u := by
  obtain ⟨n, hNode, hData⟩ := tableOf?_eq_some.1 hTable
  obtain ⟨n', hn', hId'⟩ := contains_nodes_iff.1 hStays
  obtain ⟨m, hm, hId, hDrifts⟩ := h.nodes n' hn'
  have hSame := node?_eq_some.2 ⟨hm, hId.symm.trans hId'⟩
  rw [hNode, Option.some.injEq] at hSame
  subst hSame
  have hTable' : ∃ u, n'.data = .decisionTable u :=
    hDrifts.keeps (P := fun k => ∃ u, k.data = .decisionTable u) ⟨t, hData⟩ (fun _ _ hk => hk)
      fun _ _ u _ _ _ _ _ => ⟨u, rfl⟩
  obtain ⟨u, hu⟩ := hTable'
  exact ⟨u, tableOf?_eq_some.2 ⟨n', node?_eq_some.2 ⟨hn', hId'⟩, hu⟩⟩

/-- A node that a connection leaves keeps its ports. -/
theorem hasPort (h : g.Shrinks Node.Drifts g') (hc : c ∈ g'.connections.toList)
    (hLeaves : leaves id c = true) {p : Port} (hp : g.HasPort id p) : g'.HasPort id p := by
  obtain ⟨n, hn, hId, hMem⟩ := hp
  have hTouches : c.touches n.id = true := by
    simp [Connection.touches, hId, (leaves_iff.1 hLeaves).1]
  obtain ⟨n', hn', hId', hDrifts⟩ := h.ends c hc n hn hTouches
  exact ⟨n', hn', hId'.trans hId, hDrifts.ports_eq ▸ hMem⟩

end Shrinks

/-- What the outputs of a stored table are like. -/
theorem eq_portSpec_of_hasPort (hg : g.HasStorableNodes) {t : DecisionTable}
    (hTable : g.tableOf? id = some t) {p : Port} (hp : g.HasPort id p)
    (hRole : p.id.role.isDecisionOutput = true) :
    p = (DecisionTable.portSpec p.id.role).on id ∧ p.id.role ∈ t.outputRoles := by
  obtain ⟨n, hNode, hData⟩ := tableOf?_eq_some.1 hTable
  obtain ⟨m, hm, hmId, hpm⟩ := hp
  have hSame := node?_eq_some.2 ⟨hm, hmId⟩
  rw [hNode, Option.some.injEq] at hSame
  subst hSame
  obtain ⟨r, hr, rfl⟩ := ((hg n hm).mem_ports_table hData).1 hpm
  have hKey : ((DecisionTable.portSpec r).on n.id).id.role = r := DecisionTable.role_portSpec r
  rw [hKey] at hRole ⊢
  refine ⟨by rw [hmId], ?_⟩
  rcases List.mem_cons.1 hr with rfl | hOutput
  · exact absurd hRole (by decide)
  · exact hOutput

/-- A decision output of a stored table has the key that belongs to it and is one of the table's. -/
theorem eq_of_hasPort (hg : g.HasStorableNodes) {t : DecisionTable}
    (hTable : g.tableOf? id = some t) {port : PortId} (hPort : ∃ p, g.HasPort id p ∧ p.id = port)
    (hRole : port.role.isDecisionOutput = true) :
    port = ⟨id, port.role⟩ ∧ port.role ∈ t.outputRoles := by
  obtain ⟨p, hp, rfl⟩ := hPort
  obtain ⟨hSpec, hOutput⟩ := eq_portSpec_of_hasPort hg hTable hp hRole
  refine ⟨?_, hOutput⟩
  rw [hSpec, PortSpec.on, DecisionTable.role_portSpec]

namespace IsInSyncAt

/-! ## The outputs that connections leave -/

/-- A connection that leaves the table leaves it by an output that the table has. -/
theorem sourcePort_eq (hg : g.HasStorableNodes) (h : g.IsInSyncAt id)
    (hc : c ∈ g.connections.toList) (hLeaves : leaves id c = true) {t : DecisionTable}
    (hTable : g.tableOf? id = some t) :
    c.sourcePort = ⟨id, c.sourcePort.role⟩ ∧ c.sourcePort.role ∈ t.outputRoles :=
  eq_of_hasPort hg hTable (h.hasPort c hc hLeaves) (leaves_iff.1 hLeaves).2

/-- In a graph that is in sync at a table, connections leave it by roles in normal form. -/
theorem isNormal_sourceRole (hg : g.HasStorableNodes) (h : g.IsInSyncAt id)
    (hc : c ∈ g.connections.toList) (hLeaves : leaves id c = true) {t : DecisionTable}
    (hTable : g.tableOf? id = some t) : c.sourcePort.role.IsNormal :=
  DecisionTable.isNormal_of_mem_outputRoles (h.sourcePort_eq hg hc hLeaves hTable).2

/-- Each output has one connection at most. -/
theorem eq_of_sourceRole_eq (hg : g.HasStorableNodes) (h : g.IsInSyncAt id)
    (hc : c ∈ g.connections.toList) (hd : d ∈ g.connections.toList) (hcLeaves : leaves id c = true)
    (hdLeaves : leaves id d = true) {t : DecisionTable} (hTable : g.tableOf? id = some t)
    (hRole : d.sourcePort.role = c.sourcePort.role) : c = d := by
  refine h.eq_of_sourcePort_eq c hc d hd hcLeaves hdLeaves ?_
  rw [(h.sourcePort_eq hg hd hdLeaves hTable).1, (h.sourcePort_eq hg hc hcLeaves hTable).1, hRole]

/-- In a graph that is in sync at a table, connections that leave it are followed. -/
theorem isFollowed (h : g.IsInSyncAt id) (hc : c ∈ g.connections.toList)
    (hLeaves : leaves id c = true) {t : DecisionTable} (hTable : g.tableOf? id = some t) :
    g.IsFollowed c := by
  obtain ⟨n, hNode, hData⟩ := tableOf?_eq_some.1 hTable
  obtain ⟨hSource, hRole⟩ := leaves_iff.1 hLeaves
  obtain ⟨target, hTarget, hRoute⟩ := h.follows c hc hLeaves n t (hSource.symm ▸ hNode) hData hRole
  exact ⟨t, target, hSource.symm ▸ hTable, hTarget, hRoute⟩

/-! ## Keeping in sync -/

/-- The connections of a table stay in line with it when they become fewer, as long as the table
keeps its ports and they their routes. -/
theorem mono (h : g.IsInSyncAt id) (hTable : ∃ t, g'.tableOf? id = some t)
    (hConnections : ∀ c ∈ g'.connections.toList, c ∈ g.connections.toList)
    (hPorts : ∀ c ∈ g'.connections.toList, leaves id c = true → ∀ p, g.HasPort id p →
      g'.HasPort id p)
    (hFollows : ∀ c ∈ g'.connections.toList, leaves id c = true → g.Follows c → g'.Follows c) :
    g'.IsInSyncAt id where
  isTable := hTable
  hasPort := by
    intro c hc hLeaves
    obtain ⟨p, hp, hpId⟩ := h.hasPort c (hConnections c hc) hLeaves
    exact ⟨p, hPorts c hc hLeaves p hp, hpId⟩
  eq_of_sourcePort_eq := fun c hc d hd =>
    h.eq_of_sourcePort_eq c (hConnections c hc) d (hConnections d hd)
  follows := fun c hc hLeaves =>
    hFollows c hc hLeaves (h.follows c (hConnections c hc) hLeaves)

/-- Moving and deleting other items keep a table in sync. -/
theorem shrinks (h : g.IsInSyncAt id) (hShrinks : g.Shrinks Node.Moves g')
    (hStays : g'.nodes.contains id = true) : g'.IsInSyncAt id := by
  obtain ⟨t, hTable⟩ := h.isTable
  exact h.mono (hShrinks.drifts.exists_tableOf? hTable hStays) hShrinks.connections
    (fun _ hc hLeaves _ hp => hShrinks.drifts.hasPort hc hLeaves hp)
    fun _ hc _ hFollows => hFollows.shrinks hShrinks hc

/-- Redirecting an output keeps a table in sync, unless a connection leaves it by that output. -/
theorem redirects (hg : g.HasStorableNodes) (h : g.IsInSyncAt id) {other : ItemId} {role : Role}
    {next : Option String} (hRedirects : g.Redirects other role next g')
    (hVacant : ∀ d ∈ g.connections.toList, leaves id d = true → d.sourceNode = other →
      d.sourcePort.role ≠ role.normalize) : g'.IsInSyncAt id := by
  obtain ⟨t, hTable⟩ := h.isTable
  have hStays := hRedirects.contains_nodes (contains_of_tableOf? hTable)
  refine h.mono (hRedirects.shrinks.exists_tableOf? hTable hStays)
    (fun _ hc => hRedirects.connections_eq ▸ hc)
    (fun _ hc hLeaves _ hp => hRedirects.shrinks.hasPort hc hLeaves hp) ?_
  intro d hd hLeaves hFollows
  exact hFollows.redirects hg hRedirects fun _ _ _ _ _ hNode =>
    hVacant d (hRedirects.connections_eq ▸ hd) hLeaves hNode

/-- Forgetting the route of an output that no connection leaves keeps a table in sync. -/
theorem unroute? (hg : g.HasStorableNodes) (h : g.IsInSyncAt id)
    (hUnroute : g.unroute? c = some g') : g'.IsInSyncAt id := by
  obtain ⟨t, hTable⟩ := h.isTable
  obtain ⟨hRedirects, hVacant⟩ := unroute?_eq_some hUnroute
  refine h.redirects hg hRedirects fun d hd hLeaves hNode hSame => hVacant d hd hNode ?_
  exact (h.isNormal_sourceRole hg hd hLeaves hTable).trans hSame

/-- A graph stays in sync at a table when connections are dropped. -/
theorem dropConnections (h : g.IsInSyncAt id) (ids : List ConnectionId) :
    (g.dropConnections ids).IsInSyncAt id := by
  obtain ⟨t, hTable⟩ := h.isTable
  exact h.shrinks (dropConnections_shrinks g ids) (contains_of_tableOf? hTable)

/-- A graph stays in sync at a table when a connection is removed. -/
theorem removeConnection? (hg : g.HasStorableNodes) (h : g.IsInSyncAt id) {key : ConnectionId}
    (hRemove : g.removeConnection? key = some g') : g'.IsInSyncAt id := by
  obtain ⟨c, -, rfl⟩ := removeConnection?_eq_some hRemove
  have hRest := h.dropConnections [key]
  cases hUnroute : (g.dropConnections [key]).unroute? c with
  | none => exact hRest
  | some g' =>
    have hStorable := (dropConnections_shrinks g [key]).drifts.hasStorableNodes hg
    exact hRest.unroute? hStorable hUnroute

/-- A graph stays in sync at a table when tables forget the routes of removed connections. -/
theorem unrouteAll (hg : g.HasStorableNodes) (h : g.IsInSyncAt id) (removed : List Connection) :
    (g.unrouteAll removed).1.IsInSyncAt id := by
  induction removed generalizing g with
  | nil => exact h
  | cons c rest ih =>
    unfold Graph.unrouteAll
    split
    · exact ih hg h
    · rename_i g' hUnroute
      have hStorable := (unroute?_eq_some hUnroute).1.shrinks.hasStorableNodes hg
      exact ih hStorable (h.unroute? hg hUnroute)

/-- Deleting a selection without the table keeps it in sync. -/
theorem delete (hg : g.HasStorableNodes) (h : g.IsInSyncAt id) {s : Selection}
    (hStays : (g.delete s).1.nodes.contains id = true) : (g.delete s).1.IsInSyncAt id := by
  rw [delete_eq hg] at hStays ⊢
  have hRest := withoutSelection_shrinks g s
  have hKept : (g.withoutSelection s).nodes.contains id = true := by
    rw [contains_nodes_iff] at hStays ⊢
    obtain ⟨n', hn', rfl⟩ := hStays
    obtain ⟨n, hn, hId, -⟩ := (unrouteAll_shrinks _ _).nodes n' hn'
    exact ⟨n, hn, hId.symm⟩
  exact (h.shrinks hRest hKept).unrouteAll (hRest.drifts.hasStorableNodes hg) _

/-! ## Connecting -/

/-- A connection that is stored and leaves the table leaves one of its ports, and no other
connection leaves that. -/
theorem exists_of_insertConnection (hg : g.HasStorableNodes) (h : g.IsInSyncAt id)
    (hInsert : g.insertConnection c = .ok g') (hLeaves : leaves id c = true) :
    (∃ p, g.HasPort id p ∧ p.id = c.sourcePort) ∧
      ∀ d ∈ g.connections.toList, d.sourcePort ≠ c.sourcePort := by
  obtain ⟨t, hTable⟩ := h.isTable
  obtain ⟨hSource, hRole⟩ := leaves_iff.1 hLeaves
  obtain ⟨source, target, p, q, hNode, -, hp, -, -, -, -, -, hObstacle, -⟩ :=
    Graph.exists_of_insertConnection hInsert
  obtain ⟨-, -, hFull, -, -⟩ := obstacle?_eq_none_iff.1 hObstacle
  obtain ⟨hPort, hpId⟩ := hasPort_of_portById? hNode hp
  rw [hSource] at hPort
  obtain ⟨hSpec, hOutput⟩ := eq_portSpec_of_hasPort hg hTable hPort (hpId.symm ▸ hRole)
  have hSingle : p.spec.multiple = false := by
    rw [hSpec]
    exact multiple_portSpec hOutput
  have hVacant : g.isOccupied p.id = false := by simpa [isFull, hSingle] using hFull
  refine ⟨⟨p, hPort, hpId⟩, fun d hd hSame => ?_⟩
  refine List.any_eq_false.1 hVacant d hd ?_
  simp [Connection.occupies, hSame, hpId]

/-- An old connection that leaves the table still follows its route when a new one is drawn. -/
theorem follows_routeAlong_of_mem (hg : g.HasStorableNodes) (h : g.IsInSyncAt id)
    (hInsert : g.insertConnection c = .ok g') (hd : d ∈ g.connections.toList)
    (hLeaves : leaves id d = true) : (g'.routeAlong c).Follows d := by
  obtain ⟨t, hTable⟩ := h.isTable
  have hEnds := h.exists_of_insertConnection hg hInsert
  obtain ⟨-, rfl⟩ := eq_put_of_insertConnection hInsert
  have hStorable : HasStorableNodes { g with connections := g.connections.put c } := hg
  have hFollows : Follows { g with connections := g.connections.put c } d := h.follows d hd hLeaves
  refine hFollows.routeAlong hStorable fun _ _ _ _ hRole hNode hSame => ?_
  -- the old connection would leave the output of the new one
  have hcLeaves : leaves id c = true :=
    leaves_iff.2 ⟨hNode.symm.trans (leaves_iff.1 hLeaves).1, hRole⟩
  obtain ⟨hcPort, hOutput⟩ := eq_of_hasPort hg hTable (hEnds hcLeaves).1 hRole
  have hNormal := DecisionTable.isNormal_of_mem_outputRoles hOutput
  refine (hEnds hcLeaves).2 d hd ?_
  rw [(h.sourcePort_eq hg hd hLeaves hTable).1, hcPort, hSame.trans hNormal]

/-- A new connection that leaves the table follows its route once the table has been made to. -/
theorem follows_routeAlong_new (hg : g.HasStorableNodes) (h : g.IsInSyncAt id)
    (hInsert : g.insertConnection c = .ok g') (hLeaves : leaves id c = true) :
    (g'.routeAlong c).Follows c := by
  have hEnds := h.exists_of_insertConnection hg hInsert
  obtain ⟨source, target, -, -, -, hTarget, -, -, -, -, -, -, -, rfl⟩ :=
    Graph.exists_of_insertConnection hInsert
  have hStorable : HasStorableNodes { g with connections := g.connections.put c } := hg
  refine follows_routeAlong hStorable hTarget ?_
  intro source t hSource hData hRole
  have hTable := tableOf?_eq_some.2 ⟨source, hSource, hData⟩
  rw [(leaves_iff.1 hLeaves).1] at hTable
  exact (eq_of_hasPort hg hTable (hEnds hLeaves).1 hRole).2

/-- A connection that is stored does not disturb the others. -/
theorem addConnection (hg : g.HasStorableNodes) (h : g.IsInSyncAt id)
    (hAdd : g.addConnection c = .ok g') : g'.IsInSyncAt id := by
  obtain ⟨stored, hInsert, rfl⟩ := exists_of_addConnection hAdd
  obtain ⟨t, hTable⟩ := h.isTable
  have hEnds := h.exists_of_insertConnection hg hInsert
  have hOld := fun d => h.follows_routeAlong_of_mem (d := d) hg hInsert
  have hFollows := h.follows_routeAlong_new hg hInsert
  obtain ⟨hNew, rfl⟩ := eq_put_of_insertConnection hInsert
  have hStorable : HasStorableNodes { g with connections := g.connections.put c } := hg
  have hShrinks := routeAlong_shrinks hStorable c
  have hMem : ∀ d ∈ (routeAlong { g with connections := g.connections.put c } c).connections.toList,
      d ∈ g.connections.toList ∨ d = c := by
    intro d hd
    have hStored := hShrinks.connections d hd
    rwa [Roster.toList_put_of_new hNew, List.mem_append, List.mem_singleton] at hStored
  have hStays := contains_routeAlong hStorable c (contains_of_tableOf? hTable)
  refine ⟨hShrinks.exists_tableOf? hTable hStays, ?_, ?_, ?_⟩
  · intro d hd hLeaves
    have hPort : ∃ p, g.HasPort id p ∧ p.id = d.sourcePort := by
      rcases hMem d hd with hdOld | rfl
      · exact h.hasPort d hdOld hLeaves
      · exact (hEnds hLeaves).1
    obtain ⟨p, hp, hpId⟩ := hPort
    exact ⟨p, hShrinks.hasPort hd hLeaves hp, hpId⟩
  · intro d hd e he hdLeaves heLeaves hSame
    rcases hMem d hd with hdOld | rfl <;> rcases hMem e he with heOld | rfl
    · exact h.eq_of_sourcePort_eq d hdOld e heOld hdLeaves heLeaves hSame
    · exact absurd hSame.symm ((hEnds heLeaves).2 d hdOld)
    · exact absurd hSame ((hEnds hdLeaves).2 e heOld)
    · rfl
  · intro d hd hLeaves
    rcases hMem d hd with hdOld | rfl
    · exact hOld d hdOld hLeaves
    · exact hFollows hLeaves

end IsInSyncAt

/-! ## Editing the table -/

/-- When a table is put in that leads where the old one did, a connection stays followed unless it
ends at the table itself, and that has got another name. -/
theorem IsFollowed.putNode_iff (h : g.IsFollowed c) {n : Node} {u : DecisionTable}
    (hSource : c.sourceNode = n.id) (hData : n.prepare.data = .decisionTable u)
    (hRoutes : ∀ t name, g.tableOf? n.id = some t → (c.sourcePort.role, some name) ∈ t.bindings →
      (c.sourcePort.role, some name) ∈ u.bindings) :
    (g.putNode n).IsFollowed c ↔
      (c.targetNode = n.id → some n.name = (g.node? n.id).map Node.name) := by
  obtain ⟨t, target, hTable, hTarget, hRoute⟩ := h
  have hNew : (g.putNode n).tableOf? c.sourceNode = some u := by
    rw [hSource, tableOf?_putNode, Node.table?_eq_some.2 hData]
  have hKept := hRoutes t target.name (hSource ▸ hTable) hRoute
  have hFresh : u.IsFresh := n.isStorable_prepare.isFresh hData
  constructor
  · rintro ⟨v, m, hv, hm, hLeads⟩ hSelf
    rw [hNew, Option.some.injEq] at hv
    subst hv
    rw [hSelf, node?_putNode, if_pos rfl, Option.some.injEq] at hm
    subst hm
    rw [n.prepare_name] at hLeads
    -- the table leads to one name from each output
    have hOne := List.inj_on_of_nodup_map hFresh.nodup_outputRoles hLeads hKept rfl
    rw [← hSelf, hTarget, Option.map_some]
    exact congrArg Prod.snd hOne
  · intro hName
    by_cases hSelf : c.targetNode = n.id
    · refine ⟨u, n.prepare, hNew, ?_, ?_⟩
      · rw [node?_putNode, if_pos hSelf.symm]
      · have hSame := hName hSelf
        rw [← hSelf, hTarget, Option.map_some] at hSame
        rw [n.prepare_name, hSame]
        exact hKept
    · refine ⟨u, target, hNew, ?_, hKept⟩
      rw [node?_putNode, if_neg (Ne.symm hSelf), hTarget]

/-- An update changes no other node than the given one. -/
theorem nodes_updateNode? {n : Node} {refusals : List Refusal}
    (h : g.updateNode? n false = some (g', refusals)) : g'.nodes = (g.putNode n).nodes := by
  obtain ⟨stored, -, ⟨-, rfl⟩ | ⟨-, -, -, -, -, hReroute⟩⟩ := updateNode?_eq_some h
  · rfl
  · obtain ⟨u, -, rfl⟩ := reroute?_eq_some hReroute
    exact nodes_drawRoutes _ _ _ _

/-- When the table is edited, a connection stays and is followed if the new table leads where it
does. -/
theorem IsInSyncAt.updateNode?_iff {n : Node} (hg : g.HasStorableNodes) (h : g.IsInSyncAt n.id)
    (hc : c ∈ g.connections.toList) (hLeaves : leaves n.id c = true) {refusals : List Refusal}
    (hUpdate : g.updateNode? n false = some (g', refusals)) :
    c ∈ g'.connections.toList ∧ g'.IsFollowed c ↔ (g.putNode n).IsFollowed c := by
  refine ⟨fun hAfter => hAfter.2.of_nodes_eq (nodes_updateNode? hUpdate).symm, fun hFollowed => ?_⟩
  refine ⟨?_, hFollowed.of_nodes_eq (nodes_updateNode? hUpdate)⟩
  obtain ⟨stored, -, ⟨-, rfl⟩ | ⟨-, -, -, -, -, hReroute⟩⟩ := updateNode?_eq_some hUpdate
  · exact hc
  · obtain ⟨u, hTable, rfl⟩ := reroute?_eq_some hReroute
    obtain ⟨t, hOld⟩ := h.isTable
    refine mem_drawRoutes_of_mem _ (mem_dropConnections.2 ⟨hc, notMem_stale hc ?_ ?_⟩)
    · intro _ d hd hdLeaves hSame
      have hcNormal := h.isNormal_sourceRole hg hc hLeaves hOld
      have hdNormal := h.isNormal_sourceRole hg hd hdLeaves hOld
      exact (h.eq_of_sourceRole_eq hg hc hd hLeaves hdLeaves hOld
        (hdNormal.symm.trans (hSame.trans hcNormal))).symm
    · intro _
      obtain ⟨v, target, hNew, hTarget, hRoute⟩ := hFollowed
      rw [(leaves_iff.1 hLeaves).1, hTable, Option.some.injEq] at hNew
      subst hNew
      rw [isRouted_iff, h.isNormal_sourceRole hg hc hLeaves hOld, targetName?, hTarget]
      exact ⟨rfl, hRoute⟩

end Graph

end FlowCanvas
