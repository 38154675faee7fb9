import FlowCanvas.Proofs.Graph.Rerouting
import Mathlib

/-!
# Connections and routes

A decision table says by name where its outputs lead, and connections say it on the canvas. A
connection follows its route (`Graph.Follows`) if both say the same, and a graph is in sync
(`Graph.IsInSync`) if all connections do. Drawing, removing and rerouting connections keep a graph
in sync. Decisive is that an output has one connection at most, so that a route that is written for
one connection is not that of another.
-/

set_option autoImplicit false

namespace FlowCanvas

namespace Graph

/-- If a connection leaves an output of a decision table, the table leads from that output to the
name of the node at the end of the connection. -/
def Follows (g : Graph) (c : Connection) : Prop :=
  ∀ source t, g.node? c.sourceNode = some source → source.data = .decisionTable t →
    c.sourcePort.role.isDecisionOutput = true →
      ∃ target, g.node? c.targetNode = some target ∧
        (c.sourcePort.role, some target.name) ∈ t.bindings

/-- The wiring is sound, and the connections of decision tables follow their routes. -/
structure IsInSync (g : Graph) : Prop where
  sound : g.IsSound
  follows : ∀ c ∈ g.connections.toList, g.Follows c

variable {g g' : Graph} {c : Connection}

/-! ## Roles of outputs -/

/-- A wired connection that leaves a decision table by a decision output leaves one of the outputs
that the table has. -/
theorem Wires.sourceRole_mem (hg : g.IsPrepared) (h : g.Wires c) {source : Node}
    {t : DecisionTable} (hSource : g.node? c.sourceNode = some source)
    (hData : source.data = .decisionTable t) (hRole : c.sourcePort.role.isDecisionOutput = true) :
    c.sourcePort.role ∈ t.outputRoles := by
  obtain ⟨p, q, ⟨n, hn, hId, hp⟩, hpId, -⟩ := h.ports
  rw [Graph.node?_eq_some.2 ⟨hn, hId⟩, Option.some.injEq] at hSource
  subst hSource
  obtain ⟨r, hr, rfl⟩ := ((hg n hn).isStorable.mem_ports_table hData).1 hp
  have hSame : r = c.sourcePort.role := by
    rw [← hpId]
    exact (DecisionTable.role_portSpec r).symm
  rw [← hSame] at hRole ⊢
  rcases List.mem_cons.1 hr with rfl | hOutput
  · exact absurd hRole (by decide)
  · exact hOutput

/-- A connection leaves a decision output by a role in normal form. -/
theorem Wires.isNormal_sourceRole (hg : g.IsPrepared) (h : g.Wires c) {source : Node}
    {t : DecisionTable} (hSource : g.node? c.sourceNode = some source)
    (hData : source.data = .decisionTable t) (hRole : c.sourcePort.role.isDecisionOutput = true) :
    c.sourcePort.role.IsNormal :=
  DecisionTable.isNormal_of_mem_outputRoles (h.sourceRole_mem hg hSource hData hRole)

/-- An output of a decision table takes one connection only. -/
theorem multiple_portSpec {t : DecisionTable} {r : Role} (hr : r ∈ t.outputRoles) :
    (DecisionTable.portSpec r).multiple = false := by
  have hNotIn : r ≠ Role.tableIn := by
    rintro rfl
    exact t.tableIn_notMem_outputRoles hr
  unfold DecisionTable.portSpec
  rw [if_neg hNotIn]
  split
  · rfl
  · split <;> rfl

/-- An output of a decision table has one connection at most. -/
theorem IsSound.eq_of_sourceRole_eq (hg : g.IsSound) {d : Connection}
    (hc : c ∈ g.connections.toList) (hd : d ∈ g.connections.toList) {source : Node}
    {t : DecisionTable} (hSource : g.node? c.sourceNode = some source)
    (hData : source.data = .decisionTable t) (hRole : c.sourcePort.role.isDecisionOutput = true)
    (hNode : d.sourceNode = c.sourceNode) (hSame : d.sourcePort.role = c.sourcePort.role) :
    c = d := by
  have hWires := hg.wires c hc
  have hMem := hWires.sourceRole_mem hg.isPrepared hSource hData hRole
  have hPort : d.sourcePort = c.sourcePort := by
    have hNodePort : d.sourcePort.node = c.sourcePort.node := by
      rw [hWires.node_sourcePort hg.isPrepared, (hg.wires d hd).node_sourcePort hg.isPrepared,
        hNode]
    calc d.sourcePort = ⟨d.sourcePort.node, d.sourcePort.role⟩ := rfl
      _ = ⟨c.sourcePort.node, c.sourcePort.role⟩ := by rw [hNodePort, hSame]
  obtain ⟨p, q, ⟨n, hn, hId, hp⟩, hpId, -⟩ := hWires.ports
  rw [Graph.node?_eq_some.2 ⟨hn, hId⟩, Option.some.injEq] at hSource
  subst hSource
  obtain ⟨r, hr, rfl⟩ := ((hg.isPrepared n hn).isStorable.mem_ports_table hData).1 hp
  have hRoleEq : r = c.sourcePort.role := by
    rw [← hpId]
    exact (DecisionTable.role_portSpec r).symm
  refine hg.eq_of_occupies c.sourceNode _ ⟨n, hn, hId, hp⟩ ?_ c hc d hd ?_ ?_
  · exact multiple_portSpec (hRoleEq ▸ hMem)
  · simp [Connection.occupies, hpId]
  · simp [Connection.occupies, hpId, hPort]

/-- The route of an output is the only one for its role. -/
theorem IsInSync.eq_of_mem_bindings (hg : g.IsInSync) (hc : c ∈ g.connections.toList)
    {source target : Node} {t : DecisionTable} (hSource : g.node? c.sourceNode = some source)
    (hData : source.data = .decisionTable t) (hRole : c.sourcePort.role.isDecisionOutput = true)
    (hTarget : g.node? c.targetNode = some target) {next : Option String}
    (hNext : (c.sourcePort.role, next) ∈ t.bindings) : next = some target.name := by
  obtain ⟨target', hTarget', hEntry⟩ := hg.follows c hc source t hSource hData hRole
  rw [hTarget, Option.some.injEq] at hTarget'
  subst hTarget'
  have hFresh := (hg.sound.isPrepared source (node?_eq_some.1 hSource).1).isStorable.isFresh hData
  exact congrArg Prod.snd (List.inj_on_of_nodup_map hFresh.nodup_outputRoles hNext hEntry rfl)

/-! ## Keeping in sync -/

/-- A connection follows its route as long as the route and the name of its target stay. -/
theorem Follows.transfer (h : g.Follows c)
    (hSource : ∀ source' t', g'.node? c.sourceNode = some source' →
      source'.data = .decisionTable t' → c.sourcePort.role.isDecisionOutput = true →
        ∃ source t, g.node? c.sourceNode = some source ∧ source.data = .decisionTable t ∧
          ∀ name, (c.sourcePort.role, some name) ∈ t.bindings →
            (c.sourcePort.role, some name) ∈ t'.bindings)
    (hTarget : ∀ target, g.node? c.targetNode = some target →
      ∃ target', g'.node? c.targetNode = some target' ∧ target'.name = target.name) :
    g'.Follows c := by
  intro source' t' hSource' hData' hRole
  obtain ⟨source, t, hOld, hData, hRoutes⟩ := hSource source' t' hSource' hData' hRole
  obtain ⟨target, hTargetOld, hEntry⟩ := h source t hOld hData hRole
  obtain ⟨target', hTarget', hName⟩ := hTarget target hTargetOld
  exact ⟨target', hTarget', hName ▸ hRoutes _ hEntry⟩

/-- A connection that is left when items are moved and deleted follows its route as before. -/
theorem Follows.shrinks (hFollows : g.Follows c) (h : g.Shrinks Node.Moves g')
    (hc : c ∈ g'.connections.toList) : g'.Follows c := by
  refine hFollows.transfer ?_ ?_
  · intro source' t' hSource' hData' _
    obtain ⟨hs', hsId'⟩ := node?_eq_some.1 hSource'
    obtain ⟨source, hs, hId, parent, rfl⟩ := h.nodes source' hs'
    exact ⟨source, t', node?_eq_some.2 ⟨hs, hId.symm.trans hsId'⟩, hData', fun _ h => h⟩
  · intro target hTarget
    obtain ⟨ht, htId⟩ := node?_eq_some.1 hTarget
    have hTouches : c.touches target.id = true := by simp [Connection.touches, htId]
    obtain ⟨target', ht', hId, hMoves⟩ := h.ends c hc target ht hTouches
    exact ⟨target', node?_eq_some.2 ⟨ht', hId.trans htId⟩, hMoves.drifts.name_eq⟩

/-- Moving and deleting items keep a graph in sync. -/
theorem IsInSync.shrinks (hg : g.IsInSync) (h : g.Shrinks Node.Moves g') : g'.IsInSync :=
  ⟨hg.sound.shrinks h.drifts, fun c hc => (hg.follows c (h.connections c hc)).shrinks h hc⟩

/-- Redirecting an output leaves the names of nodes alone. -/
theorem Redirects.name_eq {id : ItemId} {role : Role} {next : Option String}
    (h : g.Redirects id role next g') {node : ItemId} {target : Node}
    (hTarget : g.node? node = some target) :
    ∃ target', g'.node? node = some target' ∧ target'.name = target.name := by
  obtain ⟨n, t, t', hNode, -, -, rfl⟩ := h
  rw [node?_put]
  split
  · rename_i hSame
    have hId : id = node := (node?_eq_some.1 hNode).2.symm.trans hSame
    rw [hId, hTarget, Option.some.injEq] at hNode
    subst hNode
    exact ⟨_, rfl, rfl⟩
  · exact ⟨target, hTarget, rfl⟩

/-- After an output has been redirected its entry leads to the new name, and the other entries of
the graph's tables are as before. -/
theorem Redirects.mem_bindings (hg : g.HasStorableNodes) {id : ItemId} {role : Role}
    {next : Option String} (h : g.Redirects id role next g') {node : ItemId} {source' : Node}
    {t' : DecisionTable} (hSource' : g'.node? node = some source')
    (hData' : source'.data = .decisionTable t') :
    ∃ source t, g.node? node = some source ∧ source.data = .decisionTable t ∧
      ∀ entry, entry ∈ t'.bindings ↔
        ∃ old ∈ t.bindings,
          entry = if node = id ∧ old.1 = role.normalize then (old.1, next) else old := by
  obtain ⟨n, t, u, hNode, hData, hBind, rfl⟩ := h
  obtain ⟨hn, hnId⟩ := node?_eq_some.1 hNode
  rw [node?_put] at hSource'
  split at hSource'
  · rename_i hSame
    have hId : id = node := hnId.symm.trans hSame
    subst hId
    rw [Option.some.injEq] at hSource'
    subst hSource'
    rw [Payload.decisionTable.injEq] at hData'
    subst hData'
    refine ⟨n, t, hNode, hData, fun entry => ?_⟩
    rw [((hg n hn).isFresh hData).bindings_bind? hBind, List.mem_map]
    simp only [true_and, eq_comm]
  · rename_i hOther
    refine ⟨source', t', hSource', hData', fun entry => ?_⟩
    have hNe : node ≠ id := fun hSame => hOther (hnId.trans hSame.symm)
    simp [hNe]

/-- A connection that does not leave the redirected output follows its route as before. -/
theorem Follows.redirects (hg : g.HasStorableNodes) (h : g.Follows c) {id : ItemId} {role : Role}
    {next : Option String} (hRedirects : g.Redirects id role next g')
    (hOther : ∀ source t, g.node? c.sourceNode = some source → source.data = .decisionTable t →
      c.sourcePort.role.isDecisionOutput = true → c.sourceNode = id →
        c.sourcePort.role ≠ role.normalize) :
    g'.Follows c := by
  refine h.transfer ?_ fun _ hTarget => hRedirects.name_eq hTarget
  intro source' t' hSource' hData' hRole
  obtain ⟨source, t, hSource, hData, hEntries⟩ := hRedirects.mem_bindings hg hSource' hData'
  refine ⟨source, t, hSource, hData, fun name hEntry => (hEntries _).2 ⟨_, hEntry, ?_⟩⟩
  rw [if_neg]
  rintro ⟨hNode, hSame⟩
  exact hOther source t hSource hData hRole hNode hSame

/-- Forgetting the route of an output that no connection leaves keeps a graph in sync. -/
theorem IsInSync.unroute? (hg : g.IsInSync) (h : g.unroute? c = some g') : g'.IsInSync := by
  obtain ⟨hRedirects, hVacant⟩ := unroute?_eq_some h
  refine ⟨hg.sound.shrinks hRedirects.shrinks, ?_⟩
  intro d hd
  rw [hRedirects.connections_eq] at hd
  have hWires := hg.sound.wires d hd
  refine (hg.follows d hd).redirects hg.sound.isPrepared.hasStorableNodes hRedirects ?_
  intro source t hSource hData hRole hNode hSame
  have hNormal := hWires.isNormal_sourceRole hg.sound.isPrepared hSource hData hRole
  exact hVacant d hd hNode (hNormal.trans hSame)

/-- Connections follow routes after a connection has been removed. -/
theorem IsInSync.removeConnection? (hg : g.IsInSync) {id : ConnectionId}
    (h : g.removeConnection? id = some g') : g'.IsInSync := by
  obtain ⟨c, -, rfl⟩ := removeConnection?_eq_some h
  have hRest := hg.shrinks (dropConnections_shrinks g [id])
  cases hUnroute : (g.dropConnections [id]).unroute? c with
  | none => exact hRest
  | some g' => exact hRest.unroute? hUnroute

/-- Connections follow routes after tables have forgotten the routes of removed connections. -/
theorem IsInSync.unrouteAll (hg : g.IsInSync) (removed : List Connection) :
    (g.unrouteAll removed).1.IsInSync := by
  induction removed generalizing g with
  | nil => exact hg
  | cons c rest ih =>
    unfold Graph.unrouteAll
    split
    · exact ih hg
    · rename_i g' hUnroute
      exact ih (hg.unroute? hUnroute)

/-- Connections follow routes after a deletion. -/
theorem IsInSync.delete (hg : g.IsInSync) (s : Selection) : (g.delete s).1.IsInSync := by
  rw [delete_eq hg.sound.isPrepared.hasStorableNodes]
  exact (hg.shrinks (withoutSelection_shrinks g s)).unrouteAll _

/-! ## Drawing connections -/

/-- A connection that leaves an output of a decision table makes the table lead to its target. -/
theorem redirects_routeAlong (hg : g.HasStorableNodes) {source target : Node} {t : DecisionTable}
    (hSource : g.node? c.sourceNode = some source) (hTarget : g.node? c.targetNode = some target)
    (hData : source.data = .decisionTable t) (hRole : c.sourcePort.role.isDecisionOutput = true)
    (hMem : c.sourcePort.role ∈ t.outputRoles) :
    g.Redirects c.sourceNode c.sourcePort.role (some target.name) (g.routeAlong c) := by
  have hNormal := DecisionTable.isNormal_of_mem_outputRoles hMem
  obtain ⟨t', hBind⟩ := Option.isSome_iff_exists.1
    (DecisionTable.bind?_isSome_of_mem_outputRoles (some target.name)
      (hNormal.symm ▸ hMem : c.sourcePort.role.normalize ∈ t.outputRoles))
  refine ⟨source, t, t', hSource, hData, hBind, ?_⟩
  have hDrift : source.Drifts { source with data := .decisionTable t' } :=
    .redirected .refl hData hBind
  have hStorable := hDrift.isStorable (hg source (node?_eq_some.1 hSource).1)
  unfold Node.IsStorable at hStorable
  unfold routeAlong
  simp only [hRole, hSource, hTarget, Node.table?_eq_some.2 hData, hBind, putNode, hStorable,
    Bool.not_true, Bool.false_eq_true, if_false]

/-- A connection that has been drawn from an output that the table has follows its route. -/
theorem follows_routeAlong (hg : g.HasStorableNodes) {target : Node}
    (hTarget : g.node? c.targetNode = some target)
    (hOutput : ∀ source t, g.node? c.sourceNode = some source → source.data = .decisionTable t →
      c.sourcePort.role.isDecisionOutput = true → c.sourcePort.role ∈ t.outputRoles) :
    (g.routeAlong c).Follows c := by
  intro source' t' hSource' hData' hRole
  obtain ⟨source, t, hSource, hData⟩ : ∃ source t, g.node? c.sourceNode = some source ∧
      source.data = .decisionTable t := by
    rcases routeAlong_cases hg c with hSame | ⟨-, target, -, hRedirects⟩
    · rw [hSame] at hSource'
      exact ⟨source', t', hSource', hData'⟩
    · obtain ⟨source, t, hSource, hData, -⟩ := hRedirects.mem_bindings hg hSource' hData'
      exact ⟨source, t, hSource, hData⟩
  have hRedirects := redirects_routeAlong hg hSource hTarget hData hRole
    (hOutput source t hSource hData hRole)
  obtain ⟨target', hTarget', hName⟩ := hRedirects.name_eq hTarget
  refine ⟨target', hTarget', ?_⟩
  obtain ⟨source₀, t₀, hSource₀, hData₀, hEntries⟩ := hRedirects.mem_bindings hg hSource' hData'
  have hMem := hOutput source₀ t₀ hSource₀ hData₀ hRole
  obtain ⟨entry, hEntry, hEntryRole⟩ := List.mem_map.1 hMem
  refine (hEntries _).2 ⟨entry, hEntry, ?_⟩
  rw [if_pos ⟨rfl, hEntryRole.trans (DecisionTable.isNormal_of_mem_outputRoles hMem).symm⟩,
    hEntryRole, hName]

/-- A connection still follows its route after another one has been drawn, unless that leaves the
same output. -/
theorem Follows.routeAlong (hg : g.HasStorableNodes) {d : Connection} (h : g.Follows d)
    (hOther : ∀ source t, g.node? d.sourceNode = some source → source.data = .decisionTable t →
      c.sourcePort.role.isDecisionOutput = true → d.sourceNode = c.sourceNode →
        d.sourcePort.role ≠ c.sourcePort.role.normalize) :
    (g.routeAlong c).Follows d := by
  rcases routeAlong_cases hg c with hSame | ⟨hRole, target, hTarget, hRedirects⟩
  · rw [hSame]
    exact h
  · exact h.redirects hg hRedirects fun source t hSource hData _ =>
      hOther source t hSource hData hRole

/-- Connections follow routes after a connection has been added. -/
theorem IsInSync.addConnection (hg : g.IsInSync) (h : g.addConnection c = .ok g') :
    g'.IsInSync := by
  obtain ⟨hAdmits, rfl⟩ := addConnection_eq_ok hg.sound.isPrepared h
  have hStored := hg.sound.insert hAdmits
  have hPrepared := hStored.isPrepared
  have hNew : c ∈ (g.connections.put c).toList := Roster.mem_put.2 (.inl rfl)
  have hShrinks := routeAlong_shrinks hPrepared.hasStorableNodes c
  refine ⟨hStored.shrinks hShrinks, ?_⟩
  intro d hd
  have hdStored := hShrinks.connections d hd
  have hdWires := hStored.wires d hdStored
  rcases Roster.mem_put.1 hdStored with rfl | ⟨hdOld, hKey⟩
  · obtain ⟨-, target, -, hTarget⟩ := hdWires.node?_eq_some
    exact follows_routeAlong hPrepared.hasStorableNodes hTarget
      fun _ _ => hdWires.sourceRole_mem hPrepared
  · have hFollows : Follows { g with connections := g.connections.put c } d := hg.follows d hdOld
    refine hFollows.routeAlong hPrepared.hasStorableNodes ?_
    intro source t hSource hData hRole hNode hSame
    -- the old connection would leave the output of the new one
    have hcSource : Graph.node? { g with connections := g.connections.put c } c.sourceNode =
        some source := hNode ▸ hSource
    have hNormal := (hStored.wires c hNew).isNormal_sourceRole hPrepared hcSource hData hRole
    have hEq := hStored.eq_of_sourceRole_eq hNew hdStored hcSource hData hRole hNode
      (hSame.trans hNormal)
    exact hKey (congrArg Connection.id hEq.symm)

/-! ## Editing nodes -/

/-- Putting in a new node keeps a graph in sync. -/
theorem IsInSync.putNew (hg : g.IsInSync) {n : Node} (hNew : g.node? n.id = none)
    (hSound : (g.putNode n).IsSound) : (g.putNode n).IsInSync := by
  refine ⟨hSound, ?_⟩
  intro c hc
  obtain ⟨source, target, hSource, hTarget⟩ := (hg.sound.wires c hc).node?_eq_some
  have hKeep : ∀ id m, g.node? id = some m → (g.putNode n).node? id = some m := by
    intro id m hm
    rw [node?_putNode, if_neg, hm]
    rintro rfl
    rw [hNew] at hm
    cases hm
  refine (hg.follows c hc).transfer ?_ ?_
  · intro source' t' hSource' hData' _
    rw [hKeep _ _ hSource, Option.some.injEq] at hSource'
    subst hSource'
    exact ⟨source, t', hSource, hData', fun _ h => h⟩
  · intro target' hTarget'
    exact ⟨target', hKeep _ _ hTarget', rfl⟩

/-- An edit that keeps the name of a node keeps the connections following that do not leave it. -/
theorem Follows.putNode (h : g.Follows c) {n stored : Node} (hStored : g.node? n.id = some stored)
    (hName : n.name = stored.name)
    (hTable : ∀ u, n.prepare.data = .decisionTable u → c.sourceNode = n.id →
      c.sourcePort.role.isDecisionOutput = true →
        ∃ t, stored.data = .decisionTable t ∧ ∀ name, (c.sourcePort.role, some name) ∈ t.bindings →
          (c.sourcePort.role, some name) ∈ u.bindings) :
    (g.putNode n).Follows c := by
  refine h.transfer ?_ ?_
  · intro source' t' hSource' hData' hRole
    rw [node?_putNode] at hSource'
    split at hSource'
    · rename_i hSame
      rw [Option.some.injEq] at hSource'
      subst hSource'
      obtain ⟨t, hData, hRoutes⟩ := hTable t' hData' hSame.symm hRole
      exact ⟨stored, t, hSame ▸ hStored, hData, hRoutes⟩
    · exact ⟨source', t', hSource', hData', fun _ h => h⟩
  · intro target hTarget
    rw [node?_putNode]
    split
    · rename_i hSame
      rw [← hSame, hStored, Option.some.injEq] at hTarget
      subst hTarget
      exact ⟨n.prepare, rfl, by rw [n.prepare_name, hName]⟩
    · exact ⟨target, hTarget, rfl⟩

/-- A connection of a table that is not stale follows its route. -/
theorem IsSound.follows_of_dropConnections {id : ItemId} {t : DecisionTable} {source : Node}
    (hRest : (g.dropConnections (g.stale id t)).IsSound) (hSource : g.node? id = some source)
    (hData : source.data = .decisionTable t)
    (hc : c ∈ (g.dropConnections (g.stale id t)).connections.toList)
    (hNode : c.sourceNode = id) : (g.dropConnections (g.stale id t)).Follows c := by
  intro source' t' hSource' hData' hRole
  have hWires := hRest.wires c hc
  have hNormal := hWires.isNormal_sourceRole hRest.isPrepared hSource' hData' hRole
  have hSame : g.node? c.sourceNode = some source' := hSource'
  rw [hNode, hSource, Option.some.injEq] at hSame
  subst hSame
  rw [hData, Payload.decisionTable.injEq] at hData'
  subst hData'
  have hLeaves : leaves id c = true := by simp [leaves, hNode, hRole]
  obtain ⟨hName, hEntry⟩ := isRouted_iff.1 (isRouted_of_mem_dropConnections hc hLeaves)
  obtain ⟨-, target, -, hTarget⟩ := hWires.node?_eq_some
  have hTargetName : g.targetName? c = some target.name := congrArg (·.map (·.name)) hTarget
  rw [hTargetName, hNormal] at hEntry
  exact ⟨target, hTarget, hEntry⟩

/-- The port that a route leads to belongs to a node with the name of the route. -/
theorem routeTarget?_eq_some {id : ItemId} {role : Role} {name : String} {port : Port}
    (h : g.routeTarget? id role name = some port) :
    ∃ target ∈ g.nodes.toList, target.name = name ∧ target.id ≠ id ∧ port ∈ target.ports := by
  unfold routeTarget? at h
  obtain ⟨target, hFind, hPort⟩ := Option.bind_eq_some_iff.1 h
  have hFound := List.find?_some hFind
  simp only [Bool.and_eq_true, beq_iff_eq, bne_iff_ne] at hFound
  exact ⟨target, List.mem_of_find?_eq_some hFind, hFound.1, hFound.2,
    List.mem_of_find?_eq_some hPort⟩

/-- The connections that the routes of a table ask for follow them. -/
theorem IsSound.follows_drawRoutes (hg : g.IsSound) {id : ItemId} {source : Node}
    {t : DecisionTable} (hSource : g.node? id = some source)
    (hData : source.data = .decisionTable t) (settled : List Role) {p : Connection → Prop}
    (hFollows : ∀ c ∈ g.connections.toList, p c → g.Follows c) :
    ∀ c ∈ (g.drawRoutes id settled t.bindings).1.connections.toList, p c →
      (g.drawRoutes id settled t.bindings).1.Follows c := by
  refine (drawRoutes_keeps (P := fun g => g.IsSound ∧ g.node? id = some source ∧
    ∀ c ∈ g.connections.toList, p c → g.Follows c) ?_ settled ⟨hg, hSource, hFollows⟩).2.2
  rintro g g' role name port hMem hPort hInsert ⟨hg, hSource, hFollows⟩
  obtain ⟨hAdmits, rfl⟩ := insertConnection_eq_ok hg.isPrepared hInsert
  refine ⟨hg.insert hAdmits, hSource, ?_⟩
  intro d hd hp
  rcases Roster.mem_put.1 hd with rfl | ⟨hdOld, -⟩
  · intro source' t' hSource' hData' _
    have hSame : g.node? id = some source' := hSource'
    rw [hSource, Option.some.injEq] at hSame
    subst hSame
    rw [hData, Payload.decisionTable.injEq] at hData'
    subst hData'
    obtain ⟨target, hTarget, rfl, -, hTargetPort⟩ := routeTarget?_eq_some hPort
    have hKey := (hg.isPrepared target hTarget).isStorable.id_of_mem_ports hTargetPort
    refine ⟨target, node?_eq_some.2 ⟨hTarget, ?_⟩, hMem⟩
    show target.id = port.id.node
    rw [hKey]
  · exact hFollows d hdOld hp

/-- Connections follow routes after routes have been drawn. -/
theorem IsInSync.drawRoutes (hg : g.IsInSync) {id : ItemId} {source : Node} {t : DecisionTable}
    (hSource : g.node? id = some source) (hData : source.data = .decisionTable t)
    (settled : List Role) : (g.drawRoutes id settled t.bindings).1.IsInSync where
  sound := hg.sound.drawRoutes id settled t.bindings
  follows := fun c hc => hg.sound.follows_drawRoutes hSource hData settled
    (p := fun _ => True) (fun d hd _ => hg.follows d hd) c hc trivial

/-- An edit that keeps the kind and the name of a node and, unless it is a decision table, its ports
keeps a graph in sync. -/
theorem IsInSync.updateNode? (hg : g.IsInSync) {n stored : Node} {refusals : List Refusal}
    (hStored : g.node? n.id = some stored) (hKind : n.kind = stored.kind)
    (hName : n.name = stored.name) (hPorts : n.table? = none → n.ports = stored.ports)
    (h : g.updateNode? n false = some (g', refusals)) : g'.IsInSync := by
  have hSound := hg.sound.updateNode? hStored hKind hPorts h
  rcases updateNode?_cases hStored h with ⟨hSame, rfl⟩ | ⟨t, u, hOld, hNew, -, rfl⟩
  · refine ⟨hSound, fun c hc => (hg.follows c hc).putNode hStored hName ?_⟩
    intro u hNew _ _
    obtain ⟨t, hOld⟩ := Node.kind_eq_decisionTable_iff.1
      (hKind ▸ n.prepare_kind ▸ Node.kind_eq_decisionTable_iff.2 ⟨u, hNew⟩)
    unfold routingChanged at hSame
    rw [Node.table?_eq_some.2 hOld, Node.table?_eq_some.2 hNew] at hSame
    simp only [Bool.or_eq_false_iff, bne_eq_false_iff_eq] at hSame
    exact ⟨t, hOld, fun _ hEntry => hSame.1 ▸ hEntry⟩
  · have hRest := hg.sound.dropStale hStored hOld hNew
    have hNode : (g.putNode n).node? n.id = some n.prepare := by rw [node?_putNode, if_pos rfl]
    have hSync : ((g.putNode n).dropConnections ((g.putNode n).stale n.id u)).IsInSync := by
      refine ⟨hRest, fun c hc => ?_⟩
      by_cases hLeaves : c.sourceNode = n.id
      · exact hRest.follows_of_dropConnections hNode hNew hc hLeaves
      · refine (hg.follows c (mem_dropConnections.1 hc).1).putNode hStored hName ?_
        intro _ _ hSource
        exact absurd hSource hLeaves
    exact hSync.drawRoutes hNode hNew _

/-- Connections follow routes after a table has been rerouted. -/
theorem IsInSync.reroute? (hg : g.IsInSync) {id : ItemId} {refusals : List Refusal}
    (h : g.reroute? id = some (g', refusals)) : g'.IsInSync := by
  obtain ⟨t, hTable, rfl⟩ := reroute?_eq_some h
  obtain ⟨source, hSource, hData⟩ := Option.bind_eq_some_iff.1 hTable
  have hRest := hg.shrinks (dropConnections_shrinks g (g.stale id t))
  exact hRest.drawRoutes hSource (Node.table?_eq_some.1 hData) _

end Graph

end FlowCanvas
