import FlowCanvas.Proofs.Graph.Wiring
import Mathlib

/-!
# Rerouting

When a decision table is edited, the connections that leave it are sifted by its routes and the
missing ones are drawn. The port of a connection that is kept is still a port of the table, since
the route that the connection follows is that of an output with the same role. Hence an edit of a
node keeps the wiring sound, whether the connections follow or the ports are the same as before.
-/

set_option autoImplicit false

namespace FlowCanvas

namespace Graph

variable {g g' : Graph}

/-! ## Sifting -/

/-- A role is routed to a name if the bindings say so. -/
theorem isRouted_iff {bindings : List (Role × Option String)} {role : Role} {name : Option String} :
    isRouted bindings role name = true ↔ name.isSome = true ∧ (role, name) ∈ bindings := by
  unfold isRouted
  rw [Bool.and_eq_true, List.contains_iff_mem]

/-- The name of the node at the end of a connection. -/
def targetName? (g : Graph) (c : Connection) : Option String :=
  (g.node? c.targetNode).map (·.name)

/-- A connection that is kept follows a route. -/
theorem isRouted_of_notMem_sift {bindings : List (Role × Option String)} {settled : List Role}
    {connections : List Connection} {c : Connection} (hc : c ∈ connections)
    (hKept : c.id ∉ (g.sift bindings settled connections).2) :
    isRouted bindings c.sourcePort.role.normalize (g.targetName? c) = true := by
  induction connections generalizing settled with
  | nil => simp at hc
  | cons d rest ih =>
    unfold sift at hKept
    simp only at hKept
    split at hKept
    · rename_i hRouted
      rcases List.mem_cons.1 hc with rfl | hRest
      · exact (Bool.and_eq_true_iff.1 hRouted).1
      · exact ih hRest hKept
    · rw [List.mem_cons, not_or] at hKept
      rcases List.mem_cons.1 hc with rfl | hRest
      · exact absurd rfl hKept.1
      · exact ih hRest hKept.2

/-- Only connections that were looked at can be stale. -/
theorem exists_of_mem_sift {bindings : List (Role × Option String)} {settled : List Role}
    {connections : List Connection} {id : ConnectionId}
    (h : id ∈ (g.sift bindings settled connections).2) : ∃ c ∈ connections, c.id = id := by
  induction connections generalizing settled with
  | nil => simp [sift] at h
  | cons d rest ih =>
    unfold sift at h
    simp only at h
    split at h
    · obtain ⟨c, hc, hId⟩ := ih h
      exact ⟨c, List.mem_cons_of_mem _ hc, hId⟩
    · rcases List.mem_cons.1 h with rfl | hRest
      · exact ⟨d, List.mem_cons_self, rfl⟩
      · obtain ⟨c, hc, hId⟩ := ih hRest
        exact ⟨c, List.mem_cons_of_mem _ hc, hId⟩

/-- A connection that follows a route is kept if no other one leaves the same output. -/
theorem notMem_sift_of_isRouted {bindings : List (Role × Option String)} {settled : List Role}
    {connections : List Connection} {c : Connection} (hc : c ∈ connections)
    (hIds : (connections.map Connection.id).Nodup)
    (hRoles : ∀ d ∈ connections,
      d.sourcePort.role.normalize = c.sourcePort.role.normalize → d = c)
    (hOpen : c.sourcePort.role.normalize ∉ settled)
    (hRouted : isRouted bindings c.sourcePort.role.normalize (g.targetName? c) = true) :
    c.id ∉ (g.sift bindings settled connections).2 := by
  induction connections generalizing settled with
  | nil => simp at hc
  | cons d rest ih =>
    rw [List.map_cons, List.nodup_cons] at hIds
    have hRolesRest : ∀ e ∈ rest,
        e.sourcePort.role.normalize = c.sourcePort.role.normalize → e = c :=
      fun e he => hRoles e (List.mem_cons_of_mem _ he)
    unfold sift
    simp only
    rcases List.mem_cons.1 hc with rfl | hRest
    · unfold targetName? at hRouted
      rw [if_pos (by simpa [hOpen] using hRouted)]
      intro hStale
      obtain ⟨e, he, hId⟩ := exists_of_mem_sift hStale
      exact hIds.1 (List.mem_map.2 ⟨e, he, hId⟩)
    · have hNe : d ≠ c := by
        rintro rfl
        exact hIds.1 (List.mem_map_of_mem hRest)
      have hOther : c.sourcePort.role.normalize ≠ d.sourcePort.role.normalize := fun hSame =>
        hNe (hRoles d List.mem_cons_self hSame.symm)
      split
      · refine ih hRest hIds.2 hRolesRest ?_
        rw [List.mem_cons, not_or]
        exact ⟨hOther, hOpen⟩
      · rw [List.mem_cons, not_or]
        refine ⟨fun hSame => hIds.1 ?_, ih hRest hIds.2 hRolesRest hOpen⟩
        exact hSame ▸ List.mem_map_of_mem hRest

/-! ## Drawing -/

/-- What storing a connection along a route keeps is kept when the missing connections are drawn. -/
theorem drawRoutes_keeps {P : Graph → Prop} {table : ItemId}
    {bindings : List (Role × Option String)}
    (hStep : ∀ g g' role name port, (role, some name) ∈ bindings →
      routeTarget? g table role name = some port →
        g.insertConnection (.between ⟨table, role⟩ port.id) = .ok g' → P g → P g')
    (settled : List Role) (hg : P g) :
    P (g.drawRoutes table settled bindings).1 := by
  induction bindings generalizing g with
  | nil => exact hg
  | cons binding rest ih =>
    have ihRest : ∀ {g : Graph}, P g → P (g.drawRoutes table settled rest).1 :=
      ih fun g g' role name port hMem => hStep g g' role name port (List.mem_cons_of_mem _ hMem)
    obtain ⟨role, _ | name⟩ := binding
    · exact ihRest hg
    · unfold drawRoutes
      split
      · exact ihRest hg
      · split
        · exact ihRest hg
        · rename_i port hPort
          split
          · rename_i g' hInsert
            exact ihRest (hStep g g' role name port List.mem_cons_self hPort hInsert hg)
          · exact ihRest hg

/-- Drawing takes no connection away. -/
theorem mem_drawRoutes_of_mem {table : ItemId} {bindings : List (Role × Option String)}
    (settled : List Role) {c : Connection} (hc : c ∈ g.connections.toList) :
    c ∈ (g.drawRoutes table settled bindings).1.connections.toList := by
  refine drawRoutes_keeps (P := fun g => c ∈ g.connections.toList) ?_ settled hc
  intro g g' role name port _ _ hInsert hc
  obtain ⟨hNew, rfl⟩ := eq_put_of_insertConnection hInsert
  rw [Roster.toList_put_of_new hNew]
  exact List.mem_append_left _ hc

/-- The wiring stays sound when routes are drawn. -/
theorem IsSound.drawRoutes (hg : g.IsSound) (table : ItemId) (settled : List Role)
    (bindings : List (Role × Option String)) :
    (g.drawRoutes table settled bindings).1.IsSound :=
  drawRoutes_keeps (fun _ _ _ _ _ _ _ hInsert hg => hg.insertConnection hInsert) settled hg

/-! ## Edits of nodes -/

/-- The keys of the connections that no longer follow the routes of a table. -/
def stale (g : Graph) (id : ItemId) (t : DecisionTable) : List ConnectionId :=
  (g.sift t.bindings [] (g.connections.toList.filter (leaves id))).2

/-- The roles of a table whose connections still follow its routes. -/
def settled (g : Graph) (id : ItemId) (t : DecisionTable) : List Role :=
  (g.sift t.bindings [] (g.connections.toList.filter (leaves id))).1

/-- A connection is not stale if it leaves the table by no output, or follows a route and no other
connection leaves the same output. -/
theorem notMem_stale {id : ItemId} {t : DecisionTable} {c : Connection}
    (hc : c ∈ g.connections.toList)
    (hApart : leaves id c = true → ∀ d ∈ g.connections.toList, leaves id d = true →
      d.sourcePort.role.normalize = c.sourcePort.role.normalize → d = c)
    (hRouted : leaves id c = true →
      isRouted t.bindings c.sourcePort.role.normalize (g.targetName? c) = true) :
    c.id ∉ g.stale id t := by
  unfold stale
  by_cases hLeaves : leaves id c = true
  · refine notMem_sift_of_isRouted (List.mem_filter.2 ⟨hc, hLeaves⟩) ?_ ?_ List.not_mem_nil
      (hRouted hLeaves)
    · exact (List.filter_sublist.map _).nodup g.connections.nodup
    · intro d hd hSame
      obtain ⟨hdStored, hdLeaves⟩ := List.mem_filter.1 hd
      exact hApart hLeaves d hdStored hdLeaves hSame
  · intro hStale
    obtain ⟨d, hd, hId⟩ := exists_of_mem_sift hStale
    obtain ⟨hdStored, hdLeaves⟩ := List.mem_filter.1 hd
    have hSame : d = c := Roster.eq_of_key_eq hdStored hc hId
    exact hLeaves (hSame ▸ hdLeaves)

/-- Rerouting drops the stale connections of a table and draws the routes that are not settled. -/
theorem reroute?_eq_some {id : ItemId} {refusals : List Refusal}
    (h : g.reroute? id = some (g', refusals)) :
    ∃ t, g.tableOf? id = some t ∧
      g' = ((g.dropConnections (g.stale id t)).drawRoutes id (g.settled id t) t.bindings).1 := by
  obtain ⟨t, hTable, hResult⟩ := Option.map_eq_some_iff.1 h
  exact ⟨t, hTable, (congrArg Prod.fst hResult).symm⟩

/-- What is left of the connections of a table leads where the table says. -/
theorem isRouted_of_mem_dropConnections {id : ItemId} {t : DecisionTable} {c : Connection}
    (hc : c ∈ (g.dropConnections (g.stale id t)).connections.toList)
    (hLeaves : leaves id c = true) :
    isRouted t.bindings c.sourcePort.role.normalize (g.targetName? c) = true := by
  obtain ⟨hStored, hKept⟩ := mem_dropConnections.1 hc
  exact isRouted_of_notMem_sift (List.mem_filter.2 ⟨hStored, hLeaves⟩) hKept

/-- Outputs only send. -/
theorem direction_portSpec {t : DecisionTable} {r : Role} (hr : r ∈ t.outputRoles) :
    (DecisionTable.portSpec r).direction = .output := by
  have hNotIn : r ≠ Role.tableIn := by
    rintro rfl
    exact t.tableIn_notMem_outputRoles hr
  unfold DecisionTable.portSpec
  rw [if_neg hNotIn]
  split
  · rfl
  · split <;> rfl

/-- An edit of a decision table keeps the wiring sound once the stale connections are gone. -/
theorem IsSound.dropStale (hg : g.IsSound) {n stored : Node} {t u : DecisionTable}
    (hStored : g.node? n.id = some stored) (hOld : stored.data = .decisionTable t)
    (hNew : n.prepare.data = .decisionTable u) :
    ((g.putNode n).dropConnections ((g.putNode n).stale n.id u)).IsSound := by
  have hTable : n.table? ≠ none := by
    intro hNone
    rw [Node.prepare_of_table?_eq_none hNone] at hNew
    have hSome := Node.table?_eq_some.2 hNew
    rw [show n.rebindPorts.table? = n.table? from rfl, hNone] at hSome
    cases hSome
  have hPrepared : (g.putNode n).IsPrepared :=
    isPrepared_putNode hg.isPrepared fun hNone => absurd hNone hTable
  have hNode : n.prepare ∈ (g.putNode n).nodes.toList := Roster.mem_put.2 (.inl rfl)
  have hStoredPrepared := hg.isPrepared stored (node?_eq_some.1 hStored).1
  refine hg.mono ((dropConnections_shrinks _ _).drifts.isPrepared hPrepared)
    (fun c hc => (mem_dropConnections.1 hc).1) ?_
  intro c hc node p hp hTouches hOccupies
  by_cases hSame : node = n.id
  · subst hSame
    obtain ⟨m, hm, hId, hpm⟩ := id hp
    have hStored' : g.node? n.id = some m := node?_eq_some.2 ⟨hm, hId⟩
    rw [hStored, Option.some.injEq] at hStored'
    subst hStored'
    obtain ⟨r, hr, rfl⟩ := (hStoredPrepared.isStorable.mem_ports_table hOld).1 hpm
    have hMem : r ∈ Role.tableIn :: u.outputRoles := by
      rcases List.mem_cons.1 hr with rfl | hr
      · exact List.mem_cons_self
      · have hWires := hg.wires c (mem_dropConnections.1 hc).1
        rcases hWires.end_cases hg.isPrepared hp hOccupies with ⟨hSource, hPort, -⟩ | ⟨-, -, hEnds⟩
        · -- the connection leaves an output, and the route that it still follows has that role
          have hRole : c.sourcePort.role = r := by
            rw [← hPort]
            exact DecisionTable.role_portSpec r
          have hLeaves : leaves n.id c = true := by
            simp [leaves, hSource, hRole, DecisionTable.isDecisionOutput_of_mem_outputRoles hr]
          have hRouted := isRouted_of_mem_dropConnections hc hLeaves
          rw [hRole, DecisionTable.isNormal_of_mem_outputRoles hr] at hRouted
          exact List.mem_cons_of_mem _ (List.mem_map.2 ⟨_, (isRouted_iff.1 hRouted).2, rfl⟩)
        · rw [PortSpec.on, direction_portSpec hr] at hEnds
          cases hEnds
    refine ⟨n.prepare, hNode, n.prepare_id, ?_⟩
    rw [(hPrepared _ hNode).isStorable.mem_ports_table hNew]
    exact ⟨r, hMem, by rw [hId, n.prepare_id]⟩
  · exact hp.putNode hSame

/-- A node that has been put in has the decision table that it is prepared with. -/
theorem tableOf?_putNode {n : Node} : (g.putNode n).tableOf? n.id = n.prepare.table? := by
  unfold tableOf?
  rw [node?_putNode, if_pos rfl]
  rfl

/-- Whatever an update of a node is to do with connections, it puts the node in, and then at most
brings the connections of its decision table in line. -/
theorem updateNode?_puts_or_reroutes {n : Node} {keepConnections : Bool} {refusals : List Refusal}
    (h : g.updateNode? n keepConnections = some (g', refusals)) :
    g' = g.putNode n ∨ (g.putNode n).reroute? n.id = some (g', refusals) := by
  obtain ⟨stored, -, hResult⟩ := Option.map_eq_some_iff.1 h
  simp only at hResult
  split at hResult
  · cases hReroute : (g.putNode n).reroute? n.id with
    | none =>
      rw [hReroute] at hResult
      cases hResult
      exact .inl rfl
    | some result =>
      rw [hReroute] at hResult
      exact .inr (congrArg some hResult)
  · cases hResult
    exact .inl rfl

/-- The two things that an update of a node can do: put the node in, or also let the connections of
its decision table follow. -/
theorem updateNode?_eq_some {n : Node} {refusals : List Refusal}
    (h : g.updateNode? n false = some (g', refusals)) :
    ∃ stored, g.node? n.id = some stored ∧
      (routingChanged stored n.prepare = false ∧ g' = g.putNode n ∨
        ∃ t u, stored.data = .decisionTable t ∧ n.prepare.data = .decisionTable u ∧
          routingChanged stored n.prepare = true ∧
          (g.putNode n).reroute? n.id = some (g', refusals)) := by
  obtain ⟨stored, hStored, hResult⟩ := Option.map_eq_some_iff.1 h
  refine ⟨stored, hStored, ?_⟩
  rw [Bool.not_false, Bool.true_and] at hResult
  cases hChanged : routingChanged stored n.prepare with
  | false =>
    rw [hChanged] at hResult
    cases hResult
    exact .inl ⟨rfl, rfl⟩
  | true =>
    rw [hChanged, if_pos rfl] at hResult
    have hTables : ∃ t u, stored.table? = some t ∧ n.prepare.table? = some u := by
      unfold routingChanged at hChanged
      split at hChanged
      · exact ⟨_, _, ‹_›, ‹_›⟩
      · cases hChanged
    obtain ⟨t, u, ht, hu⟩ := hTables
    refine .inr ⟨t, u, Node.table?_eq_some.1 ht, Node.table?_eq_some.1 hu, rfl, ?_⟩
    have hSome : ((g.putNode n).reroute? n.id).isSome = true := by
      rw [reroute?, Option.isSome_map, tableOf?_putNode, hu]
      rfl
    obtain ⟨result, hReroute⟩ := Option.isSome_iff_exists.1 hSome
    rw [hReroute, Option.getD_some] at hResult
    rw [hReroute, hResult]

/-- The graph after the update of a stored node. -/
theorem updateNode?_cases {n stored : Node} {refusals : List Refusal}
    (hStored : g.node? n.id = some stored) (h : g.updateNode? n false = some (g', refusals)) :
    routingChanged stored n.prepare = false ∧ g' = g.putNode n ∨
      ∃ t u, stored.data = .decisionTable t ∧ n.prepare.data = .decisionTable u ∧
        routingChanged stored n.prepare = true ∧
        g' = (((g.putNode n).dropConnections ((g.putNode n).stale n.id u)).drawRoutes
          n.id ((g.putNode n).settled n.id u) u.bindings).1 := by
  obtain ⟨stored', hStored', hCases⟩ := updateNode?_eq_some h
  rw [hStored, Option.some.injEq] at hStored'
  subst hStored'
  refine hCases.imp_right ?_
  rintro ⟨t, u, hOld, hNew, hChanged, hReroute⟩
  obtain ⟨u', hTable, hGraph⟩ := reroute?_eq_some hReroute
  rw [tableOf?_putNode, Node.table?_eq_some.2 hNew, Option.some.injEq] at hTable
  exact ⟨t, u, hOld, hNew, hChanged, hTable.symm ▸ hGraph⟩

/-- An edit that keeps the kind of a node and, unless it is a decision table, its ports keeps the
wiring sound. -/
theorem IsSound.updateNode? (hg : g.IsSound) {n stored : Node} {refusals : List Refusal}
    (hStored : g.node? n.id = some stored) (hKind : n.kind = stored.kind)
    (hPorts : n.table? = none → n.ports = stored.ports)
    (h : g.updateNode? n false = some (g', refusals)) : g'.IsSound := by
  have hStoredPrepared := hg.isPrepared stored (node?_eq_some.1 hStored).1
  rcases updateNode?_cases hStored h with ⟨hSame, rfl⟩ | ⟨t, u, hOld, hNew, -, rfl⟩
  · refine hg.putNode (fun hNone => hPorts hNone ▸ hStoredPrepared.nodup_roles) ?_
    intro m hm
    rw [hStored, Option.some.injEq] at hm
    subst hm
    cases hTable : n.table? with
    | none =>
      -- the keys of the ports follow the id of the node, which they do already
      rw [Node.prepare_of_table?_eq_none hTable]
      show n.ports.map (·.boundTo n.id) = stored.ports
      rw [hPorts hTable, ← (node?_eq_some.1 hStored).2]
      exact congrArg Node.ports hStoredPrepared.isStorable.rebindPorts_eq
    | some t =>
      have hNew := congrArg Node.data (Node.prepare_table (Node.table?_eq_some.1 hTable))
      obtain ⟨u, hOld⟩ := Node.kind_eq_decisionTable_iff.1
        (hKind ▸ Node.kind_eq_decisionTable_iff.2 ⟨t, Node.table?_eq_some.1 hTable⟩)
      unfold routingChanged at hSame
      rw [Node.table?_eq_some.2 hOld, Node.table?_eq_some.2 hNew] at hSame
      simp only [Bool.or_eq_false_iff, bne_eq_false_iff_eq] at hSame
      exact hSame.2.symm
  · exact (hg.dropStale hStored hOld hNew).drawRoutes _ _ _

/-- Bringing the connections of a table in line keeps the wiring sound. -/
theorem IsSound.reroute? (hg : g.IsSound) {id : ItemId} {refusals : List Refusal}
    (h : g.reroute? id = some (g', refusals)) : g'.IsSound := by
  obtain ⟨t, -, rfl⟩ := reroute?_eq_some h
  exact (hg.shrinks (dropConnections_shrinks _ _).drifts).drawRoutes _ _ _

end Graph

end FlowCanvas
