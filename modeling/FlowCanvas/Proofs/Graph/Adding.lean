import FlowCanvas.Proofs.Graph.TableSync
import FlowCanvas.Proofs.Table.Clearing
import Mathlib

/-!
# What adding a connection does

An accepted connection goes to the end of the connections. If it leaves an output of a decision
table, the table is stored anew in its prepared form, and that changes no more than the route of
this one output (`Graph.adds_addConnection`).
-/

set_option autoImplicit false

namespace FlowCanvas

namespace Graph

/-- What adding a connection makes of a graph. -/
structure Adds (g : Graph) (c : Connection) (g' : Graph) : Prop where
  /-- The connection comes last. -/
  connections : g'.connections.toList = g.connections.toList ++ [c]
  groups : g'.groups = g.groups
  /-- Only the node at the start of the connection changes, and only if the connection leaves it by
  a decision output: the route of that output then leads to the node at the end. -/
  nodes : ∃ target ∈ g.nodes.toList, target.id = c.targetNode ∧
    g'.nodes.toList = g.nodes.toList.map fun n =>
      if n.id = c.sourceNode ∧ c.sourcePort.role.isDecisionOutput = true then
        n.mapTable (·.withRoute c.sourcePort.role (some target.name))
      else n
  /-- A decision table has one output for the connection to leave. -/
  output : ∀ t, g.tableOf? c.sourceNode = some t → c.sourcePort.role.isDecisionOutput = true →
    (t.groups.map ConditionGroup.role ++
      [Role.decisionDefault, Role.decisionError]).count c.sourcePort.role = 1

variable {g g' : Graph} {c : Connection}

/-- The decision table at the start of a connection that is stored has an output for it. -/
theorem role_mem_of_insertConnection (hg : g.HasStorableNodes) (h : g.insertConnection c = .ok g')
    {t : DecisionTable} (hTable : g.tableOf? c.sourceNode = some t)
    (hRole : c.sourcePort.role.isDecisionOutput = true) : c.sourcePort.role ∈ t.outputRoles := by
  obtain ⟨source, target, p, q, hSource, -, hp, -⟩ := exists_of_insertConnection h
  obtain ⟨hPort, hId⟩ := hasPort_of_portById? hSource hp
  exact (eq_of_hasPort hg hTable ⟨p, hPort, hId⟩ hRole).2

/-- A connection that is added changes nothing but its route. -/
theorem adds_addConnection (hg : g.HasStorableNodes) (h : g.addConnection c = .ok g') :
    g.Adds c g' := by
  obtain ⟨stored, hInsert, rfl⟩ := exists_of_addConnection h
  have hOutputs := fun t => role_mem_of_insertConnection (t := t) hg hInsert
  obtain ⟨source, target, -, -, hSource, hTarget, -, -, -, hNew, -, -, -, rfl⟩ :=
    exists_of_insertConnection hInsert
  have hConnections := Roster.toList_put_of_new (r := g.connections) hNew
  obtain ⟨hTargetMem, hTargetId⟩ := node?_eq_some.1 hTarget
  have hOnce := fun t hTable hRole =>
    (hg.isFresh hTable).count_outputs (hOutputs t hTable hRole)
  by_cases hRole : c.sourcePort.role.isDecisionOutput = true
  · cases hTable : source.table? with
    | none =>
      have hSame : routeAlong { g with connections := g.connections.put c } c =
          { g with connections := g.connections.put c } := by
        unfold routeAlong
        simp only [node?] at hSource hTarget
        simp [node?, hSource, hTarget, hTable]
      rw [hSame]
      refine ⟨hConnections, rfl, ⟨target, hTargetMem, hTargetId, ?_⟩, hOnce⟩
      refine (Lists.map_eq_self fun n hn => ?_).symm
      split
      · rename_i hHere
        obtain rfl : n = source :=
          Roster.eq_of_key_eq hn (node?_eq_some.1 hSource).1
            (hHere.1.trans (node?_eq_some.1 hSource).2.symm)
        exact Node.mapTable_of_table?_eq_none hTable
      · rfl
    | some t =>
      have hData := Node.table?_eq_some.1 hTable
      have hTableOf := tableOf?_eq_some.2 ⟨source, hSource, hData⟩
      have hMem := hOutputs t hTableOf hRole
      obtain ⟨n, u, u', hNode, hNodeData, hBind, hGraph⟩ := redirects_routeAlong
        (g := { g with connections := g.connections.put c }) hg hSource hTarget hData hRole hMem
      obtain rfl : source = n := Option.some.inj (hSource.symm.trans hNode)
      obtain rfl : t = u := Payload.decisionTable.inj (hData.symm.trans hNodeData)
      rw [(hg.isFresh hTableOf).bind?_eq_withRoute hMem, Option.some.injEq] at hBind
      subst hBind
      rw [hGraph]
      refine ⟨hConnections, rfl, ⟨target, hTargetMem, hTargetId, ?_⟩, hOnce⟩
      rw [← Node.mapTable_of_table (f := (·.withRoute c.sourcePort.role (some target.name))) hData]
      refine (Roster.toList_put_of_get?
        (Node.mapTable · (·.withRoute c.sourcePort.role (some target.name)))
        (fun n => n.id_mapTable _) hSource).trans ?_
      simp only [hRole, and_true]
      rfl
  · have hSame : routeAlong { g with connections := g.connections.put c } c =
        { g with connections := g.connections.put c } := by
      unfold routeAlong
      rw [if_pos (by simpa using hRole)]
    rw [hSame]
    refine ⟨hConnections, rfl, ⟨target, hTargetMem, hTargetId, ?_⟩, hOnce⟩
    simp [hRole]

end Graph

end FlowCanvas
