import FlowCanvas.Proofs.Canvas.Reach
import FlowCanvas.Proofs.Graph.Removing
import Mathlib

/-!
# Removing connections from a canvas

Whether connections are removed as a list, by calls of their own or by a deletion, and in whatever
order, the same flow is left (`Canvas.Reached.removes_alike`). A route is forgotten exactly if its
output loses its last connection.
-/

set_option autoImplicit false

namespace FlowCanvas

namespace Canvas

/-- Calls of their own remove connections from the graph one by one. -/
theorem graph_performAll_removeConnection (c : Canvas) (ids : List ConnectionId) :
    (c.performAll (ids.map .removeConnection)).graph =
      ids.foldl (fun g id => (g.removeConnection? id).getD g) c.graph := by
  induction ids generalizing c with
  | nil => rfl
  | cons id rest ih =>
    have hFirst : (c.perform (.removeConnection id)).graph =
        (c.graph.removeConnection? id).getD c.graph := by
      simp only [perform, removeConnection]
      cases c.graph.removeConnection? id <;> rfl
    rw [List.foldl_cons, ← hFirst]
    exact ih _

/-- On a reachable canvas where normalizing does not change which roles are those of decision
outputs, all ways to remove connections leave the same flow. The routes that tables have forgotten
then are those of the outputs that have lost a connection and have none left. -/
theorem Reached.removes_alike {c : Canvas} (hc : Reached c) (hRoles : c.graph.HasStableRoles)
    {ids batch each : List ConnectionId} (hBatch : batch.Perm ids) (hEach : each.Perm ids) :
    let after := (c.delete { connections := ids }).1
    (c.removeConnections batch).1.flow = after.flow ∧
      (c.performAll (each.map .removeConnection)).flow = after.flow ∧
      after.graph.connections.toList = c.graph.connections.toList.filter (!ids.contains ·.id) ∧
      ∀ table t, c.graph.tableOf? table = some t → ∃ t', after.graph.tableOf? table = some t' ∧
        t'.bindings = t.bindings.map fun entry =>
          if (∃ d ∈ c.graph.connections.toList, d.id ∈ ids ∧ d.sourceNode = table ∧
                d.sourcePort.role.normalize = entry.1) ∧
              ∀ d ∈ after.graph.connections.toList, d.sourceNode = table →
                d.sourcePort.role.normalize ≠ entry.1 then
            (entry.1, none)
          else entry := by
  intro after
  have hAfter : after.graph = c.graph.without ids := hc.isStorable.delete_connections ids
  have hConnections : after.graph.connections.toList = c.graph.outside ids := by
    rw [hAfter, Graph.toList_connections_without]
  refine ⟨?_, ?_, hConnections, fun table t hTable => ?_⟩
  · unfold flow
    rw [hAfter, ← Graph.without_congr fun id => hBatch.mem_iff,
      ← hc.isStorable.foldl_removeConnection? hRoles, ← Graph.removeConnections_eq_foldl]
    rfl
  · unfold flow
    rw [hAfter, ← Graph.without_congr fun id => hEach.mem_iff,
      ← hc.isStorable.foldl_removeConnection? hRoles, graph_performAll_removeConnection]
  · refine ⟨_, ?_, ((hc.isStorable.nodes.isFresh hTable).bindings_clear fun role =>
      decide (Vacates (c.graph.among ids) (c.graph.outside ids) table role)).trans ?_⟩
    · rw [hAfter, Graph.without, Graph.tableOf?_clear]
      exact congrArg (Option.map _) hTable
    · apply List.map_congr_left
      intro entry hEntry
      have hOutput := DecisionTable.isDecisionOutput_of_mem_outputRoles
        (DecisionTable.fst_mem_outputRoles hEntry)
      refine if_congr ?_ rfl rfl
      rw [decide_eq_true_iff, hConnections]
      refine and_congr_left fun _ => ⟨?_, ?_⟩
      · rintro ⟨d, hd, hSource, -, hRole⟩
        obtain ⟨hStored, hId⟩ := Graph.mem_among.1 hd
        exact ⟨d, hStored, hId, hSource, hRole⟩
      · rintro ⟨d, hd, hId, hSource, hRole⟩
        exact ⟨d, Graph.mem_among.2 ⟨hd, hId⟩, hSource, by rw [hRoles d hd, hRole, hOutput], hRole⟩

/-- A connection that leaves the group of a table by its role as it is written. -/
def asWritten : Connection :=
  .between ⟨⟨"t"⟩, ⟨"decision-out-A b"⟩⟩ ⟨⟨"p"⟩, ⟨"python-in"⟩⟩

/-- A connection that leaves the same group by the normal form of the role. -/
def asNormal : Connection :=
  .between ⟨⟨"t"⟩, ⟨"decision-out-a-b"⟩⟩ ⟨⟨"q"⟩, ⟨"python-in"⟩⟩

/-- A table with a group that two connections leave. -/
def twiceConnected : Flow :=
  { nodes :=
      [Node.new ⟨"t"⟩ "table" (.decisionTable
          { groups := [{ name := "A b", expression := "x", next := some "code" }]
            errorNext := some "more" }),
        Node.new ⟨"p"⟩ "code" (Payload.initial .python),
        Node.new ⟨"q"⟩ "more" (Payload.initial .python)]
    connections := [asWritten, asNormal] }

/-- The group keeps its route as long as one of the two connections is left, and loses it with the
second one, in whatever order they go. -/
theorem Reached.removes_alike_twiceConnected :
    let c := Canvas.perform {} (.load twiceConnected)
    let ids := [asWritten.id, asNormal.id, asWritten.id]
    c.graph.HasStableRoles ∧
      (c.removeConnections [asNormal.id, asWritten.id, asWritten.id]).1.flow =
        (c.performAll ([asWritten.id, asWritten.id, asNormal.id].map .removeConnection)).flow ∧
      ((c.delete { connections := [asWritten.id] }).1.graph.tableOf? ⟨"t"⟩).map
          DecisionTable.bindings =
        some [(.ofGroupName "A b", some "code"), (.decisionDefault, none),
          (.decisionError, some "more")] ∧
      ((c.delete { connections := ids }).1.graph.tableOf? ⟨"t"⟩).map DecisionTable.bindings =
        some [(.ofGroupName "A b", none), (.decisionDefault, none),
          (.decisionError, some "more")] := by
  intro c ids
  have hReached : Reached c := (Reached.start {}).edit _
  have hRoles : c.graph.HasStableRoles := by
    unfold Graph.HasStableRoles
    decide
  have hBatch : [asNormal.id, asWritten.id, asWritten.id].Perm ids := by decide
  have hEach : [asWritten.id, asWritten.id, asNormal.id].Perm ids := by decide
  obtain ⟨hBatch, hEach, -, -⟩ := hReached.removes_alike hRoles hBatch hEach
  exact ⟨hRoles, hBatch.trans hEach.symm, by decide, by decide⟩

end Canvas

end FlowCanvas
