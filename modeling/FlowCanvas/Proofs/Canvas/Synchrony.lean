import FlowCanvas.Proofs.Canvas.Soundness
import FlowCanvas.Proofs.Graph.Routes
import Mathlib

/-!
# Connections and routes in editing

As long as an editor renames no node, the connections of decision tables and the routes of the
tables say the same, although each can be changed by way of the other
(`Canvas.Run.mem_bindings_iff`).
-/

set_option autoImplicit false

namespace FlowCanvas

namespace Graph

/-- The empty graph is in sync. -/
theorem isInSync_empty : IsInSync {} where
  sound := isSound_empty
  follows := by simp

/-- Every call that an editor makes, except renaming a node, keeps connections and routes in
sync. -/
theorem IsInSync.perform {c : Canvas} (hc : c.graph.IsInSync) {e : Edit}
    (h : c.graph.EditorCall e) (hNames : c.graph.KeepsNames e) : (c.perform e).graph.IsInSync := by
  have hSound := hc.sound.perform h
  cases e with
  | createNode id kind name position => exact hc.putNew h hSound
  | addNode n => exact hc.putNew h.1 hSound
  | createGroup id title position members =>
    show (c.createGroup id title position members).graph.IsInSync
    rw [Canvas.graph_createGroup]
    exact (hc.shrinks (putGroup_shrinks _ _)).shrinks (setParent_shrinks _ _ _)
  | addGroup group => exact hc.shrinks (putGroup_shrinks _ group)
  | addConnection d => exact Canvas.addConnection_keeps hc fun _ hAdd => hc.addConnection hAdd
  | connect source target =>
    exact Canvas.addConnection_keeps hc fun _ hAdd => hc.addConnection hAdd
  | addConnections ds => exact addConnections_keeps (fun _ _ _ => .addConnection) ds hc
  | updateNode n keepConnections =>
    obtain ⟨rfl, stored, hStored, hKind, hPorts⟩ := h
    exact Canvas.updateNode_keeps hc fun _ _ hUpdate =>
      hc.updateNode? hStored hKind (hNames stored hStored) hPorts hUpdate
  | reroute table => exact Canvas.reroute_keeps hc fun _ _ hReroute => hc.reroute? hReroute
  | removeConnection id =>
    exact Canvas.removeConnection_keeps hc fun _ hRemove => hc.removeConnection? hRemove
  | removeConnections ids =>
    exact removeConnections_keeps (fun _ _ _ hRemove hg => hg.removeConnection? hRemove) ids hc
  | delete selection => exact hc.delete selection
  | toggle id =>
    exact Canvas.toggle_keeps hc fun _ hToggle => hc.shrinks (toggle?_shrinks hToggle)
  | setParent ids parent =>
    show (c.setParent ids parent).1.graph.IsInSync
    rw [Canvas.graph_setParent]
    exact hc.shrinks (setParent_shrinks _ ids parent)
  | load flow => exact h.elim
  | loadText text => exact h.elim
  | updateNodes nodes => exact h.elim
  | updateGroups groups => exact h.elim
  | updateConnections connections => exact h.elim

end Graph

/-- As long as no node is renamed, a connection that leaves an output of a decision table leads
where the table says: the output has an entry, which is the name of the target. -/
theorem Canvas.Run.mem_bindings_iff {c : Canvas}
    (h : Canvas.Run (fun g e => g.EditorCall e ∧ g.KeepsNames e) c) {d : Connection}
    (hd : d ∈ c.graph.connections.toList) {source : Node} {t : DecisionTable}
    (hSource : c.graph.node? d.sourceNode = some source) (hTable : source.table? = some t)
    (hRole : d.sourcePort.role.isDecisionOutput = true) :
    ∃ target, c.graph.node? d.targetNode = some target ∧
      ∀ next, (d.sourcePort.role, next) ∈ t.bindings ↔ next = some target.name := by
  have hSync : c.graph.IsInSync :=
    h.invariant Graph.isInSync_empty fun _ _ hc he => hc.perform he.1 he.2
  have hData := Node.table?_eq_some.1 hTable
  obtain ⟨target, hTarget, hEntry⟩ := hSync.follows d hd source t hSource hData hRole
  refine ⟨target, hTarget, fun next => ⟨fun hNext => ?_, fun hNext => hNext ▸ hEntry⟩⟩
  exact hSync.eq_of_mem_bindings hd hSource hData hRole hTarget hNext

/-- The route of the default output in the drawing of a table is the name of the code it leads
to. -/
theorem Canvas.Run.mem_bindings_iff_tableToCode :
    ∃ target, (Canvas.performAll {} Canvas.tableToCode).graph.node? ⟨"p"⟩ = some target ∧
      ∀ next, (Role.decisionDefault, next) ∈
          DecisionTable.bindings { defaultNext := some "code" } ↔ next = some target.name := by
  have hTableOf : (Canvas.performAll {} Canvas.tableToCode).graph.tableOf? ⟨"t"⟩ =
      some { defaultNext := some "code" } := by decide
  obtain ⟨source, hSource, hTable⟩ := Option.bind_eq_some_iff.1 hTableOf
  exact Canvas.Run.mem_bindings_iff
    ((Canvas.Run.start {}).performAll Canvas.allAllowed_tableToCode)
    (d := .between ⟨⟨"t"⟩, .decisionDefault⟩ ⟨⟨"p"⟩, ⟨"python-in"⟩⟩) (by decide)
    hSource hTable (by decide)

end FlowCanvas
