import FlowCanvas.Proofs.Canvas.Edits
import FlowCanvas.Proofs.Graph.Rerouting
import Mathlib

/-!
# Soundness of editing

An editor draws with new ids and does not change what kind of node a node is. Whatever it draws,
wires, edits, moves and deletes, in whatever order, the wiring of the canvas is sound
(`Canvas.Run.isSound`). Each edit keeps it so (`Graph.IsSound.perform`).
-/

set_option autoImplicit false

namespace FlowCanvas

namespace Graph

/-- The wiring of the empty graph is sound. -/
theorem isSound_empty : IsSound {} where
  isPrepared := by simp [IsPrepared]
  wires := by simp
  eq_of_joins := by simp
  eq_of_occupies := by simp

/-- A new node with different roles at its ports keeps the wiring sound. -/
theorem IsSound.putNew {g : Graph} (hg : g.IsSound) {n : Node} (hNew : g.node? n.id = none)
    (hRoles : (n.ports.map Port.role).Nodup) : (g.putNode n).IsSound := by
  refine hg.putNode (fun _ => hRoles) ?_
  intro stored hStored
  rw [hNew] at hStored
  cases hStored

/-- Every call that an editor makes keeps the wiring sound. -/
theorem IsSound.perform {c : Canvas} (hc : c.graph.IsSound) {e : Edit}
    (h : c.graph.EditorCall e) : (c.perform e).graph.IsSound := by
  cases e with
  | createNode id kind name position =>
    exact hc.putNew h (Node.nodup_roles_initial id kind)
  | addNode n => exact hc.putNew h.1 h.2
  | createGroup id title position members =>
    show (c.createGroup id title position members).graph.IsSound
    rw [Canvas.graph_createGroup]
    exact (hc.shrinks (putGroup_shrinks _ _).drifts).shrinks (setParent_shrinks _ _ _).drifts
  | addGroup group => exact hc.shrinks (putGroup_shrinks _ group).drifts
  | addConnection d => exact Canvas.addConnection_keeps hc fun _ hAdd => hc.addConnection hAdd
  | connect source target =>
    exact Canvas.addConnection_keeps hc fun _ hAdd => hc.addConnection hAdd
  | addConnections ds => exact addConnections_keeps (fun _ _ _ => .addConnection) ds hc
  | updateNode n keepConnections =>
    obtain ⟨rfl, stored, hStored, hKind, hPorts⟩ := h
    exact Canvas.updateNode_keeps hc fun _ _ hUpdate =>
      hc.updateNode? hStored hKind hPorts hUpdate
  | reroute table => exact Canvas.reroute_keeps hc fun _ _ hReroute => hc.reroute? hReroute
  | removeConnection id =>
    exact Canvas.removeConnection_keeps hc fun _ hRemove =>
      hc.shrinks (removeConnection?_shrinks hRemove)
  | removeConnections ids =>
    exact removeConnections_keeps
      (fun _ _ _ hRemove hg => hg.shrinks (removeConnection?_shrinks hRemove)) ids hc
  | delete selection => exact hc.shrinks (delete_shrinks hc.isPrepared.hasStorableNodes selection)
  | toggle id =>
    exact Canvas.toggle_keeps hc fun _ hToggle => hc.shrinks (toggle?_shrinks hToggle).drifts
  | setParent ids parent =>
    show (c.setParent ids parent).1.graph.IsSound
    rw [Canvas.graph_setParent]
    exact hc.shrinks (setParent_shrinks _ ids parent).drifts
  | load flow => exact h.elim
  | loadText text => exact h.elim
  | updateNodes nodes => exact h.elim
  | updateGroups groups => exact h.elim
  | updateConnections connections => exact h.elim

end Graph

/-- Whatever an editor does, the wiring stays sound. -/
theorem Canvas.Run.isSound {c : Canvas} (h : Canvas.Run Graph.EditorCall c) : c.graph.IsSound :=
  h.invariant Graph.isSound_empty fun _ _ hc he => hc.perform he

/-- Drawing a decision table that leads to some code. -/
def Canvas.tableToCode : List Edit :=
  [.createNode ⟨"t"⟩ .decisionTable "table" .origin, .createNode ⟨"p"⟩ .python "code" .origin,
    .connect ⟨⟨"t"⟩, .decisionDefault⟩ ⟨⟨"p"⟩, ⟨"python-in"⟩⟩]

/-- An editor may make that drawing call by call, and keeps all names. -/
theorem Canvas.allAllowed_tableToCode :
    Canvas.AllAllowed (fun g e => g.EditorCall e ∧ g.KeepsNames e) {} Canvas.tableToCode := by
  refine ⟨⟨rfl, trivial⟩, ⟨?_, trivial⟩, ⟨trivial, trivial⟩, trivial⟩
  show Graph.node? _ _ = none
  decide

/-- Drawing a table that leads to code ends with one connection and sound wiring. -/
theorem Canvas.Run.isSound_tableToCode :
    (Canvas.performAll {} Canvas.tableToCode).graph.connections.toList.length = 1 ∧
      (Canvas.performAll {} Canvas.tableToCode).graph.IsSound :=
  ⟨by decide, Canvas.Run.isSound
    (((Canvas.Run.start {}).performAll Canvas.allAllowed_tableToCode).mono fun _ _ h => h.1)⟩

end FlowCanvas
