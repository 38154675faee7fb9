import FlowCanvas.Proofs.Canvas.Edits
import FlowCanvas.Proofs.Graph.Records
import Mathlib

/-!
# What collapsed groups record

A collapsed group keeps a record of the connections that it hides. As long as groups are put on a
canvas with empty records, the records name stored connections only, each once, whichever way
connections come and go, and expanding a group that has just been collapsed restores what was there
before (`Canvas.Run.records_exactly`).
-/

set_option autoImplicit false

namespace FlowCanvas

namespace Graph

/-- The calls that leave the records of groups to the canvas: all but those that bring in groups
with records of their own. -/
def RecordingCall (_ : Graph) : Edit → Prop
  | .addGroup group => group.hidden.isEmpty = true
  | .load _ | .loadText _ | .updateGroups _ => False
  | _ => True

/-- Calls that may collapse and expand groups keep the records of groups exact. -/
theorem HasExactRecords.perform {c : Canvas} (hc : c.graph.HasExactRecords) {e : Edit}
    (h : c.graph.RecordingCall e) : (c.perform e).graph.HasExactRecords := by
  have hNodes : ∀ {g g' : Graph}, g.HasExactRecords → g'.groups = g.groups →
      g'.connections = g.connections → g'.HasExactRecords :=
    fun hg hGroups hConnections => hg.prunes (.of_eq hGroups hConnections)
  cases e with
  | createNode id kind name position => exact hNodes hc rfl rfl
  | addNode n => exact hNodes hc rfl rfl
  | updateNodes nodes => exact List.foldlRecOn _ _ hc fun _ hg _ _ => hNodes hg rfl rfl
  | createGroup id title position members =>
    show (c.createGroup id title position members).graph.HasExactRecords
    rw [Canvas.graph_createGroup]
    exact (hc.putGroup (.inl rfl)).prunes (setParent_prunes _ _ _)
  | addGroup group => exact hc.putGroup (.inl (HiddenConnections.isEmpty_iff.1 h))
  | addConnection d =>
    exact Canvas.addConnection_keeps hc fun _ hAdd => hc.prunes (addConnection_prunes hAdd)
  | connect source target =>
    exact Canvas.addConnection_keeps hc fun _ hAdd => hc.prunes (addConnection_prunes hAdd)
  | addConnections ds =>
    exact addConnections_keeps (fun _ _ _ hg hAdd => hg.prunes (addConnection_prunes hAdd)) ds hc
  | updateNode n keepConnections =>
    exact Canvas.updateNode_keeps hc fun _ _ hUpdate => hc.prunes (updateNode?_prunes hUpdate)
  | updateConnections connections => exact hc.prunes (putConnections_prunes _ _)
  | reroute table =>
    exact Canvas.reroute_keeps hc fun _ _ hReroute => hc.prunes (reroute?_prunes hReroute)
  | removeConnection id =>
    exact Canvas.removeConnection_keeps hc fun _ hRemove =>
      hc.prunes (removeConnection?_prunes hRemove)
  | removeConnections ids =>
    exact removeConnections_keeps
      (fun _ _ _ hRemove hg => hg.prunes (removeConnection?_prunes hRemove)) ids hc
  | delete selection => exact hc.prunes (delete_prunes _ selection)
  | toggle id => exact Canvas.toggle_keeps hc fun _ hToggle => hc.toggle? hToggle
  | setParent ids parent =>
    show (c.setParent ids parent).1.graph.HasExactRecords
    rw [Canvas.graph_setParent]
    exact hc.prunes (setParent_prunes _ ids parent)
  | load flow => exact h.elim
  | loadText text => exact h.elim
  | updateGroups groups => exact h.elim

end Graph

namespace Canvas

/-- Toggling an expanded group twice leaves the canvas as it was, except that it remembers nothing
of what is derived from the graph. -/
theorem toggle_toggle {c : Canvas} (hc : c.graph.HasExactRecords) {h : Group}
    (hh : h ∈ c.graph.groups.toList) (hExpanded : h.collapsed = false) :
    (c.toggle h.id).2 = true ∧ (c.toggle h.id).1.toggle h.id = (c.withGraph c.graph, true) := by
  obtain ⟨g, hCollapse, hExpand⟩ := hc.exists_toggle? hh hExpanded
  have hFirst : c.toggle h.id = (c.withGraph g, true) := by
    unfold toggle
    rw [hCollapse]
  have hSecond : (c.withGraph g).toggle h.id = (c.withGraph c.graph, true) := by
    unfold toggle
    rw [show (c.withGraph g).graph = g from rfl, hExpand]
    rfl
  rw [hFirst]
  exact ⟨rfl, hSecond⟩

/-- After whatever has been drawn, moved, collapsed and deleted, the records of the groups are
exact, and toggling an expanded group twice restores everything. -/
theorem Run.records_exactly {c : Canvas} (h : Run Graph.RecordingCall c) :
    c.graph.HasExactRecords ∧
      ∀ group ∈ c.graph.groups.toList, group.collapsed = false →
        (c.toggle group.id).2 = true ∧
          (c.toggle group.id).1.toggle group.id = (c.withGraph c.graph, true) := by
  have hExact : c.graph.HasExactRecords :=
    h.invariant Graph.hasExactRecords_empty fun _ _ hc he => hc.perform he
  exact ⟨hExact, fun _ => toggle_toggle hExact⟩

/-- Drawing a chain of code, boxing its middle and then that box with its end, collapsing both
boxes, and cutting the chain in front of them. -/
def cutChain : List Edit :=
  let first : ConnectionId := ⟨⟨⟨"a"⟩, ⟨"python-out"⟩⟩, ⟨⟨"b"⟩, ⟨"python-in"⟩⟩⟩
  [.createNode ⟨"a"⟩ .python "a" .origin, .createNode ⟨"b"⟩ .python "b" .origin,
    .createNode ⟨"c"⟩ .python "c" .origin, .connect first.source first.target,
    .connect ⟨⟨"b"⟩, ⟨"python-out"⟩⟩ ⟨⟨"c"⟩, ⟨"python-in"⟩⟩,
    .createGroup ⟨"inner"⟩ "inner" .origin [⟨"b"⟩],
    .createGroup ⟨"outer"⟩ "outer" .origin [⟨"inner"⟩, ⟨"c"⟩],
    .createGroup ⟨"open"⟩ "open" .origin [⟨"outer"⟩],
    .toggle ⟨"inner"⟩, .toggle ⟨"outer"⟩, .removeConnection first]

/-- Both boxes have recorded the connection that is cut and have forgotten it. -/
theorem Run.records_exactly_cutChain :
    let c := Canvas.performAll {} cutChain
    c.graph.groups.toList.map (·.hidden.ids) =
        [[⟨⟨⟨"b"⟩, ⟨"python-out"⟩⟩, ⟨⟨"c"⟩, ⟨"python-in"⟩⟩⟩],
          [⟨⟨⟨"b"⟩, ⟨"python-out"⟩⟩, ⟨⟨"c"⟩, ⟨"python-in"⟩⟩⟩], []] ∧
      c.graph.HasExactRecords ∧
        ∀ group ∈ c.graph.groups.toList, group.collapsed = false →
          (c.toggle group.id).2 = true ∧
            (c.toggle group.id).1.toggle group.id = (c.withGraph c.graph, true) := by
  intro c
  have hRun : Run Graph.RecordingCall c := (Run.start {}).performAll
    ⟨trivial, trivial, trivial, trivial, trivial, trivial, trivial, trivial, trivial, trivial,
      trivial, trivial⟩
  exact ⟨by decide, hRun.records_exactly⟩

end Canvas

end FlowCanvas
