import FlowCanvas.Proofs.Canvas.Reach
import FlowCanvas.Proofs.Graph.Views
import Mathlib

/-!
# What a canvas shows of connections

As long as no group is above itself and connections have their ends at stored nodes, a canvas shows
the projection of the stored connections onto what is visible (`Canvas.Reached.exists_projects`).
-/

set_option autoImplicit false

namespace FlowCanvas

namespace Canvas

/-- A reachable canvas shows the projection of its connections onto what is visible. -/
theorem Reached.exists_projects {c : Canvas} (hc : Reached c) (hAcyclic : c.graph.IsAcyclic)
    (hStored : ∀ d ∈ c.graph.connections.toList,
      (∃ n ∈ c.graph.nodes.toList, n.id = d.sourceNode) ∧
        ∃ n ∈ c.graph.nodes.toList, n.id = d.targetNode) :
    ∃ standIn, c.graph.Projects c.visible.2 standIn := by
  rw [hc.isUpToDate.visible_eq]
  exact ⟨_, Graph.projects_visible hAcyclic hc.isStorable.isVirtual_eq hStored⟩

/-- Drawing some code in a collapsed box within a collapsed box, which leads to other code in the
outer box and to code outside. -/
def nestedBoxes : List Edit :=
  [.createNode ⟨"a"⟩ .python "a" .origin, .createNode ⟨"b"⟩ .python "b" .origin,
    .createNode ⟨"c"⟩ .python "c" .origin,
    .connect ⟨⟨"a"⟩, ⟨"python-out"⟩⟩ ⟨⟨"b"⟩, ⟨"python-in"⟩⟩,
    .connect ⟨⟨"a"⟩, ⟨"python-out"⟩⟩ ⟨⟨"c"⟩, ⟨"python-in"⟩⟩,
    .connect ⟨⟨"b"⟩, ⟨"python-out"⟩⟩ ⟨⟨"c"⟩, ⟨"python-in"⟩⟩,
    .createGroup ⟨"inner"⟩ "inner" .origin [⟨"a"⟩],
    .createGroup ⟨"outer"⟩ "outer" .origin [⟨"inner"⟩, ⟨"b"⟩],
    .toggle ⟨"inner"⟩, .toggle ⟨"outer"⟩]

/-- Neither of the nested boxes is above itself. -/
theorem isAcyclic_nestedBoxes : (performAll {} nestedBoxes).graph.IsAcyclic :=
  Graph.isAcyclic_of_rank (fun id => if id = ⟨"inner"⟩ then 1 else 0) (by decide)

/-- Of the three connections one is shown, between the outer box and the code outside. -/
theorem Reached.exists_projects_nestedBoxes :
    let c := Canvas.performAll {} nestedBoxes
    c.graph.connections.toList.length = 3 ∧ c.visible.2.connections.length = 1 ∧
      ∃ standIn, c.graph.Projects c.visible.2 standIn := by
  intro c
  have hReached : Reached c := (Reached.start {}).performAll nestedBoxes
  exact ⟨by decide, by decide,
    hReached.exists_projects isAcyclic_nestedBoxes (by decide)⟩

/-- A loaded flow in which a connection names one node and has its port on another one, which is in
a collapsed box. -/
def strayPort : Canvas :=
  perform {} (.load
    { nodes := [Node.new ⟨"a"⟩ "a" (.python {}),
        { Node.new ⟨"b"⟩ "b" (.python {}) with parent := some ⟨"first"⟩ },
        { Node.new ⟨"c"⟩ "c" (.python {}) with parent := some ⟨"second"⟩ }]
      connections := [{ Connection.between ⟨⟨"b"⟩, ⟨"python-out"⟩⟩ ⟨⟨"c"⟩, ⟨"python-in"⟩⟩ with
        sourceNode := ⟨"a"⟩ }]
      groups := [{ Group.new ⟨"first"⟩ "first" with collapsed := true },
        { Group.new ⟨"second"⟩ "second" with collapsed := true }] })

/-- A loaded flow in which a node has the id of a collapsed box, and a connection leads from within
the box to a port of the node that goes by the name of the port of a box. -/
def namesake : Canvas :=
  perform {} (.load
    { nodes := [{ Node.new ⟨"a"⟩ "a" (.python {}) with parent := some ⟨"g"⟩ },
        Node.new ⟨"g"⟩ "g" (.python {})]
      connections := [{ Connection.between ⟨⟨"a"⟩, ⟨"python-out"⟩⟩ ⟨⟨"g"⟩, Role.groupInput⟩ with
        id := ⟨⟨⟨"a"⟩, ⟨"python-out"⟩⟩, ⟨⟨"g"⟩, ⟨"python-in"⟩⟩⟩ }]
      groups := [{ Group.new ⟨"g"⟩ "box" with collapsed := true }] })

/-- Not every end of what a canvas shows is on something that is shown: a connection that has its
port on another node than it names can be shown to leave a hidden node. Nor is every connection that
is shown free of loops: where a node has the id of a group, a group can be shown to be connected to
itself, even if all ports are on the nodes that are named. -/
theorem not_forall_shows_visible :
    (¬ ∀ c : Canvas, Reached c → c.graph.IsAcyclic →
      (∀ d ∈ c.graph.connections.toList, (∃ n ∈ c.graph.nodes.toList, n.id = d.sourceNode) ∧
        ∃ n ∈ c.graph.nodes.toList, n.id = d.targetNode) →
      ∀ v ∈ c.visible.2.connections,
        c.visible.2.Shows v.sourceNode ∧ c.visible.2.Shows v.targetNode) ∧
    ¬ ∀ c : Canvas, Reached c → c.graph.IsAcyclic →
      (∀ d ∈ c.graph.connections.toList, (∃ n ∈ c.graph.nodes.toList, n.id = d.sourceNode) ∧
        ∃ n ∈ c.graph.nodes.toList, n.id = d.targetNode) →
      (∀ d ∈ c.graph.connections.toList, d.sourcePort.node = d.sourceNode ∧
        d.targetPort.node = d.targetNode) →
      ∀ v ∈ c.visible.2.connections, ∀ h ∈ c.graph.groups.toList,
        v.sourcePort = ⟨h.id, Role.groupOutput⟩ → v.targetPort ≠ ⟨h.id, Role.groupInput⟩ := by
  refine ⟨fun hAll => ?_, fun hAll => ?_⟩
  · have hReached : Reached strayPort := (Reached.start {}).edit _
    have hAcyclic : strayPort.graph.IsAcyclic :=
      Graph.isAcyclic_of_rank (fun _ => 0) (by decide)
    have hHidden : ∃ v ∈ strayPort.visible.2.connections, v.sourceNode = ⟨"b"⟩ ∧
        ¬ strayPort.visible.2.Shows ⟨"b"⟩ := by
      unfold Visible.Shows
      decide
    obtain ⟨v, hv, hSource, hNot⟩ := hHidden
    exact hNot (hSource ▸ (hAll strayPort hReached hAcyclic (by decide) v hv).1)
  · have hReached : Reached namesake := (Reached.start {}).edit _
    have hAcyclic : namesake.graph.IsAcyclic :=
      Graph.isAcyclic_of_rank (fun _ => 0) (by decide)
    have hLoop : ∃ v ∈ namesake.visible.2.connections, ∃ h ∈ namesake.graph.groups.toList,
        v.sourcePort = ⟨h.id, Role.groupOutput⟩ ∧ v.targetPort = ⟨h.id, Role.groupInput⟩ := by
      decide
    obtain ⟨v, hv, h, hh, hLeaves, hEnters⟩ := hLoop
    exact hAll namesake hReached hAcyclic (by decide) (by decide) v hv h hh hLeaves
      hEnters

end Canvas

end FlowCanvas
