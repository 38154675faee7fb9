import FlowCanvas.Proofs.Canvas.Reach
import FlowCanvas.Proofs.Canvas.Soundness
import FlowCanvas.Proofs.Keyed.LastItems
import Mathlib

/-!
# Loading flows

Whatever is on a canvas, loading a flow leaves exactly what a graph can hold of it (`Flow.settled`),
and loading what a reachable canvas holds changes nothing (`Canvas.loads_exactly`). For the second
part it matters that every operation leaves nodes in their prepared form and stores no virtual
connection (`Canvas.Reached.isStorable`).
-/

set_option autoImplicit false

namespace FlowCanvas

/-- What a graph can hold of a flow. Of what has the same key it holds the last, in the place of the
first, nodes in their prepared form and no virtual connections. -/
def Flow.settled (f : Flow) : Flow where
  nodes := (Roster.lastItems f.nodes).map Node.prepare
  connections := Roster.lastItems (f.connections.filter (!·.isVirtual))
  groups := Roster.lastItems f.groups

namespace Graph

/-- A graph that has been made of a flow gives the flow back once it is settled. -/
theorem toFlow_ofFlow (f : Flow) : (ofFlow f).toFlow = f.settled := by
  have hNodes : (ofFlow f).nodes.toList = (Roster.lastItems f.nodes).map Node.prepare := by
    show (Roster.ofList (f.nodes.map Node.prepare)).toList = _
    rw [Roster.toList_ofList]
    exact Roster.lastItems_map Node.prepare_id f.nodes
  have hConnections : (ofFlow f).connections.toList =
      Roster.lastItems (f.connections.filter (!·.isVirtual)) :=
    Roster.toList_ofList _
  have hGroups : (ofFlow f).groups.toList = Roster.lastItems f.groups := Roster.toList_ofList _
  unfold toFlow Flow.settled
  rw [hNodes, hConnections, hGroups]

/-- A graph that has been made of a flow finds the last node with an id, prepared for storing. -/
theorem node?_ofFlow (f : Flow) (id : ItemId) :
    (ofFlow f).node? id = (Roster.last? f.nodes id).map Node.prepare := by
  show (Roster.ofList (f.nodes.map Node.prepare)).get? id = _
  rw [Roster.get?_ofList]
  exact Roster.last?_map Node.prepare_id f.nodes id

end Graph

namespace Canvas

/-- Loading leaves what a graph can hold of a flow, where every key leads to the last item that has
it in the flow, and loading what is on the canvas already leaves that as it is. -/
theorem loads_exactly (c : Canvas) (f : Flow) :
    (c.load f).flow = f.settled ∧
      (∀ id, (c.load f).graph.node? id = (Roster.last? f.nodes id).map Node.prepare) ∧
      (∀ id, (c.load f).graph.connection? id =
        Roster.last? (f.connections.filter (!·.isVirtual)) id) ∧
      (∀ id, (c.load f).graph.group? id = Roster.last? f.groups id) ∧
      (Reached c → (c.load c.flow).flow = c.flow) := by
  refine ⟨Graph.toFlow_ofFlow f, Graph.node?_ofFlow f, ?_, ?_, ?_⟩
  · intro id
    exact congrFun (Roster.get?_ofList _) id
  · intro id
    exact congrFun (Roster.get?_ofList _) id
  · intro hc
    exact congrArg Graph.toFlow hc.isStorable.ofFlow_toFlow

/-- A flow in which a table, a connection and a group come twice, the table with stale ports and a
stale flag the second time, and in which a virtual connection has the key of an ordinary one. -/
def repeated : Flow where
  nodes :=
    [Node.new ⟨"t"⟩ "old" (Payload.initial .python),
      Node.new ⟨"p"⟩ "code" (Payload.initial .python),
      { Node.new ⟨"t"⟩ "new"
          (.decisionTable { groups := [{ name := "a", expression := "x", valid := false }] }) with
        ports := [] }]
  connections :=
    [.virtualBetween ⟨⟨"t"⟩, .decisionDefault⟩ ⟨⟨"p"⟩, ⟨"python-in"⟩⟩,
      .between ⟨⟨"t"⟩, .decisionError⟩ ⟨⟨"p"⟩, ⟨"python-in"⟩⟩,
      .between ⟨⟨"t"⟩, .decisionDefault⟩ ⟨⟨"p"⟩, ⟨"python-in"⟩⟩,
      { Connection.between ⟨⟨"t"⟩, .decisionError⟩ ⟨⟨"p"⟩, ⟨"python-in"⟩⟩ with
        targetNode := ⟨"q"⟩ }]
  groups := [Group.new ⟨"g"⟩ "old", Group.new ⟨"h"⟩ "other", Group.new ⟨"g"⟩ "new"]

/-- A flow in which ids are repeated is loaded over another one. -/
theorem loads_exactly_repeated :
    let c := (performAll {} tableToCode).load repeated
    c.flow.nodes.map Node.name = ["new", "code"] ∧
      (c.flow.nodes.map fun n => n.ports.length) = [4, 2] ∧
      c.flow.connections.map Connection.targetNode = [⟨"q"⟩, ⟨"p"⟩] ∧
      c.flow.groups.map Group.title = ["new", "other"] ∧
      c.flow = repeated.settled ∧ (c.load c.flow).flow = c.flow := by
  intro c
  have hReached : Reached c := ((Reached.start {}).performAll tableToCode).edit (.load repeated)
  obtain ⟨hFlow, -⟩ := loads_exactly (performAll {} tableToCode) repeated
  obtain ⟨-, -, -, -, hAgain⟩ := loads_exactly c repeated
  refine ⟨?_, ?_, ?_, ?_, hFlow, hAgain hReached⟩
  · decide
  · decide
  · decide
  · decide

end Canvas

end FlowCanvas
