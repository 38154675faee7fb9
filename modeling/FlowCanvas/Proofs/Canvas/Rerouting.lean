import FlowCanvas.Proofs.Canvas.Reach
import FlowCanvas.Proofs.Graph.Redrawing
import Mathlib

/-!
# Rerouting on a canvas

Whatever has been loaded and edited before, bringing the connections of a decision table in line
with its routes drops and draws exactly what the routes ask for and the rules allow, and doing so a
second time changes nothing (`Canvas.Reached.reroutes_exactly`).
-/

set_option autoImplicit false

namespace FlowCanvas

namespace Canvas

/-- Where there is a decision table, its connections are brought in line. -/
theorem exists_reroute? {c : Canvas} {id : ItemId} {t : DecisionTable}
    (h : c.graph.tableOf? id = some t) :
    ∃ refusals, c.graph.reroute? id = some ((c.reroute id).graph, refusals) := by
  obtain ⟨⟨g, refusals⟩, hReroute⟩ : ∃ result, c.graph.reroute? id = some result := by
    rw [← Option.isSome_iff_exists, Graph.reroute?, Option.isSome_map, h]
    rfl
  refine ⟨refusals, ?_⟩
  unfold reroute
  rw [hReroute]
  rfl

/-- On a reachable canvas the connections of a decision table are brought in line with its routes,
and a second time there is nothing to change. -/
theorem Reached.reroutes_exactly {c : Canvas} (hc : Reached c) {id : ItemId} {t : DecisionTable}
    (hTable : c.graph.tableOf? id = some t) :
    c.graph.Reroutes id t (c.reroute id).graph ∧
      ((c.reroute id).reroute id).flow = (c.reroute id).flow := by
  obtain ⟨refusals, hReroute⟩ := exists_reroute? hTable
  have hReroutes := Graph.reroutes_reroute? hc.isStorable.nodes hTable hReroute
  refine ⟨hReroutes, ?_⟩
  obtain ⟨refusals', hAgain⟩ := hReroutes.again hTable
  unfold flow
  conv_lhs => rw [reroute]
  rw [hAgain]
  rfl

/-- The connection from the default output of a table to a node that it does not lead to. -/
def toWrongNode : Connection := .between ⟨⟨"t"⟩, .decisionDefault⟩ ⟨⟨"q"⟩, ⟨"python-in"⟩⟩

/-- A table whose group and default lead to the same code and whose error route leads to no node,
with a connection from the default to some other code. -/
def wronglyDrawn : Flow :=
  { nodes :=
      [Node.new ⟨"t"⟩ "table" (.decisionTable
          { groups := [{ name := "a", expression := "x", next := some "code" }]
            defaultNext := some "code", errorNext := some "gone" }),
        Node.new ⟨"p"⟩ "code" (Payload.initial .python),
        Node.new ⟨"q"⟩ "more" (Payload.initial .python)]
    connections := [toWrongNode]
    groups := [{ id := ⟨"box"⟩, collapsed := true, hidden := { inputs := [toWrongNode.id] } }] }

/-- The wrong connection goes, also from the record of the group, the group of the table is drawn to
the code, and the default is refused, since the two nodes are joined then. -/
theorem Reached.reroutes_exactly_wronglyDrawn :
    let c := Canvas.perform {} (.load wronglyDrawn)
    ∃ t, c.graph.tableOf? ⟨"t"⟩ = some t ∧ c.graph.Reroutes ⟨"t"⟩ t (c.reroute ⟨"t"⟩).graph ∧
      (c.reroute ⟨"t"⟩).graph.connections.toList =
        [.between ⟨⟨"t"⟩, .ofGroupName "a"⟩ ⟨⟨"p"⟩, ⟨"python-in"⟩⟩] ∧
      (c.reroute ⟨"t"⟩).graph.groups.toList.map Group.hidden = [{}] ∧
      (c.reroute ⟨"t"⟩).refusals = [.alreadyJoined ⟨"t"⟩ ⟨"p"⟩] ∧
      ((c.reroute ⟨"t"⟩).reroute ⟨"t"⟩).flow = (c.reroute ⟨"t"⟩).flow := by
  intro c
  have hReached : Reached c := (Reached.start {}).edit _
  obtain ⟨t, hTable⟩ : ∃ t, c.graph.tableOf? ⟨"t"⟩ = some t :=
    Option.isSome_iff_exists.1 (by decide)
  obtain ⟨hReroutes, hAgain⟩ := hReached.reroutes_exactly hTable
  exact ⟨t, hTable, hReroutes, by decide, by decide, by decide, hAgain⟩

end Canvas

end FlowCanvas
