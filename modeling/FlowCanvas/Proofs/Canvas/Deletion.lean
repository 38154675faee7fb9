import FlowCanvas.Proofs.Canvas.Reach
import FlowCanvas.Proofs.Graph.Deleting
import Mathlib

/-!
# Deleting on a canvas

Whatever has been loaded and edited before, deleting a selection takes exactly what hangs on it
(`Canvas.Reached.deletes_exactly`), even where groups lie in a circle.
-/

set_option autoImplicit false

namespace FlowCanvas

namespace Canvas

/-- On a reachable canvas a deletion takes what is selected with its cascade, reports it, and leaves
the rest as it is. -/
theorem Reached.deletes_exactly {c : Canvas} (hc : Reached c) (s : Selection) :
    c.graph.Deletes s (c.delete s).1.graph (c.delete s).2 :=
  Graph.deletes_delete hc.isStorable s

/-- A table on the top level that leads to code in the inner one of two groups, each of which is in
the other. -/
def circleOfGroups : Flow :=
  { nodes :=
      [Node.new ⟨"t"⟩ "table" (.decisionTable { defaultNext := some "code" }),
        { Node.new ⟨"p"⟩ "code" (Payload.initial .python) with parent := some ⟨"inner"⟩ },
        { Node.new ⟨"q"⟩ "more" (Payload.initial .python) with parent := some ⟨"other"⟩ }]
    connections := [.between ⟨⟨"t"⟩, Role.decisionDefault⟩ ⟨⟨"p"⟩, ⟨"python-in"⟩⟩]
    groups :=
      [{ id := ⟨"outer"⟩, parent := some ⟨"inner"⟩, collapsed := true },
        { id := ⟨"inner"⟩, parent := some ⟨"outer"⟩ }, { id := ⟨"other"⟩ }] }

/-- The collapsed group takes the other group of the circle and the code along, the expanded one
releases what is in it, and the table forgets its route. -/
theorem Reached.deletes_exactly_circleOfGroups :
    let c := Canvas.perform {} (.load circleOfGroups)
    let s : Selection := { groups := [⟨"outer"⟩, ⟨"other"⟩] }
    (c.delete s).2 =
        { nodes := [⟨"p"⟩], groups := [⟨"inner"⟩, ⟨"other"⟩, ⟨"outer"⟩]
          connections := [⟨⟨⟨"t"⟩, Role.decisionDefault⟩, ⟨⟨"p"⟩, ⟨"python-in"⟩⟩⟩] } ∧
      (c.delete s).1.graph.nodes.toList.map Node.parent = [none, none] ∧
      c.graph.Deletes s (c.delete s).1.graph (c.delete s).2 := by
  intro c s
  have hReached : Reached c := (Reached.start {}).edit (.load circleOfGroups)
  exact ⟨by decide, by decide, hReached.deletes_exactly s⟩

end Canvas

end FlowCanvas
