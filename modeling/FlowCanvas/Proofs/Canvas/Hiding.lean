import FlowCanvas.Proofs.Canvas.Visibility
import FlowCanvas.Proofs.Graph.Hiding
import Mathlib

/-!
# What a canvas hides

Whatever has been loaded and edited before, a canvas hides what is below its collapsed groups
(`Canvas.Reached.hides_exactly`), even where groups lie in a circle or in a group that is not
stored.
-/

set_option autoImplicit false

namespace FlowCanvas

namespace Canvas

/-- On a reachable canvas, climbing from an item and going down from a collapsed group agree on what
is hidden. -/
theorem Reached.hides_exactly {c : Canvas} (hc : Reached c) : c.graph.HidesExactly c.visible.2 := by
  rw [hc.isUpToDate.visible_eq]
  exact Graph.hidesExactly_visible c.graph

/-- Code in one of two groups that are in each other, of which the other one is collapsed, more code
in a group that is not stored, and code on the top level. -/
def circleAndStray : Flow :=
  { nodes :=
      [{ Node.new ⟨"p"⟩ "code" (Payload.initial .python) with parent := some ⟨"inner"⟩ },
        { Node.new ⟨"q"⟩ "stray" (Payload.initial .python) with parent := some ⟨"gone"⟩ },
        Node.new ⟨"r"⟩ "top" (Payload.initial .python)]
    groups :=
      [{ id := ⟨"outer"⟩, parent := some ⟨"inner"⟩, collapsed := true },
        { id := ⟨"inner"⟩, parent := some ⟨"outer"⟩ }] }

/-- In a circle both groups are hidden, as each of them is above itself. Without a circle the inner
of two boxes is hidden because it is among the groups below the outer one. -/
theorem Reached.hides_exactly_circleAndBoxes :
    let c := Canvas.perform {} (.load circleAndStray)
    let boxes := Canvas.performAll {} nestedBoxes
    (c.visible.2.nodes.map Node.id = [⟨"q"⟩, ⟨"r"⟩] ∧ c.visible.2.groups = [] ∧
      c.graph.nodesBelow ⟨"outer"⟩ = [⟨"p"⟩] ∧ c.graph.HidesExactly c.visible.2) ∧
    boxes.visible.2.groups.map Group.id = [⟨"outer"⟩] ∧
      ∀ k ∈ boxes.graph.groups.toList, k ∉ boxes.visible.2.groups ↔
        ∃ h ∈ boxes.graph.groups.toList, h.collapsed = true ∧
          k.id ∈ boxes.graph.groupsBelow h.id := by
  intro c boxes
  have hCircle : Reached c := (Reached.start {}).edit (.load circleAndStray)
  have hBoxes : Reached boxes := (Reached.start {}).performAll nestedBoxes
  constructor
  · exact ⟨by decide, by decide, by decide, hCircle.hides_exactly⟩
  · exact ⟨by decide, hBoxes.hides_exactly.groups isAcyclic_nestedBoxes⟩

end Canvas

end FlowCanvas
