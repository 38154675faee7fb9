import FlowCanvas.Proofs.Graph.Regrouping
import Mathlib

/-!
# Dropping connections

What is dropped are the connections with keys in a list, from the graph and from the records of its
groups. Only which keys are in the list matters, and dropping twice is dropping both lists together.
-/

set_option autoImplicit false

namespace FlowCanvas

namespace HiddenConnections

/-- A record that forgets twice forgets all that is forgotten either time. -/
theorem forget_forget (h : HiddenConnections) (ids ids' : List ConnectionId) :
    (h.forget ids).forget ids' = h.forget (ids ++ ids') := by
  simp [forget, List.filter_filter, Bool.and_comm]

/-- A record that is to forget nothing stays as it is. -/
@[simp] theorem forget_nil (h : HiddenConnections) : h.forget [] = h := by
  simp [forget]

end HiddenConnections

namespace Graph

variable {g : Graph} {ids : List ConnectionId}

/-- Dropping connections does not depend on the order and number of their keys. -/
theorem dropConnections_congr {ids' : List ConnectionId} (h : ∀ id, id ∈ ids ↔ id ∈ ids') :
    g.dropConnections ids = g.dropConnections ids' := by
  have hContains : ids.contains = ids'.contains := by
    funext id
    rw [Bool.eq_iff_iff, List.contains_iff_mem, List.contains_iff_mem, h]
  unfold dropConnections forget HiddenConnections.forget
  rw [hContains]

/-- Dropping twice is dropping all at once. -/
theorem dropConnections_dropConnections (g : Graph) (ids ids' : List ConnectionId) :
    (g.dropConnections ids).dropConnections ids' = g.dropConnections (ids ++ ids') := by
  have hConnections : ((g.dropConnections ids).dropConnections ids').connections =
      (g.dropConnections (ids ++ ids')).connections := by
    apply Roster.ext
    show (g.connections.toList.filter _).filter _ = g.connections.toList.filter _
    rw [List.filter_filter]
    congr 1
    funext c
    simp [Bool.and_comm]
  refine eq_of_toList_eq rfl hConnections ?_
  show (g.groups.toList.map _).map _ = g.groups.toList.map _
  rw [List.map_map]
  apply List.map_congr_left
  intro h _
  simp only [Function.comp_apply, HiddenConnections.forget_forget]

/-- Dropping no connections changes nothing. -/
@[simp] theorem dropConnections_nil (g : Graph) : g.dropConnections [] = g := by
  have hConnections : (g.dropConnections []).connections = g.connections :=
    Roster.ext (List.filter_eq_self.2 fun _ _ => rfl)
  refine eq_of_toList_eq rfl hConnections (Lists.map_eq_self fun h _ => ?_)
  simp only [HiddenConnections.forget_nil]

end Graph

end FlowCanvas
