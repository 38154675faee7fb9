import FlowCanvas.Proofs.Canvas.Soundness
import FlowCanvas.Proofs.Graph.SingleRoute
import Mathlib

/-!
# Editing one route of a decision table

An editor that changes where one output of a decision table leads may find that connections of other
outputs are gone as well: those whose targets have been renamed since they were drawn. All others
stay (`Canvas.Run.mem_updateNode_iff`).
-/

set_option autoImplicit false

namespace FlowCanvas

/-- Whether an edit makes a node, draws or removes a connection, deletes items or updates a node. -/
def Edit.IsDrawing : Edit → Prop
  | .createNode .. | .connect .. | .removeConnection _ | .delete _ | .updateNode .. => True
  | _ => False

/-- After one route of a decision table has been edited, a connection that does not leave the output
of that route is there exactly if it does not leave the table by another output, or the edit leaves
the routes as they are, or the table still knows the node at the end of the connection by its
name. -/
theorem Canvas.Run.mem_updateNode_iff {c : Canvas} (h : Canvas.Run Graph.EditorCall c)
    {n stored : Node} {t u : DecisionTable} {role : Role}
    (hStored : c.graph.node? stored.id = some stored) (hTable : stored.table? = some t)
    (hDiffers : t.DiffersAt role u) (hEdit : n = { stored with data := .decisionTable u })
    {d : Connection} (hd : d ∈ c.graph.connections.toList)
    (hOther : d.sourceNode = stored.id → d.sourcePort.role ≠ role) :
    d ∈ (c.updateNode n false).1.graph.connections.toList ↔
      (d.sourceNode = stored.id → d.sourcePort.role.isDecisionOutput = true →
        u.bindings = t.bindings ∨
          (d.sourcePort.role, (c.graph.node? d.targetNode).map (·.name)) ∈ t.bindings) := by
  have hKnown : (c.graph.updateNode? n false).isSome = true := by
    rw [Graph.updateNode?, Option.isSome_map, hEdit, hStored]
    rfl
  obtain ⟨⟨g, refusals⟩, hUpdate⟩ := Option.isSome_iff_exists.1 hKnown
  have hGraph : (c.updateNode n false).1.graph = g := by
    unfold Canvas.updateNode
    rw [hUpdate]
    rfl
  have hSound : c.graph.IsSound := h.invariant Graph.isSound_empty fun _ _ hc he => hc.perform he
  have hIff := hSound.mem_updateNode?_iff hStored (Node.table?_eq_some.1 hTable) hDiffers hEdit
    hUpdate hd hOther
  rw [hGraph, hIff, Graph.leaves, Bool.and_eq_true, beq_iff_eq, and_imp]
  rfl

namespace Canvas

/-- Drawing a decision table whose default leads to some code, which is then renamed. -/
def renamedTarget : List Edit :=
  [.createNode ⟨"t"⟩ .decisionTable "table" .origin, .createNode ⟨"p"⟩ .python "code" .origin,
    .connect ⟨⟨"t"⟩, .decisionDefault⟩ ⟨⟨"p"⟩, ⟨"python-in"⟩⟩,
    .updateNode (Node.new ⟨"p"⟩ "renamed" (.python {})) false]

/-- The table of that drawing with another error route. -/
def withErrorRoute : DecisionTable :=
  { defaultNext := some "code", errorNext := some "nowhere" }

/-- An editor may make that drawing call by call. -/
theorem allAllowed_renamedTarget :
    AllAllowed (fun g e => g.EditorCall e ∧ e.IsDrawing) {} renamedTarget := by
  refine ⟨⟨rfl, trivial⟩, ⟨?_, trivial⟩, ⟨trivial, trivial⟩, ⟨⟨rfl, ?_⟩, trivial⟩, trivial⟩
  · show Graph.node? _ _ = none
    decide
  · have hStored : ∃ stored ∈ (performAll {} (renamedTarget.take 3)).graph.node? ⟨"p"⟩,
        (Node.new ⟨"p"⟩ "renamed" (.python {})).kind = stored.kind ∧
          (Node.new ⟨"p"⟩ "renamed" (.python {})).ports = stored.ports := by decide
    obtain ⟨stored, hStored, hKind, hPorts⟩ := hStored
    exact ⟨stored, hStored, hKind, fun _ => hPorts⟩

/-- The edit of the error route takes the connection of the default output away. -/
theorem not_forall_mem_updateNode :
    ¬ ∀ (c : Canvas) (n stored : Node) (t u : DecisionTable) (role : Role) (d : Connection),
      Run (fun g e => g.EditorCall e ∧ e.IsDrawing) c →
        c.graph.node? stored.id = some stored → stored.table? = some t → t.DiffersAt role u →
          n = { stored with data := .decisionTable u } → d ∈ c.graph.connections.toList →
            (d.sourceNode = stored.id → d.sourcePort.role ≠ role) →
              d ∈ (c.updateNode n false).1.graph.connections.toList := by
  intro hAll
  let d : Connection := .between ⟨⟨"t"⟩, .decisionDefault⟩ ⟨⟨"p"⟩, ⟨"python-in"⟩⟩
  let edit (stored : Node) : Node := { stored with data := .decisionTable withErrorRoute }
  have hGone : ∃ stored ∈ (performAll {} renamedTarget).graph.node? ⟨"t"⟩,
      stored.id = ⟨"t"⟩ ∧ stored.table? = some { defaultNext := some "code" } ∧
        d ∈ (performAll {} renamedTarget).graph.connections.toList ∧
          d ∉ ((performAll {} renamedTarget).updateNode
            (edit stored) false).1.graph.connections.toList := by
    decide
  obtain ⟨stored, hStored, hId, hTable, hDrawn, hGone⟩ := hGone
  have hNode : (performAll {} renamedTarget).graph.node? stored.id = some stored := hId ▸ hStored
  refine hGone (hAll _ _ stored _ _ _ d ((Run.start {}).performAll allAllowed_renamedTarget)
    hNode hTable (.error (some "nowhere")) rfl hDrawn fun _ => ?_)
  decide

end Canvas

/-- The connection stays if the code still has its name. -/
theorem Canvas.Run.mem_updateNode_iff_tableToCode :
    ∃ n : Node, n.table? = some Canvas.withErrorRoute ∧
      (.between ⟨⟨"t"⟩, .decisionDefault⟩ ⟨⟨"p"⟩, ⟨"python-in"⟩⟩ : Connection) ∈
        ((Canvas.performAll {} Canvas.tableToCode).updateNode
          n false).1.graph.connections.toList := by
  have hStored : ∃ stored ∈ (Canvas.performAll {} Canvas.tableToCode).graph.node? ⟨"t"⟩,
      stored.id = ⟨"t"⟩ ∧ stored.table? = some { defaultNext := some "code" } := by decide
  obtain ⟨stored, hStored, hId, hTable⟩ := hStored
  have hNode : (Canvas.performAll {} Canvas.tableToCode).graph.node? stored.id = some stored :=
    hId ▸ hStored
  refine ⟨{ stored with data := .decisionTable Canvas.withErrorRoute }, rfl, ?_⟩
  refine (Canvas.Run.mem_updateNode_iff
    (((Canvas.Run.start {}).performAll Canvas.allAllowed_tableToCode).mono fun _ _ h => h.1)
    hNode hTable (.error (some "nowhere")) rfl (by decide)
    fun _ => by decide).2 fun _ _ => .inr ?_
  decide

end FlowCanvas
