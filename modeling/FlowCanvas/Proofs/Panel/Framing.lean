import FlowCanvas.Proofs.Graph.Framing
import FlowCanvas.Proofs.Panel.Saving
import Mathlib

/-!
# What a save can reach

Whatever makes the sidebar save, nothing changes on the canvas but the selected node and the
connections that follow it (`Canvas.Reached.changes_only`), and nothing at all if there is nothing
to save. A save compares the node before and after, and updates the canvas only if they differ. The
coordinates of a node are numbers here, so a node is equal to itself; but nothing rests on that. If
a node differed from itself, as one with a coordinate that is not a number would, a save would put
it in once more, and that leaves the graph as it is (`Canvas.Reached.graph_updateNode_self`).
-/

set_option autoImplicit false

namespace FlowCanvas

/-! ## Comparing nodes -/

instance {f : Binary.Format} : ReflBEq (Binary f) where
  rfl := by
    intro x
    show (x.rank == x.rank && (x.negative == x.negative || x.rank == 0)) = true
    simp

deriving instance ReflBEq for Json.Number

namespace Json.Value

mutual

/-- A value is equal to itself. -/
theorem beq_self : (v : Value) → beq v v = true
  | .null => rfl
  | .bool b => BEq.rfl (a := b)
  | .number n => BEq.rfl (a := n)
  | .string s => BEq.rfl (a := s)
  | .array items => beqItems_self items
  | .object fields => beqFields_self fields

/-- Items are equal to themselves. -/
theorem beqItems_self : (items : List Value) → beqItems items items = true
  | [] => rfl
  | item :: rest => by rw [beqItems, beq_self item, beqItems_self rest, Bool.and_self]

/-- Fields are equal to themselves. -/
theorem beqFields_self : (fields : List (String × Value)) → beqFields fields fields = true
  | [] => rfl
  | (key, value) :: rest => by
    rw [beqFields, beq_self value, beqFields_self rest, BEq.rfl, Bool.and_self, Bool.and_self]

end

instance : ReflBEq Value := ⟨fun {v} => beq_self v⟩

end Json.Value

deriving instance ReflBEq for Payload.Tool

deriving instance ReflBEq for Payload

deriving instance ReflBEq for Point

deriving instance ReflBEq for Node

/-! ## What a sidebar saves -/

namespace Sidebar

/-- What makes the sidebar save the open panel: a demand, the passing of time, the selection of
another node or of none, and the escape key. -/
inductive Trigger where
  | demand
  | time
  | select (id : Option ItemId)
  | escape

/-- The canvas after something that makes the sidebar save. -/
def canvasAfter (s : Sidebar) (c : Canvas) : Trigger → Canvas
  | .demand | .time => (s.save c).2.1
  | .select id => (s.select c id).2
  | .escape => (s.escape c).2.1

variable {s : Sidebar} {c : Canvas}

/-- Whatever the trigger, the canvas is either saved to or left alone. -/
theorem canvasAfter_cases (s : Sidebar) (c : Canvas) (trigger : Trigger) :
    s.canvasAfter c trigger = c ∨ s.canvasAfter c trigger = (s.save c).2.1 := by
  cases trigger with
  | demand => exact .inr rfl
  | time => exact .inr rfl
  | select id =>
    simp only [canvasAfter, select]
    split
    · exact .inl rfl
    · exact .inr rfl
  | escape =>
    simp only [canvasAfter, escape]
    split
    · exact .inr rfl
    · exact .inl rfl

/-- A save does nothing, or it updates the selected node, which is there and whose panel has no
complaints. -/
theorem canvas_save_cases (s : Sidebar) (c : Canvas) :
    (s.save c).2.1 = c ∨ ∃ id p n, s.selection = some (id, some p) ∧ c.graph.node? id = some n ∧
      p.form.isValid = true ∧ (s.save c).2.1 = (c.updateNode (p.save n) false).1 := by
  cases hSelection : s.selection with
  | none =>
    left
    unfold save
    rw [hSelection]
  | some selected =>
    obtain ⟨id, _ | p⟩ := selected
    · left
      unfold save
      rw [hSelection]
    · cases hNode : c.graph.node? id with
      | none =>
        left
        unfold save
        simp only [hSelection, hNode]
      | some n =>
        have hSave := canvas_save hSelection hNode
        cases hValid : p.form.isValid with
        | false =>
          rw [Panel.save_of_isValid_eq_false hValid, if_pos BEq.rfl] at hSave
          exact .inl hSave
        | true =>
          split at hSave
          · exact .inl hSave
          · exact .inr ⟨id, p, n, rfl, hNode, hValid, hSave⟩

end Sidebar

namespace Canvas

/-- An update changes only its node and what leaves that node by decision outputs. -/
theorem changesOnly_updateNode {c : Canvas} (hc : c.graph.IsStorable) (n : Node)
    (keepConnections : Bool) :
    c.graph.ChangesOnly n.id (c.updateNode n keepConnections).1.graph :=
  updateNode_keeps (.refl c.graph n.id) fun _ _ hUpdate =>
    Graph.changesOnly_updateNode? hc.nodes hUpdate

/-- On a reachable canvas an update by a node that is stored already leaves the graph as it is, so a
save has no need to tell whether a node has changed. -/
theorem Reached.graph_updateNode_self {c : Canvas} (hc : c.Reached) {n : Node}
    (hn : c.graph.node? n.id = some n) (keepConnections : Bool) :
    (c.updateNode n keepConnections).1.graph = c.graph := by
  unfold updateNode
  rw [Graph.updateNode?_eq_self hc.isStorable.nodes hn]
  rfl

/-- On a reachable canvas an update changes only its node and what leaves it by decision outputs.
So does anything that makes the sidebar save, for the node that is selected before; if no node is
selected, or it is not there, or it has no panel, or its form has complaints, the canvas stays as it
is. -/
theorem Reached.changes_only {c : Canvas} (hc : c.Reached) :
    (∀ n keepConnections,
      c.graph.ChangesOnly n.id (c.updateNode n keepConnections).1.graph) ∧
      ∀ (s : Sidebar) (trigger : Sidebar.Trigger),
        (∀ id, s.selected? = some id →
          c.graph.ChangesOnly id (s.canvasAfter c trigger).graph) ∧
        ((∀ id p, s.selection = some (id, some p) → p.form.isValid = true →
          c.graph.node? id = none) → s.canvasAfter c trigger = c) := by
  refine ⟨changesOnly_updateNode hc.isStorable, fun s trigger => ⟨fun id hSelected => ?_,
    fun hNothing => ?_⟩⟩
  · rcases s.canvasAfter_cases c trigger with hSame | hSaved
    · rw [hSame]
      exact .refl c.graph id
    · rw [hSaved]
      rcases s.canvas_save_cases c with hSame | ⟨id', p, n, hSelection, hNode, -, hUpdate⟩
      · rw [hSame]
        exact .refl c.graph id
      · have hId : id = (p.save n).id := by
          rw [p.id_save, (Graph.node?_eq_some.1 hNode).2]
          rw [Sidebar.selected?, hSelection, Option.map_some, Option.some.injEq] at hSelected
          exact hSelected.symm
        rw [hUpdate, hId]
        exact changesOnly_updateNode hc.isStorable _ _
  · rcases s.canvasAfter_cases c trigger with hSame | hSaved
    · exact hSame
    · rw [hSaved]
      rcases s.canvas_save_cases c with hSame | ⟨id, p, n, hSelection, hNode, hValid, -⟩
      · exact hSame
      · rw [hNothing id p hSelection hValid] at hNode
        cases hNode

/-- A table whose default leads to one of two pieces of code. -/
def tableBesideCodes : List Edit :=
  [.createNode ⟨"t"⟩ .decisionTable "table" .origin, .createNode ⟨"p"⟩ .python "code" .origin,
    .createNode ⟨"q"⟩ .python "more" .origin,
    .connect ⟨⟨"t"⟩, .decisionDefault⟩ ⟨⟨"p"⟩, ⟨"python-in"⟩⟩]

/-- The open panel of the table, in which the default has been made to lead to the other one. -/
def defaultRedirected : Sidebar :=
  (Sidebar.openNode {} (performAll {} tableBesideCodes) (some ⟨"t"⟩)).editPanel
    (·.editTable (.setDefault (some "more")))

/-- The escape key saves the panel: the connection of the default follows. Without a name for the
node nothing is saved. -/
theorem Reached.changes_only_defaultRedirected :
    let c := Canvas.performAll {} tableBesideCodes
    let s := defaultRedirected
    let unnamed := s.editPanel (·.setField "node_name" (.string ""))
    c.graph.ChangesOnly ⟨"t"⟩ (s.canvasAfter c .escape).graph ∧
      (s.canvasAfter c .escape).graph.connections.toList =
        [.between ⟨⟨"t"⟩, .decisionDefault⟩ ⟨⟨"q"⟩, ⟨"python-in"⟩⟩] ∧
      unnamed.canvasAfter c .escape = c := by
  intro c s unnamed
  have hReached : Reached c := (Reached.start {}).performAll _
  obtain ⟨-, hSaves⟩ := hReached.changes_only
  refine ⟨(hSaves s .escape).1 ⟨"t"⟩ (by decide), by decide,
    (hSaves unnamed .escape).2 ?_⟩
  intro id p hSelection hValid
  have hInvalid : ∀ x ∈ unnamed.selection, ∀ p ∈ x.2, p.form.isValid = false := by decide
  rw [hInvalid _ hSelection p rfl] at hValid
  cases hValid

end Canvas

end FlowCanvas
