import FlowCanvas.Proofs.Canvas.Reach
import FlowCanvas.Proofs.Graph.Adding
import Mathlib

/-!
# Adding connections to a canvas

On a reachable canvas a connection that is refused changes nothing, and one that is accepted adds
itself and its route (`Canvas.Reached.adds_exactly`). Adding a list is adding each of its
connections when its turn comes.
-/

set_option autoImplicit false

namespace FlowCanvas

namespace Canvas

/-- Adds connections by calls of their own, and counts those that have been accepted. -/
def addEach (c : Canvas) : List Connection → Canvas × Nat
  | [] => (c, 0)
  | d :: rest =>
    let (c, accepted) := c.addConnection d
    let (c, count) := c.addEach rest
    (c, (if accepted then 1 else 0) + count)

/-- Whether a connection is accepted and what the graph is afterwards follows from the graph. -/
theorem addConnection_cases (c : Canvas) (d : Connection) :
    (∃ g, c.graph.addConnection d = .ok g ∧ c.addConnection d = (c.withGraph g, true)) ∨
      ∃ refusal, c.graph.addConnection d = .error refusal ∧
        c.addConnection d = (c.logging [refusal], false) := by
  unfold addConnection
  cases h : c.graph.addConnection d with
  | ok g => exact .inl ⟨g, rfl, rfl⟩
  | error refusal => exact .inr ⟨refusal, rfl, rfl⟩

/-- Calls of their own lead to the same graph, and accept what the graph does not refuse. -/
theorem addEach_eq (c : Canvas) (ds : List Connection) :
    (c.addEach ds).1.graph = (c.graph.addConnections ds).1 ∧
      (c.addEach ds).2 + (c.graph.addConnections ds).2.length = ds.length := by
  induction ds generalizing c with
  | nil => exact ⟨rfl, rfl⟩
  | cons d rest ih =>
    unfold addEach Graph.addConnections
    rcases addConnection_cases c d with ⟨g, hGraph, hCanvas⟩ | ⟨refusal, hGraph, hCanvas⟩
    · obtain ⟨hRest, hCount⟩ := ih (c.withGraph g)
      change _ + (g.addConnections rest).2.length = _ at hCount
      simp only [hGraph, hCanvas, if_true, List.length_cons]
      exact ⟨hRest, by omega⟩
    · obtain ⟨hRest, hCount⟩ := ih (c.logging [refusal])
      change _ + (c.graph.addConnections rest).2.length = _ at hCount
      simp only [hGraph, hCanvas, Bool.false_eq_true, if_false, List.length_cons]
      exact ⟨hRest, by omega⟩

/-- On a reachable canvas a refused connection leaves the flow as it is, an accepted one comes last
and makes its output lead to its target, and nothing else changes. Several connections are added as
if each had been added by itself, and as many are accepted. -/
theorem Reached.adds_exactly {c : Canvas} (hc : Reached c) :
    (∀ d, (c.addConnection d).2 = false → (c.addConnection d).1.flow = c.flow) ∧
      (∀ d, (c.addConnection d).2 = true → c.graph.Adds d (c.addConnection d).1.graph) ∧
      ∀ ds, (c.addConnections ds).1.flow = (c.addEach ds).1.flow ∧
        (c.addConnections ds).2 = (c.addEach ds).2 := by
  refine ⟨fun d hRefused => ?_, fun d hAccepted => ?_, fun ds => ?_⟩
  · rcases addConnection_cases c d with ⟨g, -, hCanvas⟩ | ⟨refusal, -, hCanvas⟩
    · rw [hCanvas] at hRefused
      cases hRefused
    · rw [hCanvas]
      rfl
  · rcases addConnection_cases c d with ⟨g, hGraph, hCanvas⟩ | ⟨refusal, -, hCanvas⟩
    · rw [hCanvas]
      exact Graph.adds_addConnection hc.isStorable.nodes hGraph
    · rw [hCanvas] at hAccepted
      cases hAccepted
  · obtain ⟨hGraph, hCount⟩ := addEach_eq c ds
    constructor
    · unfold flow
      rw [hGraph]
      rfl
    · show ds.length - (c.graph.addConnections ds).2.length = (c.addEach ds).2
      omega

/-- A table whose default leads to some code, and whose group of the name "a" leads nowhere. -/
def groupBesideDefault : List Edit :=
  [.addNode (Node.new ⟨"t"⟩ "table" (.decisionTable
      { groups := [{ name := "a", expression := "x" }], defaultNext := some "code" })),
    .createNode ⟨"p"⟩ .python "code" .origin]

/-- A connection from the group is accepted and routed, the default keeps its route, and a second
connection to the same code is refused. -/
theorem Reached.adds_exactly_groupBesideDefault :
    let c := Canvas.performAll {} groupBesideDefault
    let d : Connection := .between ⟨⟨"t"⟩, .ofGroupName "a"⟩ ⟨⟨"p"⟩, ⟨"python-in"⟩⟩
    let e : Connection := .between ⟨⟨"t"⟩, .decisionError⟩ ⟨⟨"p"⟩, ⟨"python-in"⟩⟩
    (c.addConnection d).2 = true ∧ c.graph.Adds d (c.addConnection d).1.graph ∧
      ((c.addConnection d).1.graph.tableOf? ⟨"t"⟩).map DecisionTable.bindings =
        some [(.ofGroupName "a", some "code"), (.decisionDefault, some "code"),
          (.decisionError, none)] ∧
      (c.addConnections [d, e]).2 = 1 ∧
      (c.addConnections [d, e]).1.flow = (c.addEach [d, e]).1.flow := by
  intro c d e
  have hReached : Reached c := (Reached.start {}).performAll _
  have hAccepted : (c.addConnection d).2 = true := by decide
  obtain ⟨-, hAdds, hEach⟩ := hReached.adds_exactly
  exact ⟨hAccepted, hAdds d hAccepted, by decide, by decide, (hEach [d, e]).1⟩

end Canvas

end FlowCanvas
