import FlowCanvas.Proofs.Canvas.Reach
import FlowCanvas.Proofs.Graph.Partners
import Mathlib

/-!
# Asking a canvas what can be joined

A canvas answers in three ways whether two ports can be joined: it looks into the lists of partners
that it remembers, it asks the rules, or it connects the ports. The answers agree
(`Canvas.Reached.partners_exact`), but for one case. The lists hold texts, and a key that names no
port may have the text of a port: then the lists say that it can be joined
(`Canvas.not_forall_canConnect`).
-/

set_option autoImplicit false

namespace FlowCanvas

namespace Canvas

variable {c : Canvas} {a b : PortId}

/-- Connecting two ports is accepted exactly if the connection between them is stored. -/
theorem connect_eq_true_iff :
    (c.connect a b).2 = true ↔ ∃ g, c.graph.insertConnection (.between a b) = .ok g := by
  unfold connect addConnection Graph.addConnection
  cases hInsert : c.graph.insertConnection (.between a b) with
  | ok g =>
    refine ⟨fun _ => ⟨g, rfl⟩, fun _ => rfl⟩
  | error refusal =>
    refine ⟨?_, ?_⟩
    · intro hAccepted
      cases hAccepted
    · rintro ⟨g, hOk⟩
      cases hOk

/-- On every canvas with plain ports, the lists of partners say that two ports can be joined exactly
if the rules do, unless the second key is mistaken for another one; a key whose node has a name
without underscores never is. The rules do not depend on the order of the ports and are those of
connecting, exactly the ports of the graph have a list, and exactly those are blocked that can be
joined with nothing. -/
theorem Reached.partners_exact (hc : Reached c) (h : c.graph.HasPlainPorts) (a b : PortId) :
    (c.eligibility.2.canConnect a b = c.canJoin a b ↔ ¬ c.graph.Mistakes a b) ∧
      (b.node.text ≠ "" → '_' ∉ b.node.text.toList → ¬ c.graph.Mistakes a b) ∧
      c.canJoin a b = c.canJoin b a ∧
      (c.canJoin a b = true ↔ (c.connect a b).2 = true ∨ (c.connect b a).2 = true) ∧
      ((c.eligibility.2.get? a).isSome = true ↔ c.graph.HasPortAt a) ∧
      (c.eligibility.2.isBlocked a = true ↔
        c.graph.HasPortAt a ∧ ∀ other, c.canJoin a other = false) := by
  have hNodes := hc.isStorable.nodes
  rw [hc.isUpToDate.eligibility_eq, connect_eq_true_iff, connect_eq_true_iff]
  exact ⟨h.canConnect_eq_iff hNodes, h.not_mistakes hNodes, Graph.canJoin_comm _ a b,
    h.canJoin_iff hNodes, Graph.isSome_get?_iff (h.isPrepared hNodes), h.isBlocked_iff hNodes⟩

/-- Drawing a decision table with a group whose name has an underscore, and some code. -/
def groupBesideCode : List Edit :=
  [.createNode ⟨"t"⟩ .decisionTable "table" .origin,
    .updateNode (.new ⟨"t"⟩ "table"
      (.decisionTable { groups := [{ name := "a_b", expression := "x" }] })) false,
    .createNode ⟨"p"⟩ .python "code" .origin]

/-- The canvas with the table and the code can be reached. -/
theorem reached_groupBesideCode : Reached (performAll {} groupBesideCode) :=
  (Reached.start {}).performAll groupBesideCode

/-- The nodes of that canvas have plain ids, and their ports plain roles. -/
theorem hasPlainPorts_groupBesideCode : (performAll {} groupBesideCode).graph.HasPlainPorts where
  isKeyed := by decide
  ids := by decide
  nodup_roles := by decide
  isOfGroup_eq := by decide

/-- The code can be joined with the output of the group, and the lists of partners say so. -/
theorem Reached.partners_exact_groupBesideCode :
    let c := Canvas.performAll {} groupBesideCode
    let a : PortId := ⟨⟨"p"⟩, ⟨"python-in"⟩⟩
    let b : PortId := ⟨⟨"t"⟩, .ofGroupName "a_b"⟩
    c.canJoin a b = true ∧ c.eligibility.2.isBlocked a = false ∧
      (c.eligibility.2.canConnect a b = c.canJoin a b ↔ ¬ c.graph.Mistakes a b) ∧
      (c.canJoin a b = true ↔ (c.connect a b).2 = true ∨ (c.connect b a).2 = true) := by
  intro c a b
  obtain ⟨hLists, -, -, hRules, -⟩ :=
    Reached.partners_exact reached_groupBesideCode hasPlainPorts_groupBesideCode a b
  exact ⟨by decide, by decide, hLists, hRules⟩

/-- The key of a node that is not there has the text of an output of the table, and is listed. -/
theorem not_forall_canConnect :
    ¬ ∀ c, Reached c → c.graph.HasPlainPorts → ∀ a b,
      (c.eligibility.2.canConnect a b = true ↔ c.canJoin a b = true) := by
  intro h
  have hSame := h _ reached_groupBesideCode hasPlainPorts_groupBesideCode
    ⟨⟨"p"⟩, ⟨"python-in"⟩⟩ ⟨⟨"t_decision-out-a"⟩, ⟨"b"⟩⟩
  have hListed : (performAll {} groupBesideCode).eligibility.2.canConnect
      ⟨⟨"p"⟩, ⟨"python-in"⟩⟩ ⟨⟨"t_decision-out-a"⟩, ⟨"b"⟩⟩ = true := by decide
  have hRefused : (performAll {} groupBesideCode).canJoin
      ⟨⟨"p"⟩, ⟨"python-in"⟩⟩ ⟨⟨"t_decision-out-a"⟩, ⟨"b"⟩⟩ = false := by decide
  rw [hSame.1 hListed] at hRefused
  cases hRefused

end Canvas

end FlowCanvas
