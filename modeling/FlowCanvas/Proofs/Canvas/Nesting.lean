import FlowCanvas.Proofs.Canvas.Edits
import FlowCanvas.Proofs.Graph.Regrouping
import Mathlib

/-!
# Nesting on a canvas

As long as groups are put on a canvas without a parent, moving, collapsing and deleting them closes
no circle, and only the moves that would close one are refused (`Canvas.nestsExactly_performAll`).
-/

set_option autoImplicit false

namespace FlowCanvas

namespace Graph

/-- The calls that arrange items in groups. A group that is put on the canvas has no parent. -/
def NestingCall (_ : Graph) : Edit → Prop
  | .addGroup group => group.parent = none
  | .createGroup .. | .setParent .. | .toggle _ | .delete _ => True
  | _ => False

/-- Where no group is above itself, none gets above itself by a call that is about groups. -/
theorem IsAcyclic.perform {c : Canvas} (hc : c.graph.IsAcyclic) {e : Edit}
    (h : c.graph.NestingCall e) : (c.perform e).graph.IsAcyclic := by
  cases e with
  | addGroup group => exact hc.putGroup h
  | createGroup id title position members =>
    show (c.createGroup id title position members).graph.IsAcyclic
    rw [Canvas.graph_createGroup]
    exact (hc.putGroup rfl).setParent members (some id)
  | setParent ids parent =>
    show (c.setParent ids parent).1.graph.IsAcyclic
    rw [Canvas.graph_setParent]
    exact hc.setParent ids parent
  | toggle id => exact Canvas.toggle_keeps hc fun _ => hc.toggle?
  | delete selection => exact hc.delete selection
  | _ => exact h.elim

end Graph

namespace Canvas

/-- Groups do not lie in a circle, and items are moved unless that would close one. -/
structure NestsExactly (c : Canvas) : Prop where
  isAcyclic : c.graph.IsAcyclic
  /-- The items of a list that can be moved end up in their place, and they are counted. -/
  moves : ∀ ids parent, (∀ p ∈ parent, c.graph.groups.contains p = true) →
    (c.setParent ids parent).1.graph =
        c.graph.placed parent (fun id => id ∈ ids ∧ c.graph.Movable parent id) ∧
      (c.setParent ids parent).2 = ids.countP (c.graph.Movable parent ·)
  /-- An item can be moved when its turn comes if it could be moved at the beginning. -/
  movable_iff : ∀ before parent id,
    (c.setParent before parent).1.graph.Movable parent id ↔ c.graph.Movable parent id
  /-- A group cannot be put into itself or into a group below it, and nothing else is refused. -/
  refuses_iff : ∀ h ∈ c.graph.groups.toList, c.graph.node? h.id = none →
    ∀ p k, c.graph.group? p = some k →
      (¬ c.graph.Movable (some p) h.id ↔ h = k ∨ c.graph.Above k.parent h)
  /-- These are the moves that would close a circle. -/
  closes_iff : ∀ h ∈ c.graph.groups.toList, c.graph.node? h.id = none → ∀ parent,
    (¬ c.graph.Movable parent h.id ↔ ¬ (c.graph.putGroup { h with parent }).IsAcyclic)
  /-- Everything that is stored can be put onto the top level. -/
  movable_none : ∀ id, (∃ n, c.graph.node? id = some n) ∨ (∃ h, c.graph.group? id = some h) →
    c.graph.Movable none id
  /-- Nothing goes into a group that is not there. -/
  unknown : ∀ ids p, c.graph.groups.contains p = false → c.setParent ids (some p) = (c, 0)

/-- Where groups do not lie in a circle, the operations on groups treat them as they should. -/
theorem nestsExactly {c : Canvas} (hc : c.graph.IsAcyclic) : c.NestsExactly where
  isAcyclic := hc
  moves := by
    intro ids parent hParent
    rw [graph_setParent, snd_setParent, Graph.setParent_of_contains hParent, Graph.moveAll_eq]
    exact ⟨rfl, rfl⟩
  movable_iff := by
    intro before parent id
    rw [graph_setParent]
    exact Graph.movable_setParent c.graph parent before id
  refuses_iff := by
    intro h hh hNode p k hParent
    rw [Graph.movable_iff_of_group hh hNode, not_not]
    exact Graph.above_iff hParent
  closes_iff := by
    intro h hh hNode parent
    have hStored : c.graph.group? h.id = some h := Graph.group?_eq_some.2 ⟨hh, rfl⟩
    rw [Graph.movable_iff_of_group hh hNode,
      Graph.isAcyclic_putGroup_iff (m := { h with parent }) hc hStored]
  movable_none := by
    rintro id (hNode | ⟨h, hGroup⟩)
    · exact .inl hNode
    · exact .inr ⟨h, hGroup, Graph.not_above_none⟩
  unknown := by
    intro ids p hUnknown
    have hNothing : c.graph.setParent ids (some p) = (c.graph, 0) := by
      simp [Graph.setParent, hUnknown]
    simp [setParent, hNothing]

/-- From any canvas whose groups do not lie in a circle, whatever is done about groups, they do not
come to lie in one, and exactly the moves that would close one are refused. -/
theorem nestsExactly_performAll {c : Canvas} (hc : c.graph.IsAcyclic) {edits : List Edit}
    (h : AllAllowed Graph.NestingCall c edits) : (c.performAll edits).NestsExactly :=
  nestsExactly (h.invariant (fun _ _ hc he => hc.perform he) hc)

/-- Some code in the inner one of two groups. -/
def codeInGroups : Flow :=
  { nodes := [{ Node.new ⟨"p"⟩ "code" (Payload.initial .python) with parent := some ⟨"inner"⟩ }]
    groups := [{ id := ⟨"inner"⟩, parent := some ⟨"outer"⟩ }, { id := ⟨"outer"⟩ }] }

/-- Putting a group around the outer group and another one beside it, and then taking the outer
group away. -/
def regroupings : List Edit :=
  [.createGroup ⟨"around"⟩ "around" .origin [⟨"outer"⟩], .addGroup { id := ⟨"beside"⟩ },
    .setParent [⟨"around"⟩, ⟨"beside"⟩] (some ⟨"inner"⟩), .toggle ⟨"around"⟩,
    .delete { groups := [⟨"outer"⟩] }]

/-- The regroupings leave no circle behind, and of four further moves two are made. -/
theorem nestsExactly_regroupings :
    let c := (Canvas.perform {} (.load codeInGroups)).performAll regroupings
    c.graph.groups.toList.map (fun h => (h.id.text, h.parent.map (·.text))) =
        [("inner", none), ("around", none), ("beside", some "inner")] ∧
      (c.setParent [⟨"inner"⟩, ⟨"around"⟩, ⟨"p"⟩, ⟨"unknown"⟩] (some ⟨"beside"⟩)).2 = 2 ∧
      c.NestsExactly := by
  have hAcyclic : (Canvas.perform {} (.load codeInGroups)).graph.IsAcyclic :=
    Graph.isAcyclic_of_rank (fun id => if id = ⟨"inner"⟩ then 1 else 0) (by decide)
  exact ⟨by decide, by decide,
    nestsExactly_performAll hAcyclic ⟨trivial, rfl, trivial, trivial, trivial, trivial⟩⟩

end Canvas

end FlowCanvas
