import FlowCanvas.Proofs.Canvas.Edits
import FlowCanvas.Proofs.Graph.Storing
import Mathlib

/-!
# Reachable canvases

The canvases that any calls lead to (`Canvas.Reached`): edits with whatever arguments, and looking
at what is derived from the graph, which the canvas remembers then. What an edit makes of a canvas
depends on the configuration and the graph only (`Canvas.becomes_perform`), what a reachable canvas
remembers is what is derived from its graph (`Canvas.Reached.isUpToDate`), and its graph is one that
can be stored (`Canvas.Reached.isStorable`).
-/

set_option autoImplicit false

namespace FlowCanvas

/-- The graph that an edit makes of a graph, for a configuration. -/
def Edit.after (config : Config) (g : Graph) (e : Edit) : Graph :=
  (Canvas.perform { config, graph := g } e).graph

namespace Canvas

/-! ## What an edit depends on -/

/-- A canvas with the same configuration and a given graph. It may only remember something if the
graph is the same too. -/
structure Becomes (c : Canvas) (g : Graph) (c' : Canvas) : Prop where
  config_eq : c'.config = c.config
  graph_eq : c'.graph = g
  memos : c'.visibleMemo = none ∧ c'.eligibilityMemo = none ∨
    g = c.graph ∧ c'.visibleMemo = c.visibleMemo ∧ c'.eligibilityMemo = c.eligibilityMemo

variable {c : Canvas}

/-- A canvas becomes itself when its graph stays. -/
theorem becomes_self (c : Canvas) : c.Becomes c.graph c := ⟨rfl, rfl, .inr ⟨rfl, rfl, rfl⟩⟩

/-- A canvas becomes the one with the new graph, for which nothing is remembered. -/
theorem becomes_withGraph (c : Canvas) (g : Graph) : c.Becomes g (c.withGraph g) :=
  ⟨rfl, rfl, .inl ⟨rfl, rfl⟩⟩

/-- What is logged in addition does not matter for what a canvas becomes. -/
theorem Becomes.logging {c' : Canvas} {g : Graph} (h : c.Becomes g c') (refusals : List Refusal) :
    c.Becomes g (c'.logging refusals) :=
  ⟨h.config_eq, h.graph_eq, h.memos⟩

/-- Moving items makes a canvas become one with the items moved in its graph. -/
theorem becomes_setParent (c : Canvas) (ids : List ItemId) (parent : Option ItemId) :
    c.Becomes (c.graph.setParent ids parent).1 (c.setParent ids parent).1 := by
  have hGraph := graph_setParent c ids parent
  unfold setParent at hGraph ⊢
  simp only at hGraph ⊢
  split at hGraph
  · rename_i hCount
    rw [if_pos hCount, ← hGraph]
    exact becomes_self c
  · rename_i hCount
    rw [if_neg hCount]
    exact becomes_withGraph c _

/-- Creating a group makes a canvas become one with the group and its members in its graph. -/
theorem becomes_createGroup (c : Canvas) (id : ItemId) (title : String) (position : Point)
    (members : List ItemId) :
    c.Becomes
      ((c.graph.putGroup { Group.new id title with position, size := c.config.groupSize }).setParent
        members (some id)).1
      (c.createGroup id title position members) := by
  unfold createGroup
  have hMembers := becomes_setParent
    (c.addGroup { Group.new id title with position, size := c.config.groupSize }) members (some id)
  refine ⟨hMembers.config_eq, hMembers.graph_eq, .inl ?_⟩
  rcases hMembers.memos with hNone | ⟨-, hVisible, hEligibility⟩
  · exact hNone
  · exact ⟨hVisible, hEligibility⟩

/-- What an edit makes of a canvas follows from its configuration and its graph. -/
theorem becomes_perform (c : Canvas) (e : Edit) :
    c.Becomes (e.after c.config c.graph) (c.perform e) := by
  unfold Edit.after
  cases e with
  | load flow => exact becomes_withGraph c _
  | createNode id kind name position => exact becomes_withGraph c _
  | addNode node => exact becomes_withGraph c _
  | addGroup group => exact becomes_withGraph c _
  | updateNodes nodes => exact becomes_withGraph c _
  | updateGroups groups => exact becomes_withGraph c _
  | updateConnections connections => exact becomes_withGraph c _
  | removeConnections ids => exact becomes_withGraph c _
  | delete selection => exact becomes_withGraph c _
  | addConnections connections => exact (becomes_withGraph c _).logging _
  | loadText text =>
    simp only [perform, loadText?]
    cases Flow.parse? text with
    | none => exact becomes_self c
    | some f => exact becomes_withGraph c _
  | createGroup id title position members =>
    show c.Becomes (createGroup { config := c.config, graph := c.graph } id title position
      members).graph (c.createGroup id title position members)
    rw [(becomes_createGroup { config := c.config, graph := c.graph } id title position
      members).graph_eq]
    exact becomes_createGroup c id title position members
  | addConnection d =>
    simp only [perform, addConnection]
    cases c.graph.addConnection d with
    | ok g => exact becomes_withGraph c g
    | error refusal => exact (becomes_self c).logging [refusal]
  | connect source target =>
    simp only [perform, connect, addConnection]
    cases c.graph.addConnection (.between source target) with
    | ok g => exact becomes_withGraph c g
    | error refusal => exact (becomes_self c).logging [refusal]
  | updateNode node keepConnections =>
    simp only [perform, updateNode]
    cases c.graph.updateNode? node keepConnections with
    | none => exact becomes_self c
    | some result => exact (becomes_withGraph c result.1).logging result.2
  | reroute table =>
    simp only [perform, reroute]
    cases c.graph.reroute? table with
    | none => exact becomes_self c
    | some result => exact (becomes_withGraph c result.1).logging result.2
  | removeConnection id =>
    simp only [perform, removeConnection]
    cases c.graph.removeConnection? id with
    | none => exact becomes_self c
    | some g => exact becomes_withGraph c g
  | toggle id =>
    simp only [perform, toggle]
    cases c.graph.toggle? id with
    | none => exact becomes_self c
    | some g => exact becomes_withGraph c g
  | setParent ids parent =>
    show c.Becomes (setParent { config := c.config, graph := c.graph } ids parent).1.graph
      (c.setParent ids parent).1
    rw [graph_setParent]
    exact becomes_setParent c ids parent

/-- No call changes the configuration. -/
@[simp] theorem config_perform (c : Canvas) (e : Edit) : (c.perform e).config = c.config :=
  (becomes_perform c e).config_eq

/-- A call does to the graph what the edit says of graphs. -/
theorem graph_perform (c : Canvas) (e : Edit) :
    (c.perform e).graph = e.after c.config c.graph :=
  (becomes_perform c e).graph_eq

/-- A sequence of calls does not change the configuration. -/
@[simp] theorem config_performAll (c : Canvas) (edits : List Edit) :
    (c.performAll edits).config = c.config := by
  induction edits generalizing c with
  | nil => rfl
  | cons e rest ih => exact (ih (c.perform e)).trans (config_perform c e)

/-- Edits go through the graphs that they make one after the other. -/
theorem graph_performAll (c : Canvas) (edits : List Edit) :
    (c.performAll edits).graph = edits.foldl (Edit.after c.config) c.graph := by
  induction edits generalizing c with
  | nil => rfl
  | cons e rest ih =>
    have hRest := ih (c.perform e)
    rw [config_perform, graph_perform] at hRest
    exact hRest

/-! ## What a canvas remembers -/

/-- What a canvas remembers is what is derived from its graph. -/
structure IsUpToDate (c : Canvas) : Prop where
  visible : ∀ v, c.visibleMemo = some v → v = c.graph.visible
  eligibility : ∀ e, c.eligibilityMemo = some e → e = c.graph.eligibility

namespace IsUpToDate

/-- An up-to-date canvas shows what its graph shows, whether it remembers it or not. -/
theorem visible_eq (h : c.IsUpToDate) : c.visible.2 = c.graph.visible := by
  unfold Canvas.visible
  cases hMemo : c.visibleMemo with
  | none => rfl
  | some v => exact h.visible v hMemo

/-- An up-to-date canvas lists the partners that its graph lists, whether it remembers them or
not. -/
theorem eligibility_eq (h : c.IsUpToDate) : c.eligibility.2 = c.graph.eligibility := by
  unfold Canvas.eligibility
  cases hMemo : c.eligibilityMemo with
  | none => rfl
  | some e => exact h.eligibility e hMemo

/-- A canvas stays up to date when it becomes another one. -/
theorem becomes {c' : Canvas} {g : Graph} (h : c.IsUpToDate) (hBecomes : c.Becomes g c') :
    c'.IsUpToDate := by
  obtain ⟨-, hGraph, ⟨hVisible, hEligibility⟩ | ⟨hSame, hVisible, hEligibility⟩⟩ := hBecomes
  · exact ⟨by simp [hVisible], by simp [hEligibility]⟩
  · rw [hSame] at hGraph
    refine ⟨?_, ?_⟩
    · rw [hVisible, hGraph]
      exact h.visible
    · rw [hEligibility, hGraph]
      exact h.eligibility

end IsUpToDate

/-! ## Reachable canvases -/

/-- The canvases that any calls lead to. -/
inductive Reached : Canvas → Prop
  | start (config : Config) : Reached { config }
  | edit {c : Canvas} (h : Reached c) (e : Edit) : Reached (c.perform e)
  | look {c : Canvas} (h : Reached c) : Reached c.visible.1
  | ask {c : Canvas} (h : Reached c) : Reached c.eligibility.1

/-- Looking at what is shown leaves the graph alone. -/
theorem graph_visible (c : Canvas) : c.visible.1.graph = c.graph := by
  unfold visible
  cases c.visibleMemo <;> rfl

/-- Looking at the listed partners leaves the graph alone. -/
theorem graph_eligibility (c : Canvas) : c.eligibility.1.graph = c.graph := by
  unfold eligibility
  cases c.eligibilityMemo <;> rfl

namespace Reached

/-- What can be reached can be edited further. -/
theorem performAll (h : Reached c) (edits : List Edit) : Reached (c.performAll edits) := by
  induction edits generalizing c with
  | nil => exact h
  | cons e rest ih => exact ih (h.edit e)

/-- What holds of the empty graph and is kept by every edit holds of every reachable graph. -/
theorem invariant {P : Graph → Prop} (hStart : P {})
    (hEdit : ∀ (c : Canvas) (e : Edit), P c.graph → P (c.perform e).graph) (h : Reached c) :
    P c.graph := by
  induction h with
  | start config => exact hStart
  | edit _ e ih => exact hEdit _ e ih
  | look _ ih => exact (graph_visible _).symm ▸ ih
  | ask _ ih => exact (graph_eligibility _).symm ▸ ih

/-- A reachable canvas remembers nothing that is no longer right. -/
theorem isUpToDate (h : Reached c) : c.IsUpToDate := by
  induction h with
  | start config => exact ⟨by simp, by simp⟩
  | edit _ e ih => exact ih.becomes (becomes_perform _ e)
  | @look c _ ih =>
    unfold Canvas.visible
    cases hMemo : c.visibleMemo with
    | none => exact ⟨fun v hv => (Option.some.inj hv).symm, ih.eligibility⟩
    | some v => exact ih
  | @ask c _ ih =>
    unfold Canvas.eligibility
    cases hMemo : c.eligibilityMemo with
    | none => exact ⟨ih.visible, fun e he => (Option.some.inj he).symm⟩
    | some e => exact ih

end Reached

end Canvas

namespace Graph.IsStorable

/-- Every edit, whatever its arguments, leaves a graph that can be stored. -/
theorem perform {c : Canvas} (hc : c.graph.IsStorable) (e : Edit) :
    (c.perform e).graph.IsStorable := by
  cases e with
  | load flow => exact isStorable_ofFlow flow
  | loadText text =>
    simp only [Canvas.perform, Canvas.loadText?]
    cases Flow.parse? text with
    | none => exact hc
    | some f => exact isStorable_ofFlow f
  | createNode id kind name position => exact hc.putNode _
  | addNode n => exact hc.putNode n
  | createGroup id title position members =>
    rw [show c.perform (.createGroup id title position members) =
      c.createGroup id title position members from rfl, Canvas.graph_createGroup]
    exact (hc.putGroup _).shrinks (setParent_shrinks _ _ _).drifts
  | addGroup group => exact hc.putGroup group
  | addConnection d => exact Canvas.addConnection_keeps hc fun _ hAdd => hc.addConnection hAdd
  | connect source target =>
    exact Canvas.addConnection_keeps hc fun _ hAdd => hc.addConnection hAdd
  | addConnections ds =>
    exact addConnections_keeps (fun _ _ _ hg hAdd => hg.addConnection hAdd) ds hc
  | updateNode n keepConnections =>
    exact Canvas.updateNode_keeps hc fun _ _ hUpdate => hc.updateNode? hUpdate
  | updateNodes nodes => exact List.foldlRecOn _ _ hc fun _ hg n _ => hg.putNode n
  | updateGroups groups => exact List.foldlRecOn _ _ hc fun _ hg group _ => hg.putGroup group
  | updateConnections connections =>
    refine hc.putConnections fun d hd => ?_
    have hKnown := (List.mem_filter.1 hd).2
    rw [Bool.and_eq_true] at hKnown
    simpa using hKnown.1
  | reroute table => exact Canvas.reroute_keeps hc fun _ _ hReroute => hc.reroute? hReroute
  | removeConnection id =>
    exact Canvas.removeConnection_keeps hc fun _ hRemove =>
      hc.shrinks (removeConnection?_shrinks hRemove)
  | removeConnections ids =>
    exact removeConnections_keeps
      (fun _ _ _ hRemove hg => hg.shrinks (removeConnection?_shrinks hRemove)) ids hc
  | delete selection => exact hc.shrinks (delete_shrinks hc.nodes selection)
  | toggle id =>
    exact Canvas.toggle_keeps hc fun _ hToggle => hc.shrinks (toggle?_shrinks hToggle).drifts
  | setParent ids parent =>
    rw [show c.perform (.setParent ids parent) = (c.setParent ids parent).1 from rfl,
      Canvas.graph_setParent]
    exact hc.shrinks (setParent_shrinks _ ids parent).drifts

end Graph.IsStorable

/-- Every reachable graph can be stored. -/
theorem Canvas.Reached.isStorable {c : Canvas} (h : Reached c) : c.graph.IsStorable :=
  h.invariant Graph.isStorable_empty fun _ e hc => hc.perform e

end FlowCanvas
