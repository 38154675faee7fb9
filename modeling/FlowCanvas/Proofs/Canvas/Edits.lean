import FlowCanvas.Canvas.Basic
import Mathlib

/-!
# Edits and runs

An edit is one call of the canvas that may change what is drawn, with all its arguments. A run is
any finite sequence of edits that starts from an empty canvas; which edits it may make, given the
graph at that moment, is a parameter. What a whole run keeps follows from what each edit keeps
(`Canvas.Run.invariant`).
-/

set_option autoImplicit false

namespace FlowCanvas

/-- A call of the canvas that may change the graph. -/
inductive Edit where
  | load (flow : Flow)
  | loadText (text : String)
  | createNode (id : ItemId) (kind : NodeKind) (name : String) (position : Point)
  | createGroup (id : ItemId) (title : String) (position : Point) (members : List ItemId)
  | addNode (node : Node)
  | addGroup (group : Group)
  | addConnection (connection : Connection)
  | connect (source target : PortId)
  | addConnections (connections : List Connection)
  | updateNode (node : Node) (keepConnections : Bool)
  | updateNodes (nodes : List Node)
  | updateGroups (groups : List Group)
  | updateConnections (connections : List Connection)
  | reroute (table : ItemId)
  | removeConnection (id : ConnectionId)
  | removeConnections (ids : List ConnectionId)
  | delete (selection : Selection)
  | toggle (id : ItemId)
  | setParent (ids : List ItemId) (parent : Option ItemId)

namespace Canvas

/-- The canvas after an edit. -/
def perform (c : Canvas) : Edit → Canvas
  | .load flow => c.load flow
  | .loadText text => (c.loadText? text).getD c
  | .createNode id kind name position => c.createNode id kind name position
  | .createGroup id title position members => c.createGroup id title position members
  | .addNode node => c.addNode node
  | .addGroup group => c.addGroup group
  | .addConnection connection => (c.addConnection connection).1
  | .connect source target => (c.connect source target).1
  | .addConnections connections => (c.addConnections connections).1
  | .updateNode node keepConnections => (c.updateNode node keepConnections).1
  | .updateNodes nodes => (c.updateNodes nodes).1
  | .updateGroups groups => (c.updateGroups groups).1
  | .updateConnections connections => (c.updateConnections connections).1
  | .reroute table => c.reroute table
  | .removeConnection id => (c.removeConnection id).1
  | .removeConnections ids => (c.removeConnections ids).1
  | .delete selection => (c.delete selection).1
  | .toggle id => (c.toggle id).1
  | .setParent ids parent => (c.setParent ids parent).1

/-- The canvases that are reached from an empty one by allowed edits. -/
inductive Run (allowed : Graph → Edit → Prop) : Canvas → Prop
  | start (config : Config) : Run allowed { config }
  | step {c : Canvas} {e : Edit} (run : Run allowed c) (h : allowed c.graph e) :
      Run allowed (c.perform e)

/-- What holds of the empty graph and is kept by every allowed edit holds at the end of a run. -/
theorem Run.invariant {allowed : Graph → Edit → Prop} {P : Graph → Prop}
    (hStart : P {})
    (hStep : ∀ (c : Canvas) (e : Edit), P c.graph → allowed c.graph e →
      P (c.perform e).graph)
    {c : Canvas} (h : Run allowed c) : P c.graph := by
  induction h with
  | start config => exact hStart
  | step _ hAllowed ih => exact hStep _ _ ih hAllowed

/-- A run that may make fewer edits is a run that may make more. -/
theorem Run.mono {allowed allowed' : Graph → Edit → Prop}
    (hAllowed : ∀ g e, allowed g e → allowed' g e) {c : Canvas} (h : Run allowed c) :
    Run allowed' c := by
  induction h with
  | start config => exact .start config
  | step _ hStep ih => exact .step ih (hAllowed _ _ hStep)

/-- The canvas after some edits. -/
def performAll (c : Canvas) (edits : List Edit) : Canvas := edits.foldl perform c

/-- Whether every edit of a list is allowed when its turn comes. -/
def AllAllowed (allowed : Graph → Edit → Prop) : Canvas → List Edit → Prop
  | _, [] => True
  | c, e :: rest => allowed c.graph e ∧ AllAllowed allowed (c.perform e) rest

/-- Allowed edits continue a run. -/
theorem Run.performAll {allowed : Graph → Edit → Prop} {c : Canvas} (run : Run allowed c)
    {edits : List Edit} (h : AllAllowed allowed c edits) : Run allowed (c.performAll edits) := by
  induction edits generalizing c with
  | nil => exact run
  | cons e rest ih => exact ih (run.step h.1) h.2

/-- What holds of a graph and is kept by every allowed edit holds after all of a list. -/
theorem AllAllowed.invariant {allowed : Graph → Edit → Prop} {P : Graph → Prop}
    (hStep : ∀ (c : Canvas) (e : Edit), P c.graph → allowed c.graph e → P (c.perform e).graph)
    {c : Canvas} {edits : List Edit} (hc : P c.graph) (h : AllAllowed allowed c edits) :
    P (c.performAll edits).graph := by
  induction edits generalizing c with
  | nil => exact hc
  | cons e rest ih => exact ih (hStep c e hc h.1) h.2

/-! ## The graph after an edit -/

section

variable {c : Canvas} {P : Graph → Prop}

/-- Adding a connection keeps what holds of the graph and of every graph that accepts the
connection. -/
theorem addConnection_keeps (hc : P c.graph) {d : Connection}
    (h : ∀ g, c.graph.addConnection d = .ok g → P g) :
    P (c.addConnection d).1.graph := by
  unfold addConnection
  split
  · exact h _ ‹_›
  · exact hc

/-- Updating a node keeps what holds of the graph and of every graph that the update can lead to. -/
theorem updateNode_keeps (hc : P c.graph) {n : Node} {keepConnections : Bool}
    (h : ∀ g refusals, c.graph.updateNode? n keepConnections = some (g, refusals) → P g) :
    P (c.updateNode n keepConnections).1.graph := by
  unfold updateNode
  split
  · exact hc
  · exact h _ _ ‹_›

/-- Rerouting a table keeps what holds of the graph and of every graph that it can lead to. -/
theorem reroute_keeps (hc : P c.graph) {table : ItemId}
    (h : ∀ g refusals, c.graph.reroute? table = some (g, refusals) → P g) :
    P (c.reroute table).graph := by
  unfold reroute
  split
  · exact hc
  · exact h _ _ ‹_›

/-- Removing a connection keeps what holds of the graph and of every graph without the
connection. -/
theorem removeConnection_keeps (hc : P c.graph) {id : ConnectionId}
    (h : ∀ g, c.graph.removeConnection? id = some g → P g) :
    P (c.removeConnection id).1.graph := by
  unfold removeConnection
  split
  · exact hc
  · exact h _ ‹_›

/-- Toggling a group keeps what holds of the graph and of every graph with the group toggled. -/
theorem toggle_keeps (hc : P c.graph) {id : ItemId}
    (h : ∀ g, c.graph.toggle? id = some g → P g) : P (c.toggle id).1.graph := by
  unfold toggle
  split
  · exact hc
  · exact h _ ‹_›

/-- A move that reports no item leaves the graph as it is. -/
theorem moveAll_of_count_eq_zero {g : Graph} {parent : Option ItemId} {ids : List ItemId}
    (h : (g.moveAll parent ids).2 = 0) : (g.moveAll parent ids).1 = g := by
  induction ids generalizing g with
  | nil => rfl
  | cons id rest ih =>
    unfold Graph.moveAll at h ⊢
    split
    · rename_i hNone
      rw [hNone] at h
      exact ih h
    · rename_i hSome
      rw [hSome] at h
      simp at h

/-- The canvas may forget that nothing has moved, since then the graph is the same. -/
theorem graph_setParent (c : Canvas) (ids : List ItemId) (parent : Option ItemId) :
    (c.setParent ids parent).1.graph = (c.graph.setParent ids parent).1 := by
  have hSame : (c.graph.setParent ids parent).2 = 0 →
      (c.graph.setParent ids parent).1 = c.graph := by
    unfold Graph.setParent
    split
    · exact moveAll_of_count_eq_zero
    · exact fun _ => rfl
  unfold setParent
  by_cases hCount : (c.graph.setParent ids parent).2 = 0
  · simp only [hCount, if_true, hSame hCount]
  · simp only [hCount, if_false, withGraph]

/-- A canvas reports as many moved items as its graph. -/
theorem snd_setParent (c : Canvas) (ids : List ItemId) (parent : Option ItemId) :
    (c.setParent ids parent).2 = (c.graph.setParent ids parent).2 := rfl

/-- Creating a group puts it into the graph and then moves its members there. -/
theorem graph_createGroup (c : Canvas) (id : ItemId) (title : String) (position : Point)
    (members : List ItemId) :
    (c.createGroup id title position members).graph =
      ((c.graph.putGroup { Group.new id title with position, size := c.config.groupSize }).setParent
        members (some id)).1 := by
  unfold createGroup
  rw [graph_setParent]
  rfl

end

end Canvas

/-! ## What editors do -/

namespace Graph

/-- The calls that an editor makes, given the graph at that moment. New nodes have ids that are not
in use and one port for each role, and an update of a node keeps its kind and, unless it is a
decision table, its ports. -/
def EditorCall (g : Graph) : Edit → Prop
  | .createNode id _ _ _ => g.node? id = none
  | .addNode n => g.node? n.id = none ∧ (n.ports.map Port.role).Nodup
  | .updateNode n keepConnections =>
    keepConnections = false ∧ ∃ stored, g.node? n.id = some stored ∧ n.kind = stored.kind ∧
      (n.table? = none → n.ports = stored.ports)
  | .load _ | .loadText _ | .updateNodes _ | .updateGroups _ | .updateConnections _ => False
  | .createGroup .. | .addGroup _ | .addConnection _ | .connect .. | .addConnections _ | .reroute _
  | .removeConnection _ | .removeConnections _ | .delete _ | .toggle _ | .setParent .. => True

/-- Whether an edit leaves the names of the nodes that are there as they are, as far as it is an
update of a node. -/
def KeepsNames (g : Graph) : Edit → Prop
  | .updateNode n _ => ∀ stored, g.node? n.id = some stored → n.name = stored.name
  | _ => True

end Graph

end FlowCanvas
