import FlowCanvas.Canvas.Config
import FlowCanvas.Canvas.Deletion
import FlowCanvas.Canvas.Eligibility
import FlowCanvas.Canvas.Visibility

/-!
# The canvas

A canvas holds a graph together with what is derived from it. The derived views are costly, so a
canvas remembers them once they have been asked for, until the graph changes. It also logs the
connections that it has refused.

Every operation takes a canvas and returns the canvas after it, with what it has to report. An
operation on something that is not there reports so and changes nothing.
-/

set_option autoImplicit false

namespace FlowCanvas

/-- A graph that is being edited. -/
structure Canvas where
  config : Config := {}
  graph : Graph := {}
  /-- What the canvas shows, if it is remembered. -/
  visibleMemo : Option Visible := none
  /-- Which ports can be joined, if it is remembered. -/
  eligibilityMemo : Option Eligibility := none
  /-- The refusals so far, the earliest first. -/
  refusals : List Refusal := []
  deriving Inhabited

namespace Canvas

/-- The canvas with another graph. What was derived from the old one is forgotten. -/
def withGraph (c : Canvas) (g : Graph) : Canvas :=
  { c with graph := g, visibleMemo := none, eligibilityMemo := none }

/-- The canvas with further refusals in its log. -/
def logging (c : Canvas) (refusals : List Refusal) : Canvas :=
  { c with refusals := c.refusals ++ refusals }

/-! ## The whole graph -/

/-- Replaces the whole graph by a flow. -/
def load (c : Canvas) (f : Flow) : Canvas := c.withGraph (Graph.ofFlow f)

/-- Replaces the whole graph by a flow that is given as a JSON text. Nothing if it is none. -/
def loadText? (c : Canvas) (text : String) : Option Canvas := (Flow.parse? text).map c.load

/-- The flow on the canvas. -/
def flow (c : Canvas) : Flow := c.graph.toFlow

/-! ## Nodes and groups -/

/-- Puts a node on the canvas. -/
def addNode (c : Canvas) (n : Node) : Canvas := c.withGraph (c.graph.putNode n)

/-- Puts a group on the canvas. -/
def addGroup (c : Canvas) (group : Group) : Canvas := c.withGraph (c.graph.putGroup group)

/-- Makes a node of a kind. The id comes from the host, who sees to it that it is new. -/
def createNode (c : Canvas) (id : ItemId) (kind : NodeKind) (name : String) (position : Point) :
    Canvas :=
  c.addNode { Node.new id name (Payload.initial kind) with position, size := c.config.nodeSize }

/-- Puts items into a group, or onto the top level, and reports how many moved. -/
def setParent (c : Canvas) (ids : List ItemId) (parent : Option ItemId) : Canvas × Nat :=
  let (g, count) := c.graph.setParent ids parent
  (if count = 0 then c else c.withGraph g, count)

/-- Makes a group around items. The id comes from the host, who sees to it that it is new. -/
def createGroup (c : Canvas) (id : ItemId) (title : String) (position : Point)
    (members : List ItemId) : Canvas :=
  ((c.addGroup { Group.new id title with position, size := c.config.groupSize }).setParent members
    (some id)).1

/-- Replaces a node, whose connections follow if its routing has changed, unless they are to be
kept. Reports whether there is such a node. -/
def updateNode (c : Canvas) (n : Node) (keepConnections : Bool) : Canvas × Bool :=
  match c.graph.updateNode? n keepConnections with
  | none => (c, false)
  | some (g, refusals) => ((c.withGraph g).logging refusals, true)

/-- Replaces those nodes of a list that are there, and reports how many are. Connections stay. -/
def updateNodes (c : Canvas) (nodes : List Node) : Canvas × Nat :=
  let known := nodes.filter (c.graph.nodes.contains ·.id)
  (c.withGraph (known.foldl Graph.putNode c.graph), known.length)

/-- Replaces those groups of a list that are there, and reports how many are. -/
def updateGroups (c : Canvas) (groups : List Group) : Canvas × Nat :=
  let known := groups.filter (c.graph.groups.contains ·.id)
  (c.withGraph (known.foldl Graph.putGroup c.graph), known.length)

/-- Collapses or expands a group, and reports whether there is such a group. -/
def toggle (c : Canvas) (id : ItemId) : Canvas × Bool :=
  match c.graph.toggle? id with
  | none => (c, false)
  | some g => (c.withGraph g, true)

/-! ## Connections -/

/-- Adds a connection, and reports whether it has been accepted. -/
def addConnection (c : Canvas) (connection : Connection) : Canvas × Bool :=
  match c.graph.addConnection connection with
  | .ok g => (c.withGraph g, true)
  | .error refusal => (c.logging [refusal], false)

/-- Connects two ports, and reports whether that has been accepted. -/
def connect (c : Canvas) (source target : PortId) : Canvas × Bool :=
  c.addConnection (.between source target)

/-- Adds connections one after the other, and reports how many have been accepted. -/
def addConnections (c : Canvas) (connections : List Connection) : Canvas × Nat :=
  let (g, refusals) := c.graph.addConnections connections
  ((c.withGraph g).logging refusals, connections.length - refusals.length)

/-- Replaces those connections of a list that are there, and reports how many are. -/
def updateConnections (c : Canvas) (connections : List Connection) : Canvas × Nat :=
  let known := connections.filter fun d => !d.isVirtual && c.graph.connections.contains d.id
  (c.withGraph { c.graph with connections := c.graph.connections.putAll known }, known.length)

/-- Brings the connections that leave a decision table in line with its routes. -/
def reroute (c : Canvas) (table : ItemId) : Canvas :=
  match c.graph.reroute? table with
  | none => c
  | some (g, refusals) => (c.withGraph g).logging refusals

/-- Removes a connection, and reports whether it was there. -/
def removeConnection (c : Canvas) (id : ConnectionId) : Canvas × Bool :=
  match c.graph.removeConnection? id with
  | none => (c, false)
  | some g => (c.withGraph g, true)

/-- Removes connections one after the other, and reports how many were there. -/
def removeConnections (c : Canvas) (ids : List ConnectionId) : Canvas × Nat :=
  let (g, count) := c.graph.removeConnections ids
  (c.withGraph g, count)

/-- Deletes a selection, and reports all that went. -/
def delete (c : Canvas) (s : Selection) : Canvas × Selection :=
  let (g, gone) := c.graph.delete s
  (c.withGraph g, gone)

/-! ## Views -/

/-- What the canvas shows, which it remembers from now on. -/
def visible (c : Canvas) : Canvas × Visible :=
  match c.visibleMemo with
  | some v => (c, v)
  | none =>
    let v := c.graph.visible
    ({ c with visibleMemo := some v }, v)

/-- Which ports can be joined, which the canvas remembers from now on. -/
def eligibility (c : Canvas) : Canvas × Eligibility :=
  match c.eligibilityMemo with
  | some e => (c, e)
  | none =>
    let e := c.graph.eligibility
    ({ c with eligibilityMemo := some e }, e)

/-- Whether two ports can be joined right now, whichever comes first. -/
def canJoin (c : Canvas) (a b : PortId) : Bool := c.graph.canJoin a b

end Canvas

end FlowCanvas
