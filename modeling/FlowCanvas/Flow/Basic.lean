import FlowCanvas.Flow.Node
import FlowCanvas.Flow.Connection

/-!
# Flows

A flow is a whole drawing: nodes, connections, and groups that nest them. A group that is collapsed
hides what is in it and keeps a record of the connections that it hides.
-/

set_option autoImplicit false

namespace FlowCanvas

/-- The connections that a collapsed group hides. -/
structure HiddenConnections where
  /-- Those that come in from outside. -/
  inputs : List ConnectionId := []
  /-- Those that go out. -/
  outputs : List ConnectionId := []
  /-- Those with both ends inside. -/
  internal : List ConnectionId := []
  deriving DecidableEq, Inhabited

namespace HiddenConnections

/-- Whether nothing is recorded. -/
def isEmpty (h : HiddenConnections) : Bool :=
  h.inputs.isEmpty && h.outputs.isEmpty && h.internal.isEmpty

/-- The record without the connections in a list. -/
def forget (h : HiddenConnections) (ids : List ConnectionId) : HiddenConnections :=
  { inputs := h.inputs.filter (!ids.contains ·)
    outputs := h.outputs.filter (!ids.contains ·)
    internal := h.internal.filter (!ids.contains ·) }

/-- The record with every connection replaced. -/
def map (f : ConnectionId → ConnectionId) (h : HiddenConnections) : HiddenConnections :=
  { inputs := h.inputs.map f, outputs := h.outputs.map f, internal := h.internal.map f }

end HiddenConnections

/-- A group. -/
structure Group where
  id : ItemId
  /-- The group that this one is in, if any. -/
  parent : Option ItemId := none
  /-- Whether the group hides what is in it. -/
  collapsed : Bool := false
  title : String := ""
  position : Point := Point.origin
  size : Point := Point.origin
  color : Option String := none
  /-- What the group hides, if it is collapsed. -/
  hidden : HiddenConnections := {}
  deriving BEq, Inhabited

namespace Group

/-- The size of a new group. -/
def defaultSize : Point := Point.ofInts 400 300

/-- A new group. -/
def new (id : ItemId) (title : String) : Group := { id, title, size := defaultSize }

end Group

/-- A whole drawing. -/
structure Flow where
  nodes : List Node := []
  connections : List Connection := []
  groups : List Group := []
  deriving BEq, Inhabited

end FlowCanvas
