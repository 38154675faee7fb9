import FlowCanvas.Flow.Id

/-!
# Connections

A connection joins two ports. Only ordinary connections are stored; virtual ones stand in for them
in what the canvas shows, where a collapsed group hides an end.
-/

set_option autoImplicit false

namespace FlowCanvas

/-- Whether a connection is stored or only shown. -/
inductive Behavior where
  | ordinary
  | virtual
  deriving DecidableEq, Inhabited

namespace Behavior

/-- The name of a behaviour. -/
def name : Behavior → String
  | ordinary => "default"
  | virtual => "virtual"

/-- The behaviour with a given name. -/
def ofName? : String → Option Behavior
  | "default" => some ordinary
  | "virtual" => some virtual
  | _ => none

end Behavior

/-- A connection. Its key and the nodes at its ends are data of their own, although
`Connection.between` makes them all agree. -/
structure Connection where
  id : ConnectionId
  sourceNode : ItemId
  targetNode : ItemId
  sourcePort : PortId
  targetPort : PortId
  behavior : Behavior := .ordinary
  deriving DecidableEq, Inhabited

namespace Connection

/-- The connection between two ports. -/
def between (source target : PortId) : Connection :=
  { id := ⟨source, target⟩
    sourceNode := source.node
    targetNode := target.node
    sourcePort := source
    targetPort := target }

/-- The connection that is shown between two ports of which one is a group's. -/
def virtualBetween (source target : PortId) : Connection :=
  { between source target with behavior := .virtual }

/-- A connection whose key and whose nodes are those of its ports. -/
structure IsKeyed (c : Connection) : Prop where
  id_eq : c.id = ⟨c.sourcePort, c.targetPort⟩
  source_eq : c.sourcePort.node = c.sourceNode
  target_eq : c.targetPort.node = c.targetNode

instance (c : Connection) : Decidable c.IsKeyed :=
  decidable_of_iff (c.id = ⟨c.sourcePort, c.targetPort⟩ ∧ c.sourcePort.node = c.sourceNode ∧
    c.targetPort.node = c.targetNode)
    ⟨fun h => ⟨h.1, h.2.1, h.2.2⟩, fun h => ⟨h.id_eq, h.source_eq, h.target_eq⟩⟩

/-- A connection that has been drawn between two ports is keyed by them. -/
theorem isKeyed_between (source target : PortId) : (between source target).IsKeyed :=
  ⟨rfl, rfl, rfl⟩

/-- A keyed connection is determined by its ports and by how it behaves. -/
theorem IsKeyed.eq_between {c : Connection} (h : c.IsKeyed) :
    c = { between c.sourcePort c.targetPort with behavior := c.behavior } := by
  unfold between
  rw [h.source_eq, h.target_eq, ← h.id_eq]

/-- Whether the connection is one that is only shown. -/
def isVirtual (c : Connection) : Bool := c.behavior == .virtual || c.id.isVirtual

/-- Whether a node is at one end of the connection. -/
def touches (c : Connection) (node : ItemId) : Bool := c.sourceNode == node || c.targetNode == node

/-- Whether the connection joins two nodes, in either direction. -/
def joins (c : Connection) (a b : ItemId) : Bool :=
  (c.sourceNode == a && c.targetNode == b) || (c.sourceNode == b && c.targetNode == a)

/-- Whether a port is at one end of the connection. -/
def occupies (c : Connection) (port : PortId) : Bool := c.sourcePort == port || c.targetPort == port

end Connection

end FlowCanvas
