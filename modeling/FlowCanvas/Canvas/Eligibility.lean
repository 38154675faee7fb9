import FlowCanvas.Canvas.Joining
import FlowCanvas.Keyed.Ordered

/-!
# Eligible partners

For every port of a graph, the ports that it could be joined with right now. A port without any is
blocked; it lists a placeholder, so that it cannot be taken for a port that nothing is known about.
-/

set_option autoImplicit false

namespace FlowCanvas

/-- The ports in ascending order, each with the texts of the ports that it could be joined with. -/
structure Eligibility where
  rows : List (PortId × List String)
  deriving DecidableEq

namespace Eligibility

/-- What a port without eligible partners lists. -/
def placeholder : String := "__none__"

/-- What a port lists. -/
def get? (e : Eligibility) (port : PortId) : Option (List String) := e.rows.lookup port

/-- Whether a port lists another one. -/
def canConnect (e : Eligibility) (source target : PortId) : Bool :=
  (e.get? source).any (·.contains target.text)

/-- Whether a port is known and has no eligible partner. -/
def isBlocked (e : Eligibility) (port : PortId) : Bool := e.get? port == some [placeholder]

end Eligibility

namespace Graph

/-- All ports of a graph with their nodes. -/
def endpoints (g : Graph) : List (Node × Port) :=
  g.nodes.toList.flatMap fun n => n.ports.map (n, ·)

/-- The texts of the ports that a port of a node could be joined with. -/
def partners (g : Graph) (node : Node) (port : Port) : List String :=
  (g.endpoints.filter fun other => (g.obstacle? node port other.1 other.2).isNone).map
    (·.2.id.text)

/-- The eligible partners of every port. -/
def eligibility (g : Graph) : Eligibility :=
  ⟨Ordered.ofEntries PortId.before (g.endpoints.map fun (node, port) =>
    let partners := g.partners node port
    (port.id, if partners.isEmpty then [Eligibility.placeholder] else partners))⟩

end Graph

end FlowCanvas
