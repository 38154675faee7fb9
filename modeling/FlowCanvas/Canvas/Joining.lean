import FlowCanvas.Canvas.Graph

/-!
# Joining ports

When two ports may be joined, and how a connection comes into a graph.

Two ports can be joined if they belong to different nodes that are not connected yet, if neither is
a port for one connection that has one, and if their directions and roles fit. This does not depend
on which of the two comes first. A connection is stored if its ports can be joined, start where
connections may start and end where they may end, and if it is new.

A connection from an output of a decision table also makes the table lead to the node at the other
end.
-/

set_option autoImplicit false

namespace FlowCanvas

/-- Why a connection is refused. -/
inductive Refusal where
  | duplicate (id : ConnectionId)
  | selfConnection (node : ItemId)
  | unknownNode (node : ItemId)
  | unknownPort (port : PortId)
  | alreadyJoined (a b : ItemId)
  | occupied (port : PortId)
  | incompatible (a b : PortId)
  | virtual (id : ConnectionId)
  deriving DecidableEq

/-- The text shown for a refusal. -/
def Refusal.message : Refusal → String
  | .duplicate id => "connection '" ++ id.text ++ "' already exists"
  | .selfConnection node => "node '" ++ node.text ++ "' cannot connect to itself"
  | .unknownNode node => "node '" ++ node.text ++ "' not found"
  | .unknownPort port => "port '" ++ port.text ++ "' not found on its node"
  | .alreadyJoined a b => "nodes '" ++ a.text ++ "' and '" ++ b.text ++ "' are already connected"
  | .occupied port => "port '" ++ port.text ++ "' accepts a single connection and is occupied"
  | .incompatible a b => "roles of '" ++ a.text ++ "' and '" ++ b.text ++ "' are not compatible"
  | .virtual id => "virtual connection '" ++ id.text ++ "' cannot be stored"

namespace Graph

variable (g : Graph)

/-- Whether two nodes are connected, in either direction. -/
def areJoined (a b : ItemId) : Bool := g.connections.toList.any (·.joins a b)

/-- Whether a port has a connection. -/
def isOccupied (port : PortId) : Bool := g.connections.toList.any (·.occupies port)

/-- Whether a port takes no further connection. -/
def isFull (port : Port) : Bool := !port.spec.multiple && g.isOccupied port.id

/-- Why two ports of two nodes cannot be joined; nothing if they can. -/
def obstacle? (aNode : Node) (a : Port) (bNode : Node) (b : Port) : Option Refusal :=
  if a.id = b.id ∨ aNode.id = bNode.id then some (.selfConnection aNode.id)
  else if g.areJoined aNode.id bNode.id then some (.alreadyJoined aNode.id bNode.id)
  else if g.isFull a then some (.occupied a.id)
  else if g.isFull b then some (.occupied b.id)
  else if a.fits b then none
  else some (.incompatible a.id b.id)

/-- The node and the port that a key names, if there are such. -/
def endpoint? (id : PortId) : Option (Node × Port) := do
  let node ← g.node? id.node
  let port ← node.portById? id
  return (node, port)

/-- Whether two ports can be joined, whichever comes first. -/
def canJoin (a b : PortId) : Bool :=
  match g.endpoint? a, g.endpoint? b with
  | some (aNode, aPort), some (bNode, bPort) => (g.obstacle? aNode aPort bNode bPort).isNone
  | _, _ => false

/-- Stores a connection if the rules allow it. -/
def insertConnection (c : Connection) : Except Refusal Graph :=
  if c.isVirtual then .error (.virtual c.id)
  else if g.connections.contains c.id then .error (.duplicate c.id)
  else
    match g.node? c.sourceNode, g.node? c.targetNode with
    | none, _ => .error (.unknownNode c.sourceNode)
    | _, none => .error (.unknownNode c.targetNode)
    | some source, some target =>
      match source.portById? c.sourcePort, target.portById? c.targetPort with
      | none, _ => .error (.unknownPort c.sourcePort)
      | _, none => .error (.unknownPort c.targetPort)
      | some sourcePort, some targetPort =>
        if !sourcePort.spec.direction.sends || !targetPort.spec.direction.receives then
          .error (.incompatible sourcePort.id targetPort.id)
        else
          match g.obstacle? source sourcePort target targetPort with
          | some refusal => .error refusal
          | none => .ok { g with connections := g.connections.put c }

/-- Makes the decision table at the start of a connection, if there is one, lead to the node at its
end. -/
def routeAlong (c : Connection) : Graph :=
  if !c.sourcePort.role.isDecisionOutput then g
  else
    match g.node? c.targetNode, g.node? c.sourceNode with
    | some target, some source =>
      match source.table? with
      | none => g
      | some table =>
        match table.bind? c.sourcePort.role (some target.name) with
        | none => g
        | some table => g.putNode { source with data := .decisionTable table }
    | _, _ => g

/-- Adds a connection: stores it and makes its decision table follow. -/
def addConnection (c : Connection) : Except Refusal Graph := do
  let stored ← g.insertConnection c
  return stored.routeAlong c

/-- Adds connections one after the other, and returns with the graph what was refused. -/
def addConnections (g : Graph) : List Connection → Graph × List Refusal
  | [] => (g, [])
  | c :: rest =>
    match g.addConnection c with
    | .ok g => g.addConnections rest
    | .error refusal =>
      let (g, refusals) := g.addConnections rest
      (g, refusal :: refusals)

end Graph

end FlowCanvas
