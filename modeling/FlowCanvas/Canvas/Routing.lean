import FlowCanvas.Canvas.Joining

/-!
# Routing

Decision tables lead to nodes by name, and connections lead to them on the canvas. This module
keeps the two in line.

When a table is edited, `Graph.reroute` keeps the connections that still lead where the table says,
drops the others, and draws those that are missing. When a connection is removed, `Graph.unroute`
makes the table forget the route, unless another connection leaves the same output.
-/

set_option autoImplicit false

namespace FlowCanvas

namespace Graph

/-- Whether a connection leaves an output of a decision table. -/
def leaves (table : ItemId) (c : Connection) : Bool :=
  c.sourceNode == table && c.sourcePort.role.isDecisionOutput

/-- Whether the routes of a table lead from a role to a name. -/
def isRouted (bindings : List (Role × Option String)) (role : Role) (name : Option String) : Bool :=
  name.isSome && bindings.contains (role, name)

/-- Which of some connections still follow the routes of a table. An output that has a connection
already is settled and keeps no other. Returns the settled roles and the keys of the connections
that do not follow. -/
def sift (g : Graph) (bindings : List (Role × Option String)) (settled : List Role) :
    List Connection → List Role × List ConnectionId
  | [] => (settled, [])
  | c :: rest =>
    let role := c.sourcePort.role.normalize
    let name := (g.node? c.targetNode).map (·.name)
    if isRouted bindings role name && !settled.contains role then
      g.sift bindings (role :: settled) rest
    else
      let (settled, stale) := g.sift bindings settled rest
      (settled, c.id :: stale)

/-- The port at which a connection from an output of a table to a name ends: the first input that
accepts the output, on the first other node with that name. -/
def routeTarget? (g : Graph) (table : ItemId) (role : Role) (name : String) : Option Port := do
  let target ← g.nodes.toList.find? (fun n => n.name == name && n.id != table)
  target.ports.find? (fun p => p.spec.direction.receives && p.allows role)

/-- Draws a connection for every route that is not settled and leads somewhere. Returns with the
graph what was refused. -/
def drawRoutes (g : Graph) (table : ItemId) (settled : List Role) :
    List (Role × Option String) → Graph × List Refusal
  | [] => (g, [])
  | (_, none) :: rest => g.drawRoutes table settled rest
  | (role, some name) :: rest =>
    if settled.contains role then g.drawRoutes table settled rest
    else
      match g.routeTarget? table role name with
      | none => g.drawRoutes table settled rest
      | some port =>
        match g.insertConnection (.between ⟨table, role⟩ port.id) with
        | .ok g => g.drawRoutes table settled rest
        | .error refusal =>
          let (g, refusals) := g.drawRoutes table settled rest
          (g, refusal :: refusals)

/-- The decision table of a node, if the node is there and has one. -/
def tableOf? (g : Graph) (id : ItemId) : Option DecisionTable := (g.node? id).bind Node.table?

/-- Brings the connections that leave a decision table in line with its routes. Nothing happens if
there is no such table. -/
def reroute? (g : Graph) (id : ItemId) : Option (Graph × List Refusal) :=
  (g.tableOf? id).map fun table =>
    let bindings := table.bindings
    let (settled, stale) := g.sift bindings [] (g.connections.toList.filter (leaves id))
    (g.dropConnections stale).drawRoutes id settled bindings

/-- Whether an edit of a node changes the routes or the outputs of its decision table. -/
def routingChanged (before after : Node) : Bool :=
  match before.table?, after.table? with
  | some b, some a => b.bindings != a.bindings || before.ports != after.ports
  | _, _ => false

/-- Replaces a node. If its routing has changed, its connections follow, unless they are to be
kept. Nothing happens if there is no such node. -/
def updateNode? (g : Graph) (n : Node) (keepConnections : Bool) : Option (Graph × List Refusal) :=
  (g.node? n.id).map fun stored =>
    let g' := g.putNode n
    if !keepConnections && routingChanged stored n.prepare then
      (g'.reroute? n.id).getD (g', [])
    else (g', [])

/-- Makes the decision table at the start of a removed connection forget its route, unless another
connection leaves the same output. Nothing if there is no such route. -/
def unroute? (g : Graph) (removed : Connection) : Option Graph :=
  let role := removed.sourcePort.role
  let staysOccupied := g.connections.toList.any fun c =>
    c.sourceNode == removed.sourceNode && c.sourcePort.role.normalize == role.normalize
  if !role.isDecisionOutput || staysOccupied then none
  else do
    let node ← g.node? removed.sourceNode
    let table ← node.table?
    let table ← table.bind? role none
    return { g with nodes := g.nodes.put { node with data := .decisionTable table } }

/-- Removes a connection with what hangs on it. Nothing if it is virtual or not stored. -/
def removeConnection? (g : Graph) (id : ConnectionId) : Option Graph :=
  if id.isVirtual then none
  else
    (g.connection? id).map fun c =>
      let g := g.dropConnections [id]
      (g.unroute? c).getD g

/-- Removes connections one after the other, and returns with the graph how many there were. -/
def removeConnections (g : Graph) : List ConnectionId → Graph × Nat
  | [] => (g, 0)
  | id :: rest =>
    match g.removeConnection? id with
    | none => g.removeConnections rest
    | some g =>
      let (g, count) := g.removeConnections rest
      (g, count + 1)

end Graph

end FlowCanvas
