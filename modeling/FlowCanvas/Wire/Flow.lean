import FlowCanvas.Flow.Basic
import FlowCanvas.Wire.Payload

/-!
# Documents of flows

How whole flows are read from JSON texts and written to them.

A node is an object that holds its own fields together with those of its data, and a port is an
object that holds its key together with its description. Both are read in two steps, so everything
in them must have a value. Keys are flat texts; the key of a port of a node is read on its own and
then made to follow the node, and the connections that a group has recorded are looked up among
those of the flow, because a flat text does not tell where a node id with an underscore ends.
-/

set_option autoImplicit false

namespace FlowCanvas

open FlowCanvas.Json

namespace Wire

/-! ## Reading -/

/-- Reads an item id. -/
def itemId? (d : Document) : Option ItemId := (text? d).map ItemId.mk

/-- Reads a role. -/
def role? (d : Document) : Option Role := (text? d).map Role.mk

/-- Reads the key of a port. -/
def portId? (d : Document) : Option PortId := (text? d).bind fun s => (PortId.parse s).toOption

/-- Reads the key of a connection. -/
def connectionId? (d : Document) : Option ConnectionId :=
  (text? d).bind fun s => (ConnectionId.parse s).toOption

/-- Reads a coordinate. -/
def coordinate? (d : Document) : Option Coordinate := (number? d).map Number.toBinary32

/-- Reads a point: a list of two coordinates. -/
def point? : Document → Option Point
  | .array [x, y] => do return ⟨← coordinate? x, ← coordinate? y⟩
  | _ => none

/-- The fields of an object, if those that are not read at once all have values. -/
def setAside? (readAtOnce : List String) : Document → Option (List (String × Document))
  | .object fields =>
    if fields.all (fun field => readAtOnce.contains field.1 || hasValue field.2) then some fields
    else none
  | _ => none

/-- Reads a port. -/
def port? (d : Document) : Option Port := do
  let fields ← setAside? ["id"] d
  let get := fieldNamed? fields
  let id ← required? portId? (← get "id")
  return ⟨id, {
    role := ← required? role? (← get "role")
    direction := ← required? (fun d => (text? d).bind Direction.ofName?) (← get "port_type")
    multiple := ← withDefault? bool? false (← get "multiple")
    allowed := ← withDefault? (list? role?) [] (← get "allowedConnections")
    side := ← withDefault? (name? .setAside Side.ofName?) .left (← get "position")
    color := ← withDefault? text? "" (← get "color") }⟩

/-- The fields of a node apart from its data. -/
def nodeFields : List String :=
  ["id", "node_name", "position", "size", "color", "icon", "parentId", "ports", "input_map",
    "output_variable_path"]

/-- Reads a node. -/
def node? (d : Document) : Option Node := do
  let fields ← setAside? nodeFields d
  let get := fieldNamed? fields
  let kind ← required? (name? .setAside NodeKind.ofName?) (← get "type")
  return {
    id := ← required? itemId? (← get "id")
    name := ← withDefault? text? "" (← get "node_name")
    position := ← withDefault? point? Point.origin (← get "position")
    size := ← withDefault? point? Node.defaultSize (← get "size")
    color := ← optional? text? (← get "color")
    icon := ← optional? text? (← get "icon")
    parent := ← optional? itemId? (← get "parentId")
    ports := ← withDefault? (list? port?) [] (← get "ports")
    inputMap := ← withDefault? textMap? TextMap.empty (← get "input_map")
    outputPath := ← optional? text? (← get "output_variable_path")
    data := ← required? (payloadData? .setAside · kind) (← get "data") }

/-- A connection as documents hold it, with flat texts. -/
structure FlatConnection where
  id : String := ""
  sourceNode : String
  targetNode : String
  sourcePort : String
  targetPort : String
  behavior : Behavior := .ordinary
  deriving DecidableEq

/-- Reads a connection as flat texts. -/
def flatConnection? (d : Document) : Option FlatConnection := do
  let [id, sourceNode, targetNode, sourcePort, targetPort, behavior] ←
      record? ["id", "sourceNodeId", "targetNodeId", "sourcePortId", "targetPortId", "behavior"] d
    | none
  return {
    id := ← withDefault? text? "" id
    sourceNode := ← required? text? sourceNode
    targetNode := ← required? text? targetNode
    sourcePort := ← required? text? sourcePort
    targetPort := ← required? text? targetPort
    behavior := ← withDefault? (name? .direct Behavior.ofName?) .ordinary behavior }

end Wire

namespace Connection

/-- The connection that flat texts describe. Its ports belong to the nodes that are named with
them, and its key follows from the ports. -/
def ofFlat (flat : Wire.FlatConnection) : Except IdError Connection := do
  let source ← PortId.parseFor ⟨flat.sourceNode⟩ flat.sourcePort
  let target ← PortId.parseFor ⟨flat.targetNode⟩ flat.targetPort
  return { between source target with behavior := flat.behavior }

/-- The flat texts that describe a connection. -/
def toFlat (c : Connection) : Wire.FlatConnection :=
  { id := c.id.text
    sourceNode := c.sourceNode.text
    targetNode := c.targetNode.text
    sourcePort := c.sourcePort.text
    targetPort := c.targetPort.text
    behavior := c.behavior }

end Connection

namespace Wire

/-- Reads a connection. -/
def connection? (d : Document) : Option Connection :=
  (flatConnection? d).bind fun flat => (Connection.ofFlat flat).toOption

/-- Reads the record of what a group hides. -/
def hidden? (d : Document) : Option HiddenConnections := do
  let [inputs, outputs, internal] ← record? ["inputs", "outputs", "internal"] d | none
  return {
    inputs := ← withDefault? (list? connectionId?) [] inputs
    outputs := ← withDefault? (list? connectionId?) [] outputs
    internal := ← withDefault? (list? connectionId?) [] internal }

/-- Reads a group. -/
def group? (d : Document) : Option Group := do
  let [id, parent, collapsed, title, position, size, color, hidden] ←
      record? ["id", "parentId", "collapsed", "title", "position", "size", "color",
        "connectionData"] d | none
  return {
    id := ← required? itemId? id
    parent := ← optional? itemId? parent
    collapsed := ← withDefault? bool? false collapsed
    title := ← withDefault? text? "" title
    position := ← withDefault? point? Point.origin position
    size := ← withDefault? point? Point.origin size
    color := ← optional? text? color
    hidden := ← withDefault? hidden? {} hidden }

/-- Reads a flow, with the keys of ports and the records of groups as they stand. -/
def flow? (d : Document) : Option Flow := do
  let [nodes, connections, groups] ← record? ["nodes", "connections", "groups"] d | none
  return {
    nodes := ← withDefault? (list? node?) [] nodes
    connections := ← withDefault? (list? connection?) [] connections
    groups := ← withDefault? (list? group?) [] groups }

/-! ## Writing -/

/-- The document of a point. -/
def ofPoint (p : Point) : Document := .array [ofBinary32 p.x, ofBinary32 p.y]

/-- The document of an optional item id. -/
def ofOptionalItem (id : Option ItemId) : Document := ofOption (fun i => .string i.text) id

/-- The fields of the description of a port. -/
def portSpecFields (s : PortSpec) : List (String × Document) :=
  [("role", .string s.role.text), ("port_type", .string s.direction.name),
    ("multiple", .bool s.multiple),
    ("allowedConnections", ofList (fun r => .string r.text) s.allowed),
    ("position", .string s.side.name), ("color", .string s.color)]

/-- The document of the description of a port. -/
def ofPortSpec (s : PortSpec) : Document := .object (portSpecFields s)

/-- The document of a port. -/
def ofPort (p : Port) : Document :=
  .object (("id", .string p.id.text) :: portSpecFields p.spec)

/-- The document of a node. -/
def ofNode (n : Node) : Document :=
  .object ([("id", .string n.id.text), ("node_name", .string n.name),
    ("position", ofPoint n.position), ("size", ofPoint n.size),
    ("color", ofOption .string n.color), ("icon", ofOption .string n.icon),
    ("parentId", ofOptionalItem n.parent), ("ports", ofList ofPort n.ports),
    ("input_map", ofTextMap n.inputMap),
    ("output_variable_path", ofOption .string n.outputPath)] ++ payloadFields n.data)

/-- The document of a connection as flat texts. -/
def ofFlatConnection (c : FlatConnection) : Document :=
  .object [("id", .string c.id), ("sourceNodeId", .string c.sourceNode),
    ("targetNodeId", .string c.targetNode), ("sourcePortId", .string c.sourcePort),
    ("targetPortId", .string c.targetPort), ("behavior", .string c.behavior.name)]

/-- The document of a connection. -/
def ofConnection (c : Connection) : Document := ofFlatConnection c.toFlat

/-- The document of a list of keys of connections. -/
def ofConnectionIds (ids : List ConnectionId) : Document := ofList (fun id => .string id.text) ids

/-- The document of the record of what a group hides. -/
def ofHidden (h : HiddenConnections) : Document :=
  .object [("inputs", ofConnectionIds h.inputs), ("outputs", ofConnectionIds h.outputs),
    ("internal", ofConnectionIds h.internal)]

/-- The document of a group. -/
def ofGroup (g : Group) : Document :=
  .object [("id", .string g.id.text), ("parentId", ofOptionalItem g.parent),
    ("collapsed", .bool g.collapsed), ("title", .string g.title),
    ("position", ofPoint g.position), ("size", ofPoint g.size),
    ("color", ofOption .string g.color), ("connectionData", ofHidden g.hidden)]

/-- The document of a flow. -/
def ofFlow (f : Flow) : Document :=
  .object [("nodes", ofList ofNode f.nodes), ("connections", ofList ofConnection f.connections),
    ("groups", ofList ofGroup f.groups)]

end Wire

namespace Flow

/-- The key of the last connection with the same text as a given key; that key where there is
none. -/
def resolve (connections : List Connection) (id : ConnectionId) : ConnectionId :=
  match connections.reverse.find? (fun c => c.id.text == id.text) with
  | some c => c.id
  | none => id

/-- The flow with the keys of ports made to follow their nodes, and the records of groups made to
name the connections of the flow. -/
def relink (f : Flow) : Flow :=
  { f with
    nodes := f.nodes.map Node.rebindPorts
    groups := f.groups.map fun g => { g with hidden := g.hidden.map (resolve f.connections) } }

/-- Reads a flow from a JSON text. -/
def parse? (text : String) : Option Flow :=
  ((Document.parse? text).bind Wire.flow?).map relink

/-- The text of a flow. -/
def print (layout : PageLayout) (f : Flow) : String := (Wire.ofFlow f).print layout

end Flow

end FlowCanvas
