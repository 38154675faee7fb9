import FlowCanvas.Flow.PortRules

/-!
# Nodes

A node is a unit of work on the canvas. Its ports follow from its data when it is made; later they
are kept with it, and only the keys of the ports are made to follow the id of the node. A decision
table is the exception: its ports always follow from its groups.
-/

set_option autoImplicit false

namespace FlowCanvas

/-- A coordinate on the canvas. -/
abbrev Coordinate := Binary Binary.binary32

/-- A place on the canvas, or the width and the height of an item. -/
structure Point where
  x : Coordinate
  y : Coordinate
  deriving BEq

namespace Point

/-- The point with whole coordinates. -/
def ofInts (x y : Int) : Point :=
  ⟨Binary.ofInt Binary.binary32 x, Binary.ofInt Binary.binary32 y⟩

/-- The point nearest to coordinates that have 64 bits. -/
def ofWide (x y : Binary Binary.binary64) : Point :=
  ⟨x.convert Binary.binary32, y.convert Binary.binary32⟩

/-- The corner of the canvas. -/
def origin : Point := ofInts 0 0

instance : Inhabited Point := ⟨origin⟩

end Point

/-- The size of a new node. -/
def Node.defaultSize : Point := Point.ofInts 330 60

/-- A node. -/
structure Node where
  id : ItemId
  /-- The name of the node, which may be empty. Decision tables refer to nodes by name. -/
  name : String := ""
  position : Point := Point.origin
  size : Point := Node.defaultSize
  color : Option String := none
  icon : Option String := none
  /-- The group that the node is in, if any. -/
  parent : Option ItemId := none
  ports : List Port := []
  /-- Where the inputs of the node come from. -/
  inputMap : TextMap := TextMap.empty
  /-- Where the output of the node goes to, if anywhere. -/
  outputPath : Option String := none
  data : Payload
  deriving BEq, Inhabited

namespace Node

/-- The kind of a node. -/
def kind (n : Node) : NodeKind := n.data.kind

/-- The decision table of a node, if it has one. -/
def table? (n : Node) : Option DecisionTable := n.data.table?

/-- The title shown for a node: its name, or that of its kind if the name is blank. -/
def title (n : Node) : String := if Text.isBlank n.name then n.kind.title else n.name

/-- The ports that follow from the data of a node. -/
def defaultPorts (n : Node) : List Port := n.data.ports n.id

/-- The node with the ports that follow from its data. -/
def withDefaultPorts (n : Node) : Node := { n with ports := n.defaultPorts }

/-- The node with the keys of its ports made to follow its id. -/
def rebindPorts (n : Node) : Node := { n with ports := n.ports.map (·.boundTo n.id) }

/-- A new node. -/
def new (id : ItemId) (name : String) (data : Payload) : Node :=
  { id, name, data, ports := data.ports id }

/-- The first port that plays a role. -/
def port? (n : Node) (role : Role) : Option Port := n.ports.find? (·.role == role)

/-- The first port with a key. -/
def portById? (n : Node) (id : PortId) : Option Port := n.ports.find? (·.id == id)

/-- The form in which a node is stored: the flags and ports of a decision table follow its groups,
and the keys of other ports follow the node. -/
def prepare (n : Node) : Node :=
  match n.data with
  | .decisionTable t =>
    let t := t.revalidate
    { n with data := .decisionTable t, ports := t.ports n.id }
  | _ => n.rebindPorts

end Node

end FlowCanvas
