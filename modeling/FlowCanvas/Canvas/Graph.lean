import FlowCanvas.Flow.Basic
import FlowCanvas.Keyed.Roster

/-!
# Graphs

The graph on a canvas: the nodes, connections and groups of a flow, each kept under its key in the
order of arrival. Nodes are stored in their prepared form (`Node.prepare`) and virtual connections
are not stored, so loading a flow (`Graph.ofFlow`) projects it onto what a graph can hold.
-/

set_option autoImplicit false

namespace FlowCanvas

instance : Keyed Node ItemId := ⟨Node.id⟩

instance : Keyed Connection ConnectionId := ⟨Connection.id⟩

instance : Keyed Group ItemId := ⟨Group.id⟩

/-- The nodes, connections and groups on a canvas. -/
structure Graph where
  nodes : Roster Node := Roster.empty
  connections : Roster Connection := Roster.empty
  groups : Roster Group := Roster.empty
  deriving Inhabited

namespace Graph

/-- The graph of a flow. -/
def ofFlow (f : Flow) : Graph :=
  { nodes := Roster.ofList (f.nodes.map Node.prepare)
    connections := Roster.ofList (f.connections.filter (!·.isVirtual))
    groups := Roster.ofList f.groups }

/-- The flow that a graph holds. -/
def toFlow (g : Graph) : Flow :=
  { nodes := g.nodes.toList, connections := g.connections.toList, groups := g.groups.toList }

/-- The node with an id. -/
def node? (g : Graph) (id : ItemId) : Option Node := g.nodes.get? id

/-- The group with an id. -/
def group? (g : Graph) (id : ItemId) : Option Group := g.groups.get? id

/-- The connection with a key. -/
def connection? (g : Graph) (id : ConnectionId) : Option Connection := g.connections.get? id

/-- The first node with a name. -/
def nodeNamed? (g : Graph) (name : String) : Option Node :=
  g.nodes.toList.find? (·.name == name)

/-- Puts a node in, in its prepared form. -/
def putNode (g : Graph) (n : Node) : Graph := { g with nodes := g.nodes.put n.prepare }

/-- Puts a group in. -/
def putGroup (g : Graph) (group : Group) : Graph := { g with groups := g.groups.put group }

/-- Takes connections out of the records of all groups. -/
def forget (g : Graph) (ids : List ConnectionId) : Graph :=
  { g with
    groups := g.groups.modify (fun group => { group with hidden := group.hidden.forget ids })
      (fun _ => rfl) }

/-- Takes connections out, and out of the records of all groups. -/
def dropConnections (g : Graph) (ids : List ConnectionId) : Graph :=
  { g with connections := g.connections.filter (fun c => !ids.contains c.id) }.forget ids

end Graph

end FlowCanvas
