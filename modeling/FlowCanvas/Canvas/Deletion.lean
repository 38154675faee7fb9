import FlowCanvas.Canvas.Nesting
import FlowCanvas.Canvas.Routing
import FlowCanvas.Keyed.Ordered

/-!
# Deletion

Deleting what is selected on the canvas, with everything that hangs on it. A collapsed group takes
all that is below it along; an expanded one releases what is directly in it. Connections go with
the nodes at their ends, and decision tables forget the routes of the outputs that they lose.
-/

set_option autoImplicit false

namespace FlowCanvas

/-- Items of a canvas. -/
structure Selection where
  nodes : List ItemId := []
  groups : List ItemId := []
  connections : List ConnectionId := []
  deriving DecidableEq

namespace Selection

/-- The items in ascending order, each once. -/
def sorted (s : Selection) : Selection :=
  { nodes := Ordered.ofList ItemId.before s.nodes
    groups := Ordered.ofList ItemId.before s.groups
    connections := Ordered.ofList ConnectionId.before s.connections }

end Selection

namespace Graph

/-- The groups in a list that are stored and collapsed, or stored and expanded. -/
def groupsThatAre (g : Graph) (collapsed : Bool) (ids : List ItemId) : List ItemId :=
  ids.filter fun id => (g.group? id).any (·.collapsed == collapsed)

/-- Everything that goes when a selection is deleted. -/
def doomed (g : Graph) (s : Selection) : Selection :=
  let collapsed := g.groupsThatAre true s.groups
  let nodes := s.nodes.filter g.nodes.contains ++ collapsed.flatMap g.nodesBelow
  { nodes
    groups := s.groups.filter g.groups.contains ++ collapsed.flatMap g.groupsBelow
    connections :=
      s.connections.filter (fun id => !id.isVirtual && g.connections.contains id) ++
        (g.connections.toList.filter fun c =>
          nodes.contains c.sourceNode || nodes.contains c.targetNode).map (·.id) }

/-- Puts the nodes and groups that are directly in one of the given groups onto the top level. -/
def release (g : Graph) (groups : List ItemId) : Graph :=
  { g with
    nodes := g.nodes.modify
      (fun n => if n.parent.any groups.contains then { n with parent := none } else n)
      (fun n => by
        show Node.id _ = Node.id n
        split <;> rfl)
    groups := g.groups.modify
      (fun h => if h.parent.any groups.contains then { h with parent := none } else h)
      (fun h => by
        show Group.id _ = Group.id h
        split <;> rfl) }

/-- Makes decision tables forget the routes of removed connections, one after the other. Returns
with the graph the tables that forgot one. -/
def unrouteAll (g : Graph) : List Connection → Graph × List ItemId
  | [] => (g, [])
  | c :: rest =>
    match g.unroute? c with
    | none => g.unrouteAll rest
    | some g =>
      let (g, tables) := g.unrouteAll rest
      (g, c.sourceNode :: tables)

/-- Prepares the nodes with the given ids afresh. -/
def prepareAll (g : Graph) (ids : List ItemId) : Graph :=
  { g with
    nodes := g.nodes.modify (fun n => if ids.contains n.id then n.prepare else n)
      (fun n => by
        show Node.id _ = Node.id n
        split
        · unfold Node.prepare
          split <;> rfl
        · rfl) }

/-- Deletes a selection, and returns with the graph all that went, in ascending order. -/
def delete (g : Graph) (s : Selection) : Graph × Selection :=
  let gone := (g.doomed s).sorted
  let removed := gone.connections.filterMap g.connection?
  let released := g.release (g.groupsThatAre false s.groups)
  let rest : Graph :=
    { nodes := released.nodes.filter (fun n => !gone.nodes.contains n.id)
      connections := released.connections
      groups := released.groups.filter (fun h => !gone.groups.contains h.id) }
  let (g, tables) := (rest.dropConnections gone.connections).unrouteAll removed
  (g.prepareAll tables, gone)

end Graph

end FlowCanvas
