import FlowCanvas.Canvas.Nesting

/-!
# Visibility

What a canvas shows. A collapsed group hides everything below it and stands for it: a connection
with a hidden end is shown at the outermost collapsed group above that end, and not at all if both
ends have the same one.
-/

set_option autoImplicit false

namespace FlowCanvas

/-- What a canvas shows. -/
structure Visible where
  nodes : List Node
  groups : List Group
  connections : List Connection
  deriving BEq

namespace Graph

/-- The outermost collapsed group above an item with a given parent. -/
def coverOf? (g : Graph) (parent : Option ItemId) : Option ItemId :=
  ((g.ancestors parent).filter (·.collapsed)).getLast?.map (·.id)

/-- The group that stands for a node, if the node is hidden. -/
def standIn? (g : Graph) (node : ItemId) : Option ItemId :=
  g.coverOf? ((g.node? node).bind (·.parent))

/-- How a connection is shown; nothing if both its ends are hidden in one group. -/
def shown? (g : Graph) (c : Connection) : Option Connection :=
  match g.standIn? c.sourceNode, g.standIn? c.targetNode with
  | none, none => some c
  | some s, some t =>
    if s = t then none
    else some (.virtualBetween ⟨s, Role.groupOutput⟩ ⟨t, Role.groupInput⟩)
  | some s, none => some (.virtualBetween ⟨s, Role.groupOutput⟩ c.targetPort)
  | none, some t => some (.virtualBetween c.sourcePort ⟨t, Role.groupInput⟩)

/-- The connections of a list without those whose key has come before. -/
def distinct (passed : List ConnectionId) : List Connection → List Connection
  | [] => []
  | c :: rest =>
    if passed.contains c.id then distinct passed rest else c :: distinct (c.id :: passed) rest

/-- What is shown of a graph. -/
def visible (g : Graph) : Visible :=
  { nodes := g.nodes.toList.filter fun n => (g.coverOf? n.parent).isNone
    groups := g.groups.toList.filter fun h => (g.coverOf? h.parent).isNone
    connections := distinct [] (g.connections.toList.filterMap g.shown?) }

end Graph

end FlowCanvas
