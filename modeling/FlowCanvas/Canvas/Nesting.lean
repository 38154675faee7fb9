import FlowCanvas.Canvas.Graph

/-!
# Nesting

Nodes and groups can be put into groups. This module looks down into a group (`Graph.groupsBelow`,
`Graph.nodesBelow`) and up from an item (`Graph.ancestors`), moves items between groups, and
collapses and expands groups. Both directions end on any graph, even where parents form a circle.
-/

set_option autoImplicit false

namespace FlowCanvas

namespace Graph

/-- A list of ids of groups together with the groups that are directly in one of them. -/
def descend (g : Graph) (ids : List ItemId) : List ItemId :=
  ids ++ (g.groups.toList.filter fun group =>
    group.parent.any ids.contains && !ids.contains group.id).map (·.id)

/-- A list of ids of groups together with the groups that are below one of them, at most the given
number of levels down. -/
def descendBy (g : Graph) : Nat → List ItemId → List ItemId
  | 0, ids => ids
  | levels + 1, ids => g.descendBy levels (g.descend ids)

/-- A group and the groups below it. No chain of groups is longer than there are groups. -/
def groupsFrom (g : Graph) (id : ItemId) : List ItemId :=
  g.descendBy g.groups.toList.length [id]

/-- The groups below a group. -/
def groupsBelow (g : Graph) (id : ItemId) : List ItemId := (g.groupsFrom id).filter (· != id)

/-- The nodes below a group. -/
def nodesBelow (g : Graph) (id : ItemId) : List ItemId :=
  let groups := g.groupsFrom id
  (g.nodes.toList.filter fun n => n.parent.any groups.contains).map (·.id)

/-- The groups above an item with a given parent, the nearest first, except those in a list. The
walk ends where a parent is not stored or has been passed, after at most the given number of
steps. -/
def ancestorsUpTo (g : Graph) : Nat → List ItemId → Option ItemId → List Group
  | 0, _, _ => []
  | _ + 1, _, none => []
  | steps + 1, passed, some id =>
    if passed.contains id then []
    else
      match g.group? id with
      | none => []
      | some group => group :: g.ancestorsUpTo steps (id :: passed) group.parent

/-- The groups above an item with a given parent, the nearest first. -/
def ancestors (g : Graph) (parent : Option ItemId) : List Group :=
  g.ancestorsUpTo g.groups.toList.length [] parent

/-- The connections that a group hides when it is collapsed. -/
def hiddenBy (g : Graph) (id : ItemId) : HiddenConnections :=
  let inside := g.nodesBelow id
  let select := fun (source target : Bool) =>
    (g.connections.toList.filter fun c =>
      inside.contains c.sourceNode == source && inside.contains c.targetNode == target).map (·.id)
  { inputs := select false true, outputs := select true false, internal := select true true }

/-- Collapses an expanded group, which then records what it hides, or expands a collapsed one.
Nothing if there is no such group. -/
def toggle? (g : Graph) (id : ItemId) : Option Graph :=
  (g.group? id).map fun group =>
    if group.collapsed then g.putGroup { group with collapsed := false, hidden := {} }
    else g.putGroup { group with collapsed := true, hidden := g.hiddenBy id }

/-- Whether putting a group into another one would put it into itself. -/
def wouldNest (g : Graph) (id : ItemId) (parent : Option ItemId) : Bool :=
  parent.any fun p => p == id || (g.groupsBelow id).contains p

/-- Puts an item into a group, or onto the top level. Nothing if there is no such item, or if it
would end up in itself. -/
def move? (g : Graph) (parent : Option ItemId) (id : ItemId) : Option Graph :=
  match g.node? id with
  | some node => some { g with nodes := g.nodes.put { node with parent } }
  | none =>
    match g.group? id with
    | none => none
    | some group => if g.wouldNest id parent then none else some (g.putGroup { group with parent })

/-- Puts items into a group one after the other, and returns with the graph how many moved. -/
def moveAll (g : Graph) (parent : Option ItemId) : List ItemId → Graph × Nat
  | [] => (g, 0)
  | id :: rest =>
    match g.move? parent id with
    | none => g.moveAll parent rest
    | some g =>
      let (g, count) := g.moveAll parent rest
      (g, count + 1)

/-- Puts items into a group, or onto the top level, and returns with the graph how many moved.
None move into a group that is not stored. -/
def setParent (g : Graph) (ids : List ItemId) (parent : Option ItemId) : Graph × Nat :=
  if parent.all g.groups.contains then g.moveAll parent ids else (g, 0)

end Graph

end FlowCanvas
