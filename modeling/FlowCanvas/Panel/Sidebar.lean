import FlowCanvas.Canvas.History
import FlowCanvas.Panel.Basic

/-!
# The sidebar

The sidebar shows the panel of the selected node and decides when it is saved: when another node is
selected, when the panel is closed by the escape key, and from time to time. A save that changes
nothing is none; after one that does, the panel is filled afresh, because the canvas may store the
node in another form.
-/

set_option autoImplicit false

namespace FlowCanvas

/-- The sidebar. A node may be selected without a panel, but there is no panel without a node. -/
structure Sidebar where
  /-- Whether the escape key saves the panel. -/
  saveOnEscape : Bool := true
  /-- The selected node with its panel, if anything is selected. -/
  selection : Option (ItemId × Option Panel) := none

namespace Sidebar

/-- The sidebar for a configuration, with nothing selected. -/
def ofConfig (c : Config) : Sidebar := { saveOnEscape := c.saveOnEscape }

/-- The selected node. -/
def selected? (s : Sidebar) : Option ItemId := s.selection.map (·.1)

/-- The open panel. -/
def panel? (s : Sidebar) : Option Panel := s.selection.bind (·.2)

/-- Selects nothing. -/
def close (s : Sidebar) : Sidebar := { s with selection := none }

/-- The sidebar with the open panel, if there is one, edited. -/
def editPanel (s : Sidebar) (edit : Panel → Panel) : Sidebar :=
  { s with selection := s.selection.map fun (id, panel) => (id, panel.map edit) }

/-- Selects a node and opens its panel; nothing is selected if it is not there. -/
def openNode (s : Sidebar) (c : Canvas) (id : Option ItemId) : Sidebar :=
  { s with
    selection := (id.bind c.graph.node?).map fun n => (n.id, Panel.ofNode? n.kind n) }

/-- Saves the open panel, and reports whether the node has changed. -/
def save (s : Sidebar) (c : Canvas) : Sidebar × Canvas × Bool :=
  match s.selection with
  | some (id, some panel) =>
    match c.graph.node? id with
    | none => (s, c, false)
    | some node =>
      let updated := panel.save node
      if updated == node then (s, c, false)
      else
        let (c, applied) := c.updateNode updated false
        let panel := match c.graph.node? id with
          | some node => if applied then panel.load node else panel
          | none => panel
        ({ s with selection := some (id, some panel) }, c, applied)
  | _ => (s, c, false)

/-- Saves the open panel and selects another node, or nothing. Selecting the same node again does
nothing. -/
def select (s : Sidebar) (c : Canvas) (id : Option ItemId) : Sidebar × Canvas :=
  if s.selected? = id then (s, c)
  else
    let (s, c, _) := s.save c
    (s.openNode c id, c)

/-- Closes the panel, after saving it if that is set, and reports whether the node has changed. -/
def escape (s : Sidebar) (c : Canvas) : Sidebar × Canvas × Bool :=
  if s.saveOnEscape then
    let (s, c, saved) := s.save c
    (s.close, c, saved)
  else (s.close, c, false)

end Sidebar

end FlowCanvas
