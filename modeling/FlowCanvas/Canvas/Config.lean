import FlowCanvas.Flow.Basic
import FlowCanvas.Wire.Flow

/-!
# Configuration

The settings of an editing session. Every setting has a default.
-/

set_option autoImplicit false

namespace FlowCanvas

open FlowCanvas.Json FlowCanvas.Wire

/-- The settings of an editing session. -/
structure Config where
  /-- How many states can be undone at most. -/
  maxHistory : UInt64 := 50
  nodeSize : Point := Node.defaultSize
  groupSize : Point := Group.defaultSize
  /-- Whether the open panel is saved when it is closed by the escape key. -/
  saveOnEscape : Bool := true
  deriving BEq, Inhabited

namespace Config

/-- Reads a configuration. -/
def ofDocument? (d : Document) : Option Config := do
  let [maxHistory, nodeSize, groupSize, saveOnEscape] ←
      record? ["max_history", "default_node_size", "default_group_size", "autosave_on_escape"] d
    | none
  return {
    maxHistory := ← withDefault? uint64? 50 maxHistory
    nodeSize := ← withDefault? point? Node.defaultSize nodeSize
    groupSize := ← withDefault? point? Group.defaultSize groupSize
    saveOnEscape := ← withDefault? bool? true saveOnEscape }

/-- The document of a configuration. -/
def toDocument (c : Config) : Document :=
  .object [("max_history", ofNat c.maxHistory.toNat), ("default_node_size", ofPoint c.nodeSize),
    ("default_group_size", ofPoint c.groupSize), ("autosave_on_escape", .bool c.saveOnEscape)]

/-- Reads a configuration from a JSON text. -/
def parse? (text : String) : Option Config := (Document.parse? text).bind ofDocument?

/-- The text of a configuration. -/
def print (layout : PageLayout) (c : Config) : String := c.toDocument.print layout

end Config

end FlowCanvas
