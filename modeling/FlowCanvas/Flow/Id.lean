import FlowCanvas.Text.Cut

/-!
# Identifiers

The keys of a drawing. Nodes and groups share one space of ids. A port is the port of a node that
plays a role, and a connection is known by its two ports.

Documents write the two composite keys as flat text, `node_role` and `source+target`. A reader
that knows nothing else cuts such a text at its first separator, so that an id with a separator in
the wrong place comes apart differently; a reader that knows the node (`PortId.parseFor`) does
better. On reading, a role ends before its first colon.
-/

set_option autoImplicit false

namespace FlowCanvas

/-- The id of a node or of a group. -/
structure ItemId where
  text : String
  deriving DecidableEq, Inhabited

/-- The role that a port plays on its node. It decides which ports may be joined. -/
structure Role where
  text : String
  deriving DecidableEq, Inhabited

/-- The key of a port. -/
structure PortId where
  node : ItemId
  role : Role
  deriving DecidableEq, Inhabited

/-- The key of a connection. -/
structure ConnectionId where
  source : PortId
  target : PortId
  deriving DecidableEq, Inhabited

/-- Why a text is no identifier. -/
inductive IdError where
  /-- The text has no node, no role, or nothing between them. -/
  | malformedPort (raw : String)
  /-- The text is no port of the node. -/
  | portOfOtherNode (raw : String) (node : ItemId)
  /-- The text does not name two ports. -/
  | malformedConnection (raw : String)
  deriving DecidableEq

/-- The text shown for an error. -/
def IdError.message : IdError → String
  | .malformedPort raw => "Malformed port id '" ++ raw ++ "': expected '<nodeId>_<role>'"
  | .portOfOtherNode raw node =>
    "Port id '" ++ raw ++ "' does not belong to node '" ++ node.text ++ "'"
  | .malformedConnection raw =>
    "Malformed connection id '" ++ raw ++ "': expected '<sourcePortId>+<targetPortId>'"

namespace Role

/-- The role of the input that a collapsed group shows in place of its members. -/
def groupInput : Role := ⟨"group-input"⟩

/-- The role of the output that a collapsed group shows in place of its members. -/
def groupOutput : Role := ⟨"group-output"⟩

/-- Whether the role is one that only collapsed groups have. -/
def isOfGroup (r : Role) : Bool := r == groupInput || r == groupOutput

end Role

namespace PortId

/-- The flat text of a port id. -/
def text (p : PortId) : String := p.node.text ++ "_" ++ p.role.text

/-- The part of a text before its first colon. -/
def upToColon (cs : List Char) : List Char := cs.takeWhile (· != ':')

/-- Reads a port id: the node is what stands before the first underscore. -/
def parse (raw : String) : Except IdError PortId :=
  match Text.cutAt? '_' raw.toList with
  | none => .error (.malformedPort raw)
  | some (node, rest) =>
    let role := upToColon rest
    if node.isEmpty || role.isEmpty then .error (.malformedPort raw)
    else .ok ⟨⟨String.ofList node⟩, ⟨String.ofList role⟩⟩

/-- Reads the id of a port whose node is known, which may then have underscores itself. -/
def parseFor (node : ItemId) (raw : String) : Except IdError PortId :=
  match Text.stripFront? (node.text.toList ++ ['_']) raw.toList with
  | none => .error (.portOfOtherNode raw node)
  | some rest =>
    let role := upToColon rest
    if role.isEmpty then .error (.portOfOtherNode raw node)
    else .ok ⟨node, ⟨String.ofList role⟩⟩

/-- Ports are ordered by node and then by role. -/
def before (a b : PortId) : Bool :=
  decide (a.node.text < b.node.text) || (a.node == b.node && decide (a.role.text < b.role.text))

end PortId

namespace ConnectionId

/-- The flat text of a connection id. -/
def text (c : ConnectionId) : String := c.source.text ++ "+" ++ c.target.text

/-- Reads a connection id: the source is what stands before the first plus sign. -/
def parse (raw : String) : Except IdError ConnectionId :=
  match Text.cutAt? '+' raw.toList with
  | none => .error (.malformedConnection raw)
  | some (source, target) => do
    let source ← PortId.parse (String.ofList source)
    let target ← PortId.parse (String.ofList target)
    return ⟨source, target⟩

/-- Whether one end is the port of a collapsed group. Such a connection is only shown, never
stored. -/
def isVirtual (c : ConnectionId) : Bool := c.source.role.isOfGroup || c.target.role.isOfGroup

/-- Connections are ordered by source and then by target. -/
def before (a b : ConnectionId) : Bool :=
  a.source.before b.source || (a.source == b.source && a.target.before b.target)

end ConnectionId

/-- Item ids are ordered as texts. -/
def ItemId.before (a b : ItemId) : Bool := decide (a.text < b.text)

end FlowCanvas
