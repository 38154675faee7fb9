import FlowCanvas.Flow.Payload

/-!
# Port rules

The ports that the nodes of each kind have, and which roles they accept. A connection is possible
only where each of two ports accepts the other.

Two ports carry the flow from node to node; the others tie tasks, agents and tools together.
-/

set_option autoImplicit false

namespace FlowCanvas

namespace PortSpec

/-- The roles at which the flow enters a node. -/
def flowTargets : List Role :=
  [⟨"python-in"⟩, ⟨"project-in"⟩, ⟨"llm-in"⟩, ⟨"conditional-edge-in"⟩, ⟨"table-in"⟩,
    ⟨"file-extractor-in"⟩, ⟨"web-scraper-in"⟩, ⟨"code-agent-in"⟩, ⟨"subgraph-in"⟩, ⟨"end-in"⟩]

/-- The roles at which the flow leaves a node. -/
def flowSources : List Role :=
  [⟨"start-start"⟩, ⟨"python-out"⟩, ⟨"project-out"⟩, ⟨"llm-out"⟩, ⟨"conditional-edge-out"⟩,
    ⟨"decision-out"⟩, ⟨"decision-default"⟩, ⟨"decision-error"⟩, ⟨"file-extractor-out"⟩,
    ⟨"web-scraper-out"⟩, ⟨"code-agent-out"⟩, ⟨"subgraph-out"⟩, ⟨"webhook-trigger-out"⟩,
    ⟨"telegram-trigger-out"⟩]

/-- A port at which the flow enters a node. -/
def flowIn (role color : String) : PortSpec := ⟨⟨role⟩, .input, true, flowSources, .left, color⟩

/-- A port at which the flow leaves a node, on any number of ways. -/
def flowOut (role color : String) : PortSpec := ⟨⟨role⟩, .output, true, flowTargets, .right, color⟩

/-- A port at which the flow leaves a node on one way. -/
def branch (role color : String) : PortSpec := ⟨⟨role⟩, .output, false, flowTargets, .right, color⟩

/-- A port at the bottom of a node that takes what the node uses. -/
def uses (role color : String) (what : Role) : PortSpec :=
  ⟨⟨role⟩, .input, true, [what], .bottom, color⟩

/-- The port that stands for the outputs of all groups of decision tables. -/
def decisionOut : PortSpec := branch "decision-out" "#00bfa5"

end PortSpec

namespace NodeKind

open PortSpec

/-- The ports that a node of each kind has. A decision table has further ones, for its groups. -/
def ports : NodeKind → List PortSpec
  | start => [flowOut "start-start" "#d3869b"]
  | finish => [flowIn "end-in" "#d3869b"]
  | python => [flowIn "python-in" "#ffcf3f", flowOut "python-out" "#ffcf3f"]
  | project =>
    [flowIn "project-in" "#5672cd", flowOut "project-out" "#5672cd",
      uses "project-tasks" "#5672cd" ⟨"task-project"⟩]
  | task =>
    [⟨⟨"task-project"⟩, .output, false, [⟨"project-tasks"⟩], .top, "#00aaff"⟩,
      ⟨⟨"task-agent"⟩, .input, false, [⟨"agent-task"⟩], .left, "#00aaff"⟩,
      uses "task-tools" "#00aaff" ⟨"tool-out"⟩]
  | agent =>
    [⟨⟨"agent-task"⟩, .output, true, [⟨"task-agent"⟩], .right, "#9e5fff"⟩,
      uses "agent-tools" "#9e5fff" ⟨"tool-out"⟩]
  | tool =>
    [⟨⟨"tool-out"⟩, .output, true, [⟨"agent-tools"⟩, ⟨"task-tools"⟩, ⟨"code-agent-tools"⟩], .top,
      "#00d68f"⟩]
  | llm => [flowIn "llm-in" "#ff7d4f", flowOut "llm-out" "#ff7d4f"]
  | conditionalEdge =>
    [flowIn "conditional-edge-in" "#8e44ad", flowOut "conditional-edge-out" "#8e44ad"]
  | decisionTable =>
    [flowIn "table-in" "#00bfa5", branch "decision-default" "#00bfa5",
      branch "decision-error" "#e53935"]
  | note => []
  | fileExtractor =>
    [flowIn "file-extractor-in" "#2e7d32", flowOut "file-extractor-out" "#2e7d32"]
  | webScraper => [flowIn "web-scraper-in" "#1e88e5", flowOut "web-scraper-out" "#1e88e5"]
  | codeAgent =>
    [flowIn "code-agent-in" "#c2185b", flowOut "code-agent-out" "#c2185b",
      uses "code-agent-tools" "#c2185b" ⟨"tool-out"⟩]
  | webhookTrigger => [flowOut "webhook-trigger-out" "#ff9800"]
  | telegramTrigger => [flowOut "telegram-trigger-out" "#29b6f6"]
  | subgraph => [flowIn "subgraph-in" "#607d8b", flowOut "subgraph-out" "#607d8b"]

end NodeKind

namespace PortSpec

/-- The port with a given role, of whatever kind of nodes. -/
def ofRole? (role : Role) : Option PortSpec :=
  if role.family = Role.decisionOut then some decisionOut
  else (NodeKind.all.flatMap NodeKind.ports).find? (·.role == role)

end PortSpec

/-- The ports of a node with a decision table: the input, the outputs of the valid groups in their
order, the default and the error output. Flags are taken afresh. -/
def DecisionTable.ports (t : DecisionTable) (node : ItemId) : List Port :=
  let groupPorts := t.revalidate.validGroups.map fun g =>
    { PortSpec.decisionOut with role := g.role }
  let fixed := [Role.decisionDefault, Role.decisionError].filterMap PortSpec.ofRole?
  ((NodeKind.decisionTable.ports.filter (·.role == Role.tableIn)) ++ groupPorts ++ fixed).map
    (·.on node)

/-- The ports that a node with this data has. -/
def Payload.ports (data : Payload) (node : ItemId) : List Port :=
  match data with
  | .decisionTable t => t.ports node
  | data => data.kind.ports.map (·.on node)

/-- Whether the rules alone let two ports, given by the texts of their ids, be joined. The nodes
need not exist. -/
def canEverJoin (source target : String) : Bool :=
  match PortId.parse source, PortId.parse target with
  | .ok a, .ok b =>
    match PortSpec.ofRole? a.role, PortSpec.ofRole? b.role with
    | some s, some t =>
      a.node != b.node && s.direction.pairsWith t.direction && s.allows b.role && t.allows a.role
    | _, _ => false
  | _, _ => false

end FlowCanvas
