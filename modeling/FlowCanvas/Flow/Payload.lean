import FlowCanvas.Flow.DecisionTable
import FlowCanvas.Json.Value

/-!
# Kinds of nodes

The kinds of nodes that a workflow is drawn with, and the data that a node of each kind carries.
-/

set_option autoImplicit false

namespace FlowCanvas

open FlowCanvas.Json (Value)

/-- The kinds of nodes. -/
inductive NodeKind where
  | start
  | finish
  | python
  | project
  | task
  | agent
  | tool
  | llm
  | conditionalEdge
  | decisionTable
  | note
  | fileExtractor
  | webScraper
  | codeAgent
  | webhookTrigger
  | telegramTrigger
  | subgraph
  deriving DecidableEq, Inhabited

namespace NodeKind

/-- All kinds, in the order in which they are offered. -/
def all : List NodeKind :=
  [start, finish, python, project, task, agent, tool, llm, conditionalEdge, decisionTable, note,
    fileExtractor, webScraper, codeAgent, webhookTrigger, telegramTrigger, subgraph]

/-- The name of a kind in documents. -/
def name : NodeKind → String
  | start => "start"
  | finish => "end"
  | python => "python"
  | project => "project"
  | task => "task"
  | agent => "agent"
  | tool => "tool"
  | llm => "llm"
  | conditionalEdge => "conditional-edge"
  | decisionTable => "decision-table"
  | note => "note"
  | fileExtractor => "file-extractor"
  | webScraper => "web-scraper"
  | codeAgent => "code-agent"
  | webhookTrigger => "webhook-trigger"
  | telegramTrigger => "telegram-trigger"
  | subgraph => "subgraph"

/-- The title shown for a node of this kind that has no name. -/
def title : NodeKind → String
  | start => "Start"
  | finish => "End"
  | python => "Python Code"
  | project => "Project"
  | task => "Task"
  | agent => "Agent"
  | tool => "Tool"
  | llm => "LLM"
  | conditionalEdge => "Conditional Edge"
  | decisionTable => "Decision Table"
  | note => "Note"
  | fileExtractor => "File Extractor"
  | webScraper => "Web Scraper"
  | codeAgent => "Code Agent"
  | webhookTrigger => "Webhook Trigger"
  | telegramTrigger => "Telegram Trigger"
  | subgraph => "Subgraph"

/-- The kind with a given name. -/
def ofName? (s : String) : Option NodeKind := all.find? (·.name == s)

end NodeKind

/-- A piece of Python code with what is needed to run it. -/
structure PythonCode where
  name : String := ""
  code : String := ""
  /-- The function that is called. -/
  entrypoint : String := ""
  libraries : List String := []
  deriving DecidableEq, Inhabited

namespace Payload

/-- A project to run. The id 0 stands for none. -/
structure Project where
  id : UInt64 := 0
  name : String := ""
  deriving DecidableEq, Inhabited

/-- A task for an agent. -/
structure Task where
  name : String := ""
  instructions : String := ""
  expectedOutput : String := ""
  deriving DecidableEq, Inhabited

/-- An agent. -/
structure Agent where
  role : String := ""
  goal : String := ""
  backstory : String := ""
  llmConfig : Option UInt64 := none
  deriving DecidableEq, Inhabited

/-- A tool with its settings. -/
structure Tool where
  id : UInt64 := 0
  name : String := ""
  config : Value := Value.empty
  deriving BEq, Inhabited

/-- A call of a language model. -/
structure Llm where
  config : UInt64 := 0
  prompt : String := ""
  deriving DecidableEq, Inhabited

/-- A predicate that decides how the flow goes on. -/
structure ConditionalEdge where
  source : String := ""
  next : Option String := none
  code : PythonCode := {}
  deriving DecidableEq, Inhabited

/-- A note on the canvas. -/
structure Note where
  content : String := ""
  background : Option String := none
  deriving DecidableEq, Inhabited

/-- Reading files. -/
structure FileExtractor where
  paths : List String := []
  format : String := "text"
  deriving DecidableEq, Inhabited

/-- Reading web pages. -/
structure WebScraper where
  url : String := ""
  selector : Option String := none
  maxPages : UInt32 := 1
  deriving DecidableEq, Inhabited

/-- An agent that writes and runs code. -/
structure CodeAgent where
  llmConfig : Option UInt64 := none
  systemPrompt : String := ""
  maxSteps : UInt32 := 10
  deriving DecidableEq, Inhabited

/-- A start of the flow by a web request. -/
structure WebhookTrigger where
  path : String := ""
  code : PythonCode := {}
  deriving DecidableEq, Inhabited

/-- A start of the flow by a message. -/
structure TelegramTrigger where
  botToken : String := ""
  chats : List Int64 := []
  deriving DecidableEq, Inhabited

end Payload

/-- The data of a node. -/
inductive Payload where
  /-- The state in which the flow starts. It is meant to be an object. -/
  | start (initialState : Value)
  /-- The outputs of the flow, with what is put out for each. -/
  | finish (outputs : TextMap)
  | python (code : PythonCode)
  | project (data : Payload.Project)
  | task (data : Payload.Task)
  | agent (data : Payload.Agent)
  | tool (data : Payload.Tool)
  | llm (data : Payload.Llm)
  | conditionalEdge (data : Payload.ConditionalEdge)
  | decisionTable (table : DecisionTable)
  | note (data : Payload.Note)
  | fileExtractor (data : Payload.FileExtractor)
  | webScraper (data : Payload.WebScraper)
  | codeAgent (data : Payload.CodeAgent)
  | webhookTrigger (data : Payload.WebhookTrigger)
  | telegramTrigger (data : Payload.TelegramTrigger)
  /-- The flow that runs inside. The id 0 stands for none. -/
  | subgraph (id : UInt64)
  deriving BEq

namespace Payload

/-- The kind of nodes that carry this data. -/
def kind : Payload → NodeKind
  | start _ => .start
  | finish _ => .finish
  | python _ => .python
  | project _ => .project
  | task _ => .task
  | agent _ => .agent
  | tool _ => .tool
  | llm _ => .llm
  | conditionalEdge _ => .conditionalEdge
  | decisionTable _ => .decisionTable
  | note _ => .note
  | fileExtractor _ => .fileExtractor
  | webScraper _ => .webScraper
  | codeAgent _ => .codeAgent
  | webhookTrigger _ => .webhookTrigger
  | telegramTrigger _ => .telegramTrigger
  | subgraph _ => .subgraph

/-- The data of a new node. -/
def initial : NodeKind → Payload
  | .start => start Value.empty
  | .finish => finish TextMap.empty
  | .python => python {}
  | .project => project {}
  | .task => task {}
  | .agent => agent {}
  | .tool => tool {}
  | .llm => llm {}
  | .conditionalEdge => conditionalEdge {}
  | .decisionTable => decisionTable {}
  | .note => note {}
  | .fileExtractor => fileExtractor {}
  | .webScraper => webScraper {}
  | .codeAgent => codeAgent {}
  | .webhookTrigger => webhookTrigger {}
  | .telegramTrigger => telegramTrigger {}
  | .subgraph => subgraph 0

instance : Inhabited Payload := ⟨initial .start⟩

/-- The decision table, if there is one. -/
def table? : Payload → Option DecisionTable
  | decisionTable t => some t
  | _ => none

/-- The data that a new node of a kind starts with are of that kind. -/
@[simp] theorem kind_initial (k : NodeKind) : (initial k).kind = k := by
  cases k <;> rfl

end Payload

end FlowCanvas
