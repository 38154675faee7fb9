import FlowCanvas.Flow.Payload
import FlowCanvas.Wire.Decode
import FlowCanvas.Wire.Encode

/-!
# Documents of node data

How the data of a node is read from a document and written to one: `type` names the kind of the
node, and `data` holds a record of that kind. Every field of such a record has a default.
-/

set_option autoImplicit false

namespace FlowCanvas.Wire

open FlowCanvas.Json

/-! ## Reading -/

/-- Reads a piece of code. -/
def pythonCode? (d : Document) : Option PythonCode := do
  let [name, code, entrypoint, libraries] ←
      record? ["name", "code", "entrypoint", "libraries"] d | none
  return {
    name := ← withDefault? text? "" name
    code := ← withDefault? text? "" code
    entrypoint := ← withDefault? text? "" entrypoint
    libraries := ← withDefault? (list? text?) [] libraries }

/-- Reads a condition of a group. -/
def condition? (d : Document) : Option Condition := do
  let [name, condition] ← record? ["condition_name", "condition"] d | none
  return {
    name := ← withDefault? text? "" name
    condition := ← withDefault? text? "" condition }

/-- Reads a group of a decision table. -/
def conditionGroup? (reading : Reading) (d : Document) : Option ConditionGroup := do
  let [name, kind, expression, conditions, manipulation, next, valid, order] ←
      record? ["group_name", "group_type", "expression", "conditions", "manipulation", "next_node",
        "valid", "order"] d | none
  return {
    name := ← withDefault? text? "" name
    kind := ← withDefault? (name? reading GroupKind.ofName?) .simple kind
    expression := ← withDefault? text? "" expression
    conditions := ← withDefault? (list? condition?) [] conditions
    manipulation := ← optional? text? manipulation
    next := ← optional? text? next
    valid := ← withDefault? bool? false valid
    order := ← withDefault? uint32? 0 order }

/-- Reads a decision table. -/
def decisionTable? (reading : Reading) (d : Document) : Option DecisionTable := do
  let [name, groups, defaultNext, errorNext] ←
      record? ["name", "condition_groups", "default_next_node", "next_error_node"] d | none
  return {
    name := ← withDefault? text? "" name
    groups := ← withDefault? (list? (conditionGroup? reading)) [] groups
    defaultNext := ← optional? text? defaultNext
    errorNext := ← optional? text? errorNext }

/-- Reads the data of a node of a given kind. -/
def payloadData? (reading : Reading) (d : Document) : NodeKind → Option Payload
  | .start => do
    let [state] ← record? ["initial_state"] d | none
    return .start (← withDefault? Value.ofDocument? Value.empty state)
  | .finish => do
    let [outputs] ← record? ["output_map"] d | none
    return .finish (← withDefault? textMap? TextMap.empty outputs)
  | .python => (pythonCode? d).map .python
  | .project => do
    let [id, name] ← record? ["project_id", "name"] d | none
    return .project {
      id := ← withDefault? uint64? 0 id
      name := ← withDefault? text? "" name }
  | .task => do
    let [name, instructions, output] ← record? ["name", "instructions", "expected_output"] d | none
    return .task {
      name := ← withDefault? text? "" name
      instructions := ← withDefault? text? "" instructions
      expectedOutput := ← withDefault? text? "" output }
  | .agent => do
    let [role, goal, backstory, llm] ← record? ["role", "goal", "backstory", "llm_config_id"] d
      | none
    return .agent {
      role := ← withDefault? text? "" role
      goal := ← withDefault? text? "" goal
      backstory := ← withDefault? text? "" backstory
      llmConfig := ← optional? uint64? llm }
  | .tool => do
    let [id, name, config] ← record? ["tool_id", "name", "config"] d | none
    return .tool {
      id := ← withDefault? uint64? 0 id
      name := ← withDefault? text? "" name
      config := ← withDefault? Value.ofDocument? Value.empty config }
  | .llm => do
    let [config, prompt] ← record? ["llm_config_id", "prompt"] d | none
    return .llm {
      config := ← withDefault? uint64? 0 config
      prompt := ← withDefault? text? "" prompt }
  | .conditionalEdge => do
    let [source, next, code] ← record? ["source", "then", "python_code"] d | none
    return .conditionalEdge {
      source := ← withDefault? text? "" source
      next := ← optional? text? next
      code := ← withDefault? pythonCode? {} code }
  | .decisionTable => (decisionTable? reading d).map .decisionTable
  | .note => do
    let [content, background] ← record? ["content", "background"] d | none
    return .note {
      content := ← withDefault? text? "" content
      background := ← optional? text? background }
  | .fileExtractor => do
    let [paths, format] ← record? ["file_paths", "output_format"] d | none
    return .fileExtractor {
      paths := ← withDefault? (list? text?) [] paths
      format := ← withDefault? text? "text" format }
  | .webScraper => do
    let [url, selector, maxPages] ← record? ["url", "selector", "max_pages"] d | none
    return .webScraper {
      url := ← withDefault? text? "" url
      selector := ← optional? text? selector
      maxPages := ← withDefault? uint32? 1 maxPages }
  | .codeAgent => do
    let [llm, systemPrompt, maxSteps] ← record? ["llm_config_id", "system_prompt", "max_steps"] d
      | none
    return .codeAgent {
      llmConfig := ← optional? uint64? llm
      systemPrompt := ← withDefault? text? "" systemPrompt
      maxSteps := ← withDefault? uint32? 10 maxSteps }
  | .webhookTrigger => do
    let [path, code] ← record? ["path", "python_code"] d | none
    return .webhookTrigger {
      path := ← withDefault? text? "" path
      code := ← withDefault? pythonCode? {} code }
  | .telegramTrigger => do
    let [botToken, chats] ← record? ["bot_token_ref", "allowed_chat_ids"] d | none
    return .telegramTrigger {
      botToken := ← withDefault? text? "" botToken
      chats := ← withDefault? (list? int64?) [] chats }
  | .subgraph => do
    let [id] ← record? ["graph_id"] d | none
    return .subgraph (← withDefault? uint64? 0 id)

/-- Whether a field comes before another one in an object. -/
def comesFirst (first second : String) (fields : List (String × Document)) : Bool :=
  ((fields.find? (fun field => field.1 == first || field.1 == second)).map (·.1)) == some first

/-- Reads the data of a node that stands on its own. Where the data comes before the kind, it has
to be set aside until the kind is known. In an array the kind comes first, and it is a string. -/
def payload? : Document → Option Payload
  | .array [type, data] => do
    let kind ← (text? type).bind NodeKind.ofName?
    payloadData? .direct data kind
  | .object fields => do
    let kind ← required? (name? .direct NodeKind.ofName?) (← fieldNamed? fields "type")
    let data ← (← fieldNamed? fields "data")
    if comesFirst "data" "type" fields then
      if hasValue data then payloadData? .setAside data kind else none
    else payloadData? .direct data kind
  | _ => none

/-! ## Writing -/

/-- The document of a piece of code. -/
def ofPythonCode (c : PythonCode) : Document :=
  .object [("name", .string c.name), ("code", .string c.code),
    ("entrypoint", .string c.entrypoint), ("libraries", ofList .string c.libraries)]

/-- The document of a condition of a group. -/
def ofCondition (c : Condition) : Document :=
  .object [("condition_name", .string c.name), ("condition", .string c.condition)]

/-- The document of a group of a decision table. -/
def ofConditionGroup (g : ConditionGroup) : Document :=
  .object [("group_name", .string g.name), ("group_type", .string g.kind.name),
    ("expression", .string g.expression), ("conditions", ofList ofCondition g.conditions),
    ("manipulation", ofOption .string g.manipulation), ("next_node", ofOption .string g.next),
    ("valid", .bool g.valid), ("order", ofNat g.order.toNat)]

/-- The document of a decision table. -/
def ofDecisionTable (t : DecisionTable) : Document :=
  .object [("name", .string t.name), ("condition_groups", ofList ofConditionGroup t.groups),
    ("default_next_node", ofOption .string t.defaultNext),
    ("next_error_node", ofOption .string t.errorNext)]

/-- The document of an optional id. -/
def ofOptionalId (id : Option UInt64) : Document := ofOption (fun i => ofNat i.toNat) id

/-- The document of the data of a node, without its kind. -/
def ofPayloadData : Payload → Document
  | .start state => .object [("initial_state", state.toDocument)]
  | .finish outputs => .object [("output_map", ofTextMap outputs)]
  | .python code => ofPythonCode code
  | .project p => .object [("project_id", ofNat p.id.toNat), ("name", .string p.name)]
  | .task t =>
    .object [("name", .string t.name), ("instructions", .string t.instructions),
      ("expected_output", .string t.expectedOutput)]
  | .agent a =>
    .object [("role", .string a.role), ("goal", .string a.goal),
      ("backstory", .string a.backstory), ("llm_config_id", ofOptionalId a.llmConfig)]
  | .tool t =>
    .object [("tool_id", ofNat t.id.toNat), ("name", .string t.name),
      ("config", t.config.toDocument)]
  | .llm l => .object [("llm_config_id", ofNat l.config.toNat), ("prompt", .string l.prompt)]
  | .conditionalEdge e =>
    .object [("source", .string e.source), ("then", ofOption .string e.next),
      ("python_code", ofPythonCode e.code)]
  | .decisionTable t => ofDecisionTable t
  | .note n =>
    .object [("content", .string n.content), ("background", ofOption .string n.background)]
  | .fileExtractor f =>
    .object [("file_paths", ofList .string f.paths), ("output_format", .string f.format)]
  | .webScraper w =>
    .object [("url", .string w.url), ("selector", ofOption .string w.selector),
      ("max_pages", ofNat w.maxPages.toNat)]
  | .codeAgent a =>
    .object [("llm_config_id", ofOptionalId a.llmConfig), ("system_prompt", .string a.systemPrompt),
      ("max_steps", ofNat a.maxSteps.toNat)]
  | .webhookTrigger w => .object [("path", .string w.path), ("python_code", ofPythonCode w.code)]
  | .telegramTrigger t =>
    .object [("bot_token_ref", .string t.botToken),
      ("allowed_chat_ids", ofList (fun c => ofInt c.toInt) t.chats)]
  | .subgraph id => .object [("graph_id", ofNat id.toNat)]

/-- The two fields that hold the data of a node. -/
def payloadFields (data : Payload) : List (String × Document) :=
  [("type", .string data.kind.name), ("data", ofPayloadData data)]

end FlowCanvas.Wire
