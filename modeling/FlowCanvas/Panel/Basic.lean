import FlowCanvas.Canvas.Basic
import FlowCanvas.Form.Basic
import FlowCanvas.Form.Rows
import FlowCanvas.Panel.TableEditor

/-!
# Panels

A panel edits the configuration of one node. Every panel has a form that starts with the name of
the node and the path of its output, and rows for its inputs. Most kinds of nodes have nothing but
further fields in the form; the exceptions are start nodes, whose state may be unreadable, end
nodes, which have rows for their outputs, and decision tables, which are edited as a working copy.

`Panel.load` fills a panel from a node, `Panel.apply` maps it back onto a node, and `Panel.save`
does so unless the form has complaints.
-/

set_option autoImplicit false

namespace FlowCanvas

open FlowCanvas.Json (Value)
open FlowCanvas.Form (Field FieldKind)

namespace Panel

/-- The kinds of nodes whose panel is a form. -/
inductive FormKind where
  | python
  | project
  | conditionalEdge
  | fileExtractor
  | webScraper
  | codeAgent
  | webhookTrigger
  | subgraph
  deriving DecidableEq

/-- The kind of nodes that a form is for. -/
def FormKind.node : FormKind → NodeKind
  | python => .python
  | project => .project
  | conditionalEdge => .conditionalEdge
  | fileExtractor => .fileExtractor
  | webScraper => .webScraper
  | codeAgent => .codeAgent
  | webhookTrigger => .webhookTrigger
  | subgraph => .subgraph

/-- What a panel has besides the form and the rows for the inputs. -/
inductive Content where
  /-- The panel of a start node, and whether it shows an empty state for one that cannot be
  read. -/
  | start (unreadable : Bool)
  /-- The panel of an end node, with rows for the outputs. -/
  | finish (outputs : Rows)
  | decisionTable (editor : TableEditor)
  | form (kind : FormKind)
  deriving DecidableEq

/-- The kind of nodes that a panel is for. -/
def Content.node : Content → NodeKind
  | start _ => .start
  | finish _ => .finish
  | decisionTable _ => .decisionTable
  | form kind => kind.node

/-- The empty panel for a kind of nodes, if these nodes are configured in a panel. -/
def Content.ofNode? : NodeKind → Option Content
  | .start => some (.start false)
  | .finish => some (.finish Rows.initial)
  | .python => some (.form .python)
  | .project => some (.form .project)
  | .conditionalEdge => some (.form .conditionalEdge)
  | .decisionTable => some (.decisionTable (.ofTable {}))
  | .fileExtractor => some (.form .fileExtractor)
  | .webScraper => some (.form .webScraper)
  | .codeAgent => some (.form .codeAgent)
  | .webhookTrigger => some (.form .webhookTrigger)
  | .subgraph => some (.form .subgraph)
  | .task | .agent | .tool | .llm | .note | .telegramTrigger => none

/-! ## The fields of each panel -/

/-- The fields that every panel starts with. -/
def sharedFields : List Field :=
  [(Field.text "node_name").required, Field.text "output_variable_path"]

/-- The fields for a piece of code. -/
def codeFields : List Field :=
  [(Field.python "code").required,
    (Field.text "entrypoint").required.withInitial (.string "main"),
    Field.text "libraries"]

/-- A field for a number greater than zero. -/
def positiveField (id : String) : Field := (Field.number id).validated .positive

/-- A field for a number greater than zero, which must be filled in. -/
def countField (id : String) : Field := (Field.number id).required.validated .positive

/-- The fields of a form. -/
def FormKind.fields : FormKind → List Field
  | python => codeFields
  | project => [countField "project_id", Field.text "name"]
  | conditionalEdge => [Field.text "source", Field.text "then"] ++ codeFields
  | fileExtractor =>
    [(Field.text "file_paths").required,
      (Field.new "output_format" (.select ["text", "markdown", "json"])).required.withInitial
        (.string ({} : Payload.FileExtractor).format)]
  | webScraper =>
    [(Field.text "url").required, Field.text "selector",
      (countField "max_pages").withInitial
        (Value.ofInt ({} : Payload.WebScraper).maxPages.toNat)]
  | codeAgent =>
    [Field.text "system_prompt",
      (countField "max_steps").withInitial (Value.ofInt ({} : Payload.CodeAgent).maxSteps.toNat),
      positiveField "llm_config_id"]
  | webhookTrigger => (Field.text "path").required :: codeFields
  | subgraph => [countField "graph_id"]

/-- The fields of a panel, apart from the shared ones. -/
def Content.fields : Content → List Field
  | start _ => [(Field.new "initial_state" .json).validated .jsonObject]
  | finish _ => []
  | decisionTable _ => [Field.text "table_name"]
  | form kind => kind.fields

/-! ## From nodes to forms -/

/-- The values that fill the fields for a piece of code. An empty entry point leaves the one that
the form suggests. -/
def codeValues (code : PythonCode) : List (String × Value) :=
  [("code", .string code.code)] ++
    (if code.entrypoint.isEmpty then [] else [("entrypoint", .string code.entrypoint)]) ++
    [("libraries", .string (", ".intercalate code.libraries))]

/-- The value of an id; 0 stands for none and fills nothing in. -/
def idValue (field : String) (id : UInt64) : List (String × Value) :=
  if id = 0 then [] else [(field, Value.ofInt id.toNat)]

/-- The values that fill a form from the data of a node; none if the form is not for it. -/
def FormKind.values : FormKind → Payload → List (String × Value)
  | python, .python code => codeValues code
  | project, .project p => idValue "project_id" p.id ++ [("name", .string p.name)]
  | conditionalEdge, .conditionalEdge e =>
    [("source", .string e.source), ("then", .string (e.next.getD ""))] ++ codeValues e.code
  | fileExtractor, .fileExtractor f =>
    [("file_paths", .string ("\n".intercalate f.paths)), ("output_format", .string f.format)]
  | webScraper, .webScraper w =>
    [("url", .string w.url), ("selector", .string (w.selector.getD "")),
      ("max_pages", Value.ofInt w.maxPages.toNat)]
  | codeAgent, .codeAgent a =>
    [("system_prompt", .string a.systemPrompt), ("max_steps", Value.ofInt a.maxSteps.toNat),
      ("llm_config_id", (a.llmConfig.map fun i => Value.ofInt i.toNat).getD .null)]
  | webhookTrigger, .webhookTrigger w => ("path", .string w.path) :: codeValues w.code
  | subgraph, .subgraph id => idValue "graph_id" id
  | _, _ => []

/-- The object that a start node begins with. It may be written as text. Nothing if it is no
object. -/
def stateObject? : Value → Option Value
  | .object fields => some (.object fields)
  | .null => some Value.empty
  | .string s =>
    match Value.parse? s with
    | some (.object fields) => some (.object fields)
    | _ => none
  | _ => none

/-- The object that a panel shows for the data of a start node; nothing if it cannot be read. -/
def shownState? : Payload → Option Value
  | .start state => stateObject? state
  | _ => some Value.empty

/-- The text that a panel shows for an object. -/
def stateText (state : Value) : String := state.toDocument.print Json.indented

/-- The content of a panel that is loaded with the data of a node. -/
def Content.load (content : Content) (data : Payload) : Content :=
  match content with
  | start _ => start (shownState? data).isNone
  | finish _ =>
    match data with
    | .finish outputs => finish (Rows.ofMap outputs)
    | _ => finish Rows.initial
  | decisionTable _ => decisionTable (.ofTable (data.table?.getD {}))
  | form kind => form kind

/-- The values that fill the fields of a panel from the data of a node. -/
def Content.values (content : Content) (data : Payload) : List (String × Value) :=
  match content with
  | start _ => [("initial_state", .string (stateText ((shownState? data).getD Value.empty)))]
  | finish _ => []
  | decisionTable _ => [("table_name", .string (data.table?.getD {}).name)]
  | form kind => kind.values data

/-! ## From forms to nodes -/

/-- The piece of code that the form describes. Its name is not edited. -/
def readCode (form : Form) (stored : PythonCode) : Except FormError PythonCode := do
  return {
    name := stored.name
    code := ← form.text "code"
    entrypoint := Text.trim (← form.text "entrypoint")
    libraries := ← form.list "libraries" }

/-- A path without white space at its ends and without slashes at its front. -/
def normalPath (s : String) : String :=
  String.ofList ((Text.trimChars s.toList).dropWhile (· == '/'))

/-- The data that a form describes, for a node with the given data. -/
def FormKind.read (kind : FormKind) (form : Form) (stored : Payload) : Except FormError Payload :=
  match kind, stored with
  | python, .python code => return .python (← readCode form code)
  | project, .project _ => return .project {
      id := ← form.wholeNumber "project_id"
      name := ← form.text "name" }
  | conditionalEdge, .conditionalEdge e => return .conditionalEdge {
      source := ← form.text "source"
      next := ← form.optionalText "then"
      code := ← readCode form e.code }
  | fileExtractor, .fileExtractor _ => return .fileExtractor {
      paths := ← form.list "file_paths"
      format := ← form.text "output_format" }
  | webScraper, .webScraper _ => do
    let maxPages ← form.smallNumber "max_pages" .pageCount
    return .webScraper {
      url := Text.trim (← form.text "url")
      selector := ← form.optionalText "selector"
      maxPages }
  | codeAgent, .codeAgent _ => do
    let maxSteps ← form.smallNumber "max_steps" .stepCount
    return .codeAgent {
      llmConfig := ← form.optionalNumber "llm_config_id"
      systemPrompt := ← form.text "system_prompt"
      maxSteps }
  | webhookTrigger, .webhookTrigger w => return .webhookTrigger {
      path := normalPath (← form.text "path")
      code := ← readCode form w.code }
  | subgraph, .subgraph _ => return .subgraph (← form.wholeNumber "graph_id")
  | kind, stored => throw (.wrongKind kind.node stored.kind)

/-- The data that a panel describes, for a node with the given data. -/
def Content.read (content : Content) (form : Form) (stored : Payload) : Except FormError Payload :=
  match content, stored with
  | start _, .start _ => return .start (← form.object "initial_state")
  | finish outputs, .finish _ => return .finish outputs.toMap
  | decisionTable editor, .decisionTable table => do
    let name ← form.text "table_name"
    return .decisionTable { editor.merge table with name }
  | Content.form kind, stored => kind.read form stored
  | content, stored => throw (.wrongKind content.node stored.kind)

end Panel

/-- A panel. -/
structure Panel where
  form : Form
  inputs : Rows
  content : Panel.Content

namespace Panel

/-- The kind of nodes that a panel is for. -/
def kind (p : Panel) : NodeKind := p.content.node

/-- A panel with some content, filled from a node. -/
def ofContent (content : Content) (n : Node) : Panel :=
  let form := (Form.new (sharedFields ++ content.fields)).setAll
    ([("node_name", .string n.name),
      ("output_variable_path", .string (n.outputPath.getD ""))] ++ content.values n.data)
  { form, inputs := Rows.ofMap n.inputMap, content := content.load n.data }

/-- The panel for a kind of nodes, filled from a node. Nothing if these nodes are not configured in
a panel. -/
def ofNode? (kind : NodeKind) (n : Node) : Option Panel :=
  (Content.ofNode? kind).map (ofContent · n)

/-- The panel, filled afresh from a node. -/
def load (p : Panel) (n : Node) : Panel := ofContent p.content n

/-- Maps a panel onto a node. The ports of a decision table follow from its groups. -/
def apply (p : Panel) (n : Node) : Except FormError Node := do
  let data ← p.content.read p.form n.data
  let name := Text.trim (← p.form.text "node_name")
  let outputPath ← p.form.optionalText "output_variable_path"
  let updated := { n with name, outputPath, inputMap := p.inputs.toMap, data }
  return if data.table?.isSome then updated.withDefaultPorts else updated

/-- The node with what is in the panel; the node as it is if there are complaints or if the panel
does not apply to it. -/
def save (p : Panel) (n : Node) : Node :=
  if p.form.isValid then
    match p.apply n with
    | .ok updated => updated
    | .error _ => n
  else n

end Panel

end FlowCanvas
