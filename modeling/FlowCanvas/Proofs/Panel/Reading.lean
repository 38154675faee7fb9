import FlowCanvas.Panel.Basic
import FlowCanvas.Proofs.Form.Reads
import Mathlib

/-!
# What a panel reads off its form

Reading a panel succeeds exactly if the node is of the right kind and each field that counts can be
read (`Panel.Content.read_eq_ok_iff`). `Panel.Content.Reads` lists what is read for each kind of
nodes, so that everything else about panels can be proved by cases on it.
-/

set_option autoImplicit false

namespace FlowCanvas

open FlowCanvas.Json (Value)

namespace Panel

variable {form : Form} {content : Content} {stored data : Payload} {code found : PythonCode}

/-- A form describes a piece of code, whose name it does not edit. -/
structure ReadsCode (form : Form) (stored found : PythonCode) : Prop where
  name : found.name = stored.name
  code : form.text "code" = .ok found.code
  entrypoint : ∃ s, form.text "entrypoint" = .ok s ∧ Text.trim s = found.entrypoint
  libraries : form.list "libraries" = .ok found.libraries

/-- Code is read off a form if the form describes it. -/
theorem readCode_eq_ok_iff : readCode form code = .ok found ↔ ReadsCode form code found := by
  obtain ⟨name, text, entrypoint, libraries⟩ := found
  simp only [readCode, Except.bind_eq_ok_iff, Except.pure_eq_ok_iff, PythonCode.mk.injEq]
  constructor
  · rintro ⟨text', hText, s, hEntrypoint, libraries', hLibraries, rfl, rfl, rfl, rfl⟩
    exact ⟨rfl, hText, ⟨s, hEntrypoint, rfl⟩, hLibraries⟩
  · rintro ⟨hName, hText, ⟨s, hEntrypoint, rfl⟩, hLibraries⟩
    exact ⟨_, hText, s, hEntrypoint, _, hLibraries, hName.symm, rfl, rfl, rfl⟩

/-- What the form of a panel describes, for a node with given data. -/
inductive Content.Reads (form : Form) : Content → Payload → Payload → Prop
  | start {unreadable : Bool} {stored state : Value}
    (hState : form.object "initial_state" = .ok state) :
    Reads form (.start unreadable) (.start stored) (.start state)
  | finish {outputs : Rows} {stored : TextMap} :
    Reads form (.finish outputs) (.finish stored) (.finish outputs.toMap)
  | decisionTable {editor : TableEditor} {table : DecisionTable} {name : String}
    (hName : form.text "table_name" = .ok name) :
    Reads form (.decisionTable editor) (.decisionTable table)
      (.decisionTable { editor.merge table with name })
  | python {code found : PythonCode} (hCode : ReadsCode form code found) :
    Reads form (.form .python) (.python code) (.python found)
  | project {stored found : Payload.Project}
    (hId : form.wholeNumber "project_id" = .ok found.id)
    (hName : form.text "name" = .ok found.name) :
    Reads form (.form .project) (.project stored) (.project found)
  | conditionalEdge {stored found : Payload.ConditionalEdge}
    (hSource : form.text "source" = .ok found.source)
    (hNext : form.optionalText "then" = .ok found.next)
    (hCode : ReadsCode form stored.code found.code) :
    Reads form (.form .conditionalEdge) (.conditionalEdge stored) (.conditionalEdge found)
  | fileExtractor {stored found : Payload.FileExtractor}
    (hPaths : form.list "file_paths" = .ok found.paths)
    (hFormat : form.text "output_format" = .ok found.format) :
    Reads form (.form .fileExtractor) (.fileExtractor stored) (.fileExtractor found)
  | webScraper {stored : Payload.WebScraper} {url : String} {selector : Option String}
    {maxPages : UInt32} (hPages : form.smallNumber "max_pages" .pageCount = .ok maxPages)
    (hUrl : form.text "url" = .ok url) (hSelector : form.optionalText "selector" = .ok selector) :
    Reads form (.form .webScraper) (.webScraper stored)
      (.webScraper { url := Text.trim url, selector, maxPages })
  | codeAgent {stored found : Payload.CodeAgent}
    (hSteps : form.smallNumber "max_steps" .stepCount = .ok found.maxSteps)
    (hConfig : form.optionalNumber "llm_config_id" = .ok found.llmConfig)
    (hPrompt : form.text "system_prompt" = .ok found.systemPrompt) :
    Reads form (.form .codeAgent) (.codeAgent stored) (.codeAgent found)
  | webhookTrigger {stored : Payload.WebhookTrigger} {path : String} {code : PythonCode}
    (hPath : form.text "path" = .ok path) (hCode : ReadsCode form stored.code code) :
    Reads form (.form .webhookTrigger) (.webhookTrigger stored)
      (.webhookTrigger { path := normalPath path, code })
  | subgraph {stored id : UInt64} (hId : form.wholeNumber "graph_id" = .ok id) :
    Reads form (.form .subgraph) (.subgraph stored) (.subgraph id)

/-- Whatever is read for a form has been read field by field. -/
theorem FormKind.reads_of_read {kind : FormKind} (h : kind.read form stored = .ok data) :
    Content.Reads form (.form kind) stored data := by
  cases kind with
  | python => cases stored with
    | python code =>
      obtain ⟨found, hCode, hData⟩ := Except.bind_eq_ok_iff.1 h
      cases hData
      exact .python (readCode_eq_ok_iff.1 hCode)
    | _ => cases h
  | project => cases stored with
    | project stored =>
      obtain ⟨id, hId, hRest⟩ := Except.bind_eq_ok_iff.1 h
      obtain ⟨name, hName, hData⟩ := Except.bind_eq_ok_iff.1 hRest
      cases hData
      exact .project hId hName
    | _ => cases h
  | conditionalEdge => cases stored with
    | conditionalEdge stored =>
      obtain ⟨source, hSource, hRest⟩ := Except.bind_eq_ok_iff.1 h
      obtain ⟨next, hNext, hRest⟩ := Except.bind_eq_ok_iff.1 hRest
      obtain ⟨found, hCode, hData⟩ := Except.bind_eq_ok_iff.1 hRest
      cases hData
      exact .conditionalEdge hSource hNext (readCode_eq_ok_iff.1 hCode)
    | _ => cases h
  | fileExtractor => cases stored with
    | fileExtractor stored =>
      obtain ⟨paths, hPaths, hRest⟩ := Except.bind_eq_ok_iff.1 h
      obtain ⟨format, hFormat, hData⟩ := Except.bind_eq_ok_iff.1 hRest
      cases hData
      exact .fileExtractor hPaths hFormat
    | _ => cases h
  | webScraper => cases stored with
    | webScraper stored =>
      obtain ⟨maxPages, hPages, hRest⟩ := Except.bind_eq_ok_iff.1 h
      obtain ⟨url, hUrl, hRest⟩ := Except.bind_eq_ok_iff.1 hRest
      obtain ⟨selector, hSelector, hData⟩ := Except.bind_eq_ok_iff.1 hRest
      cases hData
      exact .webScraper hPages hUrl hSelector
    | _ => cases h
  | codeAgent => cases stored with
    | codeAgent stored =>
      obtain ⟨maxSteps, hSteps, hRest⟩ := Except.bind_eq_ok_iff.1 h
      obtain ⟨llmConfig, hConfig, hRest⟩ := Except.bind_eq_ok_iff.1 hRest
      obtain ⟨prompt, hPrompt, hData⟩ := Except.bind_eq_ok_iff.1 hRest
      cases hData
      exact .codeAgent hSteps hConfig hPrompt
    | _ => cases h
  | webhookTrigger => cases stored with
    | webhookTrigger stored =>
      obtain ⟨path, hPath, hRest⟩ := Except.bind_eq_ok_iff.1 h
      obtain ⟨found, hCode, hData⟩ := Except.bind_eq_ok_iff.1 hRest
      cases hData
      exact .webhookTrigger hPath (readCode_eq_ok_iff.1 hCode)
    | _ => cases h
  | subgraph => cases stored with
    | subgraph stored =>
      obtain ⟨id, hId, hData⟩ := Except.bind_eq_ok_iff.1 h
      cases hData
      exact .subgraph hId
    | _ => cases h

/-- What is read off a form is what the form describes. -/
theorem Content.reads_of_read (h : content.read form stored = .ok data) :
    content.Reads form stored data := by
  cases content with
  | start unreadable => cases stored with
    | start stored =>
      obtain ⟨state, hState, hData⟩ := Except.bind_eq_ok_iff.1 h
      cases hData
      exact .start hState
    | _ => cases h
  | finish outputs => cases stored with
    | finish stored =>
      cases h
      exact .finish
    | _ => cases h
  | decisionTable editor => cases stored with
    | decisionTable table =>
      obtain ⟨name, hName, hData⟩ := Except.bind_eq_ok_iff.1 h
      cases hData
      exact .decisionTable hName
    | _ => cases h
  | form kind => exact kind.reads_of_read h

/-- A panel reads the data that its form describes, field by field. -/
theorem Content.read_eq_ok_iff :
    content.read form stored = .ok data ↔ content.Reads form stored data := by
  refine ⟨reads_of_read, fun h => ?_⟩
  cases h with
  | start hState => simp [Content.read, hState]
  | finish => rfl
  | decisionTable hName => simp [Content.read, hName]
  | python hCode => simp [Content.read, FormKind.read, readCode_eq_ok_iff.2 hCode]
  | project hId hName =>
    simp [Content.read, FormKind.read, hId, hName, Except.bind_eq_ok_iff]
  | conditionalEdge hSource hNext hCode =>
    simp [Content.read, FormKind.read, hSource, hNext, readCode_eq_ok_iff.2 hCode,
      Except.bind_eq_ok_iff]
  | fileExtractor hPaths hFormat =>
    simp [Content.read, FormKind.read, hPaths, hFormat, Except.bind_eq_ok_iff]
  | webScraper hPages hUrl hSelector =>
    simp [Content.read, FormKind.read, hPages, hUrl, hSelector, Except.bind_eq_ok_iff]
  | codeAgent hSteps hConfig hPrompt =>
    simp [Content.read, FormKind.read, hSteps, hConfig, hPrompt, Except.bind_eq_ok_iff]
  | webhookTrigger hPath hCode =>
    simp [Content.read, FormKind.read, hPath, readCode_eq_ok_iff.2 hCode, Except.bind_eq_ok_iff]
  | subgraph hId => simp [Content.read, FormKind.read, hId]

/-- No table is read for other kinds of nodes. -/
theorem Content.Reads.table?_eq_none (h : content.Reads form stored data)
    (hKind : content.node ≠ .decisionTable) : data.table? = none := by
  cases h with
  | decisionTable hName => exact absurd rfl hKind
  | _ => rfl

end Panel

end FlowCanvas
