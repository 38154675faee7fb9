import FlowCanvas.Proofs.Form.Rules
import FlowCanvas.Proofs.Panel.Editing
import FlowCanvas.Proofs.Panel.Reloading
import Mathlib

/-!
# Saving twice

Whatever has been typed into a panel, what it makes of a node is settled, if the form has no
complaints (`Panel.IsFor.isSettled_of_apply`). A second save therefore changes nothing
(`Panel.save_settles`). Decision tables, which are not read off a form, and the paths of webhooks
are left out here.
-/

set_option autoImplicit false

namespace FlowCanvas

open FlowCanvas.Json (Value)
open FlowCanvas.Form (Field Validator)

namespace Form

variable {form : Form}

/-- Fields for lists are not given arrays. -/
def ListsAreTexts (id : String) (v : Value) : Prop :=
  id = "libraries" ∨ id = "file_paths" → ∀ items, v ≠ .array items

/-- A plain value gives no array to a field for a list. -/
theorem listsAreTexts_of_isPlain {id : String} {v : Value} (h : IsPlain v) :
    ListsAreTexts id v := fun _ => h.ne_array

/-- The items of a list that is read off a text are parts of it. -/
theorem isPart_of_list {id : String} {items : List String} (hLists : form.AllValues ListsAreTexts)
    (hId : id = "libraries" ∨ id = "file_paths") (h : form.list id = .ok items) :
    ∀ item ∈ items, IsPart item := by
  obtain ⟨v, hLookup, hList⟩ := list_eq_ok_iff.1 h
  rw [listOf?_of_forall_ne (hLists id v hLookup hId)] at hList
  obtain ⟨s, -, rfl⟩ := Option.map_eq_some_iff.1 hList
  exact fun item hItem => isPart_of_mem_partsOf hItem

/-- An object is read as an object. -/
theorem exists_fields_of_object {id : String} {v : Value} (h : form.object id = .ok v) :
    ∃ fields, v = .object fields := by
  obtain ⟨w, -, hObject⟩ := object_eq_ok_iff.1 h
  unfold objectOf? at hObject
  split at hObject
  · exact ⟨[], (Option.some.inj hObject).symm⟩
  · exact ⟨_, (Option.some.inj hObject).symm⟩
  · split at hObject
    · exact ⟨[], (Option.some.inj hObject).symm⟩
    · split at hObject
      · exact ⟨_, (Option.some.inj hObject).symm⟩
      · cases hObject
  · cases hObject

/-- A text that may be missing is not blank if it is there. -/
theorem isBlank_of_optionalText {id : String} {o : Option String}
    (h : form.optionalText id = .ok o) : ∀ s ∈ o, Text.isBlank s = false := by
  obtain ⟨t, -, ho⟩ := optionalText_eq_ok_iff.1 h
  intro s hs
  rw [← ho] at hs
  split at hs
  · cases hs
  · rename_i hBlank
    cases hs
    exact Bool.not_eq_true _ ▸ hBlank

end Form

namespace Panel

variable {p : Panel} {n u : Node} {kind : NodeKind} {stored data : Payload}

/-- In a form without complaints no required text is blank. -/
theorem IsFor.isBlank_of_text (h : p.IsFor kind) (hValid : p.form.isValid = true) {field : Field}
    (hField : field ∈ sharedFields ++ p.content.fields) (hRequired : .required ∈ field.validators)
    {s : String} (hText : p.form.text field.id = .ok s) : Text.isBlank s = false := by
  obtain ⟨v, hLookup, hValue⟩ := Form.text_eq_ok_iff.1 hText
  have hPasses := h.isValid_iff.1 hValid field hField _ hRequired
  rw [Form.current, hLookup] at hPasses
  exact Form.isBlank_of_required hPasses hValue

/-- Code is settled once it has been read off a form without complaints. -/
theorem ReadsCode.isSettled (hFor : p.IsFor kind) (hValid : p.form.isValid = true)
    (hLists : p.form.AllValues Form.ListsAreTexts) (hFields : codeFields ⊆ p.content.fields)
    {code found : PythonCode} (h : ReadsCode p.form code found) : found.IsSettled := by
  obtain ⟨s, hRead, hTrim⟩ := h.entrypoint
  have hField : (Field.text "entrypoint").required.withInitial (.string "main") ∈
      sharedFields ++ p.content.fields :=
    List.mem_append_right _ (hFields (List.mem_cons_of_mem _ List.mem_cons_self))
  have hNotBlank : Text.isBlank s = false :=
    hFor.isBlank_of_text hValid hField List.mem_cons_self hRead
  refine ⟨?_, ?_, Form.isPart_of_list hLists (.inl rfl) h.libraries⟩
  · rw [← hTrim, Text.trim_trim]
  · rw [← hTrim, Ne, Text.trim_eq_empty_iff, hNotBlank]
    exact Bool.false_ne_true

/-- What is read off a form without complaints is settled, the path of a webhook apart. -/
theorem IsFor.isSettled_of_reads (hFor : p.IsFor kind) (hValid : p.form.isValid = true)
    (hLists : p.form.AllValues Form.ListsAreTexts)
    (hPath : kind = .webhookTrigger → ∀ path, p.form.text "path" = .ok path →
      normalPath (normalPath path) = normalPath path)
    (h : p.content.Reads p.form stored data) : data.IsSettled := by
  have hNode := hFor.node
  have hCode : codeFields ⊆ p.content.fields → ∀ {code found : PythonCode},
      ReadsCode p.form code found → found.IsSettled := fun hFields =>
    ReadsCode.isSettled hFor hValid hLists hFields
  generalize p.content = content at h hNode hCode
  cases h with
  | start hState => exact Form.exists_fields_of_object hState
  | finish => exact Rows.isTrimmed_toMap _
  | decisionTable hName => trivial
  | python hRead => exact hCode (List.Subset.refl _) hRead
  | project hId hName => trivial
  | conditionalEdge hSource hNext hRead =>
    exact ⟨Form.isBlank_of_optionalText hNext, hCode (List.subset_append_right _ _) hRead⟩
  | fileExtractor hPaths hFormat => exact Form.isPart_of_list hLists (.inr rfl) hPaths
  | webScraper hPages hUrl hSelector =>
    exact ⟨Text.trim_trim _, Form.isBlank_of_optionalText hSelector⟩
  | codeAgent hSteps hConfig hPrompt => trivial
  | webhookTrigger hText hRead =>
    exact ⟨hPath hNode.symm _ hText, hCode (List.subset_cons_self _ _) hRead⟩
  | subgraph hId => trivial

/-- What a panel without complaints makes of a node is settled, the path of a webhook apart. -/
theorem IsFor.isSettled_of_apply (hFor : p.IsFor kind) (hKind : kind ≠ .decisionTable)
    (hValid : p.form.isValid = true) (hLists : p.form.AllValues Form.ListsAreTexts)
    (hPath : kind = .webhookTrigger → ∀ path, p.form.text "path" = .ok path →
      normalPath (normalPath path) = normalPath path)
    (h : p.apply n = .ok u) : u.IsSettled := by
  obtain ⟨data, name, outputPath, hData, hName, hOutput, rfl⟩ := apply_eq_ok_iff.1 h
  have hReads := Content.read_eq_ok_iff.1 hData
  rw [written, hReads.table?_eq_none (hFor.node ▸ hKind)]
  exact
    { trim_name := Text.trim_trim name
      outputPath := Form.isBlank_of_optionalText hOutput
      inputMap := Rows.isTrimmed_toMap _
      data := hFor.isSettled_of_reads hValid hLists hPath hReads }

/-- Free values are read for start nodes only. -/
theorem isLegible_of_apply (hStart : p.content.node ≠ .start) (h : p.apply n = .ok u) :
    u.data.IsLegible := by
  obtain ⟨data, name, outputPath, hData, -, -, rfl⟩ := apply_eq_ok_iff.1 h
  rw [data_written]
  have hReads := Content.read_eq_ok_iff.1 hData
  generalize p.content = content, n.data = stored at hReads hStart
  cases hReads with
  | start hState => exact absurd rfl hStart
  | _ => trivial

/-- In a panel for a node that has been edited, fields for lists hold texts if they have been given
no arrays. -/
theorem allValues_editAll_ofNode? {edits : List PanelEdit} (h : ofNode? kind n = some p)
    (hLists : ∀ x ∈ edits, x.Gives Form.ListsAreTexts) :
    (p.editAll edits).form.AllValues Form.ListsAreTexts := by
  obtain ⟨content, -, rfl⟩ := Option.map_eq_some_iff.1 h
  refine Form.AllValues.editAll ?_ hLists
  exact (allValues_ofContent content n).mono fun _ _ => Form.listsAreTexts_of_isPlain

/-- Whatever has been typed into a panel without complaints, what it makes of its node stays as it
is if the panel is filled from that and saved again. For start nodes this needs numbers that can be
read back from their texts. -/
theorem save_settles (hPanel : ofNode? n.kind n = some p) (hTable : n.kind ≠ .decisionTable)
    (hWebhook : n.kind ≠ .webhookTrigger) {edits : List PanelEdit}
    (hLists : ∀ x ∈ edits, x.Gives Form.ListsAreTexts)
    (hValid : (p.editAll edits).form.isValid = true)
    (hApply : (p.editAll edits).apply n = .ok u) (hStart : n.kind = .start → u.data.IsLegible) :
    ((p.editAll edits).load u).save u = u := by
  have hFor : (p.editAll edits).IsFor n.kind := (isFor_ofNode? hPanel).editAll edits
  have hSettled : u.IsSettled :=
    hFor.isSettled_of_apply hTable hValid (allValues_editAll_ofNode? hPanel hLists)
      (absurd · hWebhook) hApply
  have hLegible : u.data.IsLegible := by
    by_cases hKind : n.kind = .start
    · exact hStart hKind
    · exact isLegible_of_apply (hFor.node ▸ hKind) hApply
  exact save_ofContent_of_isSettled hSettled hLegible (hFor.node ▸ hTable)

/-- A predicate without anything in it. -/
def blankEdge : Node := Node.new ⟨"e"⟩ "edge" (.conditionalEdge {})

/-- What is typed into its panel: white space everywhere, a blank target, and libraries on two
lines. -/
def untidyEdits : List PanelEdit :=
  [.setField "node_name" (.string "  route "), .setField "then" (.string "  "),
    .setField "code" (.string "pass"), .setField "entrypoint" (.string " decide "),
    .setField "libraries" (.string " a ,\n b,"), .editInputs (.set 0 " x " " y ")]

/-- The panel with all of this typed in. -/
def untidyPanel : Panel := (ofContent (.form .conditionalEdge) blankEdge).editAll untidyEdits

/-- The first save takes all of it over in its normal form, and the second changes nothing. -/
theorem save_settles_untidyPanel :
    untidyPanel.apply blankEdge = .ok (untidyPanel.save blankEdge) ∧
      (untidyPanel.save blankEdge).name = "route" ∧
      (untidyPanel.load (untidyPanel.save blankEdge)).save (untidyPanel.save blankEdge) =
        untidyPanel.save blankEdge := by
  have hValid : untidyPanel.form.isValid = true := by decide
  have hApply : untidyPanel.apply blankEdge = .ok (untidyPanel.save blankEdge) :=
    apply_eq_ok_save hValid (by decide)
  have hLists : ∀ x ∈ untidyEdits, x.Gives Form.ListsAreTexts := by
    simp [untidyEdits, PanelEdit.Gives, Form.ListsAreTexts]
  exact ⟨hApply, by decide, save_settles (p := ofContent (.form .conditionalEdge) blankEdge)
    rfl (by decide) (by decide) hLists hValid hApply nofun⟩

end Panel

end FlowCanvas
