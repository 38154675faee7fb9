import FlowCanvas.Proofs.Form.Rules
import FlowCanvas.Proofs.Panel.Editing
import FlowCanvas.Proofs.Panel.Reading
import Mathlib

/-!
# Edits that are discarded

A panel may have no complaints and still not apply to its node; a save then leaves the node as it
is. With texts and numbers typed into it, this is due to the fields that say how many, and to no
others: the panel applies exactly if each of them can be read as a whole number that is not too
large (`Panel.applies_iff`).
-/

set_option autoImplicit false

namespace FlowCanvas

open FlowCanvas.Json (Value)
open FlowCanvas.Form (Field IsPlain CountsBelow)

/-! ## Forms that can be read -/

namespace Form

variable {form : Form} {id : String}

/-- In a form all fields can be read, apart perhaps from whole numbers, and there is something in
the fields that must be filled in. -/
structure IsReadable (form : Form) (fields : List Field) : Prop where
  text : ∀ field ∈ fields, ∃ s, form.text field.id = .ok s
  list : ∀ field ∈ fields, ∃ items, form.list field.id = .ok items
  object : ∀ field ∈ fields, .jsonObject ∈ field.validators → ∃ v, form.object field.id = .ok v
  number : ∀ field ∈ fields, .required ∈ field.validators →
    form.optionalNumber field.id ≠ .ok none

/-- Where all fields of a form can be read, some of them can. -/
theorem IsReadable.mono {fields more : List Field} (h : form.IsReadable more)
    (hFields : fields ⊆ more) : form.IsReadable fields where
  text := fun field hField => h.text field (hFields hField)
  list := fun field hField => h.list field (hFields hField)
  object := fun field hField => h.object field (hFields hField)
  number := fun field hField => h.number field (hFields hField)

/-- A field says how many. -/
def Counts (form : Form) (id : String) (limit : Nat) : Prop :=
  ∃ o, form.optionalNumber id = .ok o ∧ ∀ i ∈ o, i.toNat < limit

/-- A whole number that may be missing can be read exactly if the field says how many. -/
theorem exists_optionalNumber_iff :
    (∃ o, form.optionalNumber id = .ok o) ↔ form.Counts id UInt64.size :=
  exists_congr fun _ => ⟨fun h => ⟨h, fun i _ => i.toNat_lt⟩, And.left⟩

/-- A whole number that is there can be read exactly if the field says how many. -/
theorem exists_wholeNumber_iff (hSome : form.optionalNumber id ≠ .ok none) :
    (∃ i, form.wholeNumber id = .ok i) ↔ form.Counts id UInt64.size := by
  simp only [wholeNumber_eq_ok_iff, ← exists_optionalNumber_iff]
  constructor
  · rintro ⟨i, h⟩
    exact ⟨some i, h⟩
  · rintro ⟨_ | i, h⟩
    · exact absurd h hSome
    · exact ⟨i, h⟩

/-- A whole number that is there and fits 32 bits can be read exactly if the field says how many,
below that limit. -/
theorem exists_smallNumber_iff (expected : Expectation)
    (hSome : form.optionalNumber id ≠ .ok none) :
    (∃ k, form.smallNumber id expected = .ok k) ↔ form.Counts id UInt32.size := by
  simp only [smallNumber_eq_ok_iff, wholeNumber_eq_ok_iff]
  constructor
  · rintro ⟨k, i, h, hSmall, -⟩
    exact ⟨some i, h, fun j hj => Option.some.inj hj ▸ hSmall⟩
  · rintro ⟨_ | i, h, hSmall⟩
    · exact absurd h hSome
    · exact ⟨_, i, h, hSmall i rfl, rfl⟩

/-- Where a text can be read, it can also be read as one that may be missing. -/
theorem exists_optionalText (h : ∃ s, form.text id = .ok s) :
    ∃ o, form.optionalText id = .ok o := by
  obtain ⟨s, hText⟩ := h
  exact ⟨_, optionalText_eq_ok_iff.2 ⟨s, hText, rfl⟩⟩

/-- A field whose value passes the rule for positive numbers says how many exactly if its value
does. -/
theorem counts_iff {v : Value} {limit : Nat} (hLookup : form.values.lookup id = some v)
    (hLimit : limit ≤ UInt64.size) (hPositive : Validator.positive.check? v = none) :
    form.Counts id limit ↔ CountsBelow limit v := by
  rw [countsBelow_iff hLimit hPositive, Counts]
  refine exists_congr fun o => and_congr_left fun _ => ?_
  rw [optionalNumber_eq_ok_iff, hLookup]
  simp

end Form

namespace Panel

/-- The fields of a form that say how many, and the number that each must stay below. -/
def FormKind.countFields : FormKind → List (String × Nat)
  | project => [("project_id", UInt64.size)]
  | webScraper => [("max_pages", UInt32.size)]
  | codeAgent => [("max_steps", UInt32.size), ("llm_config_id", UInt64.size)]
  | subgraph => [("graph_id", UInt64.size)]
  | _ => []

/-- The fields of a panel that say how many. -/
def Content.countFields : Content → List (String × Nat)
  | form kind => kind.countFields
  | _ => []

variable {p : Panel} {n : Node} {kind : NodeKind} {form : Form} {content : Content}
  {stored : Payload}

/-- Where the fields for code can be read, code can. -/
theorem exists_readsCode {fields : List Field} (hReadable : form.IsReadable fields)
    (hFields : codeFields ⊆ fields) (code : PythonCode) : ∃ found, ReadsCode form code found := by
  obtain ⟨text, hText⟩ := hReadable.text _ (hFields List.mem_cons_self)
  obtain ⟨entrypoint, hEntrypoint⟩ :=
    hReadable.text _ (hFields (List.mem_cons_of_mem _ List.mem_cons_self))
  obtain ⟨libraries, hLibraries⟩ :=
    hReadable.list (Field.text "libraries") (hFields (by simp [codeFields]))
  exact ⟨⟨code.name, text, Text.trim entrypoint, libraries⟩, rfl, hText, ⟨_, hEntrypoint, rfl⟩,
    hLibraries⟩

/-- A form that can be read is read for a node of its kind exactly if the fields that say how many
do so. -/
theorem FormKind.exists_reads_iff {kind : FormKind} (hKind : stored.kind = kind.node)
    (hReadable : form.IsReadable kind.fields) :
    (∃ data, Content.Reads form (.form kind) stored data) ↔
      ∀ f ∈ kind.countFields, form.Counts f.1 f.2 := by
  cases kind with
  | python => cases stored with
    | python code =>
      obtain ⟨found, hCode⟩ := exists_readsCode hReadable (List.Subset.refl _) code
      exact iff_of_true ⟨_, .python hCode⟩ (List.forall_mem_nil _)
    | _ => cases hKind
  | project => cases stored with
    | project stored =>
      obtain ⟨name, hName⟩ := hReadable.text _ (List.mem_cons_of_mem _ List.mem_cons_self)
      have hSome : form.optionalNumber "project_id" ≠ .ok none :=
        hReadable.number _ List.mem_cons_self List.mem_cons_self
      rw [countFields, List.forall_mem_singleton, ← Form.exists_wholeNumber_iff hSome]
      constructor
      · rintro ⟨data, hReads⟩
        cases hReads with
        | project hId hName => exact ⟨_, hId⟩
      · rintro ⟨id, hId⟩
        exact ⟨.project ⟨id, name⟩, .project hId hName⟩
    | _ => cases hKind
  | conditionalEdge => cases stored with
    | conditionalEdge stored =>
      obtain ⟨source, hSource⟩ := hReadable.text _ List.mem_cons_self
      obtain ⟨next, hNext⟩ := Form.exists_optionalText
        (hReadable.text _ (List.mem_cons_of_mem _ List.mem_cons_self))
      obtain ⟨found, hCode⟩ :=
        exists_readsCode hReadable (List.subset_append_right _ _) stored.code
      exact iff_of_true ⟨.conditionalEdge ⟨source, next, found⟩,
        .conditionalEdge hSource hNext hCode⟩ (List.forall_mem_nil _)
    | _ => cases hKind
  | fileExtractor => cases stored with
    | fileExtractor stored =>
      obtain ⟨paths, hPaths⟩ := hReadable.list _ List.mem_cons_self
      obtain ⟨format, hFormat⟩ := hReadable.text _ (List.mem_cons_of_mem _ List.mem_cons_self)
      exact iff_of_true ⟨.fileExtractor ⟨paths, format⟩, .fileExtractor hPaths hFormat⟩
        (List.forall_mem_nil _)
    | _ => cases hKind
  | webScraper => cases stored with
    | webScraper stored =>
      obtain ⟨url, hUrl⟩ := hReadable.text _ List.mem_cons_self
      obtain ⟨selector, hSelector⟩ := Form.exists_optionalText
        (hReadable.text _ (List.mem_cons_of_mem _ List.mem_cons_self))
      have hSome : form.optionalNumber "max_pages" ≠ .ok none :=
        hReadable.number _ (List.mem_cons_of_mem _ (List.mem_cons_of_mem _ List.mem_cons_self))
          List.mem_cons_self
      rw [countFields, List.forall_mem_singleton,
        ← Form.exists_smallNumber_iff .pageCount hSome]
      constructor
      · rintro ⟨data, hReads⟩
        cases hReads with
        | webScraper hPages hUrl hSelector => exact ⟨_, hPages⟩
      · rintro ⟨maxPages, hPages⟩
        exact ⟨_, .webScraper hPages hUrl hSelector⟩
    | _ => cases hKind
  | codeAgent => cases stored with
    | codeAgent stored =>
      obtain ⟨prompt, hPrompt⟩ := hReadable.text _ List.mem_cons_self
      have hSome : form.optionalNumber "max_steps" ≠ .ok none :=
        hReadable.number _ (List.mem_cons_of_mem _ List.mem_cons_self) List.mem_cons_self
      rw [countFields, List.forall_mem_cons, List.forall_mem_singleton,
        ← Form.exists_smallNumber_iff .stepCount hSome,
        ← Form.exists_optionalNumber_iff]
      constructor
      · rintro ⟨data, hReads⟩
        cases hReads with
        | codeAgent hSteps hConfig hPrompt => exact ⟨⟨_, hSteps⟩, ⟨_, hConfig⟩⟩
      · rintro ⟨⟨maxSteps, hSteps⟩, ⟨llmConfig, hConfig⟩⟩
        exact ⟨.codeAgent ⟨llmConfig, prompt, maxSteps⟩, .codeAgent hSteps hConfig hPrompt⟩
    | _ => cases hKind
  | webhookTrigger => cases stored with
    | webhookTrigger stored =>
      obtain ⟨path, hPath⟩ := hReadable.text _ List.mem_cons_self
      obtain ⟨found, hCode⟩ :=
        exists_readsCode hReadable (List.subset_cons_self _ _) stored.code
      exact iff_of_true ⟨_, .webhookTrigger hPath hCode⟩ (List.forall_mem_nil _)
    | _ => cases hKind
  | subgraph => cases stored with
    | subgraph stored =>
      have hSome : form.optionalNumber "graph_id" ≠ .ok none :=
        hReadable.number _ List.mem_cons_self List.mem_cons_self
      rw [countFields, List.forall_mem_singleton, ← Form.exists_wholeNumber_iff hSome]
      constructor
      · rintro ⟨data, hReads⟩
        cases hReads with
        | subgraph hId => exact ⟨_, hId⟩
      · rintro ⟨id, hId⟩
        exact ⟨_, .subgraph hId⟩
    | _ => cases hKind

/-- The same for all panels. -/
theorem Content.exists_reads_iff (hKind : stored.kind = content.node)
    (hReadable : form.IsReadable content.fields) :
    (∃ data, content.Reads form stored data) ↔
      ∀ f ∈ content.countFields, form.Counts f.1 f.2 := by
  cases content with
  | start unreadable => cases stored with
    | start stored =>
      obtain ⟨state, hState⟩ := hReadable.object _ List.mem_cons_self List.mem_cons_self
      exact iff_of_true ⟨_, .start hState⟩ (List.forall_mem_nil _)
    | _ => cases hKind
  | finish outputs => cases stored with
    | finish stored => exact iff_of_true ⟨_, .finish⟩ (List.forall_mem_nil _)
    | _ => cases hKind
  | decisionTable editor => cases stored with
    | decisionTable table =>
      obtain ⟨name, hName⟩ := hReadable.text _ List.mem_cons_self
      exact iff_of_true ⟨_, .decisionTable hName⟩ (List.forall_mem_nil _)
    | _ => cases hKind
  | form kind => exact kind.exists_reads_iff hKind hReadable

/-! ## Panels without complaints -/

/-- A field that says how many has the rule for positive numbers, and a limit that a word can
hold. -/
theorem Content.exists_field_of_mem_countFields {f : String × Nat} (hf : f ∈ content.countFields) :
    ∃ field ∈ content.fields, field.id = f.1 ∧ .positive ∈ field.validators ∧
      f.2 ≤ UInt64.size := by
  cases content with
  | form kind => cases kind with
    | project =>
      cases List.mem_singleton.1 hf
      exact ⟨_, List.mem_cons_self, rfl, by decide, le_refl _⟩
    | webScraper =>
      cases List.mem_singleton.1 hf
      exact ⟨_, List.getLast_mem (by decide), rfl, by decide, by decide⟩
    | codeAgent =>
      rcases List.mem_pair.1 hf with rfl | rfl
      · exact ⟨_, List.mem_cons_of_mem _ List.mem_cons_self, rfl, by decide, by decide⟩
      · exact ⟨_, List.getLast_mem (by decide), rfl, by decide, le_refl _⟩
    | subgraph =>
      cases List.mem_singleton.1 hf
      exact ⟨_, List.mem_cons_self, rfl, by decide, le_refl _⟩
    | _ => cases hf
  | _ => cases hf

namespace IsFor

/-- A form without complaints can be read if there is nothing in it but texts and numbers. -/
theorem isReadable (hFor : p.IsFor kind) (hPlain : p.form.AllValues fun _ => IsPlain)
    (hValid : p.form.isValid = true) :
    p.form.IsReadable (sharedFields ++ p.content.fields) where
  text := by
    intro field hField
    have hLookup := hFor.lookup_current hField
    obtain ⟨s, hText⟩ := Option.isSome_iff_exists.1 (Form.isPlain_iff.1 (hPlain _ _ hLookup))
    exact ⟨s, Form.text_eq_ok_iff.2 ⟨_, hLookup, hText⟩⟩
  list := by
    intro field hField
    have hLookup := hFor.lookup_current hField
    have hValue := hPlain _ _ hLookup
    obtain ⟨s, hText⟩ := Option.isSome_iff_exists.1 (Form.isPlain_iff.1 hValue)
    have hList : Form.listOf? (p.form.current field.id) = some (Form.partsOf s) := by
      rw [Form.listOf?_of_forall_ne hValue.ne_array, hText, Option.map_some]
    exact ⟨_, Form.list_eq_ok_iff.2 ⟨_, hLookup, hList⟩⟩
  object := by
    intro field hField hRule
    have hPasses := hFor.isValid_iff.1 hValid field hField _ hRule
    obtain ⟨w, hObject⟩ := Form.check?_jsonObject_eq_none_iff.1 hPasses
    exact ⟨w, Form.object_eq_ok_iff.2 ⟨_, hFor.lookup_current hField, hObject⟩⟩
  number := by
    intro field hField hRule hNone
    have hPasses := hFor.isValid_iff.1 hValid field hField _ hRule
    obtain ⟨v, hLookup, hNumber⟩ := Form.optionalNumber_eq_ok_iff.1 hNone
    cases (hFor.lookup_current hField).symm.trans hLookup
    exact Form.numberOf?_ne_some_none hPasses hNumber

/-- In a panel without complaints that holds texts and numbers, the whole of what it makes of a node
of its kind can be read exactly if each value that says how many is a whole number below its
limit. -/
theorem exists_apply_iff (hFor : p.IsFor n.kind) (hPlain : p.form.AllValues fun _ => IsPlain)
    (hValid : p.form.isValid = true) :
    (∃ u, p.apply n = .ok u) ↔
      ∀ f ∈ p.content.countFields, CountsBelow f.2 (p.form.current f.1) := by
  have hReadable := hFor.isReadable hPlain hValid
  have hCounts : ∀ f ∈ p.content.countFields,
      (p.form.Counts f.1 f.2 ↔ CountsBelow f.2 (p.form.current f.1)) := by
    intro f hf
    obtain ⟨field, hField, hId, hPositive, hLimit⟩ := Content.exists_field_of_mem_countFields hf
    have hShared := List.mem_append_right sharedFields hField
    have hPasses := hFor.isValid_iff.1 hValid field hShared _ hPositive
    rw [← hId]
    exact Form.counts_iff (hFor.lookup_current hShared) hLimit hPasses
  rw [← forall₂_congr hCounts, ← Content.exists_reads_iff hFor.node.symm
    (hReadable.mono (List.subset_append_right _ _))]
  obtain ⟨name, hName⟩ := hReadable.text _ List.mem_cons_self
  obtain ⟨outputPath, hPath⟩ := Form.exists_optionalText
    (hReadable.text _ (List.mem_cons_of_mem _ List.mem_cons_self))
  constructor
  · rintro ⟨u, hApply⟩
    obtain ⟨data, -, -, hData, -⟩ := apply_eq_ok_iff.1 hApply
    exact ⟨data, Content.read_eq_ok_iff.1 hData⟩
  · rintro ⟨data, hReads⟩
    exact ⟨_, apply_eq_ok_iff.2
      ⟨data, name, outputPath, Content.read_eq_ok_iff.2 hReads, hName, hPath, rfl⟩⟩

end IsFor

/-- A panel without complaints that texts and numbers have been typed into applies to its node
exactly if each field that says how many holds a whole number below its limit. Otherwise a save
leaves the node as it is. -/
theorem applies_iff (hPanel : ofNode? n.kind n = some p) {edits : List PanelEdit}
    (hPlain : ∀ x ∈ edits, x.Gives fun _ => IsPlain)
    (hValid : (p.editAll edits).form.isValid = true) :
    let q := p.editAll edits
    let counts := ∀ f ∈ q.content.countFields, CountsBelow f.2 (q.form.current f.1)
    (q.apply n = .ok (q.save n) ↔ counts) ∧ (¬ counts → q.save n = n) := by
  intro q counts
  have hFor : q.IsFor n.kind := (isFor_ofNode? hPanel).editAll edits
  have hValues : q.form.AllValues fun _ => IsPlain := by
    obtain ⟨content, -, rfl⟩ := Option.map_eq_some_iff.1 hPanel
    exact (allValues_ofContent content n).editAll hPlain
  have hExists : (∃ u, q.apply n = .ok u) ↔ counts := hFor.exists_apply_iff hValues hValid
  rw [← hExists]
  constructor
  · constructor
    · exact fun hApply => ⟨_, hApply⟩
    · rintro ⟨u, hApply⟩
      rw [save_of_apply hValid hApply, hApply]
  · exact fun hNone => save_of_forall_ne fun u hApply => hNone ⟨u, hApply⟩

/-- A page to be read. -/
def onePage : Node := Node.new ⟨"s"⟩ "pages" (.webScraper { url := "u" })

/-- Its panel. -/
def onePagePanel : Panel := ofContent (.form .webScraper) onePage

/-- A number of pages is typed in. -/
def typePages (text : String) : List PanelEdit := [.setField "max_pages" (.string text)]

/-- A number of pages that is typed in is a text. -/
theorem isPlain_typePages (text : String) :
    ∀ x ∈ typePages text, x.Gives fun _ => IsPlain := by
  intro x hx
  rw [List.mem_singleton.1 hx]
  trivial

/-- A whole number is taken over, with a sign and white space or without. -/
theorem applies_iff_typePages :
    let q := onePagePanel.editAll (typePages " +07 ")
    q.form.isValid = true ∧ q.apply onePage = .ok (q.save onePage) ∧
      ((q.save onePage).data == .webScraper { url := "u", maxPages := 7 }) = true := by
  intro q
  have hValid : q.form.isValid = true := by decide +kernel
  have hCurrent : q.form.current "max_pages" = .string " +07 " := by
    show (Form.set _ _ _).current _ = _
    rw [Form.current_set, if_pos rfl]
  refine ⟨hValid, ?_, by decide +kernel⟩
  refine (applies_iff (p := onePagePanel) rfl (isPlain_typePages _) hValid).1.2 ?_
  intro f hf
  cases List.mem_singleton.1 hf
  rw [hCurrent]
  exact ⟨[0, 7], ⟨List.cons_ne_nil _ _, .inr (by decide)⟩, by decide⟩

/-- A number with a point passes as a positive number, but it is not taken over, although it is a
whole one. -/
theorem not_forall_applies :
    ¬ ∀ (n : Node) (p : Panel) (edits : List PanelEdit), ofNode? n.kind n = some p →
      (∀ x ∈ edits, ∃ field ∈ p.content.fields, ∃ v, IsPlain v ∧ x = .setField field.id v) →
        (p.editAll edits).form.isValid = true → ∃ u, (p.editAll edits).apply n = .ok u := by
  intro hAll
  have hOwn : ∀ x ∈ typePages "2.0", ∃ field ∈ onePagePanel.content.fields, ∃ v, IsPlain v ∧
      x = .setField field.id v := by
    intro x hx
    exact ⟨_, List.getLast_mem (by decide), .string "2.0", trivial, List.mem_singleton.1 hx⟩
  obtain ⟨u, hApply⟩ := hAll onePage onePagePanel (typePages "2.0") rfl hOwn (by decide +kernel)
  have hFails : ((onePagePanel.editAll (typePages "2.0")).apply onePage).isOk = false := by
    decide +kernel
  rw [hApply] at hFails
  cases hFails

end Panel

end FlowCanvas
