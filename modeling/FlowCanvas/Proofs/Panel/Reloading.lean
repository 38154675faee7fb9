import FlowCanvas.Proofs.Form.Rows
import FlowCanvas.Proofs.Json.Rereading
import FlowCanvas.Proofs.Panel.Applying
import FlowCanvas.Proofs.Panel.Filling
import FlowCanvas.Proofs.Panel.Reading
import FlowCanvas.Proofs.Wire.Payloads
import Mathlib

/-!
# Nodes that a panel leaves as they are

A panel can be filled from a node and saved without an edit. Texts, numbers and objects are read
back from what is shown for them; only what a form does not keep as it is must have its normal form
already. A node that is in this form (`Node.IsSettled`) stays as it is
(`Panel.save_ofContent_of_isSettled`).
-/

set_option autoImplicit false

namespace FlowCanvas

open FlowCanvas.Json (Document Value)

/-! ## Reading what has been filled in -/

namespace Form

variable {form : Form} {id : String}

/-- A text is read back as what has been filled in. -/
theorem eq_of_text {s t : String} (hLookup : form.values.lookup id = some (.string s))
    (h : form.text id = .ok t) : t = s := by
  rw [text_of_lookup hLookup] at h
  exact (Except.ok.inj h).symm

/-- A text that may be missing is read back unless it is blank. -/
theorem eq_of_optionalText {o found : Option String}
    (hLookup : form.values.lookup id = some (.string (o.getD "")))
    (ho : ∀ s ∈ o, Text.isBlank s = false) (h : form.optionalText id = .ok found) :
    found = o := by
  rw [optionalText_of_lookup hLookup] at h
  rw [← Except.ok.inj h]
  cases o with
  | none => rfl
  | some s => exact if_neg (by rw [Option.getD_some, ho s rfl]; exact Bool.false_ne_true)

/-- What is read for a list is read off its items. -/
theorem eq_flatMap_of_list {glue : String} {items found : List String} (hGlue : IsGlue glue)
    (hLookup : form.values.lookup id = some (.string (glue.intercalate items)))
    (h : form.list id = .ok found) : found = items.flatMap partsOf := by
  obtain ⟨v, hValue, hList⟩ := list_eq_ok_iff.1 h
  cases hLookup.symm.trans hValue
  rw [← Option.some.inj hList, ← partsOf_intercalate hGlue]

/-- A list is read back as what has been filled in, whatever stands between its items. -/
theorem eq_of_list {glue : String} {items found : List String} (hGlue : IsGlue glue)
    (hLookup : form.values.lookup id = some (.string (glue.intercalate items)))
    (hParts : ∀ item ∈ items, IsPart item) (h : form.list id = .ok found) : found = items := by
  rw [eq_flatMap_of_list hGlue hLookup h, ← partsOf_intercalate hGlue]
  exact (partsOf_intercalate_eq_self_iff hGlue).2 hParts

/-- A whole number of 64 bits is taken as that number. -/
theorem numberOf?_ofInt {n : Nat} (hn : n < UInt64.size) :
    numberOf? (Value.ofInt n) = some (some (UInt64.ofNat n)) := by
  have hRange : (0 : Int) ≤ n ∧ (n : Int) < UInt64.size := by omega
  show (Json.Number.toUInt64? (.integer n)).map some = _
  rw [Json.Number.toUInt64?, if_pos hRange]
  rfl

/-- A whole number is read back as what has been filled in. -/
theorem eq_of_wholeNumber {i found : UInt64}
    (hLookup : form.values.lookup id = some (Value.ofInt i.toNat))
    (h : form.wholeNumber id = .ok found) : found = i := by
  obtain ⟨v, hValue, hNumber⟩ := optionalNumber_eq_ok_iff.1 (wholeNumber_eq_ok_iff.1 h)
  cases hLookup.symm.trans hValue
  rw [numberOf?_ofInt i.toNat_lt, UInt64.ofNat_toNat] at hNumber
  cases hNumber
  rfl

/-- A whole number that may be missing is read back as what has been filled in. -/
theorem eq_of_optionalNumber {o found : Option UInt64}
    (hLookup : form.values.lookup id =
      some ((o.map fun i => Value.ofInt i.toNat).getD .null))
    (h : form.optionalNumber id = .ok found) : found = o := by
  obtain ⟨v, hValue, hNumber⟩ := optionalNumber_eq_ok_iff.1 h
  cases hLookup.symm.trans hValue
  cases o with
  | none => exact (Option.some.inj hNumber).symm
  | some i =>
    rw [Option.map_some, Option.getD_some, numberOf?_ofInt i.toNat_lt, UInt64.ofNat_toNat]
      at hNumber
    exact (Option.some.inj hNumber).symm

/-- A small number is read back as what has been filled in. -/
theorem eq_of_smallNumber {expected : Expectation} {k found : UInt32}
    (hLookup : form.values.lookup id = some (Value.ofInt k.toNat))
    (h : form.smallNumber id expected = .ok found) : found = k := by
  have hSmall : k.toNat < UInt64.size := lt_trans k.toNat_lt (by decide)
  obtain ⟨i, hWhole, -, rfl⟩ := smallNumber_eq_ok_iff.1 h
  obtain ⟨v, hValue, hNumber⟩ := optionalNumber_eq_ok_iff.1 (wholeNumber_eq_ok_iff.1 hWhole)
  cases hLookup.symm.trans hValue
  rw [numberOf?_ofInt hSmall] at hNumber
  cases hNumber
  rw [UInt64.toNat_ofNat_of_lt' hSmall, UInt32.ofNat_toNat]

/-- The text of an object shows at least its braces. -/
theorem isBlank_stateText (fields : List (String × Value)) :
    Text.isBlank (Panel.stateText (.object fields)) = false := by
  rw [Panel.stateText, Document.print, Text.isBlank, String.toList_ofList, List.all_eq_false,
    Value.toDocument]
  refine ⟨'\x7b', ?_, by decide⟩
  cases Value.toFields fields with
  | nil => exact List.mem_cons_self
  | cons field rest => exact List.mem_cons_self

/-- An object is read back from its text if it is read at all. -/
theorem eq_of_object {fields : List (String × Value)} {found : Value}
    (hLookup : form.values.lookup id = some (.string (Panel.stateText (.object fields))))
    (hLegible : (Value.object fields).IsLegible) (h : form.object id = .ok found) :
    found = .object fields := by
  obtain ⟨v, hValue, hObject⟩ := object_eq_ok_iff.1 h
  cases hLookup.symm.trans hValue
  simp only [objectOf?, isBlank_stateText, Bool.false_eq_true, if_false] at hObject
  split at hObject
  · rename_i hRead
    rw [← Option.some.inj hObject]
    exact Value.eq_of_parse?_print Json.isBlank_indented hLegible hRead
  · cases hObject

end Form

/-! ## Settled nodes -/

/-- A piece of code as a form describes it: with a trimmed entry point that is not empty, and with
libraries that are read one by one. -/
structure PythonCode.IsSettled (code : PythonCode) : Prop where
  trim_entrypoint : Text.trim code.entrypoint = code.entrypoint
  entrypoint_ne_empty : code.entrypoint ≠ ""
  libraries : ∀ item ∈ code.libraries, Form.IsPart item

/-- The data of a node has the form in which it is read off a panel. -/
def Payload.IsSettled : Payload → Prop
  | .start state => ∃ fields, state = .object fields
  | .finish outputs => outputs.IsTrimmed
  | .python code => code.IsSettled
  | .conditionalEdge e => (∀ s ∈ e.next, Text.isBlank s = false) ∧ e.code.IsSettled
  | .fileExtractor f => ∀ item ∈ f.paths, Form.IsPart item
  | .webScraper w => Text.trim w.url = w.url ∧ ∀ s ∈ w.selector, Text.isBlank s = false
  | .webhookTrigger w => Panel.normalPath w.path = w.path ∧ w.code.IsSettled
  | _ => True

/-- A node has the form in which it is described by a panel. -/
structure Node.IsSettled (n : Node) : Prop where
  trim_name : Text.trim n.name = n.name
  outputPath : ∀ s ∈ n.outputPath, Text.isBlank s = false
  inputMap : n.inputMap.IsTrimmed
  data : n.data.IsSettled

namespace Panel

variable {content : Content} {n u : Node} {data : Payload} {code found : PythonCode}

/-- What fills a form is its value. -/
theorem FormKind.lookup_filled {kind : FormKind} {id : String} {v : Value}
    (h : (id, v) ∈ kind.values n.data) :
    (ofContent (.form kind) n).form.values.lookup id = some v :=
  lookup_ofContent_of_mem (List.mem_append_right _ h)

/-- Code that has been filled in is read back. -/
theorem ReadsCode.eq_of_filled (hFilled : ∀ entry ∈ codeValues code, entry ∈ content.filling n)
    (hCode : code.IsSettled) (h : ReadsCode (ofContent content n).form code found) :
    found = code := by
  have hEntry : ("entrypoint", Value.string code.entrypoint) ∈ codeValues code := by
    have hNonempty : ¬ code.entrypoint.isEmpty = true := by
      rw [String.isEmpty_iff]
      exact hCode.entrypoint_ne_empty
    simp [codeValues, hNonempty]
  have hText : found.code = code.code :=
    Form.eq_of_text (lookup_ofContent_of_mem (hFilled _ (by simp [codeValues]))) h.code
  have hEntrypoint : found.entrypoint = code.entrypoint := by
    obtain ⟨s, hRead, hTrim⟩ := h.entrypoint
    rw [← hTrim, Form.eq_of_text (lookup_ofContent_of_mem (hFilled _ hEntry)) hRead,
      hCode.trim_entrypoint]
  have hLibraries : found.libraries = code.libraries :=
    Form.eq_of_list Form.isGlue_comma
      (lookup_ofContent_of_mem (hFilled _ (by simp [codeValues]))) hCode.libraries h.libraries
  calc
    found = ⟨found.name, found.code, found.entrypoint, found.libraries⟩ := rfl
    _ = code := by rw [h.name, hText, hEntrypoint, hLibraries]

/-- An id is read back from what has been filled in for it, if anything has. -/
theorem eq_of_wholeNumber_filled {field : String} {i found : UInt64}
    (hFilled : ∀ entry ∈ idValue field i, entry ∈ content.filling n)
    (hUnfilled : i = 0 → field ∉ (content.filling n).map Prod.fst)
    (hInitial : content.initials.reverse.lookup field = some .null)
    (h : (ofContent content n).form.wholeNumber field = .ok found) : found = i := by
  by_cases hZero : i = 0
  · obtain ⟨v, hValue, hNumber⟩ :=
      Form.optionalNumber_eq_ok_iff.1 (Form.wholeNumber_eq_ok_iff.1 h)
    rw [lookup_ofContent_of_not_mem (hUnfilled hZero), hInitial] at hValue
    cases hValue
    cases hNumber
  · have hEntry : (field, Value.ofInt i.toNat) ∈ idValue field i := by simp [idValue, hZero]
    exact Form.eq_of_wholeNumber (lookup_ofContent_of_mem (hFilled _ hEntry)) h

/-- What a form has been filled with from settled data is read back. -/
theorem FormKind.eq_of_reads_filled {kind : FormKind} (hSettled : n.data.IsSettled)
    (h : Content.Reads (ofContent (.form kind) n).form (.form kind) n.data data) :
    data = n.data := by
  have hLookup : ∀ {id : String} {v : Value}, (id, v) ∈ kind.values n.data →
      (ofContent (.form kind) n).form.values.lookup id = some v := kind.lookup_filled
  have hCodeBack : ∀ {code found : PythonCode},
      (∀ entry ∈ codeValues code, entry ∈ kind.values n.data) → code.IsSettled →
        ReadsCode (ofContent (.form kind) n).form code found → found = code :=
    fun hFilled => ReadsCode.eq_of_filled fun entry hEntry =>
      List.mem_append_right _ (hFilled entry hEntry)
  generalize hData : n.data = stored at h hLookup hCodeBack hSettled
  cases h with
  | python hCode =>
    rw [hCodeBack (fun _ hEntry => hEntry) hSettled hCode]
  | @project stored found hId hName =>
    have hIdBack : found.id = stored.id := by
      refine eq_of_wholeNumber_filled (fun entry hEntry => ?_) (fun hZero => ?_) rfl hId
      · exact List.mem_append_right _ (hData ▸ List.mem_append_left _ hEntry)
      · simp [Content.filling, Content.values, FormKind.values, hData, idValue, hZero]
    have hNameBack : found.name = stored.name :=
      Form.eq_of_text (hLookup (List.mem_append_right _ List.mem_cons_self)) hName
    show Payload.project ⟨found.id, found.name⟩ = _
    rw [hIdBack, hNameBack]
  | @conditionalEdge stored found hSource hNext hCode =>
    have hSourceBack : found.source = stored.source :=
      Form.eq_of_text (hLookup List.mem_cons_self) hSource
    have hNextBack : found.next = stored.next :=
      Form.eq_of_optionalText (hLookup (List.mem_cons_of_mem _ List.mem_cons_self)) hSettled.1 hNext
    have hFound : found.code = stored.code :=
      hCodeBack (fun _ hEntry => List.mem_append_right _ hEntry) hSettled.2 hCode
    show Payload.conditionalEdge ⟨found.source, found.next, found.code⟩ = _
    rw [hSourceBack, hNextBack, hFound]
  | @fileExtractor stored found hPaths hFormat =>
    have hPathsBack : found.paths = stored.paths :=
      Form.eq_of_list Form.isGlue_lineFeed (hLookup List.mem_cons_self) hSettled hPaths
    have hFormatBack : found.format = stored.format :=
      Form.eq_of_text (hLookup (List.mem_cons_of_mem _ List.mem_cons_self)) hFormat
    show Payload.fileExtractor ⟨found.paths, found.format⟩ = _
    rw [hPathsBack, hFormatBack]
  | @webScraper stored url selector maxPages hPages hUrl hSelector =>
    have hUrlBack : url = stored.url :=
      Form.eq_of_text (hLookup List.mem_cons_self) hUrl
    have hSelectorBack : selector = stored.selector :=
      Form.eq_of_optionalText (hLookup (List.mem_cons_of_mem _ List.mem_cons_self)) hSettled.2
        hSelector
    have hPagesBack : maxPages = stored.maxPages :=
      Form.eq_of_smallNumber (hLookup (by simp [FormKind.values])) hPages
    rw [hUrlBack, hSelectorBack, hPagesBack, hSettled.1]
  | @codeAgent stored found hSteps hConfig hPrompt =>
    have hPromptBack : found.systemPrompt = stored.systemPrompt :=
      Form.eq_of_text (hLookup List.mem_cons_self) hPrompt
    have hStepsBack : found.maxSteps = stored.maxSteps :=
      Form.eq_of_smallNumber (hLookup (List.mem_cons_of_mem _ List.mem_cons_self)) hSteps
    have hConfigBack : found.llmConfig = stored.llmConfig :=
      Form.eq_of_optionalNumber (hLookup (by simp [FormKind.values])) hConfig
    show Payload.codeAgent ⟨found.llmConfig, found.systemPrompt, found.maxSteps⟩ = _
    rw [hPromptBack, hStepsBack, hConfigBack]
  | @webhookTrigger stored path code hPath hCode =>
    have hPathBack : path = stored.path := Form.eq_of_text (hLookup List.mem_cons_self) hPath
    have hFound : code = stored.code :=
      hCodeBack (fun _ hEntry => List.mem_cons_of_mem _ hEntry) hSettled.2 hCode
    rw [hPathBack, hFound, hSettled.1]
  | @subgraph stored id hId =>
    have hIdBack : id = stored := by
      refine eq_of_wholeNumber_filled (fun entry hEntry => ?_) (fun hZero => ?_) rfl hId
      · exact List.mem_append_right _ (hData ▸ hEntry)
      · simp [Content.filling, Content.values, FormKind.values, hData, idValue, hZero]
    rw [hIdBack]

/-- What a panel has been filled with from settled data is read back. Decision tables are left out
here, as they are not read off a form. -/
theorem Content.eq_of_reads_filled (hSettled : n.data.IsSettled) (hLegible : n.data.IsLegible)
    (hKind : content.node ≠ .decisionTable)
    (h : (content.load n.data).Reads (ofContent content n).form n.data data) : data = n.data := by
  cases content with
  | start unreadable =>
    have hLookup : (ofContent (.start unreadable) n).form.values.lookup "initial_state" =
        some (.string (stateText ((shownState? n.data).getD Value.empty))) :=
      lookup_ofContent_of_mem (List.mem_append_right _ List.mem_cons_self)
    generalize n.data = stored at h hLookup hSettled hLegible
    cases h with
    | start hState =>
      obtain ⟨fields, rfl⟩ := hSettled
      rw [Form.eq_of_object hLookup hLegible hState]
  | finish outputs =>
    generalize n.data = stored at h hSettled
    cases stored with
    | finish outputs =>
      cases h
      rw [Rows.toMap_ofMap_eq_self_iff.2 hSettled]
    | _ => cases h
  | decisionTable editor => exact absurd rfl hKind
  | form kind => exact kind.eq_of_reads_filled hSettled h

/-- A settled node is described by the panel that has been filled from it, and by nothing else. -/
theorem eq_of_apply_ofContent (hSettled : n.IsSettled) (hLegible : n.data.IsLegible)
    (hKind : content.node ≠ .decisionTable) (h : (ofContent content n).apply n = .ok u) :
    u = n := by
  obtain ⟨data, name, outputPath, hData, hName, hPath, rfl⟩ := apply_eq_ok_iff.1 h
  have hReads := Content.read_eq_ok_iff.1 hData
  have hDataBack : data = n.data :=
    Content.eq_of_reads_filled hSettled.data hLegible hKind hReads
  have hNameBack : name = n.name :=
    Form.eq_of_text (lookup_ofContent_of_mem List.mem_cons_self) hName
  have hPathBack : outputPath = n.outputPath :=
    Form.eq_of_optionalText (lookup_ofContent_of_mem (List.mem_cons_of_mem _ List.mem_cons_self))
      hSettled.outputPath hPath
  have hInputs : (ofContent content n).inputs.toMap = n.inputMap :=
    Rows.toMap_ofMap_eq_self_iff.2 hSettled.inputMap
  have hTable : data.table? = none :=
    hReads.table?_eq_none (hKind <| content.node_load n.data ▸ ·)
  rw [written, hTable, hDataBack, hNameBack, hPathBack, hInputs, hSettled.trim_name]
  rfl

/-- A settled node stays as it is if a panel is filled from it and saved without an edit. -/
theorem save_ofContent_of_isSettled (hSettled : n.IsSettled) (hLegible : n.data.IsLegible)
    (hKind : content.node ≠ .decisionTable) : (ofContent content n).save n = n := by
  unfold save
  split
  · split
    · rename_i u hApply
      exact eq_of_apply_ofContent hSettled hLegible hKind hApply
    · rfl
  · rfl

end Panel

end FlowCanvas
