import FlowCanvas.Proofs.Panel.Discarding
import FlowCanvas.Proofs.Panel.Settling
import Mathlib

/-!
# The paths of webhooks

A path is trimmed first and freed of the slashes at its front then. The second step can bring white
space to the front, and this is the only thing that a second pass would change
(`Panel.normalPath_normalPath_iff`). So the path that a panel saves is settled unless there is white
space behind the slashes that have been typed at its front (`Panel.settles_path_iff`).
-/

set_option autoImplicit false

namespace FlowCanvas

open FlowCanvas.Json (Value)
open FlowCanvas.Form (Field Validator)

namespace Panel

variable {s : String}

/-! ## Normal paths -/

/-- In a trimmed text there is white space behind the slashes at the front. -/
def IsBlankBehindSlashes (s : String) : Prop :=
  ∃ k c rest, Text.trimChars s.toList = List.replicate (k + 1) '/' ++ c :: rest ∧
    Text.isBlankChar c = true

/-- A path in normal form is trimmed first and then loses the slashes at its front. -/
theorem toList_normalPath (s : String) :
    (normalPath s).toList = (Text.trimChars s.toList).dropWhile (· == '/') := by
  rw [normalPath, String.toList_ofList]

/-- A path in normal form does not start with a slash. -/
theorem head?_normalPath (s : String) : (normalPath s).toList.head? ≠ some '/' := by
  rw [toList_normalPath]
  intro hHead
  have hNot := List.head?_dropWhile_not (· == '/') (Text.trimChars s.toList)
  rw [hHead] at hNot
  cases hNot

/-- There is no white space at the end of a path. -/
theorem isBlankChar_getLast?_normalPath (s : String) :
    ∀ c ∈ (normalPath s).toList.getLast?, Text.isBlankChar c = false := by
  intro c hc
  rw [toList_normalPath] at hc
  obtain ⟨front, hFront⟩ := List.dropWhile_suffix (l := Text.trimChars s.toList) (· == '/')
  refine (Text.isTrimmed_trimChars s.toList).back c ?_
  rw [← hFront, List.getLast?_append, Option.mem_def.1 hc]
  rfl

/-- White space at the front of a path comes from behind the slashes. -/
theorem isBlankChar_head?_normalPath_iff :
    (∀ c ∈ (normalPath s).toList.head?, Text.isBlankChar c = false) ↔
      ¬ IsBlankBehindSlashes s := by
  rw [toList_normalPath]
  have hTrimmed := Text.isTrimmed_trimChars s.toList
  unfold IsBlankBehindSlashes
  generalize Text.trimChars s.toList = cs at hTrimmed
  constructor
  · rintro hFront ⟨k, c, rest, rfl, hBlank⟩
    have hSlashes : (List.replicate (k + 1) '/' ++ c :: rest).dropWhile (· == '/') = c :: rest := by
      have hNotSlash : c ≠ '/' := by
        rintro rfl
        cases hBlank
      rw [List.dropWhile_append_of_pos (by simp),
        List.dropWhile_cons_of_neg (by simpa using hNotSlash)]
    rw [hSlashes] at hFront
    rw [hFront c rfl] at hBlank
    cases hBlank
  · intro hNone c hc
    by_contra hBlank
    rw [Bool.not_eq_false] at hBlank
    obtain ⟨rest, hRest⟩ := List.head?_eq_some_iff.1 hc
    have hSlashes : cs.takeWhile (· == '/') = List.replicate (cs.takeWhile (· == '/')).length '/' :=
      List.eq_replicate_of_mem fun d hd => by simpa using List.mem_takeWhile_imp hd
    have hParts := List.takeWhile_append_dropWhile (p := (· == '/')) (l := cs)
    rw [hRest] at hParts
    cases hCount : (cs.takeWhile (· == '/')).length with
    | zero =>
      rw [List.length_eq_zero_iff.1 hCount, List.nil_append] at hParts
      rw [hTrimmed.front c (by rw [← hParts]; rfl)] at hBlank
      cases hBlank
    | succ k =>
      rw [hSlashes, hCount] at hParts
      exact hNone ⟨k, c, rest, hParts.symm, hBlank⟩

/-- A path that has been made normal stays as it is, unless white space has come to its front. -/
theorem normalPath_normalPath_iff :
    normalPath (normalPath s) = normalPath s ↔ ¬ IsBlankBehindSlashes s := by
  rw [← isBlankChar_head?_normalPath_iff, ← String.toList_inj, toList_normalPath (normalPath s)]
  constructor
  · intro hSame
    have hLength := (List.dropWhile_suffix (l := Text.trimChars (normalPath s).toList)
      (· == '/')).length_le
    rw [hSame] at hLength
    exact (Text.trimChars_eq_self_iff.1 (Text.trimChars_eq_self_of_length_le hLength)).front
  · intro hFront
    rw [Text.trimChars_eq_self_iff.2 ⟨hFront, isBlankChar_getLast?_normalPath s⟩, toList_normalPath,
      List.dropWhile_idempotent]

/-- A path that white space has come to the front of is not blank. -/
theorem IsBlankBehindSlashes.isBlank_normalPath (h : IsBlankBehindSlashes s) :
    Text.isBlank (normalPath s) = false := by
  have hNonempty : (normalPath s).toList ≠ [] := by
    intro hNil
    refine isBlankChar_head?_normalPath_iff.1 ?_ h
    rw [hNil]
    exact fun _ hc => nomatch hc
  have hLast := isBlankChar_getLast?_normalPath s _ (List.getLast?_eq_getLast_of_ne_nil hNonempty)
  rw [Text.isBlank, List.all_eq_false]
  exact ⟨_, List.getLast_mem hNonempty, by rw [hLast]; exact Bool.false_ne_true⟩

/-! ## Panels of webhooks -/

variable {p : Panel} {n u : Node} {w : Payload.WebhookTrigger}

/-- The fields in the panel of a webhook. -/
theorem fields_webhook : sharedFields ++ (Content.form .webhookTrigger).fields =
    [(Field.text "node_name").required, Field.text "output_variable_path",
      (Field.text "path").required, (Field.python "code").required,
      (Field.text "entrypoint").required.withInitial (.string "main"),
      Field.text "libraries"] := rfl

/-- A panel that has been filled from a webhook has no complaints if what is required is there. -/
theorem isValid_ofContent_webhook (hData : n.data = .webhookTrigger w)
    (hName : Text.isBlank n.name = false) (hPath : Text.isBlank w.path = false)
    (hCode : Text.isBlank w.code.code = false)
    (hEntrypoint : Text.isBlank w.code.entrypoint = false) :
    (ofContent (.form .webhookTrigger) n).form.isValid = true := by
  have hFilling : Content.filling (.form .webhookTrigger) n =
      [("node_name", .string n.name), ("output_variable_path", .string (n.outputPath.getD "")),
        ("path", .string w.path)] ++ codeValues w.code := by
    rw [Content.filling, Content.values, hData]
    rfl
  have hNonempty : ¬ w.code.entrypoint.isEmpty = true := by
    rw [String.isEmpty_iff]
    rintro hEmpty
    rw [hEmpty] at hEntrypoint
    cases hEntrypoint
  have hRequired : ∀ (id : String) {t : String},
      (id, .string t) ∈ Content.filling (.form .webhookTrigger) n → Text.isBlank t = false →
        ∀ rule ∈ [Validator.required],
          rule.check? ((ofContent (.form .webhookTrigger) n).form.current id) = none := by
    intro id t hEntry hBlank
    rw [List.forall_mem_singleton, current_ofContent_of_mem hEntry]
    exact Form.check?_required_string_iff.2 hBlank
  rw [(isFor_ofContent _ n).isValid_iff,
    show (ofContent _ n).content = .form .webhookTrigger from rfl, fields_webhook]
  simp only [List.forall_mem_cons]
  refine ⟨hRequired "node_name" ?_ hName, List.forall_mem_nil _, hRequired "path" ?_ hPath,
    hRequired "code" ?_ hCode, hRequired "entrypoint" ?_ hEntrypoint, List.forall_mem_nil _,
    List.forall_mem_nil _⟩
  · simp [hFilling]
  · simp [hFilling]
  · simp [hFilling, codeValues]
  · simp [hFilling, codeValues, hNonempty]

/-- A panel that leaves a webhook as it is has made its path normal. -/
theorem normalPath_eq_of_apply_ofContent (hData : n.data = .webhookTrigger w)
    (h : (ofContent (.form .webhookTrigger) n).apply n = .ok n) : normalPath w.path = w.path := by
  obtain ⟨data, name, outputPath, hRead, -, -, hWritten⟩ := apply_eq_ok_iff.1 h
  have hSame : data = n.data := by rw [← data_written _ n data name outputPath, hWritten]
  have hLookup : (ofContent (.form .webhookTrigger) n).form.values.lookup "path" =
      some (.string w.path) :=
    lookup_ofContent_of_mem (List.mem_append_right _ (by
      rw [Content.values, hData]
      exact List.mem_cons_self))
  rw [hSame] at hRead
  have hReads : Content.Reads _ (.form .webhookTrigger) n.data n.data :=
    Content.read_eq_ok_iff.1 hRead
  rw [hData] at hReads
  cases hReads with
  | webhookTrigger hPath hCode => exact (congrArg normalPath (Form.eq_of_text hLookup hPath)).symm

/-- What a panel makes of a webhook has been read off its form. -/
theorem IsFor.exists_of_apply_webhook (hFor : p.IsFor .webhookTrigger) (h : p.apply n = .ok u) :
    ∃ name path stored code, p.form.text "node_name" = .ok name ∧ u.name = Text.trim name ∧
      p.form.text "path" = .ok path ∧ ReadsCode p.form stored code ∧
      u.data = .webhookTrigger { path := normalPath path, code } := by
  obtain ⟨data, name, outputPath, hData, hName, -, rfl⟩ := apply_eq_ok_iff.1 h
  rw [Content.eq_form_of_node_eq .webhookTrigger hFor.node] at hData
  have hReads := Content.read_eq_ok_iff.1 hData
  generalize n.data = stored at hReads
  cases hReads with
  | webhookTrigger hPath hCode => exact ⟨name, _, _, _, hName, rfl, hPath, hCode, rfl⟩

/-- What a panel without complaints makes of a webhook gives rise to none either, if there is
something left of the path. -/
theorem IsFor.isValid_ofContent_of_apply_webhook (hFor : p.IsFor .webhookTrigger)
    (hValid : p.form.isValid = true) (hApply : p.apply n = .ok u)
    (hData : u.data = .webhookTrigger w) (hPath : Text.isBlank w.path = false) :
    (ofContent (.form .webhookTrigger) u).form.isValid = true := by
  obtain ⟨name, path, stored, code, hName, hNew, -, hCode, hRead⟩ :=
    hFor.exists_of_apply_webhook hApply
  have hFields : ∀ field ∈ sharedFields ++ (Content.form .webhookTrigger).fields,
      .required ∈ field.validators → ∀ {t : String}, p.form.text field.id = .ok t →
        Text.isBlank t = false := by
    rw [← Content.eq_form_of_node_eq .webhookTrigger hFor.node]
    exact fun field hField hRequired _ hText => hFor.isBlank_of_text hValid hField hRequired hText
  simp only [fields_webhook, List.forall_mem_cons] at hFields
  obtain ⟨hNameRule, -, -, hCodeRule, hEntrypointRule, -⟩ := hFields
  cases hData.symm.trans hRead
  obtain ⟨entrypoint, hEntrypoint, hTrim⟩ := hCode.entrypoint
  refine isValid_ofContent_webhook hRead ?_ hPath ?_ ?_
  · rw [hNew, Text.isBlank_trim]
    exact hNameRule (by decide) hName
  · exact hCodeRule (by decide) hCode.code
  · show Text.isBlank code.entrypoint = false
    rw [← hTrim, Text.isBlank_trim]
    exact hEntrypointRule (by decide) hEntrypoint

/-- A webhook that a panel without complaints has made changes once more when it is saved, unless
its path is normal already. -/
theorem IsFor.normalPath_eq_of_save_webhook (hFor : p.IsFor .webhookTrigger)
    (hValid : p.form.isValid = true) (hApply : p.apply n = .ok u)
    (hData : u.data = .webhookTrigger w) (hPath : Text.isBlank w.path = false)
    (hSame : (ofContent (.form .webhookTrigger) u).save u = u) : normalPath w.path = w.path := by
  have hValidAgain := hFor.isValid_ofContent_of_apply_webhook hValid hApply hData hPath
  have hKind : u.kind = .webhookTrigger := by rw [Node.kind, hData]; rfl
  have hForAgain : (ofContent (.form .webhookTrigger) u).IsFor u.kind := by
    rw [hKind]
    exact isFor_ofContent _ u
  obtain ⟨v, hAgain⟩ := (hForAgain.exists_apply_iff (allValues_ofContent _ u) hValidAgain).2
    (List.forall_mem_nil _)
  rw [save_of_apply hValidAgain hAgain] at hSame
  rw [hSame] at hAgain
  exact normalPath_eq_of_apply_ofContent hData hAgain

/-- Whatever has been typed into the panel of a webhook, the path that it makes of a text starts
with no slash and ends with no white space. If there is white space behind the slashes at the front
of the text, it comes to the front of the path, and a second save changes the path again; otherwise
the path starts with no white space, and a second save changes nothing. -/
theorem settles_path_iff (hPanel : ofNode? n.kind n = some p) (hKind : n.kind = .webhookTrigger)
    {edits : List PanelEdit} (hLists : ∀ x ∈ edits, x.Gives Form.ListsAreTexts)
    (hValid : ((p.editAll edits).setField "path" (.string s)).form.isValid = true)
    (hApply : ((p.editAll edits).setField "path" (.string s)).apply n = .ok u) :
    ∃ w, u.data = .webhookTrigger w ∧
      w.path.toList.head? ≠ some '/' ∧
      (∀ c ∈ w.path.toList.getLast?, Text.isBlankChar c = false) ∧
      ((∀ c ∈ w.path.toList.head?, Text.isBlankChar c = false) ↔ ¬ IsBlankBehindSlashes s) ∧
      ((((p.editAll edits).setField "path" (.string s)).load u).save u = u ↔
        ¬ IsBlankBehindSlashes s) := by
  generalize hq : (p.editAll edits).setField "path" (.string s) = q at hValid hApply
  have hFor : q.IsFor .webhookTrigger := by
    rw [← hq, ← hKind]
    exact ((isFor_ofNode? hPanel).editAll edits).edit (.setField "path" (.string s))
  have hTexts : q.form.AllValues Form.ListsAreTexts := by
    rw [← hq]
    exact (allValues_editAll_ofNode? hPanel hLists).set fun _ items => nofun
  have hLookup : q.form.values.lookup "path" = some (.string s) := by
    rw [← hq]
    exact (Form.lookup_set _ _ _ _).trans (if_pos rfl)
  have hLoad : q.load u = ofContent (.form .webhookTrigger) u := by
    rw [load, Content.eq_form_of_node_eq .webhookTrigger hFor.node]
  obtain ⟨-, path, -, code, -, -, hPath, -, hData⟩ := hFor.exists_of_apply_webhook hApply
  rw [Form.eq_of_text hLookup hPath] at hData
  refine ⟨_, hData, head?_normalPath s, isBlankChar_getLast?_normalPath s,
    isBlankChar_head?_normalPath_iff, ?_⟩
  rw [hLoad]
  constructor
  · intro hSame hBlank
    have hNormal := hFor.normalPath_eq_of_save_webhook hValid hApply hData
      hBlank.isBlank_normalPath hSame
    exact normalPath_normalPath_iff.1 hNormal hBlank
  · intro hNone
    have hSettled : u.IsSettled := by
      refine hFor.isSettled_of_apply (by decide) hValid hTexts (fun _ path hPath => ?_) hApply
      rw [Form.eq_of_text hLookup hPath]
      exact normalPath_normalPath_iff.2 hNone
    exact save_ofContent_of_isSettled hSettled (by rw [hData]; trivial) (by decide)

/-- A webhook with a piece of code. -/
def hook : Node :=
  Node.new ⟨"w"⟩ "hook" (.webhookTrigger
    { path := "", code := { name := "f", code := "pass", entrypoint := "main" } })

/-- Its panel with a path typed in. -/
def hookPanel (path : String) : Panel :=
  (ofContent (.form .webhookTrigger) hook).setField "path" (.string path)

/-- White space in front of the slashes and at the end is taken off, and that is all. -/
theorem settles_path_iff_hook :
    let u := (hookPanel " //a b/ ").save hook
    (u.data == .webhookTrigger
      { path := "a b/", code := { name := "f", code := "pass", entrypoint := "main" } }) = true ∧
      ((hookPanel " //a b/ ").load u).save u = u := by
  intro u
  have hValid : (hookPanel " //a b/ ").form.isValid = true := by decide
  have hApply : (hookPanel " //a b/ ").apply hook = .ok u :=
    apply_eq_ok_save hValid (by decide)
  have hNoEdits : ∀ x ∈ ([] : List PanelEdit), x.Gives Form.ListsAreTexts := List.forall_mem_nil _
  obtain ⟨w, -, -, -, -, hSettles⟩ :=
    settles_path_iff (p := ofContent (.form .webhookTrigger) hook) rfl rfl hNoEdits hValid hApply
  have hFront : ∀ c ∈ (normalPath " //a b/ ").toList.head?, Text.isBlankChar c = false := by
    rw [show (normalPath " //a b/ ").toList = ['a', ' ', 'b', '/'] by decide]
    rintro c ⟨⟩
    rfl
  exact ⟨by decide, hSettles.2 (isBlankChar_head?_normalPath_iff.1 hFront)⟩

/-- White space behind a slash comes to the front of the path, and a second save takes it off. -/
theorem not_forall_settles_path :
    ¬ ∀ (n u : Node) (w : Payload.WebhookTrigger) (p : Panel) (s : String),
      ofNode? n.kind n = some p → n.data = .webhookTrigger w →
        (∀ item ∈ w.code.libraries, Form.IsPart item) →
          (p.setField "path" (.string s)).form.isValid = true →
            (p.setField "path" (.string s)).apply n = .ok u →
              ((p.setField "path" (.string s)).load u).save u = u := by
  intro hAll
  have hValid : (hookPanel "/ x").form.isValid = true := by decide
  have hApply : (hookPanel "/ x").apply hook = .ok ((hookPanel "/ x").save hook) :=
    apply_eq_ok_save hValid (by decide)
  have hSame : ((hookPanel "/ x").load ((hookPanel "/ x").save hook)).save
      ((hookPanel "/ x").save hook) = (hookPanel "/ x").save hook :=
    hAll hook _ _ (ofContent (.form .webhookTrigger) hook) "/ x" rfl rfl (List.forall_mem_nil _)
      hValid hApply
  let shifted : Payload := .webhookTrigger
    { path := " x", code := { name := "f", code := "pass", entrypoint := "main" } }
  have hOnce : (((hookPanel "/ x").save hook).data == shifted) = true := by decide
  have hTwice : ((((hookPanel "/ x").load ((hookPanel "/ x").save hook)).save
      ((hookPanel "/ x").save hook)).data == shifted) = false := by decide
  rw [hSame, hOnce] at hTwice
  cases hTwice

end Panel

end FlowCanvas
