import FlowCanvas.Proofs.Panel.Discarding
import FlowCanvas.Proofs.Panel.Reloading
import Mathlib

/-!
# Saving an untouched list

A panel shows the list in the data of a node, its libraries or its paths, as one text. An untouched
panel that is saved makes of the list what is read off its items one by one
(`Panel.listed?_of_apply`). Items with a comma in them are taken apart, even where the panel itself
puts them on lines of their own. The list is kept exactly if there are none, or the form has a
complaint (`Panel.save_keeps_list_iff`).
-/

set_option autoImplicit false

namespace FlowCanvas

open FlowCanvas.Json (Value)
open FlowCanvas.Form (IsPart)

/-- The list in the data of a node that a panel shows as one text: libraries or paths. -/
def Payload.listed? : Payload → Option (List String)
  | .python code => some code.libraries
  | .conditionalEdge e => some e.code.libraries
  | .webhookTrigger w => some w.code.libraries
  | .fileExtractor f => some f.paths
  | _ => none

/-- An item without white space at its ends and without line feeds is one part of a text if there is
no comma in it. -/
theorem Form.isPart_iff {s : String} (hTrim : Text.trim s = s) (hBlank : Text.isBlank s = false)
    (hLine : '\n' ∉ s.toList) : IsPart s ↔ ',' ∉ s.toList := by
  constructor
  · intro h hComma
    exact absurd (h.isSeparator _ hComma) (by decide)
  · intro hComma
    refine ⟨Text.trim_eq_self_iff.1 hTrim, ?_, fun c hc => ?_⟩
    · rintro rfl
      cases hBlank
    · have hNotLine : c ≠ '\n' := fun h => hLine (h ▸ hc)
      have hNotComma : c ≠ ',' := fun h => hComma (h ▸ hc)
      simp [isSeparator, hNotLine, hNotComma]

namespace Panel

variable {content : Content} {p : Panel} {n u : Node} {data : Payload} {items : List String}

/-- What is read off a form for the list in the data that it has been filled with. -/
theorem FormKind.listed?_of_reads_filled {kind : FormKind}
    (h : Content.Reads (ofContent (.form kind) n).form (.form kind) n.data data)
    (hItems : n.data.listed? = some items) :
    data.listed? = some (items.flatMap Form.partsOf) := by
  have hLookup : ∀ {id : String} {v : Value}, (id, v) ∈ kind.values n.data →
      (ofContent (.form kind) n).form.values.lookup id = some v := kind.lookup_filled
  have hLibraries : ∀ {code found : PythonCode},
      (∀ entry ∈ codeValues code, entry ∈ kind.values n.data) →
        ReadsCode (ofContent (.form kind) n).form code found →
          found.libraries = code.libraries.flatMap Form.partsOf := fun hFilled hCode =>
    Form.eq_flatMap_of_list Form.isGlue_comma (hLookup (hFilled _ (by simp [codeValues])))
      hCode.libraries
  generalize n.data = stored at h hItems hLookup hLibraries
  cases h with
  | python hCode =>
    cases hItems
    exact congrArg some (hLibraries (fun _ hEntry => hEntry) hCode)
  | conditionalEdge hSource hNext hCode =>
    cases hItems
    exact congrArg some (hLibraries (fun _ hEntry => List.mem_append_right _ hEntry) hCode)
  | webhookTrigger hPath hCode =>
    cases hItems
    exact congrArg some (hLibraries (fun _ hEntry => List.mem_cons_of_mem _ hEntry) hCode)
  | fileExtractor hPaths hFormat =>
    cases hItems
    exact congrArg some
      (Form.eq_flatMap_of_list Form.isGlue_lineFeed (hLookup List.mem_cons_self) hPaths)
  | _ => cases hItems

/-- The panel of a node with a list is a form, in which nothing says how many. -/
theorem Content.exists_form_of_listed? (hKind : content.node = data.kind)
    (hItems : data.listed? = some items) :
    ∃ kind, content = .form kind ∧ kind.countFields = [] := by
  cases data with
  | python code => exact ⟨_, Content.eq_form_of_node_eq .python hKind, rfl⟩
  | conditionalEdge e => exact ⟨_, Content.eq_form_of_node_eq .conditionalEdge hKind, rfl⟩
  | webhookTrigger w => exact ⟨_, Content.eq_form_of_node_eq .webhookTrigger hKind, rfl⟩
  | fileExtractor f => exact ⟨_, Content.eq_form_of_node_eq .fileExtractor hKind, rfl⟩
  | _ => cases hItems

/-- An untouched panel makes of the list in the data of its node what is read off the items. -/
theorem listed?_of_apply (hKind : content.node = n.kind) (hItems : n.data.listed? = some items)
    (h : (ofContent content n).apply n = .ok u) :
    u.data.listed? = some (items.flatMap Form.partsOf) := by
  obtain ⟨data, name, outputPath, hData, -, -, rfl⟩ := apply_eq_ok_iff.1 h
  obtain ⟨kind, rfl, -⟩ := Content.exists_form_of_listed? hKind hItems
  rw [data_written]
  exact FormKind.listed?_of_reads_filled (Content.read_eq_ok_iff.1 hData) hItems

/-- An untouched panel that is saved keeps a list of trimmed items that are not blank and on one
line each, unless there is a comma in one of them. It keeps the whole node if it has a complaint. -/
theorem save_keeps_list_iff (hPanel : ofNode? n.kind n = some p)
    (hItems : n.data.listed? = some items) (hTrim : ∀ s ∈ items, Text.trim s = s)
    (hBlank : ∀ s ∈ items, Text.isBlank s = false) (hLine : ∀ s ∈ items, '\n' ∉ s.toList) :
    (p.save n).data.listed? = some items ↔
      p.form.isValid = false ∨ ∀ s ∈ items, ',' ∉ s.toList := by
  cases hValid : p.form.isValid with
  | false =>
    rw [save_of_isValid_eq_false hValid]
    exact iff_of_true hItems (.inl rfl)
  | true =>
    obtain ⟨content, hContent, rfl⟩ := Option.map_eq_some_iff.1 hPanel
    have hKind : content.node = n.kind := Content.node_of_ofNode? hContent
    obtain ⟨kind, rfl, hCounts⟩ := Content.exists_form_of_listed? hKind hItems
    obtain ⟨u, hApply⟩ :=
      ((isFor_ofNode? hPanel).exists_apply_iff (allValues_ofContent _ n) hValid).2
        (show ∀ f ∈ kind.countFields, _ by rw [hCounts]; exact List.forall_mem_nil _)
    rw [save_of_apply hValid hApply, listed?_of_apply hKind hItems hApply, Option.some.injEq,
      ← Form.partsOf_intercalate Form.isGlue_comma,
      Form.partsOf_intercalate_eq_self_iff Form.isGlue_comma, or_iff_right Bool.false_ne_true.symm]
    exact forall₂_congr fun s hs => Form.isPart_iff (hTrim s hs) (hBlank s hs) (hLine s hs)

/-- A piece of code with two libraries. -/
def withLibraries (first second : String) : Node :=
  Node.new ⟨"p"⟩ "code" (.python
    { name := "parse", code := "pass", entrypoint := "main", libraries := [first, second] })

/-- Two names are kept. -/
theorem save_keeps_list_iff_names :
    let n := withLibraries "numpy" "pandas"
    ((ofContent (.form .python) n).save n).data.listed? = some ["numpy", "pandas"] := by
  intro n
  exact (save_keeps_list_iff (p := ofContent (.form .python) n) rfl rfl (by decide)
    (by decide) (by decide)).2 (.inr (by decide))

/-- A library that is required in two versions is taken for two libraries. -/
theorem not_forall_save_keeps_list :
    ¬ ∀ (n : Node) (p : Panel) (items : List String), ofNode? n.kind n = some p →
      n.data.listed? = some items → (∀ s ∈ items, Text.trim s = s) →
        (∀ s ∈ items, Text.isBlank s = false) → (∀ s ∈ items, '\n' ∉ s.toList) →
          (p.save n).data.listed? = some items := by
  intro hAll
  have hKept := hAll (withLibraries "numpy>=1.0,<2.0" "pandas")
    (ofContent (.form .python) (withLibraries "numpy>=1.0,<2.0" "pandas")) _ rfl rfl
    (by decide) (by decide) (by decide)
  have hSplit : ((ofContent (.form .python) (withLibraries "numpy>=1.0,<2.0" "pandas")).save
      (withLibraries "numpy>=1.0,<2.0" "pandas")).data.listed? =
        some ["numpy>=1.0", "<2.0", "pandas"] := by decide
  rw [hSplit] at hKept
  exact absurd hKept (by decide)

end Panel

end FlowCanvas
