import FlowCanvas.Panel.Basic
import FlowCanvas.Proofs.Form.Reads
import Mathlib

/-!
# Panels that are filled from a node

A panel for a kind of nodes has the fields for this kind, in a checked state and with a value for
each of them (`Panel.IsFor`). In a panel that has been filled from a node, what fills a field is its
value (`Panel.lookup_ofContent_of_mem`), the other fields have their initial values, and all of
these are texts, numbers or nothing (`Panel.allValues_ofContent`).
-/

set_option autoImplicit false

namespace FlowCanvas

open FlowCanvas.Json (Value)
open FlowCanvas.Form (Field)

/-! ## The values in a form -/

namespace Form

variable {P : String → Value → Prop} {form : Form}

/-- All values of a form have a property. -/
def AllValues (P : String → Value → Prop) (form : Form) : Prop :=
  ∀ id v, form.values.lookup id = some v → P id v

/-- What holds of all values of a form holds for any weaker property. -/
theorem AllValues.mono {Q : String → Value → Prop} (h : form.AllValues P)
    (hPQ : ∀ id v, P id v → Q id v) : form.AllValues Q :=
  fun id v hLookup => hPQ id v (h id v hLookup)

/-- A property of all values is kept by setting a value that has it. -/
theorem AllValues.set (h : form.AllValues P) {id : String} {v : Value} (hv : P id v) :
    (form.set id v).AllValues P := by
  intro k w hLookup
  rw [lookup_set] at hLookup
  split at hLookup
  · rename_i hHere
    cases hLookup
    rwa [hHere]
  · exact h k w hLookup

/-- A text, a number or no value at all. -/
def IsPlain : Value → Prop
  | .null | .number _ | .string _ => True
  | _ => False

/-- Plain values are those that can be taken as texts. -/
theorem isPlain_iff {v : Value} : IsPlain v ↔ (textOf? v).isSome = true := by
  cases v <;> simp [IsPlain, textOf?]

/-- A plain value is no array. -/
theorem IsPlain.ne_array {v : Value} (h : IsPlain v) (items : List Value) : v ≠ .array items := by
  rintro rfl
  exact h

end Form

namespace Panel

variable {p : Panel} {n : Node} {kind : NodeKind}

/-! ## The kind of a panel -/

/-- Loading data keeps the kind of nodes that a panel is for. -/
theorem Content.node_load (content : Content) (data : Payload) :
    (content.load data).node = content.node := by
  cases content with
  | finish outputs => cases data <;> rfl
  | _ => rfl

/-- The fields of a panel depend on the kind of nodes that it is for, and on nothing else. -/
theorem Content.fields_eq_of_node_eq {content other : Content}
    (h : content.node = other.node) : content.fields = other.fields := by
  cases content with
  | form kind => cases other with
    | form kind' => cases kind <;> cases kind' <;> first | rfl | cases h
    | _ => cases kind <;> cases h
  | _ => cases other with
    | form kind' => cases kind' <;> cases h
    | _ => first | rfl | cases h

/-- A panel for the nodes of a form has this form. -/
theorem Content.eq_form_of_node_eq {content : Content} (kind : FormKind)
    (h : content.node = kind.node) : content = .form kind := by
  cases content with
  | form other => cases other <;> cases kind <;> first | rfl | cases h
  | _ => cases kind <;> cases h

/-- The content that belongs to a kind of nodes is for that kind. -/
theorem Content.node_of_ofNode? {content : Content} (h : Content.ofNode? kind = some content) :
    content.node = kind := by
  cases kind <;> cases h <;> rfl

/-- The fields of a panel have different ids. -/
theorem Content.nodup_ids (content : Content) :
    ((sharedFields ++ content.fields).map Field.id).Nodup := by
  cases content with
  | form kind => cases kind <;> decide
  | _ =>
    rw [Content.fields]
    decide

/-! ## The values that fill a panel -/

/-- The values that fill a panel from a node, those of the shared fields first. -/
def Content.filling (content : Content) (n : Node) : List (String × Value) :=
  [("node_name", .string n.name), ("output_variable_path", .string (n.outputPath.getD ""))] ++
    content.values n.data

/-- The values that the fields of a panel start out with. -/
def Content.initials (content : Content) : List (String × Value) :=
  (sharedFields ++ content.fields).map fun f => (f.id, f.initial.getD .null)

/-- In a panel that has been filled, a value has been filled in or is the initial one. -/
theorem lookup_ofContent (content : Content) (n : Node) (id : String) :
    (ofContent content n).form.values.lookup id =
      ((content.filling n).reverse.lookup id).or (content.initials.reverse.lookup id) := by
  rw [show (ofContent content n).form.values.lookup id = _ from Form.lookup_setAll _ _ _,
    Form.values_new, Sorted.lookup_ofList]
  rfl

/-- The values that code fills in are for the fields of code, in their order. -/
theorem keys_codeValues_sublist (code : PythonCode) :
    ((codeValues code).map Prod.fst).Sublist (codeFields.map Field.id) := by
  unfold codeValues
  split
  · show List.Sublist ["code", "libraries"] _
    decide
  · exact .refl _

/-- An id fills in at most its own field. -/
theorem keys_idValue_sublist (field : String) (id : UInt64) :
    ((idValue field id).map Prod.fst).Sublist [field] := by
  unfold idValue
  split
  · exact List.nil_sublist _
  · exact .refl _

/-- The values that fill a form are in the order of its fields. -/
theorem FormKind.keys_values_sublist (kind : FormKind) (data : Payload) :
    ((kind.values data).map Prod.fst).Sublist (kind.fields.map Field.id) := by
  unfold FormKind.values
  split
  · exact keys_codeValues_sublist _
  · rw [List.map_append]
    exact (keys_idValue_sublist _ _).append (.refl ["name"])
  · rw [List.map_append]
    exact (List.Sublist.refl ["source", "then"]).append (keys_codeValues_sublist _)
  · exact .refl _
  · exact .refl _
  · exact .refl _
  · exact (keys_codeValues_sublist _).cons_cons "path"
  · exact keys_idValue_sublist _ _
  · exact List.nil_sublist _

/-- The values that data fill in are for the fields of the panel, in their order. -/
theorem Content.keys_values_sublist (content : Content) (data : Payload) :
    ((content.values data).map Prod.fst).Sublist (content.fields.map Field.id) := by
  cases content with
  | form kind => exact kind.keys_values_sublist data
  | _ => exact .refl _

/-- No field is filled in twice. -/
theorem Content.nodup_keys_filling (content : Content) (n : Node) :
    ((content.filling n).map Prod.fst).Nodup := by
  refine List.Nodup.sublist ?_ content.nodup_ids
  rw [filling, List.map_append, List.map_append]
  exact (List.Sublist.refl ["node_name", "output_variable_path"]).append
    (content.keys_values_sublist n.data)

/-- What fills a field is its value. -/
theorem lookup_ofContent_of_mem {content : Content} {id : String} {v : Value}
    (h : (id, v) ∈ content.filling n) :
    (ofContent content n).form.values.lookup id = some v := by
  have hOne : ∀ other, (id, other) ∈ content.filling n → other = v := fun other hOther =>
    congrArg Prod.snd (List.inj_on_of_nodup_map (content.nodup_keys_filling n) hOther h rfl)
  rw [lookup_ofContent, ← Sorted.lookup_ofList, Sorted.ofList_eq_ofEntries,
    Ordered.lookup_ofEntries_of_mem h hOne]
  rfl

/-- A field that is filled in has the value that it is filled with. -/
theorem current_ofContent_of_mem {content : Content} {id : String} {v : Value}
    (h : (id, v) ∈ content.filling n) : (ofContent content n).form.current id = v := by
  rw [Form.current, lookup_ofContent_of_mem h]
  rfl

/-- What has not been filled has its initial value. -/
theorem lookup_ofContent_of_not_mem {content : Content} {id : String}
    (h : id ∉ (content.filling n).map Prod.fst) :
    (ofContent content n).form.values.lookup id = content.initials.reverse.lookup id := by
  have hNone : (content.filling n).reverse.lookup id = none := by
    rw [List.lookup_eq_none_iff]
    intro entry hEntry
    rw [bne_iff_ne]
    rintro rfl
    exact h (List.mem_map_of_mem (List.mem_reverse.1 hEntry))
  rw [lookup_ofContent, hNone]
  rfl

/-- A panel for a kind of nodes, with a checked form that has a value for each field. -/
structure IsFor (p : Panel) (kind : NodeKind) : Prop where
  node : p.content.node = kind
  fields : p.form.fields = sharedFields ++ p.content.fields
  isChecked : p.form.IsChecked
  filled : ∀ field ∈ p.form.fields, ∃ v, p.form.values.lookup field.id = some v

/-- A panel that has been filled from a node is one for its kind. -/
theorem isFor_ofContent (content : Content) (n : Node) :
    (ofContent content n).IsFor content.node where
  node := content.node_load n.data
  fields := by
    show Form.fields (Form.setAll _ _) = _ ++ (content.load n.data).fields
    rw [Form.fields_setAll, Form.fields_new,
      Content.fields_eq_of_node_eq (content.node_load n.data)]
  isChecked := (Form.isChecked_new _).setAll _
  filled := by
    intro field hField
    rw [show (ofContent content n).form.fields = _ from Form.fields_setAll _ _, Form.fields_new]
      at hField
    rw [← Option.isSome_iff_exists, lookup_ofContent, Option.isSome_or, Bool.or_eq_true]
    right
    rw [Option.isSome_iff_ne_none, Ne, List.lookup_eq_none_iff]
    intro hNone
    have hEntry := hNone (field.id, field.initial.getD .null)
      (List.mem_reverse.2 (List.mem_map_of_mem hField))
    simp at hEntry

/-- A panel that belongs to a kind of nodes is one for that kind. -/
theorem isFor_ofNode? (h : ofNode? kind n = some p) : p.IsFor kind := by
  obtain ⟨content, hContent, rfl⟩ := Option.map_eq_some_iff.1 h
  rw [← Content.node_of_ofNode? hContent]
  exact isFor_ofContent content n

namespace IsFor

/-- A panel has a value for each of its fields. -/
theorem lookup_current (hFor : p.IsFor kind) {field : Field}
    (hField : field ∈ sharedFields ++ p.content.fields) :
    p.form.values.lookup field.id = some (p.form.current field.id) := by
  obtain ⟨v, hLookup⟩ := hFor.filled field (hFor.fields ▸ hField)
  rw [Form.current, hLookup]
  rfl

/-- The form of a panel is valid if each value passes all rules of its field. -/
theorem isValid_iff (h : p.IsFor kind) :
    p.form.isValid = true ↔ ∀ field ∈ sharedFields ++ p.content.fields,
      ∀ rule ∈ field.validators, rule.check? (p.form.current field.id) = none := by
  rw [h.isChecked.isValid_iff_rules (h.fields ▸ p.content.nodup_ids), h.fields]

end IsFor

/-! ## Texts and numbers -/

open Form (IsPlain)

/-- Code is filled in by texts. -/
theorem isPlain_of_mem_codeValues {code : PythonCode} {entry : String × Value}
    (h : entry ∈ codeValues code) : IsPlain entry.2 := by
  simp only [codeValues, List.mem_append, List.mem_singleton] at h
  rcases h with (rfl | hEntry) | rfl
  · trivial
  · split at hEntry
    · cases hEntry
    · rw [List.mem_singleton.1 hEntry]
      trivial
  · trivial

/-- An id is filled in by a number. -/
theorem isPlain_of_mem_idValue {field : String} {id : UInt64} {entry : String × Value}
    (h : entry ∈ idValue field id) : IsPlain entry.2 := by
  unfold idValue at h
  split at h
  · cases h
  · rw [List.mem_singleton.1 h]
    trivial

/-- A form is filled with plain values. -/
theorem FormKind.isPlain_of_mem_values {kind : FormKind} {data : Payload} {entry : String × Value}
    (h : entry ∈ kind.values data) : IsPlain entry.2 := by
  unfold FormKind.values at h
  split at h
  · exact isPlain_of_mem_codeValues h
  · rcases List.mem_append.1 h with hId | hName
    · exact isPlain_of_mem_idValue hId
    · rw [List.mem_singleton.1 hName]
      trivial
  · rcases List.mem_append.1 h with hEdge | hCode
    · rcases List.mem_pair.1 hEdge with rfl | rfl
      · trivial
      · trivial
    · exact isPlain_of_mem_codeValues hCode
  · rcases List.mem_pair.1 h with rfl | rfl
    · trivial
    · trivial
  · rcases List.mem_cons.1 h with rfl | hRest
    · trivial
    · rcases List.mem_pair.1 hRest with rfl | rfl
      · trivial
      · trivial
  · rename_i agent
    rcases List.mem_cons.1 h with rfl | hRest
    · trivial
    · rcases List.mem_pair.1 hRest with rfl | rfl
      · trivial
      · cases agent.llmConfig <;> trivial
  · rcases List.mem_cons.1 h with rfl | hCode
    · trivial
    · exact isPlain_of_mem_codeValues hCode
  · exact isPlain_of_mem_idValue h
  · cases h

/-- Data are filled in by texts and numbers. -/
theorem Content.isPlain_of_mem_values {content : Content} {data : Payload}
    {entry : String × Value} (h : entry ∈ content.values data) : IsPlain entry.2 := by
  cases content with
  | form kind => exact FormKind.isPlain_of_mem_values h
  | finish outputs => cases h
  | _ =>
    rw [List.mem_singleton.1 h]
    trivial

/-- The fields of a panel start out with plain values. -/
theorem Content.isPlain_initial {content : Content} {field : Field}
    (h : field ∈ sharedFields ++ content.fields) : IsPlain (field.initial.getD .null) := by
  revert field
  cases content with
  | form kind =>
    cases kind <;>
      simp [sharedFields, Content.fields, FormKind.fields, codeFields, countField, positiveField,
        Field.text, Field.number, Field.python, Field.new, Field.required, Field.validated,
        Field.withInitial, IsPlain, Value.ofInt]
  | _ =>
    simp [sharedFields, Content.fields, Field.text, Field.new, Field.required, Field.validated,
      IsPlain]

/-- In a panel that has been filled from a node, all values are plain. -/
theorem allValues_ofContent (content : Content) (n : Node) :
    (ofContent content n).form.AllValues fun _ v => IsPlain v := by
  intro id v hLookup
  rw [lookup_ofContent, Option.or_eq_some_iff] at hLookup
  have hMem : ∀ {entries : List (String × Value)}, entries.reverse.lookup id = some v →
      (id, v) ∈ entries := by
    intro entries hFound
    obtain ⟨before, after, hSplit, -⟩ := List.lookup_eq_some_iff.1 hFound
    exact List.mem_reverse.1 (hSplit ▸ by simp)
  rcases hLookup with hFilled | ⟨-, hInitial⟩
  · rcases List.mem_append.1 (hMem hFilled) with hShared | hValue
    · rcases List.mem_pair.1 hShared with hEntry | hEntry
      · cases hEntry
        trivial
      · cases hEntry
        trivial
    · exact Content.isPlain_of_mem_values hValue
  · obtain ⟨field, hField, hEntry⟩ := List.mem_map.1 (hMem hInitial)
    cases hEntry
    exact Content.isPlain_initial hField

end Panel

end FlowCanvas
