import FlowCanvas.Form.Basic
import FlowCanvas.Proofs.Keyed.Lists
import FlowCanvas.Proofs.Keyed.SortedEntries
import Mathlib

/-!
# Checked forms

The complaints of a form are kept up to date value by value. They are therefore always what a check
of all values would find (`Form.IsChecked`): a new form is checked (`Form.isChecked_new`), and it
stays so when values are set (`Form.IsChecked.set`). Hence a form is valid exactly if no value gives
rise to a complaint (`Form.IsChecked.isValid_iff`).
-/

set_option autoImplicit false

namespace FlowCanvas

open FlowCanvas.Json (Value)

namespace Form

variable {form : Form} {id k : String}

/-- A text that must be filled in passes unless it is blank. -/
theorem check?_required_string_iff {s : String} :
    Validator.required.check? (.string s) = none ↔ Text.isBlank s = false := by
  cases hBlank : Text.isBlank s <;> simp [Validator.check?, hBlank]

/-! ## What a check finds -/

/-- The field that the value with an id is checked against, the first one with that id. -/
def field? (form : Form) (id : String) : Option Field := form.fields.find? (·.id == id)

/-- The value with an id, null if there is none. -/
def current (form : Form) (id : String) : Value := (form.values.lookup id).getD .null

/-- What there is to complain about the value with an id. -/
def finding? (form : Form) (id : String) : Option Complaint :=
  (form.field? id).bind fun field => field.complaint? (form.current id)

/-- The complaints are those that a check of all values finds. -/
def IsChecked (form : Form) : Prop := ∀ id, form.complaint? id = form.finding? id

/-- Checking a value does not change the fields. -/
theorem fields_validate (form : Form) (id : String) : (form.validate id).fields = form.fields := by
  unfold validate
  split
  · rfl
  · split
    · rfl
    · rfl

/-- Checking a value does not change the values. -/
theorem values_validate (form : Form) (id : String) : (form.validate id).values = form.values := by
  unfold validate
  split
  · rfl
  · split
    · rfl
    · rfl

/-- Checking one value does not change what there is to complain about any of them. -/
theorem finding?_validate (form : Form) (id k : String) :
    (form.validate id).finding? k = form.finding? k := by
  simp only [finding?, field?, current, fields_validate, values_validate]

/-- A check puts right what is said about one value. -/
theorem complaint?_validate (hUndeclared : form.field? id = none → form.complaint? id = none) :
    (form.validate id).complaint? k = if k = id then form.finding? id else form.complaint? k := by
  unfold validate
  split
  · rename_i hNone
    have hFinding : form.finding? id = none := by
      rw [finding?, field?, hNone]
      rfl
    rw [hFinding]
    split
    · rename_i hHere
      rw [hHere, hUndeclared hNone]
    · rfl
  · rename_i field hField
    have hFinding : form.finding? id = field.complaint? (form.current id) := by
      rw [finding?, field?, hField]
      rfl
    rw [hFinding]
    split
    · rename_i complaint hComplaint
      rw [current, hComplaint]
      exact Sorted.lookup_insert id k complaint form.complaints
    · rename_i hComplaint
      rw [current, hComplaint]
      exact Sorted.lookup_filter_ne id k form.complaints

/-! ## Forms stay checked -/

/-- Checking the values of some fields makes up for what has not been checked before. -/
theorem isChecked_foldl_validate {rest : List Field}
    (hOthers : ∀ k, k ∉ rest.map Field.id → form.complaint? k = form.finding? k)
    (hUndeclared : ∀ k, form.field? k = none → form.complaint? k = none) :
    (rest.foldl (fun form field => form.validate field.id) form).IsChecked := by
  induction rest generalizing form with
  | nil => exact fun k => hOthers k List.not_mem_nil
  | cons field rest ih =>
    have hStep : ∀ k, (form.validate field.id).complaint? k =
        if k = field.id then form.finding? field.id else form.complaint? k := fun k =>
      complaint?_validate (hUndeclared field.id)
    apply ih
    · intro k hk
      rw [hStep, finding?_validate]
      split
      · rename_i hHere
        rw [hHere]
      · rename_i hElsewhere
        apply hOthers
        rw [List.map_cons, List.mem_cons, not_or]
        exact ⟨hElsewhere, hk⟩
    · intro k hNone
      rw [field?, fields_validate] at hNone
      rw [hStep]
      split
      · rename_i hHere
        rw [← hHere, finding?, field?, hNone]
        rfl
      · exact hUndeclared k hNone

/-- A new form is checked. -/
theorem isChecked_new (fields : List Field) : (Form.new fields).IsChecked := by
  apply isChecked_foldl_validate
  · intro k hk
    have hNone : fields.find? (·.id == k) = none := by
      rw [List.find?_eq_none]
      intro field hField hId
      exact hk (List.mem_map.2 ⟨field, hField, by simpa using hId⟩)
    rw [finding?, field?, hNone]
    rfl
  · intro k _
    rfl

/-- A new form has the fields that it is made of. -/
theorem fields_new (fields : List Field) : (Form.new fields).fields = fields := by
  refine List.foldlRecOn fields _ (motive := fun form : Form => form.fields = fields) rfl ?_
  exact fun form hForm field _ => (fields_validate form field.id).trans hForm

/-- A new form has the initial values of its fields; of several with one id the last one counts. -/
theorem values_new (fields : List Field) : (Form.new fields).values =
    Sorted.ofList (fields.map fun f => (f.id, f.initial.getD .null)) := by
  refine List.foldlRecOn fields _ (motive := fun form : Form => form.values = Sorted.ofList _)
    rfl ?_
  exact fun form hForm field _ => (values_validate form field.id).trans hForm

/-- Setting a value does not change the fields. -/
theorem fields_set (form : Form) (id : String) (v : Value) :
    (form.set id v).fields = form.fields := fields_validate _ _

/-- A value that is set is found under its id, and all others stay. -/
theorem lookup_set (form : Form) (id k : String) (v : Value) :
    (form.set id v).values.lookup k = if k = id then some v else form.values.lookup k := by
  rw [set, values_validate]
  exact Sorted.lookup_insert id k v form.values

/-- A value that is set is the current one for its id, and all others stay. -/
theorem current_set (form : Form) (id k : String) (v : Value) :
    (form.set id v).current k = if k = id then v else form.current k := by
  rw [current, lookup_set]
  split
  · rfl
  · rfl

/-- A checked form is checked after a value has been set. -/
theorem IsChecked.set (h : form.IsChecked) (id : String) (v : Value) :
    (form.set id v).IsChecked := by
  intro k
  have hUndeclared : form.field? id = none → form.complaint? id = none := by
    intro hNone
    rw [h id, finding?, hNone]
    rfl
  have hStep : (form.set id v).complaint? k =
      if k = id then (form.set id v).finding? id else form.complaint? k := by
    rw [Form.set, finding?_validate]
    exact complaint?_validate hUndeclared
  rw [hStep]
  split
  · rename_i hHere
    rw [hHere]
  · rename_i hElsewhere
    -- the value at any other id is the one that has been checked before
    rw [h k, finding?, finding?, field?, field?, fields_set, current_set, if_neg hElsewhere]

/-- A checked form is checked after any number of values have been set. -/
theorem IsChecked.setAll (h : form.IsChecked) (values : List (String × Value)) :
    (form.setAll values).IsChecked := by
  induction values generalizing form with
  | nil => exact h
  | cons entry rest ih => exact ih (h.set entry.1 entry.2)

/-! ## Valid forms -/

/-- A form is valid if it has no complaint about any id. -/
theorem isValid_iff : form.isValid = true ↔ ∀ id, form.complaint? id = none := by
  unfold isValid complaint?
  cases form.complaints with
  | nil => simp
  | cons entry rest =>
    constructor
    · intro hEmpty
      cases hEmpty
    · intro hNone
      have hFirst := hNone entry.1
      rw [Ordered.lookup_cons, if_pos rfl] at hFirst
      cases hFirst

/-- A checked form is valid if each of its values passes the first field with its id. -/
theorem IsChecked.isValid_iff (h : form.IsChecked) :
    form.isValid = true ↔
      ∀ field ∈ form.fields, form.field? field.id = some field →
        field.complaint? (form.current field.id) = none := by
  rw [Form.isValid_iff]
  constructor
  · intro hNone field _ hFirst
    have hHere := hNone field.id
    rw [h, finding?, hFirst] at hHere
    exact hHere
  · intro hPasses id
    rw [h, finding?]
    cases hField : form.field? id with
    | none => rfl
    | some field =>
      obtain rfl : field.id = id := by simpa using List.find?_some hField
      exact hPasses field (List.mem_of_find?_eq_some hField) hField

/-- If the fields have different ids, a checked form is valid if each value passes all rules of its
field. -/
theorem IsChecked.isValid_iff_rules (h : form.IsChecked)
    (hIds : (form.fields.map Field.id).Nodup) :
    form.isValid = true ↔ ∀ field ∈ form.fields, ∀ rule ∈ field.validators,
      rule.check? (form.current field.id) = none := by
  have hFirst : ∀ field ∈ form.fields, form.field? field.id = some field := by
    intro field hField
    exact Lists.find?_key_of_count hField
      (List.count_eq_one_of_mem hIds (List.mem_map_of_mem hField))
  rw [h.isValid_iff]
  constructor
  · intro hPasses field hField
    exact List.findSome?_eq_none_iff.1 (hPasses field hField (hFirst field hField))
  · intro hPasses field hField _
    exact List.findSome?_eq_none_iff.2 (hPasses field hField)

/-! ## What has been set -/

/-- Setting values does not change the fields. -/
theorem fields_setAll (form : Form) (values : List (String × Value)) :
    (form.setAll values).fields = form.fields := by
  induction values generalizing form with
  | nil => rfl
  | cons entry rest ih => exact (ih _).trans (fields_set form entry.1 entry.2)

/-- Of the values that have been set for an id, the last one counts. -/
theorem lookup_setAll (form : Form) (values : List (String × Value)) (id : String) :
    (form.setAll values).values.lookup id =
      (values.reverse.lookup id).or (form.values.lookup id) := by
  induction values generalizing form with
  | nil => rfl
  | cons entry rest ih =>
    show ((form.set entry.1 entry.2).setAll rest).values.lookup id = _
    rw [ih, lookup_set, List.reverse_cons, List.lookup_append, Option.or_assoc, Ordered.lookup_cons]
    split
    · rfl
    · rfl

/-- A text is read as it is. -/
theorem text_of_lookup {s : String} (h : form.values.lookup id = some (.string s)) :
    form.text id = .ok s := by
  unfold text value
  rw [h]
  rfl

/-- A text is read as it is, or as the lack of one if it is blank. -/
theorem optionalText_of_lookup {s : String} (h : form.values.lookup id = some (.string s)) :
    form.optionalText id = .ok (if Text.isBlank s then none else some s) := by
  unfold optionalText
  rw [text_of_lookup h]
  rfl

end Form

end FlowCanvas
