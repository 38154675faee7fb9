import FlowCanvas.Proofs.Form.Checking
import Mathlib

/-!
# The complaints of a form

A form checks a value when it is set and nothing else. Still its complaints are at all times those
that the values deserve (`Form.complains_exactly`): there is one about each declared id whose value
is refused by the first field with this id, it is what the first rule against the value has to say,
and there are no others, whether ids are declared once, several times or not at all. The messages
are those of the complaints, in whatever words the reader of JSON texts explains what it cannot read
(`Form.mem_messages_iff`).
-/

set_option autoImplicit false

namespace FlowCanvas

open FlowCanvas.Json (Value)

namespace Form

/-! ## What a field says -/

namespace Field

variable {f : Field} {v : Value} {c : Complaint}

/-- A complaint is the one of the first rule of a field that has any about a value. -/
def ObjectsFirst (f : Field) (v : Value) (c : Complaint) : Prop :=
  ∃ before rule after, f.validators = before ++ rule :: after ∧ rule.check? v = some c ∧
    ∀ earlier ∈ before, earlier.check? v = none

/-- The complaint of a field is the one of its first rule that has any. -/
theorem complaint?_eq_some_iff : f.complaint? v = some c ↔ f.ObjectsFirst v c :=
  List.findSome?_eq_some_iff

/-- A field has no complaint about a value that passes all of its rules. -/
theorem complaint?_eq_none_iff :
    f.complaint? v = none ↔ ∀ rule ∈ f.validators, rule.check? v = none :=
  List.findSome?_eq_none_iff

end Field

/-! ## One complaint for each id -/

variable {form : Form} {fields : List Field} {id : String}

/-- Checking one id keeps the complaints in the order of their ids. -/
theorem isSorted_complaints_validate (h : Sorted.IsSorted form.complaints) (id : String) :
    Sorted.IsSorted (form.validate id).complaints := by
  unfold validate
  split
  · exact h
  · split
    · exact Sorted.isSorted_insert _ _ h
    · exact List.Pairwise.filter _ h

/-- The complaints of a new form are in the order of their ids. -/
theorem isSorted_complaints_new (fields : List Field) :
    Sorted.IsSorted (Form.new fields).complaints := by
  refine List.foldlRecOn fields _ (motive := fun form : Form => Sorted.IsSorted form.complaints)
    List.Pairwise.nil ?_
  exact fun _ hForm field _ => isSorted_complaints_validate hForm field.id

/-- Setting values keeps the complaints in the order of their ids. -/
theorem isSorted_complaints_setAll (h : Sorted.IsSorted form.complaints)
    (updates : List (String × Value)) : Sorted.IsSorted (form.setAll updates).complaints := by
  refine List.foldlRecOn updates _ (motive := fun form : Form => Sorted.IsSorted form.complaints)
    h ?_
  intro form hForm entry _
  apply isSorted_complaints_validate
  exact hForm

/-- A complaint that a checked form holds about an id is the first one that its first field with the
id has. -/
theorem IsChecked.mem_complaints_iff (h : form.IsChecked)
    (hSorted : Sorted.IsSorted form.complaints) {c : Complaint} :
    (id, c) ∈ form.complaints ↔
      ∃ field, form.field? id = some field ∧ field.ObjectsFirst (form.current id) c := by
  have hFound : form.complaints.lookup id = form.finding? id := h id
  rw [hSorted.mem_iff_lookup, hFound, finding?, Option.bind_eq_some_iff]
  simp only [Field.complaint?_eq_some_iff]

/-- A checked form is valid if each value passes all rules of the first field with its id. -/
theorem IsChecked.isValid_iff_first (h : form.IsChecked) :
    form.isValid = true ↔ ∀ id field, form.field? id = some field →
      ∀ rule ∈ field.validators, rule.check? (form.current id) = none := by
  rw [Form.isValid_iff]
  refine forall_congr' fun id => ?_
  rw [h id, finding?, Option.bind_eq_none_iff]
  simp only [Field.complaint?_eq_none_iff]

/-! ## Messages -/

/-- A form has messages about the ids that it has complaints about. -/
theorem map_fst_messages (explain : String → String) (form : Form) :
    (form.messages explain).map Prod.fst = form.complaints.map Prod.fst := by
  unfold messages
  rw [List.map_map]
  rfl

/-- The messages of a form are those of its complaints. -/
theorem mem_messages_iff {explain : String → String} {text : String} :
    (id, text) ∈ form.messages explain ↔
      ∃ c, (id, c) ∈ form.complaints ∧ c.message explain = text := by
  unfold messages
  rw [List.mem_map]
  constructor
  · rintro ⟨⟨_, c⟩, hMem, hSame⟩
    obtain ⟨rfl, rfl⟩ := Prod.mk.inj hSame
    exact ⟨c, hMem, rfl⟩
  · rintro ⟨c, hMem, rfl⟩
    exact ⟨(id, c), hMem, rfl⟩

/-! ## Values -/

/-- In a new form, of several fields with one id the last one gives the value. -/
theorem lookup_new (fields : List Field) (id : String) : (Form.new fields).values.lookup id =
    (fields.reverse.find? (·.id == id)).map fun f => f.initial.getD .null := by
  rw [values_new, Sorted.lookup_ofList, ← List.map_reverse, Lists.lookup_map]

/-- Whatever values have been set in a form, declared or not, it has one message about each declared
id whose value the first field with this id refuses: the message of the first rule of this field
that refuses the current value, in the words that go with that value. It has no others, and it is
valid exactly if no such field refuses its value. The value of an id is the last one that has been
set, or else the initial one of the last field with this id. -/
theorem complains_exactly (explain : String → String) (fields : List Field)
    (updates : List (String × Value)) :
    let form := (Form.new fields).setAll updates
    ((form.messages explain).map Prod.fst).Nodup ∧
      (∀ id text, (id, text) ∈ form.messages explain ↔
        ∃ field c, fields.find? (·.id == id) = some field ∧
          field.ObjectsFirst (form.current id) c ∧ c.message explain = text) ∧
      (∀ id c, (id, c) ∈ form.complaints ↔ ∃ field, fields.find? (·.id == id) = some field ∧
        field.ObjectsFirst (form.current id) c) ∧
      (form.isValid = true ↔ ∀ id field, fields.find? (·.id == id) = some field →
        ∀ rule ∈ field.validators, rule.check? (form.current id) = none) ∧
      ∀ id, form.values.lookup id = (updates.reverse.lookup id).or
        ((fields.reverse.find? (·.id == id)).map fun f => f.initial.getD .null) := by
  intro form
  have hChecked : form.IsChecked := (isChecked_new fields).setAll updates
  have hSorted : Sorted.IsSorted form.complaints :=
    isSorted_complaints_setAll (isSorted_complaints_new fields) updates
  have hFields : form.fields = fields := (fields_setAll _ _).trans (fields_new fields)
  have hFirst : ∀ id, form.field? id = fields.find? (·.id == id) := by
    intro id
    rw [field?, hFields]
  have hComplaints : ∀ id c, (id, c) ∈ form.complaints ↔
      ∃ field, form.field? id = some field ∧ field.ObjectsFirst (form.current id) c :=
    fun id c => hChecked.mem_complaints_iff hSorted
  simp only [← hFirst]
  refine ⟨?_, fun id text => ?_, hComplaints, hChecked.isValid_iff_first, fun id => ?_⟩
  · rw [map_fst_messages]
    exact hSorted.nodup_keys
  · rw [mem_messages_iff]
    constructor
    · rintro ⟨c, hMem, hText⟩
      obtain ⟨field, hField, hObjects⟩ := (hComplaints id c).1 hMem
      exact ⟨field, c, hField, hObjects, hText⟩
    · rintro ⟨field, c, hField, hObjects, hText⟩
      exact ⟨c, (hComplaints id c).2 ⟨field, hField, hObjects⟩, hText⟩
  · rw [← lookup_new]
    exact lookup_setAll _ updates id

/-- Of two fields with one id the first has the rules and the last gives the value. -/
example :
    let first := (Field.text "x").required
    let last := (Field.text "x").withInitial (.string " ")
    ((Form.new [first, last]).setAll [("y", .string "a")]).complaints = [("x", .required)] ∧
      ((Form.new [last, first]).setAll [("x", .string " ")]).complaints = [] := by
  decide

/-- A message is about the text that is there now, not about the one before. -/
example :
    let config := (Field.new "config" .json).validated .jsonObject
    let form := (Form.new [config]).setAll [("config", .string "["), ("config", .string "]")]
    form.messages (fun text => text) = [("config", "Invalid JSON: ]")] := by
  decide

end Form

end FlowCanvas
