import FlowCanvas.Form.Field
import FlowCanvas.Flow.Payload
import FlowCanvas.Text.Cut

/-!
# Forms

A form holds a value for each of its fields and the complaints about them. The complaints are kept
up to date value by value: whenever a value is set, the first field with that id is checked again.

Values are untyped while they are edited. The reads (`Form.text`, `Form.wholeNumber`, …) take them
out as what they are meant to be, or say why that is not possible.
-/

set_option autoImplicit false

namespace FlowCanvas

open FlowCanvas.Json (Value)

namespace Form

/-- What a read wants a value to be. -/
inductive Expectation where
  | text
  | wholeNumber
  | jsonObject
  | stepCount
  | pageCount
  deriving DecidableEq

/-- The name of an expectation. -/
def Expectation.name : Expectation → String
  | text => "text"
  | wholeNumber => "a whole number"
  | jsonObject => "a JSON object"
  | stepCount => "a step count"
  | pageCount => "a page count"

end Form

/-- Why a form cannot be read, or not for a given node. -/
inductive FormError where
  | unknownField (field : String)
  | mismatch (field : String) (expected : Form.Expectation)
  | wrongKind (expected found : NodeKind)
  deriving DecidableEq

/-- The text shown for an error. -/
def FormError.message : FormError → String
  | .unknownField field => "Unknown form field '" ++ field ++ "'"
  | .mismatch field expected => "Field '" ++ field ++ "' should hold " ++ expected.name
  | .wrongKind expected found =>
    "Panel for '" ++ expected.name ++ "' cannot edit a '" ++ found.name ++ "' node"

/-- A form that is being filled in. -/
structure Form where
  fields : List Form.Field
  /-- The values by the ids of the fields. -/
  values : List (String × Value)
  /-- The complaints by the ids of the fields. -/
  complaints : List (String × Form.Complaint)

namespace Form

/-- Checks the value of the first field with an id. -/
def validate (form : Form) (id : String) : Form :=
  match form.fields.find? (·.id == id) with
  | none => form
  | some field =>
    match field.complaint? ((form.values.lookup id).getD .null) with
    | some complaint => { form with complaints := Sorted.insert id complaint form.complaints }
    | none => { form with complaints := form.complaints.filter (·.1 != id) }

/-- A new form, checked throughout. -/
def new (fields : List Field) : Form :=
  let values := Sorted.ofList (fields.map fun f => (f.id, f.initial.getD .null))
  fields.foldl (fun form f => form.validate f.id) ⟨fields, values, []⟩

/-- The form with another value for a field. -/
def set (form : Form) (id : String) (value : Value) : Form :=
  { form with values := Sorted.insert id value form.values }.validate id

/-- The form with other values for some fields, set one after the other. -/
def setAll (form : Form) (values : List (String × Value)) : Form :=
  values.foldl (fun form entry => form.set entry.1 entry.2) form

/-- Whether there are no complaints. -/
def isValid (form : Form) : Bool := form.complaints.isEmpty

/-- The complaint about a field. -/
def complaint? (form : Form) (id : String) : Option Complaint := form.complaints.lookup id

/-- The messages by the ids of the fields. -/
def messages (explain : String → String) (form : Form) : List (String × String) :=
  form.complaints.map fun entry => (entry.1, entry.2.message explain)

/-- The message about a field. -/
def message? (explain : String → String) (form : Form) (id : String) : Option String :=
  (form.complaint? id).map (·.message explain)

/-! ## Reads -/

variable (form : Form) (id : String)

/-- The value of a field. -/
def value : Except FormError Value :=
  match form.values.lookup id with
  | some v => .ok v
  | none => .error (.unknownField id)

/-- The text in a field. No value is the empty text, and a number is what is written for it. -/
def text : Except FormError String := do
  match ← form.value id with
  | .null => return ""
  | .string s => return s
  | .number n => return n.text
  | _ => throw (.mismatch id .text)

/-- The text in a field, unless it is blank. -/
def optionalText : Except FormError (Option String) := do
  let s ← form.text id
  return if Text.isBlank s then none else some s

/-- The whole number in a field, if there is a value. -/
def optionalNumber : Except FormError (Option UInt64) := do
  match ← form.value id with
  | .null => return none
  | .number n =>
    match n.toUInt64? with
    | some i => return some i
    | none => throw (.mismatch id .wholeNumber)
  | .string s =>
    if Text.isBlank s then return none
    else
      match wholeNumber? (Text.trimChars s.toList) with
      | some i => return some i
      | none => throw (.mismatch id .wholeNumber)
  | _ => throw (.mismatch id .wholeNumber)

/-- The whole number in a field. -/
def wholeNumber : Except FormError UInt64 := do
  match ← form.optionalNumber id with
  | some i => return i
  | none => throw (.mismatch id .wholeNumber)

/-- The whole number in a field, if it fits 32 bits; otherwise the field does not hold what is
expected. -/
def smallNumber (expected : Expectation) : Except FormError UInt32 := do
  let n ← form.wholeNumber id
  if n.toNat < UInt32.size then return UInt32.ofNat n.toNat else throw (.mismatch id expected)

/-- The parts of a text between line feeds and commas, trimmed, without the blank ones. -/
def partsOf (s : String) : List String :=
  ((Text.splitParts (fun c => c == '\n' || c == ',') s.toList).map Text.trimChars).filterMap
    fun part => if part.isEmpty then none else some (String.ofList part)

/-- The list in a field: the texts of an array, or the parts of a text. -/
def list : Except FormError (List String) := do
  match ← form.value id with
  | .array items =>
    return items.filterMap fun
      | .string s => some s
      | _ => none
  | _ => return partsOf (← form.text id)

/-- The JSON object in a field, given as a value or as text. No value is the empty object. -/
def object : Except FormError Value := do
  match ← form.value id with
  | .null => return Value.empty
  | .object fields => return .object fields
  | .string s =>
    if Text.isBlank s then return Value.empty
    else
      match Value.parse? s with
      | some (.object fields) => return .object fields
      | _ => throw (.mismatch id .jsonObject)
  | _ => throw (.mismatch id .jsonObject)

end Form

end FlowCanvas
