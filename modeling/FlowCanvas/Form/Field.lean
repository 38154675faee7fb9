import FlowCanvas.Form.NumberText
import FlowCanvas.Json.Value
import FlowCanvas.Text.Blank
import FlowCanvas.Text.Letters

/-!
# Fields

The fields that a form is made of, and the rules that their values are checked against. A rule
either passes a value or has a complaint about it.
-/

set_option autoImplicit false

namespace FlowCanvas.Form

open FlowCanvas.Json (Value)

/-- How a field is filled in. -/
inductive FieldKind where
  | text
  | number
  | boolean
  | select (options : List String)
  | code (language : String)
  | json
  deriving DecidableEq

/-- What a value of a field has to satisfy. -/
inductive Validator where
  /-- There is a value, and it is no blank text. -/
  | required
  /-- The value is a JSON object, or a text that writes one. -/
  | jsonObject
  /-- A text has at least so many characters. -/
  | minLength (count : Nat)
  /-- The value is a number greater than zero, or a text that writes one. -/
  | positive
  deriving DecidableEq

/-- What is wrong with a value. -/
inductive Complaint where
  | required
  | notAnObject
  /-- The text writes no JSON value at all. -/
  | invalidJson (text : String)
  | tooShort (count : Nat)
  | notPositive
  deriving DecidableEq

/-- The message shown for a complaint. What is wrong with a text that writes no JSON value is said
in the words of whoever reads such texts; these are given by the text. -/
def Complaint.message (explain : String → String) : Complaint → String
  | .required => "Required"
  | .notAnObject => "Must be a JSON object"
  | .invalidJson text => "Invalid JSON: " ++ explain text
  | .tooShort count => "Must be at least " ++ Digit.natText count ++ " characters"
  | .notPositive => "Must be greater than zero"

namespace Validator

/-- What a rule has to say against a value; nothing if the value passes. -/
def check? : Validator → Value → Option Complaint
  | required, .null => some .required
  | required, .string s => if Text.isBlank s then some .required else none
  | required, _ => none
  | jsonObject, .null => none
  | jsonObject, .object _ => none
  | jsonObject, .string s =>
    if Text.isBlank s then none
    else
      match Value.parse? s with
      | some (.object _) => none
      | some _ => some .notAnObject
      | none => some (.invalidJson s)
  | jsonObject, _ => some .notAnObject
  | minLength count, .string s => if s.length < count then some (.tooShort count) else none
  | minLength _, _ => none
  | positive, .null => none
  | positive, .number n => if n.isPositive then none else some .notPositive
  | positive, .string s =>
    if isPositiveText (Text.trimChars s.toList) then none else some .notPositive
  | positive, _ => some .notPositive

end Validator

/-- A field of a form. -/
structure Field where
  id : String
  /-- What is shown beside the field. -/
  label : String
  kind : FieldKind
  /-- The rules for the value; the first complaint counts. -/
  validators : List Validator := []
  /-- The value of the field in a new form. -/
  initial : Option Value := none

namespace Field

/-- The label that goes with an id: blanks for underscores, and a capital first letter. -/
def labelOf (id : String) : String :=
  Text.capitalize (String.ofList (id.toList.map fun c => if c = '_' then ' ' else c))

/-- A field with the label that goes with its id. -/
def new (id : String) (kind : FieldKind) : Field := { id, label := labelOf id, kind }

/-- A field for text. -/
def text (id : String) : Field := new id .text

/-- A field for a number. -/
def number (id : String) : Field := new id .number

/-- A field for Python code. -/
def python (id : String) : Field := new id (.code "python")

/-- The field with one more rule. -/
def validated (f : Field) (v : Validator) : Field := { f with validators := f.validators ++ [v] }

/-- The field with the rule that it must be filled in. -/
def required (f : Field) : Field := f.validated .required

/-- The field with a value for new forms. -/
def withInitial (f : Field) (v : Value) : Field := { f with initial := some v }

/-- Whether the field must be filled in. -/
def isRequired (f : Field) : Bool := f.validators.contains .required

/-- The first complaint about a value. -/
def complaint? (f : Field) (v : Value) : Option Complaint :=
  f.validators.findSome? (·.check? v)

end Field

end FlowCanvas.Form
