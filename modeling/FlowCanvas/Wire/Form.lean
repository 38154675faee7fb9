import FlowCanvas.Form.Field
import FlowCanvas.Wire.Decode
import FlowCanvas.Wire.Encode

/-!
# Documents of form fields

How the fields of a form are read from a document and written to one. A kind of fields, or a rule,
that has something to say beyond its name is an object with the name as its only key.
-/

set_option autoImplicit false

namespace FlowCanvas.Wire

open FlowCanvas.Json
open FlowCanvas.Form (Field FieldKind Validator)

/-! ## Reading -/

/-- Reads a name with what belongs to it: alone, or as the only key of an object. Nothing belongs
to a name with `null`. -/
def variant? : Document → Option (String × Option Document)
  | .string s => some (s, none)
  | .object [(s, .null)] => some (s, none)
  | .object [(s, d)] => some (s, some d)
  | _ => none

/-- Reads a record of which no field may be left out, except by its name. -/
def fullRecord? (names : List String) : Document → Option (List (Option Document))
  | .array items => if items.length = names.length then some (items.map some) else none
  | d => record? names d

/-- Reads the one field of what belongs to a name. It is always given by its name, in an
object. -/
def onlyField? {α : Type} (read? : Document → Option α) (name : String) : Document → Option α
  | .object fields => (fieldNamed? fields name).bind (required? read?)
  | _ => none

/-- Reads a kind of fields. -/
def fieldKind? (d : Document) : Option FieldKind := do
  match ← variant? d with
  | ("Text", none) => return .text
  | ("Number", none) => return .number
  | ("Boolean", none) => return .boolean
  | ("Json", none) => return .json
  | ("Select", some d) => return .select (← onlyField? (list? text?) "options" d)
  | ("Code", some d) => return .code (← onlyField? text? "language" d)
  | _ => none

/-- Reads a rule. -/
def validator? (d : Document) : Option Validator := do
  match ← variant? d with
  | ("Required", none) => return .required
  | ("JsonObject", none) => return .jsonObject
  | ("Positive", none) => return .positive
  | ("MinLength", some d) => return .minLength (← uint64? d).toNat
  | _ => none

/-- Reads a field. -/
def field? (d : Document) : Option Field := do
  let [id, label, kind, validators, initial] ←
      fullRecord? ["id", "label", "field_type", "validators", "default_value"] d | none
  return {
    id := ← required? text? id
    label := ← required? text? label
    kind := ← required? fieldKind? kind
    validators := ← required? (list? validator?) validators
    initial := ← optional? Value.ofDocument? initial }

/-! ## Writing -/

/-- The document of a kind of fields. -/
def ofFieldKind : FieldKind → Document
  | .text => .string "Text"
  | .number => .string "Number"
  | .boolean => .string "Boolean"
  | .json => .string "Json"
  | .select options => .object [("Select", .object [("options", ofList .string options)])]
  | .code language => .object [("Code", .object [("language", .string language)])]

/-- The document of a rule. -/
def ofValidator : Validator → Document
  | .required => .string "Required"
  | .jsonObject => .string "JsonObject"
  | .positive => .string "Positive"
  | .minLength count => .object [("MinLength", ofNat count)]

/-- The document of a field. -/
def ofField (f : Field) : Document :=
  .object [("id", .string f.id), ("label", .string f.label), ("field_type", ofFieldKind f.kind),
    ("validators", ofList ofValidator f.validators),
    ("default_value", ofOption Value.toDocument f.initial)]

end FlowCanvas.Wire
