import FlowCanvas.Json.Document
import FlowCanvas.Keyed.Sorted

/-!
# JSON values

A value is what a document says once its layout is forgotten: numerals have become numbers, and
the fields of an object are in the order of their keys, each key once. It is the type of the
places where a workflow lets the user write any JSON at all.

`Value.ofDocument?` reads a value, a repeated key taking its last field, and `Value.toDocument`
writes one.
-/

set_option autoImplicit false

namespace FlowCanvas.Json

/-- A JSON value. Objects have their fields in the order of their keys. -/
inductive Value where
  | null
  | bool (value : Bool)
  | number (value : Number)
  | string (value : String)
  | array (items : List Value)
  | object (fields : List (String × Value))
  deriving Inhabited

namespace Value

/-- The object without fields. -/
def empty : Value := .object []

mutual

/-- The value of a document. A numeral out of range has none, and neither has an unreadable
string. -/
def ofDocument? : Document → Option Value
  | .null => some .null
  | .bool b => some (.bool b)
  | .number n => (Number.ofNumeral? n).map .number
  | .string s => some (.string s)
  | .array items => (ofItems? items).map .array
  | .object fields => (ofFields? fields).map fun fields => .object (Sorted.ofList fields)
  | .unreadable => none

/-- The values of the items of an array. -/
def ofItems? : List Document → Option (List Value)
  | [] => some []
  | item :: items => do
    let value ← ofDocument? item
    let values ← ofItems? items
    return value :: values

/-- The values of the fields of an object, in the order of the document. -/
def ofFields? : List (String × Document) → Option (List (String × Value))
  | [] => some []
  | (key, item) :: fields => do
    let value ← ofDocument? item
    let values ← ofFields? fields
    return (key, value) :: values

end

mutual

/-- The document of a value. -/
def toDocument : Value → Document
  | .null => .null
  | .bool b => .bool b
  | .number n =>
    match n.numeral? with
    | some numeral => .number numeral
    | none => .null
  | .string s => .string s
  | .array items => .array (toItems items)
  | .object fields => .object (toFields fields)

/-- The documents of the items of an array. -/
def toItems : List Value → List Document
  | [] => []
  | item :: items => toDocument item :: toItems items

/-- The documents of the fields of an object. -/
def toFields : List (String × Value) → List (String × Document)
  | [] => []
  | (key, value) :: fields => (key, toDocument value) :: toFields fields

end

mutual

/-- Whether two values are equal, numbers being compared as numbers. -/
def beq : Value → Value → Bool
  | .null, .null => true
  | .bool a, .bool b => a == b
  | .number a, .number b => a == b
  | .string a, .string b => a == b
  | .array as, .array bs => beqItems as bs
  | .object as, .object bs => beqFields as bs
  | _, _ => false

/-- Whether two lists of items are equal. -/
def beqItems : List Value → List Value → Bool
  | [], [] => true
  | a :: as, b :: bs => beq a b && beqItems as bs
  | _, _ => false

/-- Whether two lists of fields are equal. -/
def beqFields : List (String × Value) → List (String × Value) → Bool
  | [], [] => true
  | (k, a) :: as, (l, b) :: bs => k == l && beq a b && beqFields as bs
  | _, _ => false

end

instance : BEq Value := ⟨beq⟩

/-- Reads a value from a text. -/
def parse? (text : String) : Option Value :=
  (Document.parse? text).bind ofDocument?

/-- The value of an integer. -/
def ofInt (i : Int) : Value := .number (.integer i)

end Value

end FlowCanvas.Json
