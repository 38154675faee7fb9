import FlowCanvas.Json.Value

/-!
# Reading data from JSON documents

The rules by which every record of a workflow is read from a document.

· A record is an object, or an array that lists its fields in their order.
· Fields of an object that the record does not know are skipped, whatever they hold; a field that
  it knows must not occur twice.
· Nothing is converted: a number is not a text, and a real number is not an integer.
· One of several names is a string, or an object with that name as its only key and `null` as its
  value.

Some records are read in two steps: their fields are first set aside and then looked through
(`Reading.setAside`). What is set aside must have a value throughout, and there the object that
stands for a name may have the empty object as its value.
-/

set_option autoImplicit false

namespace FlowCanvas.Wire

open FlowCanvas.Json

/-- Whether a document is read from the text at once, or after it has been set aside. -/
inductive Reading where
  | direct
  | setAside
  deriving DecidableEq

/-- Whether every part of the document has a value. -/
def hasValue (d : Document) : Bool := (Value.ofDocument? d).isSome

/-- Reads a text. -/
def text? : Document → Option String
  | .string s => some s
  | _ => none

/-- Reads a truth value. -/
def bool? : Document → Option Bool
  | .bool b => some b
  | _ => none

/-- Reads a number. -/
def number? : Document → Option Number
  | .number n => Number.ofNumeral? n
  | _ => none

/-- Reads an unsigned integer of 64 bits. -/
def uint64? (d : Document) : Option UInt64 := (number? d).bind Number.toUInt64?

/-- Reads an unsigned integer of 32 bits. -/
def uint32? (d : Document) : Option UInt32 := (number? d).bind Number.toUInt32?

/-- Reads a signed integer of 64 bits. -/
def int64? (d : Document) : Option Int64 := (number? d).bind Number.toInt64?

/-- Reads a list. -/
def list? {α : Type} (item? : Document → Option α) : Document → Option (List α)
  | .array items => items.mapM item?
  | _ => none

/-- Reads a map from texts to texts; of a repeated key the last entry counts. -/
def textMap? : Document → Option TextMap
  | .object fields =>
    (fields.mapM fun field => (text? field.2).map (field.1, ·)).map TextMap.ofList
  | _ => none

/-- Reads a value that may be `null`. -/
def nullable? {α : Type} (read? : Document → Option α) : Document → Option (Option α)
  | .null => some none
  | d => (read? d).map some

/-- Reads one of several names. -/
def name? {α : Type} (reading : Reading) (ofName? : String → Option α) : Document → Option α
  | .string s => ofName? s
  | .object [(s, .null)] => ofName? s
  | .object [(s, .object [])] => if reading = .setAside then ofName? s else none
  | _ => none

/-- The fields of an object that go by a name. -/
def fieldsNamed (name : String) (fields : List (String × Document)) : List Document :=
  (fields.filter (·.1 == name)).map (·.2)

/-- The field of an object that goes by a name, if there is one. There must not be two. -/
def fieldNamed? (fields : List (String × Document)) (name : String) : Option (Option Document) :=
  match fieldsNamed name fields with
  | [] => some none
  | [d] => some (some d)
  | _ => none

/-- The fields of a record with the given names, in that order. A field that is missing is
`none`. -/
def record? (names : List String) : Document → Option (List (Option Document))
  | .object fields => names.mapM (fieldNamed? fields)
  | .array items =>
    if items.length ≤ names.length then
      some (items.map some ++ List.replicate (names.length - items.length) none)
    else none
  | _ => none

/-- Reads a field that must be there. -/
def required? {α : Type} (read? : Document → Option α) : Option Document → Option α
  | none => none
  | some d => read? d

/-- Reads a field that has a default. -/
def withDefault? {α : Type} (read? : Document → Option α) (default : α) :
    Option Document → Option α
  | none => some default
  | some d => read? d

/-- Reads a field that may be missing or `null`. -/
def optional? {α : Type} (read? : Document → Option α) : Option Document → Option (Option α) :=
  withDefault? (nullable? read?) none

end FlowCanvas.Wire
