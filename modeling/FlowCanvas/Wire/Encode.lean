import FlowCanvas.Json.Value

/-!
# Writing data as JSON documents

The documents of the simple kinds of data that the records of a workflow are made of.
-/

set_option autoImplicit false

namespace FlowCanvas.Wire

open FlowCanvas.Json

/-- The document of an optional value: `null` where there is none. -/
def ofOption {α : Type} (write : α → Document) : Option α → Document
  | none => .null
  | some a => write a

/-- The document of a list. -/
def ofList {α : Type} (write : α → Document) (items : List α) : Document :=
  .array (items.map write)

/-- The document of an integer. -/
def ofInt (i : Int) : Document := .number (Numeral.ofInt i)

/-- The document of a natural number. -/
def ofNat (n : Nat) : Document := ofInt n

/-- The document of a map from texts to texts. -/
def ofTextMap (m : TextMap) : Document :=
  .object (m.entries.map fun entry => (entry.1, .string entry.2))

/-- The document of a number of 32 bits. An infinity is written as `null`. -/
def ofBinary32 (x : Binary Binary.binary32) : Document :=
  match numeralOf? layout32 x with
  | some numeral => .number numeral
  | none => .null

end FlowCanvas.Wire
