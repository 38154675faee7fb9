import FlowCanvas.Keyed.Sorted
import FlowCanvas.Text.Blank

/-!
# Rows

An editable list of keys and values that stands for a map from texts to texts. There is always a
blank row at the end to type in. Rows with a blank key do not count, and of rows with the same key
the last one does.
-/

set_option autoImplicit false

namespace FlowCanvas

/-- A row with a key and a value. -/
structure Row where
  key : String := ""
  value : String := ""
  deriving DecidableEq, Inhabited

namespace Row

/-- The row to type in. -/
def blank : Row := {}

/-- Whether there is nothing in the row. -/
def isBlank (r : Row) : Bool := Text.isBlank r.key && Text.isBlank r.value

end Row

/-- A list of rows that is being edited. -/
structure Rows where
  toList : List Row
  deriving DecidableEq

namespace Rows

/-- A blank row and nothing else. -/
def initial : Rows := ⟨[Row.blank]⟩

instance : Inhabited Rows := ⟨initial⟩

/-- The rows with a blank one at the end, which is added if there is none. -/
def withBlankEnd (rows : List Row) : Rows :=
  match rows.getLast? with
  | some row => if row.isBlank then ⟨rows⟩ else ⟨rows ++ [Row.blank]⟩
  | none => initial

/-- The rows of a map. -/
def ofMap (m : TextMap) : Rows :=
  withBlankEnd (m.entries.map fun entry => ⟨entry.1, entry.2⟩)

/-- Fills in the row at an index. Nothing happens if there is no such row. -/
def set (r : Rows) (index : Nat) (key value : String) : Rows :=
  if index < r.toList.length then withBlankEnd (r.toList.set index ⟨key, value⟩) else r

/-- Adds a blank row. -/
def push (r : Rows) : Rows := ⟨r.toList ++ [Row.blank]⟩

/-- Removes the row at an index; the last row that is left is replaced by a blank one. -/
def remove (r : Rows) (index : Nat) : Rows :=
  match r.toList.eraseIdx index with
  | [] => initial
  | rows => ⟨rows⟩

/-- The map that the rows stand for, keys and values trimmed. -/
def toMap (r : Rows) : TextMap :=
  TextMap.ofList ((r.toList.filter (!Text.isBlank ·.key)).map fun row =>
    (Text.trim row.key, Text.trim row.value))

end Rows

end FlowCanvas
