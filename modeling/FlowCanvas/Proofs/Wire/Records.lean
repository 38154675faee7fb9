import FlowCanvas.Proofs.Json.Values
import FlowCanvas.Proofs.Keyed.Lists
import FlowCanvas.Wire.Payload
import Mathlib

/-!
# Documents of records

The parts of a record are read back from the documents that they are written as. From an object the
fields of a record are taken by their names, so they are found whatever the record's own reader does
with them (`record?_object`).
-/

set_option autoImplicit false

namespace FlowCanvas.Wire

open FlowCanvas.Json

/-! ## Fields -/

/-- A field is found by its name. -/
theorem fieldNamed?_of_mem {fields : List (String × Document)} (hNames : (fields.map (·.1)).Nodup)
    {field : String × Document} (h : field ∈ fields) :
    fieldNamed? fields field.1 = some (some field.2) := by
  have hFound : fieldsNamed field.1 fields = [field.2] := by
    unfold fieldsNamed
    induction fields with
    | nil => simp at h
    | cons head rest ih =>
      rw [List.map_cons, List.nodup_cons] at hNames
      rcases List.mem_cons.1 h with rfl | hRest
      · have hNone : rest.filter (·.1 == field.1) = [] := by
          rw [List.filter_eq_nil_iff]
          intro other hOther hSame
          exact hNames.1 (List.mem_map.2 ⟨other, hOther, by simpa using hSame⟩)
        rw [List.filter_cons_of_pos (by simp), hNone]
        rfl
      · have hOther : ¬ head.1 = field.1 := fun hSame =>
          hNames.1 (hSame ▸ List.mem_map_of_mem hRest)
        rw [List.filter_cons_of_neg (by simpa using hOther)]
        exact ih hNames.2 hRest
  unfold fieldNamed?
  rw [hFound]

/-- The fields of a record are all found in an object that has them. -/
@[simp] theorem record?_object {names : List String} {fields : List (String × Document)}
    (hFields : fields.map (·.1) = names) (hNames : names.Nodup) :
    record? names (.object fields) = some (fields.map fun field => some field.2) := by
  subst hFields
  show (fields.map (·.1)).mapM (fieldNamed? fields) = _
  rw [List.mapM_map]
  exact Lists.mapM_eq_some fun field hField => fieldNamed?_of_mem hNames hField

/-! ## Simple data -/

/-- A text is read back. -/
@[simp] theorem text?_string (s : String) : text? (.string s) = some s := rfl

/-- A truth value is read back. -/
@[simp] theorem bool?_bool (b : Bool) : bool? (.bool b) = some b := rfl

/-- A required field that is there is read as it stands. -/
@[simp] theorem required?_some {α : Type} (read? : Document → Option α) (d : Document) :
    required? read? (some d) = read? d := rfl

/-- A field with a default that is there is read as it stands. -/
@[simp] theorem withDefault?_some {α : Type} (read? : Document → Option α) (default : α)
    (d : Document) : withDefault? read? default (some d) = read? d := rfl

/-- A list is read back if its items are. -/
theorem list?_ofList {α : Type} {read? : Document → Option α} {write : α → Document}
    {items : List α} (h : ∀ a ∈ items, read? (write a) = some a) :
    list? read? (ofList write items) = some items := by
  have hItems : items.mapM (read? ∘ write) = some (items.map id) := Lists.mapM_eq_some h
  unfold list? ofList
  simp only [List.mapM_map]
  rw [hItems, List.map_id]

/-- Texts are read back. -/
@[simp] theorem list?_text (items : List String) :
    list? text? (ofList .string items) = some items :=
  list?_ofList fun _ _ => rfl

/-- An optional value is read back if the value is and is not written as `null`. -/
theorem optional?_ofOption {α : Type} {read? : Document → Option α} {write : α → Document}
    (h : ∀ a, read? (write a) = some a) (hNull : ∀ a, write a ≠ .null) (o : Option α) :
    optional? read? (some (ofOption write o)) = some o := by
  cases o with
  | none => rfl
  | some a =>
    show nullable? read? (write a) = _
    unfold nullable?
    split
    · exact absurd ‹_› (hNull a)
    · rw [h]
      rfl

/-- A text that may be missing is read back. -/
@[simp] theorem optional?_text (o : Option String) :
    optional? text? (some (ofOption .string o)) = some o := by
  refine optional?_ofOption ?_ ?_ o
  · exact text?_string
  · exact fun _ => by simp

/-- A map of texts is read back. -/
@[simp] theorem textMap?_ofTextMap (m : TextMap) : textMap? (ofTextMap m) = some m := by
  have hEntries : (m.entries.map fun entry => (entry.1, Document.string entry.2)).mapM
      (fun field => (text? field.2).map (field.1, ·)) = some (m.entries.map id) := by
    rw [List.mapM_map]
    exact Lists.mapM_eq_some fun _ _ => rfl
  unfold textMap? ofTextMap
  simp only
  rw [hEntries, List.map_id, Option.map_some, TextMap.ofList_entries]

/-! ## Integers -/

/-- An integer of 64 bits is read back as a number. -/
theorem number?_ofInt {i : Int} (hLow : -2 ^ 63 ≤ i) (hHigh : i < 2 ^ 64) :
    number? (ofInt i) = some (.integer i) :=
  Number.ofNumeral?_ofInt hLow hHigh

/-- An unsigned integer of 64 bits is read back. -/
@[simp] theorem uint64?_ofNat (n : UInt64) : uint64? (ofNat n.toNat) = some n := by
  have hBound : n.toNat < 2 ^ 64 := n.toNat_lt
  have hSize : UInt64.size = 2 ^ 64 := rfl
  unfold uint64? ofNat
  rw [number?_ofInt (by omega) (by omega), Option.bind_some, Number.toUInt64?,
    if_pos ⟨by omega, by rw [hSize]; omega⟩]
  simp

/-- An unsigned integer of 32 bits is read back. -/
@[simp] theorem uint32?_ofNat (n : UInt32) : uint32? (ofNat n.toNat) = some n := by
  have hBound : n.toNat < 2 ^ 32 := n.toNat_lt
  have hSize : UInt32.size = 2 ^ 32 := rfl
  unfold uint32? ofNat
  rw [number?_ofInt (by omega) (by omega), Option.bind_some, Number.toUInt32?,
    if_pos ⟨by omega, by rw [hSize]; omega⟩]
  simp

/-- A signed integer of 64 bits is read back. -/
@[simp] theorem int64?_ofInt (n : Int64) : int64? (ofInt n.toInt) = some n := by
  have hLow : -2 ^ 63 ≤ n.toInt := n.le_toInt
  have hHigh : n.toInt < 2 ^ 63 := n.toInt_lt
  have hMin : Int64.minValue.toInt = -2 ^ 63 := by decide
  have hMax : Int64.maxValue.toInt = 2 ^ 63 - 1 := by decide
  unfold int64?
  rw [number?_ofInt hLow (by omega), Option.bind_some, Number.toInt64?, hMin, hMax,
    if_pos ⟨hLow, by omega⟩]
  simp

/-- A number that may be missing is read back. -/
@[simp] theorem optional?_id (o : Option UInt64) :
    optional? uint64? (some (ofOptionalId o)) = some o :=
  optional?_ofOption uint64?_ofNat (fun _ => by simp [ofNat, ofInt]) o

end FlowCanvas.Wire
