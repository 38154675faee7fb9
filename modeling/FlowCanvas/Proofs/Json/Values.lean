import FlowCanvas.Json.Value
import FlowCanvas.Proofs.Json.Reading
import FlowCanvas.Proofs.Keyed.SortedEntries
import Mathlib

/-!
# Documents of values

A value is read back from its document, provided that its numbers are read back from their numerals
and that its objects have their fields in order (`Value.ofDocument?_toDocument`). Its document is
legible then, and conversely every legible document has a value.
-/

set_option autoImplicit false

namespace FlowCanvas.Json

/-- A number that is read back from the numeral that it is written as. -/
def Number.IsLegible (x : Number) : Prop :=
  ∃ n, x.numeral? = some n ∧ n.IsLegible ∧ Number.ofNumeral? n = some x

/-- An integer of 64 bits is legible. -/
theorem Number.isLegible_integer {i : Int} (hLow : -2 ^ 63 ≤ i) (hHigh : i < 2 ^ 64) :
    (Number.integer i).IsLegible :=
  ⟨_, rfl, Numeral.isLegible_ofInt i, ofNumeral?_ofInt hLow hHigh⟩

namespace Value

mutual

/-- Whether the numbers of a value are read back and its objects are in order. -/
def IsLegible : Value → Prop
  | .null | .bool _ | .string _ => True
  | .number n => n.IsLegible
  | .array items => AreLegible items
  | .object fields => Sorted.IsSorted fields ∧ AreLegibleFields fields

/-- Whether this holds of all items. -/
def AreLegible : List Value → Prop
  | [] => True
  | item :: items => IsLegible item ∧ AreLegible items

/-- Whether this holds of the values of all fields. -/
def AreLegibleFields : List (String × Value) → Prop
  | [] => True
  | (_, value) :: fields => IsLegible value ∧ AreLegibleFields fields

end

mutual

/-- A value is read back from its document. -/
theorem ofDocument?_toDocument (v : Value) (hv : v.IsLegible) :
    ofDocument? v.toDocument = some v := by
  match v with
  | .null => rfl
  | .bool b => rfl
  | .string s => rfl
  | .number x =>
    obtain ⟨n, hNumeral, -, hBack⟩ := hv
    rw [toDocument, hNumeral]
    simp only [ofDocument?, hBack, Option.map_some]
  | .array items =>
    rw [toDocument, ofDocument?, ofItems?_toItems items hv]
    rfl
  | .object fields =>
    rw [toDocument, ofDocument?, ofFields?_toFields fields hv.2, Option.map_some,
      Sorted.ofList_of_isSorted hv.1]

/-- Legible items are read back. -/
theorem ofItems?_toItems (items : List Value) (hItems : AreLegible items) :
    ofItems? (toItems items) = some items := by
  match items with
  | [] => rfl
  | item :: items =>
    rw [toItems, ofItems?, ofDocument?_toDocument item hItems.1, ofItems?_toItems items hItems.2]
    rfl

/-- Legible fields are read back. -/
theorem ofFields?_toFields (fields : List (String × Value)) (hFields : AreLegibleFields fields) :
    ofFields? (toFields fields) = some fields := by
  match fields with
  | [] => rfl
  | (key, value) :: fields =>
    rw [toFields, ofFields?, ofDocument?_toDocument value hFields.1,
      ofFields?_toFields fields hFields.2]
    rfl

end

mutual

/-- The document of a value is read back from its text. -/
theorem isLegible_toDocument (v : Value) (hv : v.IsLegible) : v.toDocument.IsLegible := by
  match v with
  | .null => trivial
  | .bool b => trivial
  | .string s => trivial
  | .number x =>
    obtain ⟨n, hNumeral, hn, hBack⟩ := hv
    rw [toDocument, hNumeral]
    exact ⟨hn, by rw [hBack]; rfl⟩
  | .array items => exact areLegible_toItems items hv
  | .object fields => exact areLegibleFields_toFields fields hv.2

/-- The documents of legible items are legible. -/
theorem areLegible_toItems (items : List Value) (hItems : AreLegible items) :
    Document.AreLegible (toItems items) := by
  match items with
  | [] => trivial
  | item :: items =>
    exact ⟨isLegible_toDocument item hItems.1, areLegible_toItems items hItems.2⟩

/-- The documents of legible fields are legible. -/
theorem areLegibleFields_toFields (fields : List (String × Value))
    (hFields : AreLegibleFields fields) : Document.AreLegibleFields (toFields fields) := by
  match fields with
  | [] => trivial
  | (key, value) :: fields =>
    exact ⟨isLegible_toDocument value hFields.1, areLegibleFields_toFields fields hFields.2⟩

end

mutual

/-- A legible document has a value. -/
theorem isSome_ofDocument? (d : Document) (hd : d.IsLegible) : (ofDocument? d).isSome = true := by
  match d with
  | .null => rfl
  | .bool b => rfl
  | .string s => rfl
  | .number n =>
    rw [ofDocument?, Option.isSome_map]
    exact hd.2
  | .array items =>
    rw [ofDocument?, Option.isSome_map]
    exact isSome_ofItems? items hd
  | .object fields =>
    rw [ofDocument?, Option.isSome_map]
    exact isSome_ofFields? fields hd

/-- Legible documents of items have values. -/
theorem isSome_ofItems? (items : List Document) (hItems : Document.AreLegible items) :
    (ofItems? items).isSome = true := by
  match items with
  | [] => rfl
  | item :: items =>
    obtain ⟨value, hValue⟩ := Option.isSome_iff_exists.1 (isSome_ofDocument? item hItems.1)
    obtain ⟨values, hValues⟩ := Option.isSome_iff_exists.1 (isSome_ofItems? items hItems.2)
    rw [ofItems?, hValue, hValues]
    rfl

/-- Legible documents of fields have values. -/
theorem isSome_ofFields? (fields : List (String × Document))
    (hFields : Document.AreLegibleFields fields) : (ofFields? fields).isSome = true := by
  match fields with
  | [] => rfl
  | (key, item) :: fields =>
    obtain ⟨value, hValue⟩ := Option.isSome_iff_exists.1 (isSome_ofDocument? item hFields.1)
    obtain ⟨values, hValues⟩ := Option.isSome_iff_exists.1 (isSome_ofFields? fields hFields.2)
    rw [ofFields?, hValue, hValues]
    rfl

end

end Value

end FlowCanvas.Json
