import FlowCanvas.Proofs.Json.Depths
import Mathlib

/-!
# Values that have been read

The objects of a value that has been read are in order, so it is legible as soon as its numbers are,
and its document nests no more deeply than the document that it has been read from
(`Value.IsReadWithin.of_ofDocument?`).
-/

set_option autoImplicit false

namespace FlowCanvas

namespace Json.Value

mutual

/-- All numbers in a value. -/
def numbers : Value → List Number
  | .number n => [n]
  | .array items => itemNumbers items
  | .object fields => fieldNumbers fields
  | _ => []

/-- All numbers in several items. -/
def itemNumbers : List Value → List Number
  | [] => []
  | item :: items => numbers item ++ itemNumbers items

/-- All numbers in the values of several fields. -/
def fieldNumbers : List (String × Value) → List Number
  | [] => []
  | (_, value) :: fields => numbers value ++ fieldNumbers fields

end

/-- Items are legible if each of them is. -/
theorem areLegible_iff {items : List Value} :
    AreLegible items ↔ ∀ item ∈ items, item.IsLegible := by
  induction items with
  | nil => simp [AreLegible]
  | cons item rest ih => simp [AreLegible, ih]

/-- Fields are legible if the value of each of them is. -/
theorem areLegibleFields_iff {fields : List (String × Value)} :
    AreLegibleFields fields ↔ ∀ field ∈ fields, field.2.IsLegible := by
  induction fields with
  | nil => simp [AreLegibleFields]
  | cons field rest ih => simp [AreLegibleFields, ih]

/-- The numbers of an item are among those of all items. -/
theorem mem_itemNumbers_of_mem {items : List Value} {item : Value} (h : item ∈ items) {x : Number}
    (hx : x ∈ item.numbers) : x ∈ itemNumbers items := by
  induction items with
  | nil => simp at h
  | cons head rest ih =>
    rw [itemNumbers, List.mem_append]
    rcases List.mem_cons.1 h with rfl | hRest
    · exact .inl hx
    · exact .inr (ih hRest)

/-- The numbers of the value of a field are among those of all fields. -/
theorem mem_fieldNumbers_of_mem {fields : List (String × Value)} {field : String × Value}
    (h : field ∈ fields) {x : Number} (hx : x ∈ field.2.numbers) : x ∈ fieldNumbers fields := by
  induction fields with
  | nil => simp at h
  | cons head rest ih =>
    rw [fieldNumbers, List.mem_append]
    rcases List.mem_cons.1 h with rfl | hRest
    · exact .inl hx
    · exact .inr (ih hRest)

/-- Items are written one by one. -/
theorem toItems_eq_map (items : List Value) : toItems items = items.map toDocument := by
  induction items with
  | nil => rfl
  | cons item rest ih => rw [toItems, ih, List.map_cons]

/-- Fields are written one by one. -/
theorem toFields_eq_map (fields : List (String × Value)) :
    toFields fields = fields.map fun field => (field.1, field.2.toDocument) := by
  induction fields with
  | nil => rfl
  | cons field rest ih => rw [toFields, ih, List.map_cons]

/-- A value whose document nests no more deeply than a bound, and which is legible if its numbers
are. -/
structure IsReadWithin (k : Nat) (v : Value) : Prop where
  depth_le : v.toDocument.depth ≤ k
  isLegible : (∀ x ∈ v.numbers, x.IsLegible) → v.IsLegible

namespace IsReadWithin

variable {k l : Nat}

/-- A value that has been read within a bound has been read within any larger one. -/
theorem mono {v : Value} (h : v.IsReadWithin k) (hk : k ≤ l) : v.IsReadWithin l :=
  ⟨h.depth_le.trans hk, h.isLegible⟩

/-- An array has been read one level further out than its items. -/
theorem array {items : List Value} (h : ∀ item ∈ items, item.IsReadWithin k) :
    (Value.array items).IsReadWithin (k + 1) where
  depth_le := by
    rw [toDocument, toItems_eq_map, Document.depth_array_le_iff]
    intro d hd
    obtain ⟨item, hItem, rfl⟩ := List.mem_map.1 hd
    exact (h item hItem).depth_le
  isLegible := fun hNumbers => areLegible_iff.2 fun item hItem =>
    (h item hItem).isLegible fun x hx => hNumbers x (mem_itemNumbers_of_mem hItem hx)

/-- An object has been read one level further out than the values of its fields. -/
theorem object {fields : List (String × Value)} (hSorted : Sorted.IsSorted fields)
    (h : ∀ field ∈ fields, field.2.IsReadWithin k) :
    (Value.object fields).IsReadWithin (k + 1) where
  depth_le := by
    rw [toDocument, toFields_eq_map, Document.depth_object_le_iff]
    intro d hd
    obtain ⟨field, hField, rfl⟩ := List.mem_map.1 hd
    exact (h field hField).depth_le
  isLegible := fun hNumbers => ⟨hSorted, areLegibleFields_iff.2 fun field hField =>
    (h field hField).isLegible fun x hx => hNumbers x (mem_fieldNumbers_of_mem hField hx)⟩

/-- The object without fields. -/
theorem empty : Value.empty.IsReadWithin 1 := object .nil (by simp)

mutual

/-- A value nests no more deeply than the document that it is read from, and is in order. -/
theorem of_ofDocument? (d : Document) {v : Value} (h : ofDocument? d = some v) :
    v.IsReadWithin d.depth := by
  match d with
  | .null | .bool _ | .string _ =>
    cases h
    exact ⟨Nat.zero_le _, fun _ => trivial⟩
  | .number n =>
    obtain ⟨x, -, rfl⟩ := Option.map_eq_some_iff.1 h
    refine ⟨?_, fun hNumbers => hNumbers x (List.mem_singleton_self x)⟩
    rw [toDocument]
    split <;> exact Nat.zero_le _
  | .array items =>
    obtain ⟨values, hValues, rfl⟩ := Option.map_eq_some_iff.1 h
    exact array (of_ofItems? items hValues)
  | .object fields =>
    obtain ⟨values, hValues, rfl⟩ := Option.map_eq_some_iff.1 h
    refine object (Sorted.isSorted_ofList values) fun field hField => ?_
    exact of_ofFields? fields hValues field (Sorted.mem_of_mem_ofList hField)
  | .unreadable => cases h

/-- The items of an array are read within the depth of their documents. -/
theorem of_ofItems? (items : List Document) {values : List Value}
    (h : ofItems? items = some values) :
    ∀ v ∈ values, v.IsReadWithin (Document.itemDepth items) := by
  match items with
  | [] =>
    cases h
    simp
  | item :: rest =>
    obtain ⟨value, hValue, hMore⟩ := Option.bind_eq_some_iff.1 h
    obtain ⟨others, hOthers, hAll⟩ := Option.bind_eq_some_iff.1 hMore
    cases hAll
    refine List.forall_mem_cons.2 ⟨?_, fun v hv => ?_⟩
    · exact (of_ofDocument? item hValue).mono (Nat.le_max_left _ _)
    · exact (of_ofItems? rest hOthers v hv).mono (Nat.le_max_right _ _)

/-- The values of the fields of an object are read within the depth of their documents. -/
theorem of_ofFields? (fields : List (String × Document)) {values : List (String × Value)}
    (h : ofFields? fields = some values) :
    ∀ field ∈ values, field.2.IsReadWithin (Document.fieldDepth fields) := by
  match fields with
  | [] =>
    cases h
    simp
  | (key, item) :: rest =>
    obtain ⟨value, hValue, hMore⟩ := Option.bind_eq_some_iff.1 h
    obtain ⟨others, hOthers, hAll⟩ := Option.bind_eq_some_iff.1 hMore
    cases hAll
    refine List.forall_mem_cons.2 ⟨?_, fun field hField => ?_⟩
    · exact (of_ofDocument? item hValue).mono (Nat.le_max_left _ _)
    · exact (of_ofFields? rest hOthers field hField).mono (Nat.le_max_right _ _)

end

end IsReadWithin

end Json.Value

end FlowCanvas
