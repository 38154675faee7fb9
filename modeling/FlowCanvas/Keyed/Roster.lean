/-!
# Rosters

A roster holds items in the order in which they were first put in, at most one for each key. An
item with a known key takes the place of the old one; a new item goes to the end.

The order and the uniqueness of the keys are all there is to know about a roster, so `toList` is
its view and every operation is described by what it does to that list.
-/

set_option autoImplicit false

namespace FlowCanvas

/-- Items with a key. -/
class Keyed (α : Type) (κ : outParam Type) where
  /-- The key of an item. -/
  key : α → κ

open Keyed (key)

/-- Items in the order of their arrival, each key once. -/
structure Roster (α : Type) {κ : Type} [Keyed α κ] where
  toList : List α
  nodup : (toList.map key).Nodup

namespace Roster

variable {α κ : Type} [DecidableEq κ] [Keyed α κ]

/-- The roster without items. -/
def empty : Roster α := ⟨[], List.nodup_nil⟩

instance : Inhabited (Roster α) := ⟨empty⟩

/-- The item with a key. -/
def get? (r : Roster α) (k : κ) : Option α := r.toList.find? (fun a => key a = k)

/-- Whether there is an item with a key. -/
def contains (r : Roster α) (k : κ) : Bool := r.toList.any (fun a => key a = k)

/-- A roster contains the keys of its items. -/
theorem contains_iff {r : Roster α} {k : κ} : r.contains k ↔ k ∈ r.toList.map key := by
  simp [contains]

/-- The list with an item in the place of the one with its key. -/
def replaced (a : α) (items : List α) : List α :=
  items.map fun b => if key b = key a then a else b

/-- Replacing an item in a list goes through the list from the front. -/
theorem replaced_cons (a b : α) (items : List α) :
    replaced a (b :: items) = (if key b = key a then a else b) :: replaced a items := rfl

/-- Replacing an item by one with its key keeps all keys in their places. -/
theorem map_key_replaced (a : α) (items : List α) :
    (replaced a items).map key = items.map key := by
  induction items with
  | nil => rfl
  | cons b items ih =>
    rw [replaced_cons, List.map_cons, List.map_cons, ih]
    by_cases h : key b = key a <;> simp [h]

/-- Puts an item in: in the place of the one with its key, or at the end. -/
def put (r : Roster α) (a : α) : Roster α :=
  if h : r.contains (key a) then ⟨replaced a r.toList, map_key_replaced a r.toList ▸ r.nodup⟩
  else
    ⟨r.toList ++ [a], by
      have hNew : key a ∉ r.toList.map key := fun hIn => h (contains_iff.2 hIn)
      rw [List.map_append, List.nodup_append]
      refine ⟨r.nodup, by simp, fun k hk l hl => ?_⟩
      simp only [List.map_cons, List.map_nil, List.mem_singleton] at hl
      exact fun hSame => hNew (hl ▸ hSame ▸ hk)⟩

/-- The items that satisfy a condition. -/
def filter (r : Roster α) (p : α → Bool) : Roster α :=
  ⟨r.toList.filter p, (List.filter_sublist.map key).nodup r.nodup⟩

/-- Takes the item with a key out. -/
def erase (r : Roster α) (k : κ) : Roster α := r.filter (fun a => key a ≠ k)

/-- Changes every item in a way that keeps its key. -/
def modify (r : Roster α) (f : α → α) (h : ∀ a, key (f a) = key a) : Roster α :=
  ⟨r.toList.map f, by
    have : (r.toList.map f).map key = r.toList.map key := by simp [h]
    exact this ▸ r.nodup⟩

/-- Puts items in one after the other. -/
def putAll (r : Roster α) (items : List α) : Roster α := items.foldl put r

/-- The roster of a list: of the items with one key the last, in the place of the first. -/
def ofList (items : List α) : Roster α := empty.putAll items

omit [DecidableEq κ] in
/-- The empty roster has no items. -/
@[simp] theorem toList_empty : (empty : Roster α).toList = [] := rfl

omit [DecidableEq κ] in
/-- Filtering a roster is filtering its items. -/
@[simp] theorem toList_filter (r : Roster α) (p : α → Bool) :
    (r.filter p).toList = r.toList.filter p := rfl

omit [DecidableEq κ] in
/-- Modifying a roster is mapping its items. -/
@[simp] theorem toList_modify (r : Roster α) (f : α → α) (h : ∀ a, key (f a) = key a) :
    (r.modify f h).toList = r.toList.map f := rfl

/-- An item that is put in takes the place of the one with its key, or goes to the end. -/
theorem toList_put (r : Roster α) (a : α) :
    (r.put a).toList =
      if r.contains (key a) then replaced a r.toList else r.toList ++ [a] := by
  unfold put
  split <;> simp_all

/-- A list in which an item has been replaced has the new one at its key. -/
theorem find?_replaced_self {a : α} {items : List α} (h : key a ∈ items.map key) :
    (replaced a items).find? (fun b => key b = key a) = some a := by
  induction items with
  | nil => simp at h
  | cons b items ih =>
    rw [replaced_cons, List.find?_cons]
    by_cases hSame : key b = key a
    · simp [hSame]
    · rw [if_neg hSame, decide_eq_false hSame]
      rw [List.map_cons, List.mem_cons] at h
      exact ih (h.resolve_left (Ne.symm hSame))

/-- A list in which an item has been replaced has the same items as before at all other keys. -/
theorem find?_replaced_of_ne {a : α} {k : κ} (h : key a ≠ k) (items : List α) :
    (replaced a items).find? (fun b => key b = k) = items.find? (fun b => key b = k) := by
  induction items with
  | nil => rfl
  | cons b items ih =>
    rw [replaced_cons, List.find?_cons, List.find?_cons, ih]
    by_cases hSame : key b = key a
    · simp [hSame, h]
    · simp only [if_neg hSame]

/-- Putting an item in changes what is found at its key, and nothing else. -/
theorem get?_put (r : Roster α) (a : α) (k : κ) :
    (r.put a).get? k = if key a = k then some a else r.get? k := by
  unfold get?
  rw [toList_put]
  split
  · rename_i hIn
    by_cases h : key a = k
    · subst h
      rw [if_pos rfl]
      exact find?_replaced_self (contains_iff.1 hIn)
    · rw [if_neg h]
      exact find?_replaced_of_ne h r.toList
  · rename_i hNew
    have hNew : key a ∉ r.toList.map key := fun h => hNew (contains_iff.2 h)
    rw [List.find?_append]
    by_cases h : key a = k
    · subst h
      have hNone : r.toList.find? (fun b => key b = key a) = none := by
        simpa using hNew
      simp [hNone]
    · simp [h]

end Roster

end FlowCanvas
