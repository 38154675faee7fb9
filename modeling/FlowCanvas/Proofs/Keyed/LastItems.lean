import FlowCanvas.Proofs.Keyed.Rosters
import Mathlib

/-!
# Lists with repeated keys

A roster that is made of a list holds for every key the last item with that key, in the place of the
first one (`Roster.toList_ofList`). The keys and what is found at them are followed separately while
items are put in, since a roster is determined by both (`Roster.toList_eq_filterMap_get?`).
-/

set_option autoImplicit false

namespace FlowCanvas.Roster

open Keyed (key)

variable {α κ : Type} [DecidableEq κ] [Keyed α κ]

/-- The last item with a key. -/
def last? (items : List α) (k : κ) : Option α := items.reverse.find? fun a => key a = k

/-- The last items of all keys, in the order in which the keys come first. -/
def lastItems (items : List α) : List α := (items.map key).eraseDups.filterMap (last? items)

/-- The last item with a key is sought in the rest of the list first. -/
theorem last?_cons (a : α) (items : List α) (k : κ) :
    last? (a :: items) k = (last? items k).or (if key a = k then some a else none) := by
  unfold last?
  rw [List.reverse_cons, List.find?_append]
  by_cases h : key a = k <;> simp [h]

/-- A change that keeps keys can be made before or after the last item with a key is taken. -/
theorem last?_map {f : α → α} (hKey : ∀ a, key (f a) = key a) (items : List α) (k : κ) :
    last? (items.map f) k = (last? items k).map f := by
  unfold last?
  rw [← List.map_reverse, List.find?_map]
  congr 2
  funext a
  simp [hKey]

/-- A change that keeps keys can be made before or after all but the last items have been
dropped. -/
theorem lastItems_map {f : α → α} (hKey : ∀ a, key (f a) = key a) (items : List α) :
    lastItems (items.map f) = (lastItems items).map f := by
  have hKeys : (items.map f).map key = items.map key := by
    rw [List.map_map]
    apply List.map_congr_left
    intro a _
    exact hKey a
  unfold lastItems
  rw [hKeys, List.map_filterMap]
  apply List.filterMap_congr
  intro k _
  exact last?_map hKey items k

variable {r : Roster α}

/-- A roster is determined by its keys and what is found at them. -/
theorem toList_eq_filterMap_get? (r : Roster α) :
    r.toList = (r.toList.map key).filterMap r.get? := by
  have hFound : r.toList.filterMap (r.get? ∘ key) = r.toList.filterMap some := by
    apply List.filterMap_congr
    intro a ha
    exact get?_key ha
  rw [List.filterMap_map, hFound, List.filterMap_some]

/-- After items have been put in, the last of them with a key is found, or else what was there. -/
theorem get?_putAll (items : List α) (k : κ) :
    (r.putAll items).get? k = (last? items k).or (r.get? k) := by
  induction items generalizing r with
  | nil => rfl
  | cons a rest ih =>
    have hRest : (r.putAll (a :: rest)).get? k = (last? rest k).or ((r.put a).get? k) := ih
    rw [hRest, get?_put, last?_cons, Option.or_assoc]
    by_cases h : key a = k <;> simp [h]

/-- The keys that a roster does not have are added in the order in which they come first. -/
theorem map_key_putAll (items : List α) :
    (r.putAll items).toList.map key =
      r.toList.map key ++ ((items.map key).filter (· ∉ r.toList.map key)).eraseDups := by
  induction items generalizing r with
  | nil => simp [putAll]
  | cons a rest ih =>
    have hRest : (r.putAll (a :: rest)).toList.map key = (r.put a).toList.map key ++
        ((rest.map key).filter (· ∉ (r.put a).toList.map key)).eraseDups := ih
    by_cases hKnown : key a ∈ r.toList.map key
    · have hKeys : (r.put a).toList.map key = r.toList.map key := by
        rw [toList_put, if_pos (contains_iff.2 hKnown), map_key_replaced]
      rw [hRest, hKeys, List.map_cons, List.filter_cons_of_neg (by simpa using hKnown)]
    · have hNew : r.contains (key a) = false := by
        rw [Bool.eq_false_iff]
        intro hIn
        exact hKnown (contains_iff.1 hIn)
      have hKeys : (r.put a).toList.map key = r.toList.map key ++ [key a] := by
        rw [toList_put_of_new hNew, List.map_append, List.map_singleton]
      -- what is behind the new key is as new as before, and not that key
      have hLater : (rest.map key).filter (· ∉ r.toList.map key ++ [key a]) =
          ((rest.map key).filter (· ∉ r.toList.map key)).filter (!· == key a) := by
        rw [List.filter_filter]
        apply List.filter_congr
        intro k _
        rw [Bool.eq_iff_iff]
        simp [and_comm]
      rw [hRest, hKeys, hLater, List.map_cons, List.filter_cons_of_pos (by simpa using hKnown),
        List.eraseDups_cons, List.append_assoc, List.singleton_append]

/-- What is found in a roster that has been made of a list is the last item with the key. -/
theorem get?_ofList (items : List α) : (ofList items).get? = last? items := by
  funext k
  unfold ofList
  rw [get?_putAll]
  exact Option.or_none

/-- A roster that has been made of a list has, for each key, the last item in the place of the
first. -/
theorem toList_ofList (items : List α) : (ofList items).toList = lastItems items := by
  have hKeys : (ofList items).toList.map key = (items.map key).eraseDups := by
    unfold ofList
    rw [map_key_putAll]
    simp
  rw [toList_eq_filterMap_get? (ofList items), hKeys, get?_ofList]
  rfl

end FlowCanvas.Roster
