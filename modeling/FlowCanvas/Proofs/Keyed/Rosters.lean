import FlowCanvas.Keyed.Roster
import FlowCanvas.Proofs.Keyed.Lists
import Mathlib

/-!
# Membership in rosters

A roster is the set of its items together with their order, and the items are determined by their
keys. The lemmas say for every operation which items there are afterwards.
-/

set_option autoImplicit false

namespace FlowCanvas.Roster

open Keyed (key)

variable {α κ : Type} [DecidableEq κ] [Keyed α κ] {r : Roster α}

omit [DecidableEq κ] in
/-- Rosters with the same items in the same order are the same. -/
theorem ext {s : Roster α} (h : r.toList = s.toList) : r = s := by
  cases r
  cases s
  cases h
  rfl

omit [DecidableEq κ] in
/-- Two items with the same key are the same item. -/
theorem eq_of_key_eq {a b : α} (ha : a ∈ r.toList) (hb : b ∈ r.toList) (h : key a = key b) :
    a = b :=
  List.inj_on_of_nodup_map r.nodup ha hb h

/-- What is found at a key is the item with that key. -/
theorem get?_eq_some_iff {k : κ} {a : α} : r.get? k = some a ↔ a ∈ r.toList ∧ key a = k := by
  unfold get?
  constructor
  · intro h
    exact ⟨List.mem_of_find?_eq_some h, by simpa using List.find?_some h⟩
  · rintro ⟨ha, rfl⟩
    obtain ⟨b, hb⟩ : ∃ b, r.toList.find? (fun b => key b = key a) = some b := by
      rw [← Option.isSome_iff_exists, List.find?_isSome]
      exact ⟨a, ha, by simp⟩
    have hKey : key b = key a := by simpa using List.find?_some hb
    rw [hb, eq_of_key_eq (List.mem_of_find?_eq_some hb) ha hKey]

/-- Nothing is found under a key that no item has. -/
theorem get?_eq_none_iff {k : κ} : r.get? k = none ↔ ∀ a ∈ r.toList, key a ≠ k := by
  simp [get?]

/-- What is found is in the roster. -/
theorem mem_of_get? {k : κ} {a : α} (h : r.get? k = some a) : a ∈ r.toList :=
  (get?_eq_some_iff.1 h).1

/-- An item is found under its own key. -/
theorem get?_key {a : α} (ha : a ∈ r.toList) : r.get? (key a) = some a :=
  get?_eq_some_iff.2 ⟨ha, rfl⟩

/-- A roster contains a key under which it finds something. -/
theorem contains_eq_isSome (k : κ) : r.contains k = (r.get? k).isSome := by
  rw [Bool.eq_iff_iff, contains_iff, Option.isSome_iff_exists]
  simp only [get?_eq_some_iff, List.mem_map]

/-- A key is not contained if no item has it. -/
theorem contains_eq_false_iff {k : κ} : r.contains k = false ↔ ∀ a ∈ r.toList, key a ≠ k := by
  rw [contains_eq_isSome, Option.isSome_eq_false_iff, Option.isNone_iff_eq_none, get?_eq_none_iff]

/-- The items after putting one in: that one, and the others with other keys. -/
theorem mem_put {a b : α} : b ∈ (r.put a).toList ↔ b = a ∨ b ∈ r.toList ∧ key b ≠ key a := by
  constructor
  · intro hb
    have hGet := get?_key hb
    rw [get?_put] at hGet
    split at hGet
    · exact .inl (Option.some.inj hGet).symm
    · exact .inr ⟨mem_of_get? hGet, Ne.symm ‹_›⟩
  · rintro (rfl | ⟨hb, hKey⟩)
    · exact mem_of_get? (k := key b) (by rw [get?_put, if_pos rfl])
    · exact mem_of_get? (k := key b) (by rw [get?_put, if_neg (Ne.symm hKey), get?_key hb])

/-- An item with a new key goes to the end. -/
theorem toList_put_of_new {a : α} (h : r.contains (key a) = false) :
    (r.put a).toList = r.toList ++ [a] := by
  rw [toList_put, if_neg (by simp [h])]

/-- An item with the key of another one takes its place. -/
theorem toList_put_of_key_eq {a b : α} (hb : b ∈ r.toList) (h : key b = key a) :
    (r.put a).toList = replaced a r.toList := by
  rw [toList_put, if_pos (contains_iff.2 (h ▸ List.mem_map_of_mem hb))]

/-- Putting in an item that is there already changes nothing. -/
theorem put_eq_self {a : α} (ha : a ∈ r.toList) : r.put a = r := by
  apply ext
  rw [toList_put_of_key_eq ha rfl, replaced]
  refine Lists.map_eq_self fun b hb => ?_
  split
  · exact (eq_of_key_eq hb ha ‹_›).symm
  · rfl

/-- Putting an item back into the place that another one has taken. -/
theorem put_put_of_get? {k : κ} {a b : α} (h : r.get? k = some a) (hKey : key b = k) :
    (r.put b).put a = r := by
  obtain ⟨ha, rfl⟩ := get?_eq_some_iff.1 h
  have hb : b ∈ (r.put b).toList := mem_put.2 (.inl rfl)
  apply ext
  rw [toList_put_of_key_eq hb hKey, toList_put_of_key_eq ha hKey.symm, replaced, replaced,
    List.map_map]
  apply Lists.map_eq_self
  intro c hc
  by_cases hSame : key c = key a
  · simp [hKey, eq_of_key_eq hc ha hSame]
  · simp [hSame, hKey]

/-- Putting in a changed form of an item is changing that item. -/
theorem toList_put_of_get? (f : α → α) (hKey : ∀ a, key (f a) = key a) {k : κ} {a : α}
    (h : r.get? k = some a) :
    (r.put (f a)).toList = r.toList.map fun b => if key b = k then f b else b := by
  obtain ⟨ha, rfl⟩ := get?_eq_some_iff.1 h
  rw [toList_put_of_key_eq ha (hKey a).symm, replaced, hKey]
  apply List.map_congr_left
  intro b hb
  split
  · rw [eq_of_key_eq hb ha ‹_›]
  · rfl

omit [DecidableEq κ] in
/-- A modification that keeps keys leaves them in their places. -/
theorem map_key_modify (r : Roster α) {f : α → α} (hKey : ∀ a, key (f a) = key a) :
    (r.modify f hKey).toList.map key = r.toList.map key := by
  rw [toList_modify, List.map_map]
  exact List.map_congr_left fun a _ => hKey a

/-- A roster contains the same keys after a modification that keeps them. -/
theorem contains_modify (r : Roster α) {f : α → α} (hKey : ∀ a, key (f a) = key a) (k : κ) :
    (r.modify f hKey).contains k = r.contains k := by
  rw [Bool.eq_iff_iff, contains_iff, contains_iff, map_key_modify]

/-- Items with new keys go to the end, one after the other. -/
theorem toList_putAll_of_nodup {items : List α} (h : ((r.toList ++ items).map key).Nodup) :
    (r.putAll items).toList = r.toList ++ items := by
  induction items generalizing r with
  | nil => simp [putAll]
  | cons a rest ih =>
    have hNew : r.contains (key a) = false := by
      rw [contains_eq_false_iff]
      intro b hb hSame
      rw [List.map_append, List.nodup_append] at h
      exact h.2.2 (key b) (List.mem_map_of_mem hb) (key a) (by simp) hSame
    have hPut := toList_put_of_new hNew
    have hRest := ih (r := r.put a) (by rwa [hPut, List.append_assoc, List.singleton_append])
    rw [hPut, List.append_assoc, List.singleton_append] at hRest
    exact hRest

/-- A roster made of items with different keys holds them as they are. -/
theorem toList_ofList_of_nodup {items : List α} (h : (items.map key).Nodup) :
    (ofList items).toList = items := by
  unfold ofList
  rw [toList_putAll_of_nodup (by simpa using h), toList_empty, List.nil_append]

/-- The roster of the items of a roster is that roster. -/
theorem ofList_toList (r : Roster α) : ofList r.toList = r :=
  ext (toList_ofList_of_nodup r.nodup)

/-- After items have been put in, a roster holds those that it held before and these. -/
theorem mem_of_mem_putAll {items : List α} {a : α} (h : a ∈ (r.putAll items).toList) :
    a ∈ r.toList ∨ a ∈ items := by
  induction items generalizing r with
  | nil => exact .inl h
  | cons b rest ih =>
    rcases ih (r := r.put b) h with hPut | hRest
    · rcases mem_put.1 hPut with rfl | ⟨hOld, -⟩
      · exact .inr List.mem_cons_self
      · exact .inl hOld
    · exact .inr (List.mem_cons_of_mem _ hRest)

/-- No key gets lost when items are put in. -/
theorem exists_mem_putAll {a : α} (ha : a ∈ r.toList) (items : List α) :
    ∃ b ∈ (r.putAll items).toList, key b = key a := by
  induction items generalizing r a with
  | nil => exact ⟨a, ha, rfl⟩
  | cons first rest ih =>
    by_cases hSame : key a = key first
    · obtain ⟨b, hb, hKey⟩ := ih (r := r.put first) (mem_put.2 (.inl rfl))
      exact ⟨b, hb, hKey.trans hSame.symm⟩
    · exact ih (r := r.put first) (mem_put.2 (.inr ⟨ha, hSame⟩))

omit [DecidableEq κ] in
/-- Items that are selected by different values of a function are different. -/
theorem nodup_flatMap_filter {β : Type} [BEq β] [LawfulBEq β] (r : Roster α) (f : α → β)
    {values : List β} (hValues : values.Nodup) :
    (values.flatMap fun v => (r.toList.filter fun a => f a == v).map key).Nodup := by
  rw [List.nodup_flatMap]
  refine ⟨fun v _ => (List.filter_sublist.map key).nodup r.nodup, hValues.imp ?_⟩
  intro v w hDistinct k hv hw
  obtain ⟨a, ha, rfl⟩ := List.mem_map.1 hv
  obtain ⟨b, hb, hSame⟩ := List.mem_map.1 hw
  obtain ⟨haMem, haValue⟩ := List.mem_filter.1 ha
  obtain ⟨hbMem, hbValue⟩ := List.mem_filter.1 hb
  rw [beq_iff_eq] at haValue hbValue
  have hEq : b = a := eq_of_key_eq hbMem haMem hSame
  exact hDistinct (haValue.symm.trans (hEq ▸ hbValue))

/-- A roster holds only items of the list that it is made of. -/
theorem mem_of_mem_ofList {items : List α} {a : α} (h : a ∈ (ofList items).toList) :
    a ∈ items := by
  rcases mem_of_mem_putAll h with hEmpty | hMem
  · simp at hEmpty
  · exact hMem

end FlowCanvas.Roster
