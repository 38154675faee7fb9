import FlowCanvas.Keyed.Arena
import FlowCanvas.Proofs.Keyed.Rosters
import Mathlib

/-!
# Rosters in arenas

An arena represents a roster if its order leads through the items of the roster, its index knows
their places, and nothing lies at any other place (`Arena.Represents`). Every operation of an arena
does to the represented roster what the operation of the roster does, and answers alike, so whatever
has been done to an arena, nothing that is read from it differs from what the roster says
(`Arena.run_agrees`).
-/

set_option autoImplicit false

namespace FlowCanvas.Arena

open Keyed (key)

variable {α κ : Type} [Keyed α κ] {t s : Arena α} {r r' : Roster α}

/-- An arena holds the items of a roster in their order. -/
structure Represents (t : Arena α) (r : Roster α) : Prop where
  /-- The order leads through the items of the roster. -/
  listed : t.order.map t.item? = r.toList.map some
  /-- No place is listed twice. -/
  nodup : t.order.Nodup
  /-- Every place with an item is listed. -/
  mem_order : ∀ {p : Nat} {a : α}, t.item? p = some a → p ∈ t.order
  /-- The index leads to the item with a key. -/
  indexed : ∀ {k : κ} {p : Nat}, t.index k = some p ↔ ∃ a, t.item? p = some a ∧ key a = k

/-- Nothing lies at a place that has not been taken yet. -/
theorem item?_eq_none_of_le {p : Nat} (h : t.items.length ≤ p) : t.item? p = none := by
  rw [item?, List.getElem?_eq_none h]
  rfl

/-- A place with an item is one of those that have been taken. -/
theorem lt_length_of_item? {p : Nat} {a : α} (h : t.item? p = some a) : p < t.items.length := by
  by_contra hOut
  rw [item?_eq_none_of_le (not_lt.1 hOut)] at h
  exact Option.some_ne_none a h.symm

/-- What lies at the places after one of them has been given something else, or nothing. -/
theorem item?_set {p : Nat} {a : α} (ha : t.item? p = some a) (o : Option α) (q : Nat) :
    (t.items.set p o)[q]?.join = if q = p then o else t.item? q := by
  split
  · rename_i hPlace
    rw [hPlace, List.getElem?_set_self (lt_length_of_item? ha)]
    rfl
  · rename_i hPlace
    rw [List.getElem?_set_ne (Ne.symm hPlace)]
    rfl

/-- What lies at the places after one of them has become free. -/
theorem item?_free [DecidableEq κ] {p : Nat} {a : α} (ha : t.item? p = some a) (k : κ) (q : Nat) :
    (t.free p k).item? q = if q = p then none else t.item? q :=
  item?_set ha none q

/-- What lies at the places after one of them has been given another item. -/
theorem item?_store {p : Nat} {b : α} (hb : t.item? p = some b) (a : α) (q : Nat) :
    (t.store p a).item? q = if q = p then some a else t.item? q :=
  item?_set hb (some a) q

/-- What lies at the places after what lies at one of them has been changed. -/
theorem item?_modify (t : Arena α) (p : Nat) (f : α → α) (q : Nat) :
    (t.items.modify p (Option.map f))[q]?.join =
      if q = p then (t.item? q).map f else t.item? q := by
  rw [List.getElem?_modify, Option.map_eq_map]
  split
  · rename_i hPlace
    rw [if_pos hPlace.symm]
    exact Option.join_map_eq_map_join
  · rename_i hPlace
    rw [if_neg (Ne.symm hPlace), Option.map_id']
    rfl

/-- What lies at the places after a new one has been taken. -/
theorem item?_append [DecidableEq κ] (t : Arena α) (a : α) (q : Nat) :
    (t.append a).item? q = if q = t.items.length then some a else t.item? q := by
  have hItems : (t.append a).items = t.items ++ [some a] := rfl
  rw [item?, hItems, List.getElem?_append]
  split
  · rename_i hOld
    rw [if_neg hOld.ne]
    rfl
  · rename_i hNew
    split
    · rename_i hLast
      simp [hLast]
    · rename_i hLater
      have hNone : ([some a] : List (Option α))[q - t.items.length]? = none := by
        rw [List.getElem?_eq_none]
        simp only [List.length_singleton]
        omega
      rw [hNone, item?_eq_none_of_le (by omega)]
      rfl

/-- What a new item adds: itself, at the new place. -/
theorem item?_append_eq_some [DecidableEq κ] {a b : α} {p : Nat} :
    (t.append a).item? p = some b ↔ p = t.items.length ∧ a = b ∨ t.item? p = some b := by
  rw [item?_append]
  split
  · rename_i hPlace
    subst hPlace
    simp [item?_eq_none_of_le (le_refl t.items.length)]
  · rename_i hPlace
    simp [hPlace]

/-- What lies at the places other than one that has become free. -/
theorem item?_free_eq_some [DecidableEq κ] {p q : Nat} {a b : α} {k : κ} (ha : t.item? p = some a) :
    (t.free p k).item? q = some b ↔ q ≠ p ∧ t.item? q = some b := by
  rw [item?_free ha]
  split <;> simp [*]

/-- What lies at the places of an arena, place by place. -/
theorem items_eq_map_item? (t : Arena α) : t.items = (List.range t.items.length).map t.item? := by
  apply List.ext_getElem (by simp)
  intro p hp _
  rw [List.getElem_map, List.getElem_range, item?, List.getElem?_eq_getElem hp]
  rfl

namespace Represents

/-! ## What is read from an arena -/

/-- A listed place holds an item of the roster. -/
theorem exists_of_mem_order (h : t.Represents r) {p : Nat} (hp : p ∈ t.order) :
    ∃ a ∈ r.toList, t.item? p = some a := by
  have hListed : t.item? p ∈ r.toList.map some := h.listed ▸ List.mem_map_of_mem hp
  obtain ⟨a, ha, hItem⟩ := List.mem_map.1 hListed
  exact ⟨a, ha, hItem.symm⟩

/-- The items at the places of an arena are the items of the roster. -/
theorem mem_toList_iff (h : t.Represents r) {a : α} : a ∈ r.toList ↔ ∃ p, t.item? p = some a := by
  constructor
  · intro ha
    have hListed : some a ∈ t.order.map t.item? := h.listed ▸ List.mem_map_of_mem ha
    obtain ⟨p, -, hp⟩ := List.mem_map.1 hListed
    exact ⟨p, hp⟩
  · rintro ⟨p, hp⟩
    obtain ⟨b, hb, hItem⟩ := h.exists_of_mem_order (h.mem_order hp)
    exact Option.some.inj (hItem.symm.trans hp) ▸ hb

/-- The items come in the order of the roster. -/
theorem values_eq (h : t.Represents r) : t.values = r.toList := by
  have hFound : t.values = (t.order.map t.item?).filterMap id := by
    rw [values, List.filterMap_map]
    rfl
  rw [hFound, h.listed, List.filterMap_map]
  exact List.filterMap_some

/-- As many places hold an item as the roster has items. -/
theorem size_eq (h : t.Represents r) : t.size = r.toList.length := by
  have hCount : t.size =
      ((List.range t.items.length).filter fun p => (t.item? p).isSome).length := by
    rw [size, items_eq_map_item? t, List.countP_map, List.countP_eq_length_filter]
    simp [Function.comp_def]
  have hPlaces :
      ((List.range t.items.length).filter fun p => (t.item? p).isSome).Perm t.order := by
    rw [List.perm_ext_iff_of_nodup (List.nodup_range.filter _) h.nodup]
    intro p
    rw [List.mem_filter, List.mem_range, Option.isSome_iff_exists]
    constructor
    · rintro ⟨-, a, ha⟩
      exact h.mem_order ha
    · intro hp
      obtain ⟨a, -, ha⟩ := h.exists_of_mem_order hp
      exact ⟨lt_length_of_item? ha, a, ha⟩
  have hLength := congrArg List.length h.listed
  rw [List.length_map, List.length_map] at hLength
  rw [hCount, hPlaces.length_eq, hLength]

variable [DecidableEq κ]

/-- The same item is found at a key. -/
theorem get?_eq (h : t.Represents r) (k : κ) : t.get? k = r.get? k := by
  apply Option.ext
  intro a
  rw [Roster.get?_eq_some_iff, h.mem_toList_iff, get?, Option.bind_eq_some_iff]
  constructor
  · rintro ⟨p, hIndex, hp⟩
    obtain ⟨b, hb, hKey⟩ := h.indexed.1 hIndex
    obtain rfl : b = a := Option.some.inj (hb.symm.trans hp)
    exact ⟨⟨p, hp⟩, hKey⟩
  · rintro ⟨⟨p, hp⟩, hKey⟩
    exact ⟨p, h.indexed.2 ⟨a, hp, hKey⟩, hp⟩

/-- The index knows the keys of the roster. -/
theorem contains_eq (h : t.Represents r) (k : κ) : t.contains k = r.contains k := by
  rw [Roster.contains_eq_isSome, ← h.get?_eq, contains, get?]
  cases hIndex : t.index k with
  | none => rfl
  | some p =>
    obtain ⟨a, ha, -⟩ := h.indexed.1 hIndex
    simp [ha]

/-- A key that the index does not know is not in the roster. -/
theorem get?_eq_none (h : t.Represents r) {k : κ} (hIndex : t.index k = none) :
    r.get? k = none := by
  rw [← h.get?_eq, get?, hIndex]
  rfl

/-- At the place that the index gives is the item with the key. -/
theorem exists_of_index (h : t.Represents r) {k : κ} {p : Nat} (hIndex : t.index k = some p) :
    ∃ a, t.item? p = some a ∧ key a = k ∧ r.get? k = some a := by
  obtain ⟨a, ha, hKey⟩ := h.indexed.1 hIndex
  refine ⟨a, ha, hKey, ?_⟩
  rw [← h.get?_eq, get?, hIndex]
  exact ha

/-! ## What is done to an arena -/

omit [DecidableEq κ] in
/-- Changing the items where they lie, without changing their keys, changes the roster alike. -/
theorem of_changed (h : t.Represents r) {f : α → α} (hOrder : s.order = t.order)
    (hIndex : s.index = t.index) (hItem : ∀ p, s.item? p = (t.item? p).map f)
    (hKey : ∀ a ∈ r.toList, key (f a) = key a) (hList : r'.toList = r.toList.map f) :
    s.Represents r' where
  listed := by
    have hItems : s.item? = Option.map f ∘ t.item? := funext hItem
    rw [hOrder, hItems, ← List.map_map, h.listed, hList, List.map_map, List.map_map]
    rfl
  nodup := hOrder ▸ h.nodup
  mem_order := by
    intro p b hb
    rw [hItem, Option.map_eq_some_iff] at hb
    obtain ⟨a, ha, -⟩ := hb
    exact hOrder ▸ h.mem_order ha
  indexed := by
    intro k p
    rw [hIndex, h.indexed, hItem]
    constructor
    · rintro ⟨a, ha, rfl⟩
      exact ⟨f a, by rw [ha]; rfl, hKey a (h.mem_toList_iff.2 ⟨p, ha⟩)⟩
    · rintro ⟨b, hb, rfl⟩
      obtain ⟨a, ha, rfl⟩ := Option.map_eq_some_iff.1 hb
      exact ⟨a, ha, (hKey a (h.mem_toList_iff.2 ⟨p, ha⟩)).symm⟩

omit [DecidableEq κ] in
/-- Two places are the same if their items have the same key. -/
theorem place_eq_iff (h : t.Represents r) {p q : Nat} {a b : α} (ha : t.item? p = some a)
    (hb : t.item? q = some b) : p = q ↔ key a = key b := by
  constructor
  · rintro rfl
    rw [Option.some.inj (ha.symm.trans hb)]
  · intro hKey
    exact Option.some.inj ((h.indexed.2 ⟨a, ha, hKey⟩).symm.trans (h.indexed.2 ⟨b, hb, rfl⟩))

/-- An item at the place of the one with its key takes its place in the roster. -/
theorem store (h : t.Represents r) {p : Nat} {a b : α} (hb : t.item? p = some b)
    (hKey : key b = key a) : (t.store p a).Represents (r.put a) := by
  have hMem : b ∈ r.toList := h.mem_toList_iff.2 ⟨p, hb⟩
  refine h.of_changed (f := fun c => if key c = key a then a else c) rfl rfl ?_ ?_
    (Roster.toList_put_of_key_eq hMem hKey)
  · intro q
    rw [item?_store hb]
    split
    · rename_i hPlace
      rw [hPlace, hb, Option.map_some, if_pos hKey]
    · rename_i hPlace
      cases hItem : t.item? q with
      | none => rfl
      | some c =>
        have hOther : key c ≠ key a := fun hc =>
          hPlace ((h.place_eq_iff hItem hb).2 (hc.trans hKey.symm))
        rw [Option.map_some, if_neg hOther]
  · intro c _
    split
    · exact Eq.symm ‹_›
    · rfl

/-- An item with a new key at a new place goes to the end of the roster. -/
theorem append (h : t.Represents r) {a : α} (hNew : r.contains (key a) = false) :
    (t.append a).Represents (r.put a) where
  listed := by
    have hLast : (t.append a).item? t.items.length = some a :=
      item?_append_eq_some.2 (.inl ⟨rfl, rfl⟩)
    have hSame : t.order.map (t.append a).item? = t.order.map t.item? := by
      apply List.map_congr_left
      intro p hp
      obtain ⟨b, -, hb⟩ := h.exists_of_mem_order hp
      rw [hb, item?_append_eq_some.2 (.inr hb)]
    have hOrder : (t.append a).order = t.order ++ [t.items.length] := rfl
    rw [hOrder, Roster.toList_put_of_new hNew, List.map_append, List.map_append, hSame, h.listed,
      List.map_singleton, List.map_singleton, hLast]
  nodup := by
    have hFree : t.items.length ∉ t.order := by
      intro hListed
      obtain ⟨b, -, hb⟩ := h.exists_of_mem_order hListed
      exact (lt_length_of_item? hb).ne rfl
    rw [Arena.append, List.nodup_append]
    refine ⟨h.nodup, List.nodup_singleton _, ?_⟩
    rintro p hp q hq rfl
    exact hFree (List.mem_singleton.1 hq ▸ hp)
  mem_order := by
    intro p b hb
    rcases item?_append_eq_some.1 hb with ⟨hPlace, -⟩ | hOld
    · exact List.mem_append_right _ (List.mem_singleton.2 hPlace)
    · exact List.mem_append_left _ (h.mem_order hOld)
  indexed := by
    intro k p
    have hIndex : (t.append a).index k = if k = key a then some t.items.length else t.index k := rfl
    have hUnknown : ∀ b, t.item? p = some b → key b ≠ key a := fun b hb =>
      Roster.contains_eq_false_iff.1 hNew b (h.mem_toList_iff.2 ⟨p, hb⟩)
    simp only [hIndex, item?_append_eq_some]
    split
    · rename_i hKey
      subst hKey
      constructor
      · intro hPlace
        exact ⟨a, .inl ⟨(Option.some.inj hPlace).symm, rfl⟩, rfl⟩
      · rintro ⟨b, ⟨rfl, -⟩ | hb, hKey⟩
        · rfl
        · exact absurd hKey (hUnknown b hb)
    · rename_i hOther
      rw [h.indexed]
      constructor
      · rintro ⟨b, hb, hKey⟩
        exact ⟨b, .inr hb, hKey⟩
      · rintro ⟨b, ⟨-, rfl⟩ | hb, hKey⟩
        · exact absurd hKey.symm hOther
        · exact ⟨b, hb, hKey⟩

/-- Putting an item in. -/
theorem put (h : t.Represents r) (a : α) :
    (t.put a).1.Represents (r.put a) ∧ (t.put a).2 = r.contains (key a) := by
  rw [← h.contains_eq, contains, Arena.put]
  cases hIndex : t.index (key a) with
  | none =>
    have hNew : r.contains (key a) = false := by
      rw [Roster.contains_eq_isSome, h.get?_eq_none hIndex]
      rfl
    exact ⟨h.append hNew, rfl⟩
  | some p =>
    obtain ⟨b, hb, hKey, -⟩ := h.exists_of_index hIndex
    rw [Option.filter_some, if_pos (by simp [hb])]
    exact ⟨h.store hb hKey, rfl⟩

omit [DecidableEq κ] in
/-- Changing all items, without changing their keys. -/
theorem changeAll (h : t.Represents r) {f : α → α} (hKey : ∀ a, key (f a) = key a) :
    (t.changeAll f).Represents (r.modify f hKey) := by
  refine h.of_changed rfl rfl ?_ (fun a _ => hKey a) (Roster.toList_modify r f hKey)
  intro p
  rw [item?, Arena.changeAll, List.getElem?_map, Option.join_map_eq_map_join]
  rfl

/-- Changing the item with a key, without changing the key. -/
theorem change (h : t.Represents r) {f : α → α} (hKey : ∀ a, key (f a) = key a) (k : κ) :
    (t.change k f).Represents (((r.get? k).map fun a => r.put (f a)).getD r) := by
  rw [Arena.change]
  cases hIndex : t.index k with
  | none =>
    rw [h.get?_eq_none hIndex]
    exact h
  | some p =>
    obtain ⟨a, ha, hFound, hSome⟩ := h.exists_of_index hIndex
    rw [hSome, Option.map_some, Option.getD_some]
    refine h.of_changed (f := fun c => if key c = k then f c else c) rfl rfl ?_ ?_
      (Roster.toList_put_of_get? f hKey hSome)
    · intro q
      have hModified : item? { t with items := t.items.modify p (Option.map f) } q =
          if q = p then (t.item? q).map f else t.item? q := item?_modify t p f q
      rw [hModified]
      cases hItem : t.item? q with
      | none => simp
      | some c =>
        have hPlace : q = p ↔ key c = k := hFound ▸ h.place_eq_iff hItem ha
        simp only [hPlace, Option.map_some]
        split <;> rfl
    · intro c _
      split
      · exact hKey c
      · rfl

/-- An arena in which a place has become free. -/
theorem free (h : t.Represents r) {p : Nat} {a : α} {k : κ} (ha : t.item? p = some a)
    (hFound : key a = k) : (t.free p k).Represents (r.erase k) where
  listed := by
    -- the listed places other than `p` are those of items with other keys
    have hOthers : t.order.filter (· ≠ p) =
        t.order.filter fun q => (t.item? q).all fun c => key c ≠ k := by
      apply List.filter_congr
      intro q hq
      obtain ⟨c, -, hc⟩ := h.exists_of_mem_order hq
      rw [hc, Option.all_some, decide_eq_decide, not_iff_not]
      exact hFound ▸ h.place_eq_iff hc ha
    have hItems : (t.free p k).order.map (t.free p k).item? =
        (t.order.filter (· ≠ p)).map t.item? := by
      apply List.map_congr_left
      intro q hq
      rw [item?_free ha, if_neg (by simpa using (List.mem_filter.1 hq).2)]
    rw [hItems, hOthers, ← Function.comp_def (fun o : Option α => o.all fun c => key c ≠ k) t.item?,
      ← List.filter_map, h.listed, List.filter_map, Roster.erase, Roster.toList_filter]
    rfl
  nodup := h.nodup.filter _
  mem_order := by
    intro q b hb
    obtain ⟨hKept, hb⟩ := (item?_free_eq_some ha).1 hb
    exact List.mem_filter.2 ⟨h.mem_order hb, by simpa using hKept⟩
  indexed := by
    intro l q
    have hIndex : (t.free p k).index l = if l = k then none else t.index l := rfl
    have hPlace : ∀ b, t.item? q = some b → (q = p ↔ key b = k) := fun b hb =>
      hFound ▸ h.place_eq_iff hb ha
    simp only [hIndex, item?_free_eq_some ha]
    split
    · rename_i hKey
      subst hKey
      constructor
      · intro hNone
        cases hNone
      · rintro ⟨b, ⟨hKept, hb⟩, hKey⟩
        exact absurd ((hPlace b hb).2 hKey) hKept
    · rename_i hOther
      rw [h.indexed]
      constructor
      · rintro ⟨b, hb, hKey⟩
        exact ⟨b, ⟨fun hSame => hOther (hKey ▸ (hPlace b hb).1 hSame), hb⟩, hKey⟩
      · rintro ⟨b, ⟨-, hb⟩, hKey⟩
        exact ⟨b, hb, hKey⟩

/-- Taking the item with a key out. -/
theorem remove (h : t.Represents r) (k : κ) :
    (t.remove k).1.Represents (r.erase k) ∧ (t.remove k).2 = r.get? k := by
  rw [Arena.remove]
  cases hIndex : t.index k with
  | none =>
    have hNone := h.get?_eq_none hIndex
    have hErase : r.erase k = r := by
      apply Roster.ext
      rw [Roster.erase, Roster.toList_filter, List.filter_eq_self]
      intro a ha
      simpa using Roster.get?_eq_none_iff.1 hNone a ha
    rw [hErase, hNone]
    exact ⟨h, rfl⟩
  | some p =>
    obtain ⟨a, ha, hFound, hSome⟩ := h.exists_of_index hIndex
    rw [hSome]
    exact ⟨h.free ha hFound, ha⟩

omit [DecidableEq κ] in
/-- The arena without items represents the empty roster. -/
theorem empty : (Arena.empty : Arena α).Represents Roster.empty where
  listed := rfl
  nodup := .nil
  mem_order := by
    intro p a ha
    simp [item?, Arena.empty] at ha
  indexed := by
    intro k p
    simp [item?, Arena.empty]

end Represents

/-! ## Any number of operations -/

/-- Something that is done to the items. -/
inductive Call (α : Type) {κ : Type} [Keyed α κ] where
  /-- An item is put in. -/
  | put (a : α)
  /-- The item with a key is changed, but not its key. -/
  | change (k : κ) (f : α → α) (hKey : ∀ a, key (f a) = key a)
  /-- Every item is changed, but not its key. -/
  | changeAll (f : α → α) (hKey : ∀ a, key (f a) = key a)
  /-- The item with a key is taken out. -/
  | remove (k : κ)
  /-- All items are taken out. -/
  | clear

variable [DecidableEq κ]

/-- What a call does to an arena. -/
def perform (t : Arena α) : Call α → Arena α
  | .put a => (t.put a).1
  | .change k f _ => t.change k f
  | .changeAll f _ => t.changeAll f
  | .remove k => (t.remove k).1
  | .clear => empty

/-- What a call does to a roster. -/
def performOnRoster (r : Roster α) : Call α → Roster α
  | .put a => r.put a
  | .change k f _ => ((r.get? k).map fun a => r.put (f a)).getD r
  | .changeAll f hKey => r.modify f hKey
  | .remove k => r.erase k
  | .clear => Roster.empty

/-- A call does the same to an arena and to the roster that it represents. -/
theorem Represents.perform (h : t.Represents r) (call : Call α) :
    (t.perform call).Represents (performOnRoster r call) := by
  cases call with
  | put a => exact (h.put a).1
  | change k f hKey => exact h.change hKey k
  | changeAll f hKey => exact h.changeAll hKey
  | remove k => exact (h.remove k).1
  | clear => exact .empty

/-- Any number of calls do the same to an arena and to the roster that it represents. -/
theorem Represents.run (h : t.Represents r) (calls : List (Call α)) :
    (calls.foldl Arena.perform t).Represents (calls.foldl performOnRoster r) := by
  induction calls generalizing t r with
  | nil => exact h
  | cons call calls ih => exact ih (h.perform call)

/-- After any calls, what is read from an arena is what its roster says, and so is the answer when
an item is put in or taken out. -/
theorem run_agrees (calls : List (Call α)) :
    let t := calls.foldl perform empty
    let r := calls.foldl performOnRoster Roster.empty
    t.values = r.toList ∧ t.size = r.toList.length ∧
      (∀ k, t.get? k = r.get? k ∧ t.contains k = r.contains k ∧ (t.remove k).2 = r.get? k) ∧
      ∀ a, (t.put a).2 = r.contains (key a) := by
  intro t r
  have h : t.Represents r := Represents.empty.run calls
  exact ⟨h.values_eq, h.size_eq, fun k => ⟨h.get?_eq k, h.contains_eq k, (h.remove k).2⟩,
    fun a => (h.put a).2⟩

end FlowCanvas.Arena
