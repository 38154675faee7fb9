import Mathlib

/-!
# Lists

Facts about lists that the library does not have: a map that changes no item of a list changes
nothing, the only item with a key is the first one, an item is the only one to pass a test if it is
counted once, and a list of optional values is there if all its items are.
-/

set_option autoImplicit false

namespace FlowCanvas.Lists

variable {α β : Type}

/-- A map that leaves every item of a list as it is leaves the list as it is. The library has this
only for maps that change no value at all. -/
theorem map_eq_self {f : α → α} {items : List α} (h : ∀ a ∈ items, f a = a) :
    items.map f = items := by
  have hId : items.map f = items.map id := List.map_congr_left h
  rw [hId, List.map_id]

/-- A map that does not change what a filter looks at can come after the filter. -/
theorem filter_map_comm {p : α → Bool} {f : α → α} (h : ∀ a, p (f a) = p a) (items : List α) :
    (items.map f).filter p = (items.filter p).map f := by
  have hSame : p ∘ f = p := funext h
  rw [List.filter_map, hSame]

/-- The only item with a key is the first one with it. -/
theorem find?_key_of_count {κ : Type} [BEq κ] [LawfulBEq κ] {key : α → κ} {items : List α} {a : α}
    (ha : a ∈ items) (hOnce : (items.map key).count (key a) = 1) :
    items.find? (key · == key a) = some a := by
  obtain ⟨before, after, rfl⟩ := List.append_of_mem ha
  rw [List.map_append, List.map_cons, List.count_append, List.count_cons_self] at hOnce
  have hNone : (before.map key).count (key a) = 0 := by omega
  have hBefore : before.find? (key · == key a) = none := by
    rw [List.find?_eq_none]
    intro b hb hSame
    rw [beq_iff_eq] at hSame
    exact List.count_eq_zero.1 hNone (hSame ▸ List.mem_map_of_mem hb)
  rw [List.find?_append, hBefore, Option.none_or]
  exact List.find?_cons_of_pos BEq.rfl

/-- An item passes a test alone if no item at another place passes it. -/
theorem countP_eq_one_iff {p : α → Bool} {items : List α} {i : Nat} {a : α}
    (hi : items[i]? = some a) (ha : p a = true) :
    items.countP p = 1 ↔ ∀ j b, items[j]? = some b → p b = true → j = i := by
  induction items generalizing i with
  | nil => cases hi
  | cons head rest ih =>
    cases i with
    | zero =>
      obtain rfl : head = a := Option.some.inj hi
      rw [List.countP_cons_of_pos ha, Nat.add_eq_right, List.countP_eq_zero]
      constructor
      · intro hNone j b hj hb
        cases j with
        | zero => rfl
        | succ j => exact absurd hb (hNone b (List.mem_of_getElem? hj))
      · intro hOnly b hMem hb
        obtain ⟨j, hj⟩ := List.getElem?_of_mem hMem
        cases hOnly (j + 1) b hj hb
    | succ i =>
      have hRest : rest[i]? = some a := hi
      cases hHead : p head with
      | true =>
        have hSome : 0 < rest.countP p := List.countP_pos_iff.2 ⟨a, List.mem_of_getElem? hRest, ha⟩
        rw [List.countP_cons_of_pos hHead]
        refine iff_of_false (by omega) fun hOnly => ?_
        cases hOnly 0 head rfl hHead
      | false =>
        rw [List.countP_cons_of_neg (by simp [hHead]), ih hRest]
        constructor
        · intro hOnly j b hj hb
          cases j with
          | zero =>
            obtain rfl : head = b := Option.some.inj hj
            rw [hHead] at hb
            cases hb
          | succ j => rw [hOnly j b hj hb]
        · intro hOnly j b hj hb
          exact Nat.succ.inj (hOnly (j + 1) b hj hb)

/-- What is found at a key of entries that are made of items is made of the first item with the
key. -/
theorem lookup_map {κ : Type} [BEq κ] [LawfulBEq κ] (key : α → κ) (value : α → β) (items : List α)
    (k : κ) : (items.map fun a => (key a, value a)).lookup k =
      (items.find? (key · == k)).map value := by
  induction items with
  | nil => rfl
  | cons a rest ih =>
    rw [List.map_cons, List.lookup_cons, List.find?_cons]
    by_cases hHere : key a = k
    · rw [beq_iff_eq.2 hHere.symm, beq_iff_eq.2 hHere]
      rfl
    · rw [beq_eq_false_iff_ne.2 (Ne.symm hHere), beq_eq_false_iff_ne.2 hHere]
      exact ih

/-- A reader that succeeds on every item of a list reads the whole list. -/
theorem mapM_eq_some {f : α → Option β} {g : α → β} {items : List α}
    (h : ∀ a ∈ items, f a = some (g a)) : items.mapM f = some (items.map g) := by
  induction items with
  | nil => rfl
  | cons a items ih =>
    rw [List.mapM_cons, h a List.mem_cons_self, ih fun b hb => h b (List.mem_cons_of_mem _ hb)]
    rfl

/-- A list of optional values has the items that its optional values have. -/
theorem mapM_eq_some_iff {f : α → Option β} {items : List α} {results : List β} :
    items.mapM f = some results ↔ List.Forall₂ (fun a b => f a = some b) items results := by
  induction items generalizing results with
  | nil => simp [eq_comm]
  | cons a items ih =>
    rw [List.mapM_cons]
    constructor
    · intro h
      obtain ⟨b, hb, hRest⟩ := Option.bind_eq_some_iff.1 h
      obtain ⟨bs, hbs, hResult⟩ := Option.bind_eq_some_iff.1 hRest
      cases hResult
      exact .cons hb (ih.1 hbs)
    · intro h
      cases h with
      | cons hb hbs =>
        rw [hb, ih.2 hbs]
        rfl

/-- Item by item, what becomes of a list in two steps becomes of it in one. -/
theorem forall₂_trans {γ : Type} {R : α → β → Prop} {S : β → γ → Prop} {T : α → γ → Prop}
    {as : List α} {bs : List β} {cs : List γ} (hR : List.Forall₂ R as bs)
    (hS : List.Forall₂ S bs cs) (h : ∀ a b c, R a b → S b c → T a c) : List.Forall₂ T as cs := by
  induction hR generalizing cs with
  | nil =>
    cases hS
    exact .nil
  | cons hHead _ ih =>
    cases hS with
    | cons hHead' hRest' => exact .cons (h _ _ _ hHead hHead') (ih hRest')

/-- Replacing one item of a list changes it item by item. -/
theorem forall₂_replace {R : α → α → Prop} [Std.Refl R] {a b : α} (h : R a b)
    (before after : List α) :
    List.Forall₂ R (before ++ a :: after) (before ++ b :: after) :=
  List.rel_append (List.forall₂_refl before) (.cons h (List.forall₂_refl after))

/-- Every item of the first of two related lists is related to something. -/
theorem exists_of_forall₂ {R : α → β → Prop} {items : List α} {results : List β}
    (h : List.Forall₂ R items results) {a : α} (ha : a ∈ items) : ∃ b, R a b := by
  induction h with
  | nil => simp at ha
  | cons hHead _ ih =>
    rcases List.mem_cons.1 ha with rfl | hRest
    · exact ⟨_, hHead⟩
    · exact ih hRest

/-- Every item of the second of two related lists is related to one of the first. -/
theorem exists_of_forall₂_right {R : α → β → Prop} {items : List α} {results : List β}
    (h : List.Forall₂ R items results) {b : β} (hb : b ∈ results) : ∃ a ∈ items, R a b := by
  induction h with
  | nil => simp at hb
  | cons hHead _ ih =>
    rcases List.mem_cons.1 hb with rfl | hRest
    · exact ⟨_, List.mem_cons_self, hHead⟩
    · obtain ⟨a, ha, hR⟩ := ih hRest
      exact ⟨a, List.mem_cons_of_mem _ ha, hR⟩

end FlowCanvas.Lists
