import FlowCanvas.Flow.Id
import FlowCanvas.Keyed.Ordered
import Mathlib

/-!
# Ascending lists

Sorting puts every item of a list in once (`Ordered.nodup_ofList`), provided that the test which
gives the order is a strict one by which any two items can be compared (`Ordered.IsStrict`). The
orders of item ids, port ids and connection ids are of that kind.
-/

set_option autoImplicit false

namespace FlowCanvas

namespace Ordered

variable {α : Type} {before : α → α → Bool}

/-- A test that puts any two different items into an order. -/
structure IsStrict (before : α → α → Bool) : Prop where
  irrefl : ∀ a, before a a = false
  trans : ∀ a b c, before a b = true → before b c = true → before a c = true
  connected : ∀ a b, before a b = false → before b a = false → a = b

variable [DecidableEq α]

/-- Inserting an item into an ascending list leaves it ascending. -/
theorem pairwise_insert (h : IsStrict before) (a : α) {items : List α}
    (hItems : items.Pairwise (before · · = true)) :
    (insert before a items).Pairwise (before · · = true) := by
  induction items with
  | nil => exact List.pairwise_singleton _ a
  | cons b rest ih =>
    obtain ⟨hHead, hRest⟩ := List.pairwise_cons.1 hItems
    unfold insert
    split
    · rename_i hBefore
      refine List.pairwise_cons.2 ⟨?_, hItems⟩
      intro c hc
      rcases List.mem_cons.1 hc with rfl | hc
      · exact hBefore
      · exact h.trans a b c hBefore (hHead c hc)
    · rename_i hNotBefore
      split
      · exact hItems
      · rename_i hOther
        refine List.pairwise_cons.2 ⟨?_, ih hRest⟩
        intro c hc
        rcases mem_insert.1 hc with rfl | hc
        · by_contra hNotBehind
          exact hOther (h.connected c b (by simpa using hNotBefore) (by simpa using hNotBehind))
        · exact hHead c hc

/-- A list whose items have been inserted one by one is ascending. -/
theorem pairwise_ofList (h : IsStrict before) (items : List α) :
    (ofList before items).Pairwise (before · · = true) := by
  induction items with
  | nil => exact .nil
  | cons a rest ih => exact pairwise_insert h a ih

/-- Sorting puts every item in once. -/
theorem nodup_ofList (h : IsStrict before) (items : List α) : (ofList before items).Nodup := by
  refine (pairwise_ofList h items).imp ?_
  rintro a b hBefore rfl
  simp [h.irrefl] at hBefore

/-! ## Orders of keys -/

omit [DecidableEq α] in
/-- The order of the texts that items are known by. -/
theorem isStrict_text {text : α → String} (hInjective : Function.Injective text) :
    IsStrict fun a b => decide (text a < text b) where
  irrefl a := by simp
  trans a b c hab hbc := by
    rw [decide_eq_true_eq] at hab hbc ⊢
    exact lt_trans hab hbc
  connected a b hab hba := by
    rw [decide_eq_false_iff_not, not_lt] at hab hba
    exact hInjective (le_antisymm hba hab)

omit [DecidableEq α] in
/-- The order of a first part and, where that is the same, of a second part. -/
theorem isStrict_lex {β γ : Type} [DecidableEq β] (first : α → β) (second : α → γ)
    (hInjective : ∀ a b, first a = first b → second a = second b → a = b)
    {beforeFirst : β → β → Bool} (hFirst : IsStrict beforeFirst)
    {beforeSecond : γ → γ → Bool} (hSecond : IsStrict beforeSecond) :
    IsStrict fun a b => beforeFirst (first a) (first b) ||
      (first a == first b && beforeSecond (second a) (second b)) where
  irrefl a := by simp [hFirst.irrefl, hSecond.irrefl]
  trans a b c hab hbc := by
    simp only [Bool.or_eq_true, Bool.and_eq_true, beq_iff_eq] at hab hbc ⊢
    rcases hab with hab | ⟨hSame, hab⟩
    · rcases hbc with hbc | ⟨hSame, -⟩
      · exact .inl (hFirst.trans _ _ _ hab hbc)
      · exact .inl (hSame ▸ hab)
    · rcases hbc with hbc | ⟨hSame', hbc⟩
      · exact .inl (hSame ▸ hbc)
      · exact .inr ⟨hSame.trans hSame', hSecond.trans _ _ _ hab hbc⟩
  connected a b hab hba := by
    simp only [Bool.or_eq_false_iff, Bool.and_eq_false_iff, beq_eq_false_iff_ne] at hab hba
    have hSame := hFirst.connected _ _ hab.1 hba.1
    exact hInjective a b hSame (hSecond.connected _ _ (hab.2.resolve_left (· hSame))
      (hba.2.resolve_left (· hSame.symm)))

end Ordered

open Ordered

/-- The order of item ids is strict and total. -/
theorem ItemId.isStrict_before : IsStrict ItemId.before :=
  isStrict_text fun ⟨_⟩ ⟨_⟩ => congrArg mk

/-- The order of port ids is strict and total. -/
theorem PortId.isStrict_before : IsStrict PortId.before :=
  isStrict_lex PortId.node PortId.role (fun ⟨_, _⟩ ⟨_, _⟩ => congrArg₂ mk)
    ItemId.isStrict_before (isStrict_text fun ⟨_⟩ ⟨_⟩ => congrArg Role.mk)

/-- The order of connection ids is strict and total. -/
theorem ConnectionId.isStrict_before : IsStrict ConnectionId.before :=
  isStrict_lex ConnectionId.source ConnectionId.target (fun ⟨_, _⟩ ⟨_, _⟩ => congrArg₂ mk)
    PortId.isStrict_before PortId.isStrict_before

end FlowCanvas
