import FlowCanvas.Decimal.Digit
import Mathlib

/-!
# Digits in texts

The digits that are written at the front of a text are read back, up to the first character that is
no digit. The digits of a natural number do not start with a zero, except for those of zero.
-/

set_option autoImplicit false

namespace FlowCanvas.Digit

/-- A text that does not go on with a digit. -/
def IsDigitFree (rest : List Char) : Prop := ∀ c ∈ rest.head?, ofChar? c = none

/-- The empty text does not go on with a digit. -/
theorem isDigitFree_nil : IsDigitFree [] := by simp [IsDigitFree]

/-- The character of a digit is read as that digit. -/
theorem ofChar?_toChar (d : Digit) : ofChar? d.toChar = some d := by
  revert d
  decide

/-- A character that is read as a digit is the character of that digit. -/
theorem toChar_of_ofChar? {c : Char} {d : Digit} (h : ofChar? c = some d) : d.toChar = c := by
  unfold ofChar? at h
  split at h
  · rename_i hRange
    cases h
    apply Char.toNat_inj.1
    rw [toChar, Char.toNat_ofNat, if_pos (.inl (by simp only; omega))]
    show 48 + (c.toNat - 48) = c.toNat
    omega
  · cases h

/-- The digits at the front of a text and what follows them make up the text. -/
theorem map_toChar_span (cs : List Char) : (span cs).1.map toChar ++ (span cs).2 = cs := by
  induction cs with
  | nil => rfl
  | cons c cs ih =>
    unfold span
    cases hDigit : ofChar? c with
    | none => rfl
    | some d =>
      simp only [List.map_cons, List.cons_append]
      rw [toChar_of_ofChar? hDigit, ih]

/-- Where no digit follows, no digits are taken. -/
theorem span_of_isDigitFree {rest : List Char} (h : IsDigitFree rest) : span rest = ([], rest) := by
  cases rest with
  | nil => rfl
  | cons c rest =>
    unfold span
    rw [h c rfl]

/-- In a longer text the same digits are found as in the text alone. -/
theorem span_append {cs rest : List Char} (hRest : IsDigitFree rest) :
    span (cs ++ rest) = ((span cs).1, (span cs).2 ++ rest) := by
  induction cs with
  | nil => exact span_of_isDigitFree hRest
  | cons c cs ih =>
    rw [List.cons_append]
    unfold span
    cases ofChar? c with
    | none => rfl
    | some d =>
      simp only
      rw [ih]

/-- Written digits are read back. -/
theorem span_map_toChar_append (ds : List Digit) {rest : List Char} (hRest : IsDigitFree rest) :
    span (ds.map toChar ++ rest) = (ds, rest) := by
  induction ds with
  | nil => exact span_of_isDigitFree hRest
  | cons d ds ih =>
    rw [List.map_cons, List.cons_append]
    unfold span
    rw [ofChar?_toChar]
    simp only
    rw [ih]

/-- Every number is written with at least one digit. -/
theorem ofNat_ne_nil (n : Nat) : ofNat n ≠ [] := by
  unfold ofNat
  split <;> simp

/-- The digits of a positive number start with a digit that is not zero. -/
theorem head_ofNat_ne_zero {n : Nat} (hn : 0 < n) (d : Digit) (h : (ofNat n).head? = some d) :
    d.val ≠ 0 := by
  induction n using ofNat.induct with
  | case1 n hSmall =>
    rw [ofNat, if_pos hSmall, List.head?_cons, Option.some.injEq] at h
    subst h
    show n % 10 ≠ 0
    omega
  | case2 n hLarge ih =>
    rw [ofNat, if_neg hLarge] at h
    refine ih (by omega) ?_
    cases hDigits : ofNat (n / 10) with
    | nil => exact absurd hDigits (ofNat_ne_nil _)
    | cons e es =>
      rw [hDigits] at h
      exact h

end FlowCanvas.Digit
