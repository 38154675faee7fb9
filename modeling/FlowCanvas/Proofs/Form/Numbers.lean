import FlowCanvas.Form.Field
import FlowCanvas.Proofs.Decimal.Digits
import Mathlib

/-!
# Numbers in forms

The texts that are read as whole numbers are digits, behind a plus sign or not, as long as the
number fits 64 bits (`Form.wholeNumber?_eq_some_iff`). The rule for positive numbers takes more than
these. The text that is written for a number is never blank (`Json.Number.isBlank_text`).
-/

set_option autoImplicit false

namespace FlowCanvas

/-! ## Whole numbers -/

namespace Form

variable {cs : List Char} {ds : List Digit} {i : UInt64}

/-- A text is read as digits if it is made of these digits, and of at least one. -/
theorem onlyDigits?_eq_some_iff :
    onlyDigits? cs = some ds ↔ ds ≠ [] ∧ cs = ds.map Digit.toChar := by
  constructor
  · intro h
    have hText := Digit.map_toChar_span cs
    unfold onlyDigits? at h
    split at h
    · cases h
    · rename_i found hNonempty hSpan
      cases h
      rw [hSpan, List.append_nil] at hText
      exact ⟨hNonempty, hText.symm⟩
    · cases h
  · rintro ⟨hNonempty, rfl⟩
    have hSpan := Digit.span_map_toChar_append ds Digit.isDigitFree_nil
    rw [List.append_nil] at hSpan
    unfold onlyDigits?
    rw [hSpan]
    cases ds with
    | nil => exact absurd rfl hNonempty
    | cons d ds => rfl

/-- A text is made of digits, behind a plus sign or not. -/
def IsSigned (ds : List Digit) (cs : List Char) : Prop :=
  ds ≠ [] ∧ (cs = ds.map Digit.toChar ∨ cs = '+' :: ds.map Digit.toChar)

/-- A text without the plus sign that it may start with is read as digits if it is made of them,
behind a plus sign or not. -/
theorem onlyDigits?_unsigned_iff :
    onlyDigits? (if cs.head? = some '+' then cs.drop 1 else cs) = some ds ↔ IsSigned ds cs := by
  rw [onlyDigits?_eq_some_iff]
  have hNoPlus : ds ≠ [] → (ds.map Digit.toChar).head? ≠ some '+' := by
    cases ds with
    | nil => exact fun hNonempty => absurd rfl hNonempty
    | cons d ds =>
      intro _ hHead
      have hEvery : ∀ d : Digit, d.toChar ≠ '+' := by decide
      exact hEvery d (Option.some.inj hHead)
  refine and_congr_right fun hNonempty => ?_
  split
  · rename_i hPlus
    obtain ⟨rest, rfl⟩ := List.head?_eq_some_iff.1 hPlus
    constructor
    · intro h
      exact .inr (congrArg _ h)
    · rintro (h | h)
      · exact absurd (h ▸ hPlus) (hNoPlus hNonempty)
      · exact (List.cons.inj h).2
  · rename_i hPlus
    constructor
    · exact .inl
    · rintro (h | h)
      · exact h
      · exact absurd (h ▸ rfl) hPlus

/-- The texts that are read as a whole number. -/
theorem wholeNumber?_eq_some_iff :
    wholeNumber? cs = some i ↔ ∃ ds, IsSigned ds cs ∧ Digit.value ds = i.toNat := by
  unfold wholeNumber?
  rw [Option.bind_eq_bind, Option.bind_eq_some_iff]
  refine exists_congr fun ds => ?_
  rw [onlyDigits?_unsigned_iff]
  refine and_congr_right fun _ => ?_
  simp only
  split
  · rename_i hSmall
    rw [Option.some.injEq]
    constructor
    · rintro rfl
      exact (UInt64.toNat_ofNat_of_lt' hSmall).symm
    · intro hValue
      rw [hValue, UInt64.ofNat_toNat]
  · rename_i hLarge
    constructor
    · exact fun h => nomatch h
    · intro hValue
      exact absurd (hValue ▸ i.toNat_lt) hLarge

end Form

/-! ## The texts of numbers -/

/-- There is something to be seen in a numeral, unless it has no part at all. -/
theorem Numeral.exists_isBlankChar_eq_false {n : Numeral}
    (h : n.whole ≠ [] ∨ n.fraction ≠ none ∨ n.exponent ≠ none) :
    ∃ c ∈ n.chars, Text.isBlankChar c = false := by
  obtain ⟨negative, whole, fraction, exponent⟩ := n
  rcases h with hWhole | hFraction | hExponent
  · cases whole with
    | nil => exact absurd rfl hWhole
    | cons d ds =>
      have hEvery : ∀ d : Digit, Text.isBlankChar d.toChar = false := by decide
      exact ⟨d.toChar, by simp [chars], hEvery d⟩
  · cases fraction with
    | none => exact absurd rfl hFraction
    | some ds => exact ⟨'.', by simp [chars], rfl⟩
  · cases exponent with
    | none => exact absurd rfl hExponent
    | some ds => exact ⟨'e', by simp [chars], rfl⟩

namespace Json

/-- However a decimal is laid out, it has a fraction or an exponent. -/
theorem NumeralLayout.hasFraction_or_hasExponent (layout : NumeralLayout) (negative : Bool)
    (d : Decimal) : (layout.numeral negative d).fraction ≠ none ∨
      (layout.numeral negative d).exponent ≠ none := by
  unfold numeral
  split
  · split
    · exact .inl (Option.some_ne_none _)
    · exact .inl (Option.some_ne_none _)
  · exact .inr (Option.some_ne_none _)

/-- A number is written as a text that is not blank. -/
theorem Number.isBlank_text (x : Number) : Text.isBlank x.text = false := by
  have hSeen : ∀ {cs : List Char}, (∃ c ∈ cs, Text.isBlankChar c = false) →
      Text.isBlank (.ofList cs) = false := by
    rintro cs ⟨c, hc, hBlank⟩
    rw [Text.isBlank, String.toList_ofList, List.all_eq_false]
    exact ⟨c, hc, by rw [hBlank]; exact Bool.false_ne_true⟩
  unfold text
  split
  · rename_i numeral hNumeral
    refine hSeen (Numeral.exists_isBlankChar_eq_false ?_)
    cases x with
    | integer i =>
      cases hNumeral
      exact .inl (Digit.ofNat_ne_nil _)
    | real x =>
      simp only [numeral?, numeralOf?] at hNumeral
      split at hNumeral
      · cases hNumeral
      · split at hNumeral
        · cases hNumeral
          exact .inl (List.cons_ne_nil _ _)
        · cases hNumeral
          exact .inr (NumeralLayout.hasFraction_or_hasExponent _ _ _)
  · rfl

end Json

end FlowCanvas
