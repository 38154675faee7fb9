import FlowCanvas.Proofs.Form.Numbers
import FlowCanvas.Proofs.Form.Reads
import Mathlib

/-!
# Rules and reads

The rules of a field and the read of its value look at the value in two different ways. A value that
must be filled in is not read as a blank text (`Form.isBlank_of_required`), and the rule for objects
passes what can be read as an object (`Form.check?_jsonObject_eq_none_iff`). The rule for positive
numbers passes more than what can be read as a whole number: what is read are the values that count
(`Form.countsBelow_iff`).
-/

set_option autoImplicit false

namespace FlowCanvas

open FlowCanvas.Json (Number Value)

namespace Form

variable {v : Value} {s : String}

/-- A value that must be filled in is not read as a blank text. -/
theorem isBlank_of_required (hRequired : Validator.required.check? v = none)
    (hText : textOf? v = some s) : Text.isBlank s = false := by
  cases v with
  | number x =>
    cases hText
    exact x.isBlank_text
  | string t =>
    cases hText
    exact check?_required_string_iff.1 hRequired
  | null => cases hRequired
  | _ => cases hText

/-- A value that must be filled in is not read as the lack of a number. -/
theorem numberOf?_ne_some_none (hRequired : Validator.required.check? v = none) :
    numberOf? v ≠ some none := by
  intro hNone
  cases v with
  | string s =>
    have hBlank : Text.isBlank s = false := isBlank_of_required hRequired rfl
    simp [numberOf?, hBlank] at hNone
  | number x => simp [numberOf?] at hNone
  | null => cases hRequired
  | _ => cases hNone

/-- The rule for objects passes what can be read as an object. -/
theorem check?_jsonObject_eq_none_iff :
    Validator.jsonObject.check? v = none ↔ ∃ w, objectOf? v = some w := by
  cases v with
  | string s =>
    cases hBlank : Text.isBlank s with
    | true => simp [Validator.check?, objectOf?, hBlank]
    | false =>
      cases hRead : Value.parse? s with
      | none => simp [Validator.check?, objectOf?, hBlank, hRead]
      | some w => cases w <;> simp [Validator.check?, objectOf?, hBlank, hRead]
  | _ => simp [Validator.check?, objectOf?]

/-- A value says how many: a whole number below a limit, or a text that writes one, or nothing. -/
def CountsBelow (limit : Nat) : Value → Prop
  | .null => True
  | .number (.integer i) => 0 ≤ i ∧ i < limit
  | .string s => ∃ ds, IsSigned ds (Text.trimChars s.toList) ∧ Digit.value ds < limit
  | _ => False

/-- A text that passes the rule for positive numbers is not blank. -/
theorem isBlank_of_positive (h : Validator.positive.check? (.string s) = none) :
    Text.isBlank s = false := by
  by_contra hBlank
  rw [Bool.not_eq_false, Text.isBlank_iff] at hBlank
  simp only [Validator.check?, hBlank] at h
  exact absurd h (by decide)

/-- Of the values that pass the rule for positive numbers, those can be read as whole numbers that
say how many. -/
theorem countsBelow_iff {limit : Nat} (hLimit : limit ≤ UInt64.size)
    (hPositive : Validator.positive.check? v = none) :
    CountsBelow limit v ↔ ∃ o, numberOf? v = some o ∧ ∀ i ∈ o, i.toNat < limit := by
  cases v with
  | null => simp [CountsBelow, numberOf?]
  | number x => cases x with
    | integer i =>
      have hRange : (0 ≤ i ∧ i < UInt64.size) ∧ i.toNat < limit ↔ 0 ≤ i ∧ i < limit := by omega
      simp only [CountsBelow, numberOf?, Number.toUInt64?, ← hRange]
      constructor
      · rintro ⟨hFits, hSmall⟩
        rw [if_pos hFits]
        refine ⟨_, rfl, ?_⟩
        rintro _ ⟨⟩
        rwa [UInt64.toNat_ofNat_of_lt' (by omega)]
      · rintro ⟨o, hRead, hSmall⟩
        split at hRead
        · rename_i hFits
          cases hRead
          have hBelow := hSmall _ rfl
          rw [UInt64.toNat_ofNat_of_lt' (by omega)] at hBelow
          exact ⟨hFits, hBelow⟩
        · cases hRead
    | real x => simp [CountsBelow, numberOf?, Number.toUInt64?]
  | string s =>
    simp only [CountsBelow, numberOf?, isBlank_of_positive hPositive, Bool.false_eq_true, if_false]
    constructor
    · rintro ⟨ds, hText, hSmall⟩
      have hValue : Digit.value ds = (UInt64.ofNat (Digit.value ds)).toNat :=
        (UInt64.toNat_ofNat_of_lt' (by omega)).symm
      refine ⟨_, Option.map_eq_some_iff.2
        ⟨_, wholeNumber?_eq_some_iff.2 ⟨ds, hText, hValue⟩, rfl⟩, ?_⟩
      rintro _ ⟨⟩
      rwa [← hValue]
    · rintro ⟨o, hRead, hSmall⟩
      obtain ⟨i, hNumber, rfl⟩ := Option.map_eq_some_iff.1 hRead
      obtain ⟨ds, hText, hValue⟩ := wholeNumber?_eq_some_iff.1 hNumber
      exact ⟨ds, hText, hValue ▸ hSmall i rfl⟩
  | _ => cases hPositive

end Form

end FlowCanvas
