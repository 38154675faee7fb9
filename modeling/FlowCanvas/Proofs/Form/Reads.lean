import FlowCanvas.Proofs.Form.Checking
import FlowCanvas.Proofs.Form.ListTexts
import Mathlib

/-!
# Reading values off a form

A read of a field succeeds if there is a value that can be taken as what is wanted. For each read
there is a function on values (`Form.textOf?`, `Form.listOf?`, `Form.numberOf?`, `Form.objectOf?`)
and a lemma that the read is this function applied to the value of the field.
-/

set_option autoImplicit false

namespace FlowCanvas

open FlowCanvas.Json (Number Value)

/-! ## Results that may be errors -/

namespace Except

variable {ε α β : Type} {e : ε} {a b : α}

/-- A computation in two steps succeeds if the first does and the second does with its result. -/
theorem bind_eq_ok_iff {x : Except ε α} {f : α → Except ε β} {b : β} :
    (x >>= f) = .ok b ↔ ∃ a, x = .ok a ∧ f a = .ok b := by
  cases x <;> simp [bind, Except.bind]

/-- A computation that only returns succeeds with what it returns. -/
theorem pure_eq_ok_iff : (pure a : Except ε α) = .ok b ↔ a = b :=
  iff_of_eq (Except.ok.injEq a b)

/-- A failed computation gives no result. -/
theorem throw_ne_ok : (throw e : Except ε α) ≠ .ok a := fun h => nomatch h

end Except

/-! ## Reads -/

namespace Form

variable {form : Form} {id : String} {v : Value}

/-- A value taken as a text. -/
def textOf? : Value → Option String
  | .null => some ""
  | .string s => some s
  | .number n => some n.text
  | _ => none

/-- A value taken as a list. -/
def listOf? : Value → Option (List String)
  | .array items => some (items.filterMap fun
      | .string s => some s
      | _ => none)
  | v => (textOf? v).map partsOf

/-- What is no array is taken as the list that is written in its text. -/
theorem listOf?_of_forall_ne (h : ∀ items, v ≠ .array items) :
    listOf? v = (textOf? v).map partsOf := by
  cases v with
  | array items => exact absurd rfl (h items)
  | _ => rfl

/-- A value taken as a whole number, or as the lack of one. -/
def numberOf? : Value → Option (Option UInt64)
  | .null => some none
  | .number n => n.toUInt64?.map some
  | .string s =>
    if Text.isBlank s then some none else (wholeNumber? (Text.trimChars s.toList)).map some
  | _ => none

/-- A value taken as an object. -/
def objectOf? : Value → Option Value
  | .null => some Value.empty
  | .object fields => some (.object fields)
  | .string s =>
    if Text.isBlank s then some Value.empty
    else
      match Value.parse? s with
      | some (.object fields) => some (.object fields)
      | _ => none
  | _ => none

/-- The value of a field is there, or the read fails. -/
theorem value_eq_ok_iff : form.value id = .ok v ↔ form.values.lookup id = some v := by
  unfold value
  cases form.values.lookup id <;> simp

/-- A text is read if there is a value that can be taken as one. -/
theorem text_eq_ok_iff {s : String} :
    form.text id = .ok s ↔ ∃ v, form.values.lookup id = some v ∧ textOf? v = some s := by
  simp only [text, Except.bind_eq_ok_iff, value_eq_ok_iff]
  refine exists_congr fun v => and_congr_right fun _ => ?_
  cases v <;> simp [textOf?, Except.pure_eq_ok_iff, Except.throw_ne_ok]

/-- A text that may be missing is read if a text is, and is missing if that one is blank. -/
theorem optionalText_eq_ok_iff {o : Option String} :
    form.optionalText id = .ok o ↔
      ∃ s, form.text id = .ok s ∧ (if Text.isBlank s then none else some s) = o := by
  simp only [optionalText, Except.bind_eq_ok_iff, Except.pure_eq_ok_iff]

/-- A list is read if there is a value that can be taken as one. -/
theorem list_eq_ok_iff {items : List String} :
    form.list id = .ok items ↔ ∃ v, form.values.lookup id = some v ∧ listOf? v = some items := by
  simp only [list, Except.bind_eq_ok_iff, value_eq_ok_iff]
  refine exists_congr fun v => and_congr_right fun hLookup => ?_
  cases v with
  | array items => exact Except.pure_eq_ok_iff.trans Option.some_inj.symm
  | _ =>
    simp only [listOf?, Except.bind_eq_ok_iff, Except.pure_eq_ok_iff, text_eq_ok_iff, hLookup,
      Option.map_eq_some_iff, Option.some.injEq, exists_eq_left']

/-- A whole number that may be missing is read if there is a value that can be taken as one. -/
theorem optionalNumber_eq_ok_iff {o : Option UInt64} :
    form.optionalNumber id = .ok o ↔
      ∃ v, form.values.lookup id = some v ∧ numberOf? v = some o := by
  simp only [optionalNumber, Except.bind_eq_ok_iff, value_eq_ok_iff]
  refine exists_congr fun v => and_congr_right fun _ => ?_
  cases v with
  | number n =>
    cases hNumber : n.toUInt64? <;>
      simp [numberOf?, hNumber, Except.pure_eq_ok_iff, Except.throw_ne_ok]
  | string s =>
    cases hBlank : Text.isBlank s <;>
      cases hNumber : wholeNumber? (Text.trimChars s.toList) <;>
        simp [numberOf?, hBlank, hNumber, Except.pure_eq_ok_iff, Except.throw_ne_ok]
  | _ => simp [numberOf?, Except.pure_eq_ok_iff, Except.throw_ne_ok]

/-- A whole number is read if it is read as one that may be missing, and is there. -/
theorem wholeNumber_eq_ok_iff {i : UInt64} :
    form.wholeNumber id = .ok i ↔ form.optionalNumber id = .ok (some i) := by
  simp only [wholeNumber, Except.bind_eq_ok_iff]
  constructor
  · rintro ⟨_ | j, hRead, hNumber⟩
    · exact absurd hNumber Except.throw_ne_ok
    · rwa [← Except.pure_eq_ok_iff.1 hNumber]
  · exact fun hRead => ⟨_, hRead, rfl⟩

/-- A small number is read if a whole number is, and fits. -/
theorem smallNumber_eq_ok_iff {expected : Expectation} {k : UInt32} :
    form.smallNumber id expected = .ok k ↔
      ∃ i, form.wholeNumber id = .ok i ∧ i.toNat < UInt32.size ∧ UInt32.ofNat i.toNat = k := by
  simp only [smallNumber, Except.bind_eq_ok_iff]
  refine exists_congr fun i => and_congr_right fun _ => ?_
  by_cases hSmall : i.toNat < UInt32.size <;>
    simp [hSmall, Except.pure_eq_ok_iff, Except.throw_ne_ok]

/-- An object is read if there is a value that can be taken as one. -/
theorem object_eq_ok_iff {w : Value} :
    form.object id = .ok w ↔ ∃ v, form.values.lookup id = some v ∧ objectOf? v = some w := by
  simp only [object, Except.bind_eq_ok_iff, value_eq_ok_iff]
  refine exists_congr fun v => and_congr_right fun _ => ?_
  cases v with
  | string s =>
    cases hBlank : Text.isBlank s
    · cases hRead : Value.parse? s with
      | none => simp [objectOf?, hBlank, hRead, Except.throw_ne_ok]
      | some w =>
        cases w <;> simp [objectOf?, hBlank, hRead, Except.pure_eq_ok_iff, Except.throw_ne_ok]
    · simp [objectOf?, hBlank, Except.pure_eq_ok_iff]
  | _ => simp [objectOf?, Except.pure_eq_ok_iff, Except.throw_ne_ok]

end Form

end FlowCanvas
