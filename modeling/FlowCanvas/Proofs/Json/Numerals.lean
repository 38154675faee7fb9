import FlowCanvas.Json.Number
import FlowCanvas.Proofs.Decimal.Digits
import Mathlib

/-!
# Numerals in texts

A numeral that can be read back from its characters (`Numeral.IsLegible`) can be read back from them
in a longer text, too, provided that the text does not go on as a numeral would
(`Numeral.scan?_chars_append`). The numerals of integers are legible, and those of at most 64 bits
stand for the integers that they were made of.
-/

set_option autoImplicit false

namespace FlowCanvas

namespace Numeral

/-- A text that does not go on with what may belong to a numeral. -/
def EndsNumeral (rest : List Char) : Prop :=
  ∀ c ∈ rest.head?, Digit.ofChar? c = none ∧ c ≠ '.' ∧ c ≠ 'e' ∧ c ≠ 'E'

/-- A numeral ends where the text does. -/
theorem endsNumeral_nil : EndsNumeral [] := by simp [EndsNumeral]

/-- Where a numeral ends, no digit follows. -/
theorem EndsNumeral.isDigitFree {rest : List Char} (h : EndsNumeral rest) :
    Digit.IsDigitFree rest := fun c hc => (h c hc).1

/-! ## Scanning in a longer text -/

variable {cs rest left : List Char}

/-- The whole part of a numeral is found in front of whatever does not start with a digit. -/
theorem scanWhole?_append {ds : List Digit} (hRest : Digit.IsDigitFree rest)
    (h : scanWhole? cs = some (ds, left)) : scanWhole? (cs ++ rest) = some (ds, left ++ rest) := by
  unfold scanWhole? at h ⊢
  rw [Digit.span_append hRest]
  cases cs with
  | nil => simp [Digit.span] at h
  | cons c cs =>
    split at h
    · cases h
    · rename_i d ds' left' hSpan
      rw [hSpan]
      simp only
      split at h
      · rename_i hZero
        rw [if_pos hZero]
        cases h
        rfl
      · rename_i hZero
        rw [if_neg hZero]
        cases h
        rfl

/-- The fraction of a numeral is found in front of whatever ends a numeral. -/
theorem scanFraction?_append {fraction : Option (List Digit)} (hRest : EndsNumeral rest)
    (h : scanFraction? cs = some (fraction, left)) :
    scanFraction? (cs ++ rest) = some (fraction, left ++ rest) := by
  cases cs with
  | nil =>
    cases h
    cases rest with
    | nil => rfl
    | cons c rest =>
      have hPoint : c ≠ '.' := (hRest c rfl).2.1
      unfold scanFraction?
      split
      · rename_i hSame
        exact absurd (List.cons.inj hSame).1 hPoint
      · rfl
  | cons c cs =>
    by_cases hPoint : c = '.'
    · subst hPoint
      simp only [scanFraction?, List.cons_append] at h ⊢
      rw [Digit.span_append hRest.isDigitFree]
      split at h
      · cases h
      · rename_i ds left' hNonempty hSpan
        cases h
        rw [hSpan]
        simp only
    · unfold scanFraction? at h ⊢
      split at h
      · exact absurd (List.cons.inj ‹_›).1 hPoint
      · cases h
        split
        · exact absurd (List.cons.inj ‹_›).1 hPoint
        · rfl

/-- A sign is found in front of whatever follows. -/
theorem scanSign_append (h : cs ≠ []) :
    scanSign (cs ++ rest) = ((scanSign cs).1, (scanSign cs).2 ++ rest) := by
  cases cs with
  | nil => exact absurd rfl h
  | cons c cs =>
    rw [List.cons_append]
    unfold scanSign
    split <;> simp_all

/-- The exponent of a numeral is found in front of whatever ends a numeral. -/
theorem scanExponent?_append {exponent : Option (Bool × List Digit)} (hRest : EndsNumeral rest)
    (h : scanExponent? cs = some (exponent, left)) :
    scanExponent? (cs ++ rest) = some (exponent, left ++ rest) := by
  cases cs with
  | nil =>
    cases h
    cases rest with
    | nil => rfl
    | cons c rest =>
      have hLetters := (hRest c rfl).2.2
      rw [List.nil_append, scanExponent?, if_neg (by simp [hLetters])]
  | cons c cs =>
    rw [scanExponent?.eq_def] at h ⊢
    simp only [List.cons_append] at h ⊢
    by_cases hLetter : c = 'e' ∨ c = 'E'
    · rw [if_pos hLetter] at h ⊢
      have hNonempty : cs ≠ [] := by
        rintro rfl
        simp [scanSign, Digit.span] at h
      simp only [scanSign_append hNonempty, Digit.span_append hRest.isDigitFree] at h ⊢
      split at h
      · cases h
      · rename_i ds left' hDigits hSpan
        cases h
        rw [hSpan]
        simp only
    · rw [if_neg hLetter] at h ⊢
      cases h
      rfl

/-- The part of a numeral after its sign. -/
def scanUnsigned? (negative : Bool) (cs : List Char) : Option (Numeral × List Char) := do
  let (whole, cs) ← scanWhole? cs
  let (fraction, cs) ← scanFraction? cs
  let (exponent, cs) ← scanExponent? cs
  return (⟨negative, whole, fraction, exponent⟩, cs)

/-- A numeral with a minus sign is read behind that sign. -/
theorem scan?_minus (cs : List Char) : scan? ('-' :: cs) = scanUnsigned? true cs := rfl

/-- A numeral without a minus sign is read from its first character on. -/
theorem scan?_of_ne {c : Char} (h : c ≠ '-') (cs : List Char) :
    scan? (c :: cs) = scanUnsigned? false (c :: cs) := by
  unfold scan? scanUnsigned?
  split
  · rename_i hMinus
    split at hMinus
    · exact absurd (List.cons.inj ‹_›).1 h
    · cases hMinus
      rfl

/-- A numeral is found behind its sign, in front of whatever ends it. -/
theorem scanUnsigned?_append {negative : Bool} {n : Numeral} (hRest : EndsNumeral rest)
    (h : scanUnsigned? negative cs = some (n, left)) :
    scanUnsigned? negative (cs ++ rest) = some (n, left ++ rest) := by
  unfold scanUnsigned? at h ⊢
  simp only [Option.bind_eq_bind, Option.bind_eq_some_iff] at h
  obtain ⟨⟨whole, left₁⟩, hWhole, ⟨fraction, left₂⟩, hFraction, ⟨exponent, left₃⟩, hExponent, hn⟩ :=
    h
  cases hn
  rw [scanWhole?_append hRest.isDigitFree hWhole, Option.bind_eq_bind, Option.bind_some]
  simp only
  rw [scanFraction?_append hRest hFraction, Option.bind_eq_bind, Option.bind_some]
  simp only
  rw [scanExponent?_append hRest hExponent]
  rfl

/-- A text that starts with a numeral starts with a minus sign or a digit. -/
theorem exists_of_scan? {n : Numeral} (h : scan? cs = some (n, left)) :
    ∃ c tail, cs = c :: tail ∧ (c = '-' ∨ (Digit.ofChar? c).isSome = true) := by
  cases cs with
  | nil => simp [scan?, scanWhole?, Digit.span] at h
  | cons c tail =>
    refine ⟨c, tail, rfl, ?_⟩
    by_contra hNeither
    rw [not_or, Bool.not_eq_true, Option.isSome_eq_false_iff, Option.isNone_iff_eq_none] at hNeither
    rw [scan?_of_ne hNeither.1] at h
    simp [scanUnsigned?, scanWhole?, Digit.span, hNeither.2] at h

/-- What is found in a text is found in a longer one, unless the text goes on as a numeral would. -/
theorem scan?_append {n : Numeral} (hRest : EndsNumeral rest) (h : scan? cs = some (n, left)) :
    scan? (cs ++ rest) = some (n, left ++ rest) := by
  obtain ⟨c, tail, rfl, -⟩ := exists_of_scan? h
  rw [List.cons_append]
  by_cases hMinus : c = '-'
  · subst hMinus
    rw [scan?_minus] at h ⊢
    exact scanUnsigned?_append hRest h
  · rw [scan?_of_ne hMinus] at h ⊢
    exact scanUnsigned?_append hRest h

/-! ## Legible numerals -/

/-- A numeral that its characters spell. -/
def IsLegible (n : Numeral) : Prop := scan? n.chars = some (n, [])

/-- A legible numeral is read back in front of whatever ends it. -/
theorem IsLegible.scan?_chars_append {n : Numeral} (h : n.IsLegible) (hRest : EndsNumeral rest) :
    scan? (n.chars ++ rest) = some (n, rest) :=
  scan?_append hRest h

/-- The digits of a natural number are those of a numeral, with or without a sign. -/
theorem scanUnsigned?_ofNat (negative : Bool) (m : Nat) :
    scanUnsigned? negative ((Digit.ofNat m).map Digit.toChar) =
      some (⟨negative, Digit.ofNat m, none, none⟩, []) := by
  have hSpan : Digit.span ((Digit.ofNat m).map Digit.toChar) = (Digit.ofNat m, []) := by
    have hAppend := Digit.span_map_toChar_append (Digit.ofNat m) Digit.isDigitFree_nil
    rwa [List.append_nil] at hAppend
  have hWhole : scanWhole? ((Digit.ofNat m).map Digit.toChar) = some (Digit.ofNat m, []) := by
    unfold scanWhole?
    rw [hSpan]
    rcases Nat.eq_zero_or_pos m with rfl | hPos
    · have hZero : Digit.ofNat 0 = [0] := by simp [Digit.ofNat]
      rw [hZero]
      rfl
    · cases hDigits : Digit.ofNat m with
      | nil => exact absurd hDigits (Digit.ofNat_ne_nil m)
      | cons d ds =>
        have hHead := Digit.head_ofNat_ne_zero hPos d (by rw [hDigits]; rfl)
        simp only
        rw [if_neg hHead]
  unfold scanUnsigned?
  rw [hWhole]
  rfl

/-- The numeral of an integer is legible. -/
theorem isLegible_ofInt (i : Int) : (ofInt i).IsLegible := by
  unfold IsLegible
  have hChars : (ofInt i).chars =
      (if i < 0 then ['-'] else []) ++ (Digit.ofNat i.natAbs).map Digit.toChar := by
    simp [chars, ofInt]
  by_cases hNegative : i < 0
  · rw [hChars, if_pos hNegative, List.singleton_append, scan?_minus, scanUnsigned?_ofNat]
    simp [ofInt, hNegative]
  · rw [hChars, if_neg hNegative, List.nil_append]
    cases hDigits : Digit.ofNat i.natAbs with
    | nil => exact absurd hDigits (Digit.ofNat_ne_nil _)
    | cons d ds =>
      have hMinus : d.toChar ≠ '-' := by
        clear hDigits
        revert d
        decide
      have hScan := scanUnsigned?_ofNat false i.natAbs
      rw [hDigits] at hScan
      rw [List.map_cons] at hScan ⊢
      rw [scan?_of_ne hMinus, hScan]
      simp [ofInt, hNegative, hDigits]

end Numeral

namespace Json.Number

/-- The numeral of an integer of at most 64 bits, signed or unsigned, stands for that integer. -/
theorem ofNumeral?_ofInt {i : Int} (hLow : -2 ^ 63 ≤ i) (hHigh : i < 2 ^ 64) :
    ofNumeral? (Numeral.ofInt i) = some (.integer i) := by
  have hValue : Digit.value (Digit.ofNat i.natAbs) = i.natAbs := Digit.value_ofNat _
  have hMin : Int64.minValue.toInt = -2 ^ 63 := by decide
  have hSize : UInt64.size = 2 ^ 64 := rfl
  unfold ofNumeral? Numeral.ofInt
  simp only [hValue, hMin, hSize]
  by_cases hNegative : i < 0
  · rw [if_pos (by simpa using hNegative), if_pos (by omega)]
    congr 2
    omega
  · rw [if_neg (by simpa using hNegative), if_pos (by omega)]
    congr 2
    omega

end Json.Number

end FlowCanvas
