import FlowCanvas.Binary.Format
import FlowCanvas.Decimal.Numeral

/-!
# Numbers that are typed

The texts that a form takes for numbers. They are read more liberally than the numerals of JSON
documents: a plus sign, leading zeros and a point without digits on one side are allowed, and so
are the names of infinity.
-/

set_option autoImplicit false

namespace FlowCanvas.Form

open Binary (binary64)

/-- The digits that make up a whole text. -/
def onlyDigits? (cs : List Char) : Option (List Digit) :=
  match Digit.span cs with
  | ([], _) => none
  | (ds, []) => some ds
  | _ => none

/-- The unsigned integer of 64 bits that a text writes: digits, behind a plus sign or not. -/
def wholeNumber? (cs : List Char) : Option UInt64 := do
  let ds ← onlyDigits? (if cs.head? = some '+' then cs.drop 1 else cs)
  let n := Digit.value ds
  if n < UInt64.size then some (UInt64.ofNat n) else none

/-- The power of ten that a text ends with: nothing, or the letter and digits with or without a
sign. -/
def typedExponent? : List Char → Option Int
  | [] => some 0
  | c :: cs =>
    if c = 'e' ∨ c = 'E' then
      let (negative, cs) := Numeral.scanSign cs
      (onlyDigits? cs).map fun ds => if negative then -(Digit.value ds) else Digit.value ds
    else none

/-- The decimal that a text without a sign writes, as a natural number and a power of ten. There
must be a digit before the point or behind it. -/
def typedDecimal? (cs : List Char) : Option (Nat × Int) := do
  let (whole, cs) := Digit.span cs
  let (fraction, cs) :=
    match cs with
    | '.' :: cs => Digit.span cs
    | cs => ([], cs)
  if whole.isEmpty && fraction.isEmpty then none
  else
    let exponent ← typedExponent? cs
    return (Digit.value (whole ++ fraction), exponent - (fraction.length : Nat))

/-- Whether the binary64 number nearest to a decimal is positive. Decimals of more than 400 places
behind the point are nearest to zero. -/
def roundsToPositive (significand : Nat) (exponent : Int) : Bool :=
  if significand = 0 then false
  else
    let places := ((Digit.ofNat significand).length : Int) + exponent
    if 0 < places then true
    else if places < -400 then false
    else binary64.nearest significand (Nat.pow 10 (-exponent).toNat) != 0

/-- The small letter of an ASCII capital. -/
def asciiLower (c : Char) : Char :=
  if 'A' ≤ c ∧ c ≤ 'Z' then Char.ofNat (c.toNat + 32) else c

/-- Whether a text writes a number greater than zero. -/
def isPositiveText (cs : List Char) : Bool :=
  let (negative, cs) := Numeral.scanSign cs
  if negative then false
  else
    match typedDecimal? cs with
    | some (significand, exponent) => roundsToPositive significand exponent
    | none => ["inf".toList, "infinity".toList].contains (cs.map asciiLower)

end FlowCanvas.Form
