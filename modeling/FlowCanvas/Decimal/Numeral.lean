import FlowCanvas.Decimal.Digit

/-!
# Decimal numerals

A numeral is the written form of a number in a JSON document: a sign, the digits before the point,
the digits after it if there is a point, and a power of ten if there is one. Two spellings that
differ only in the letter of the exponent or in a plus sign are the same numeral.

`Numeral.scan?` reads a numeral at the front of a text and `Numeral.chars` writes one.
-/

set_option autoImplicit false

namespace FlowCanvas

/-- The written form of a number. -/
structure Numeral where
  negative : Bool
  /-- The digits before the point. -/
  whole : List Digit
  /-- The digits after the point, where there is one. -/
  fraction : Option (List Digit) := none
  /-- Whether the exponent is negative, and its digits, where there is one. -/
  exponent : Option (Bool × List Digit) := none
  deriving DecidableEq

namespace Numeral

/-- The numeral of an integer. -/
def ofInt (i : Int) : Numeral :=
  { negative := decide (i < 0), whole := Digit.ofNat i.natAbs }

/-- Takes the digits before the point: a single zero, or digits that do not start with zero. -/
def scanWhole? (cs : List Char) : Option (List Digit × List Char) :=
  match Digit.span cs with
  | ([], _) => none
  | (d :: ds, rest) =>
    if d.val = 0 then some ([d], cs.drop 1) else some (d :: ds, rest)

/-- Takes a point and the digits after it; a point needs a digit. -/
def scanFraction? : List Char → Option (Option (List Digit) × List Char)
  | '.' :: cs =>
    match Digit.span cs with
    | ([], _) => none
    | (ds, rest) => some (some ds, rest)
  | cs => some (none, cs)

/-- Takes a sign; no sign means plus. -/
def scanSign : List Char → Bool × List Char
  | '+' :: cs => (false, cs)
  | '-' :: cs => (true, cs)
  | cs => (false, cs)

/-- Takes an exponent: the letter, a sign or none, and at least one digit. -/
def scanExponent? : List Char → Option (Option (Bool × List Digit) × List Char)
  | [] => some (none, [])
  | c :: cs =>
    if c = 'e' ∨ c = 'E' then
      let (negative, cs) := scanSign cs
      match Digit.span cs with
      | ([], _) => none
      | (ds, rest) => some (some (negative, ds), rest)
    else some (none, c :: cs)

/-- Takes the numeral at the front of a text. -/
def scan? (cs : List Char) : Option (Numeral × List Char) := do
  let (negative, cs) :=
    match cs with
    | '-' :: cs => (true, cs)
    | cs => (false, cs)
  let (whole, cs) ← scanWhole? cs
  let (fraction, cs) ← scanFraction? cs
  let (exponent, cs) ← scanExponent? cs
  return (⟨negative, whole, fraction, exponent⟩, cs)

/-- The characters of a numeral. An exponent always has a sign. -/
def chars (n : Numeral) : List Char :=
  (if n.negative then ['-'] else []) ++ n.whole.map Digit.toChar ++
    (match n.fraction with
      | none => []
      | some ds => '.' :: ds.map Digit.toChar) ++
    (match n.exponent with
      | none => []
      | some (negative, ds) =>
        'e' :: (if negative then '-' else '+') :: ds.map Digit.toChar)

end Numeral

end FlowCanvas
