import FlowCanvas.Binary.Format
import FlowCanvas.Decimal.Digit

/-!
# Shortest decimals

Every positive finite number of a binary format is the nearest one for a whole interval of reals.
`Format.shortest` picks from that interval a decimal with the fewest digits, and of those the
decimal nearest to the number itself, a tie going to the even last digit.

The search looks at one decimal grid after the other, from one digit upwards. On each grid only the
two neighbours of the number matter: a grid point inside the interval lies on one side of the
number, and then so does the neighbour on that side.
-/

set_option autoImplicit false

namespace FlowCanvas

/-- A positive decimal: digits `d₀ d₁ …` stand for `d₀.d₁…` times ten to the power `exponent`. -/
structure Decimal where
  /-- The digits, most significant first. -/
  digits : List Digit
  /-- The power of ten of the first digit. -/
  exponent : Int
  deriving DecidableEq

namespace Decimal

/-- The decimal `c` times ten to the power `place`, without trailing zeros. -/
def ofScaled (c : Nat) (place : Int) : Decimal :=
  let ds := Digit.ofNat c
  ⟨(ds.reverse.dropWhile (·.val == 0)).reverse, place + (ds.length - 1 : Nat)⟩

end Decimal

namespace Binary.Format

variable (f : Format)

/-- The power of ten of the first decimal digit of a positive quotient. -/
def leadingPlace (num den : Nat) : Int :=
  if den ≤ num then ((Digit.ofNat (num / den)).length - 1 : Nat)
  else -((Digit.ofNat ((den + num - 1) / num - 1)).length : Nat)

/-- Compares `c` times ten to the power `place` with `num / den`. -/
def compareScaled (c : Nat) (place : Int) (num den : Nat) : Ordering :=
  compare (c * Nat.pow 10 place.toNat * den) (num * Nat.pow 10 (-place).toNat)

/-- Whether `c` times ten to the power `place` rounds to the number of the given rank. The ends of
the interval belong to it when the significand is even. Just below a power of two the numbers are
twice as dense, so the interval is narrower there. -/
def roundsTo (rank c : Nat) (place : Int) : Bool :=
  let m := f.significand rank
  let gap := Nat.pow 2 (f.shift rank)
  let below := if m = f.binade ∧ 0 < f.shift rank then gap else 2 * gap
  let den := 4 * f.denominator
  let low := compareScaled c place (4 * m * gap - below) den
  let high := compareScaled c place (4 * m * gap + 2 * gap) den
  if m % 2 = 0 then low != .lt && high != .gt else low == .gt && high == .lt

/-- The grid point that rounds to the number of the given rank, on the grid whose points have
`place` as the power of ten of their last digit. -/
def gridPoint? (rank : Nat) (place : Int) : Option Nat :=
  let num := f.units rank
  let den := f.denominator
  let lower := num * Nat.pow 10 (-place).toNat / (den * Nat.pow 10 place.toNat)
  let upper := lower + 1
  match f.roundsTo rank lower place, f.roundsTo rank upper place with
  | true, false => some lower
  | false, true => some upper
  | false, false => none
  | true, true =>
    match compareScaled (lower + upper) place (2 * num) den with
    | .gt => some lower
    | .lt => some upper
    | .eq => some (if lower % 2 = 0 then lower else upper)

/-- The shortest decimal that rounds to the number of the given rank, which is positive and
finite. Twice the significand's binary digits are more decimal digits than any number needs. -/
def shortest (rank : Nat) : Decimal :=
  let first := leadingPlace (f.units rank) f.denominator
  let places := (List.range (2 * f.precision)).map (fun n : Nat => first - n)
  match places.findSome?
      (fun place => (f.gridPoint? rank place).map (Decimal.ofScaled · place)) with
  | some d => d
  | none => ⟨[], first⟩

end Binary.Format

end FlowCanvas
