import FlowCanvas.Binary.Shortest
import FlowCanvas.Decimal.Numeral

/-!
# JSON numbers

The number that a numeral stands for, and the numeral that a number is written as.

An integer numeral that fits 64 bits, signed or unsigned, stands for exactly that integer. Every
other numeral stands for a binary64 number, found in two steps: the leading digits, as many as fit
an unsigned 64-bit word, are rounded to binary64, and the result is multiplied or divided by the
binary64 number nearest to a power of ten. This is fast, and for long numerals it may end one
place beside the nearest number. A numeral beyond the finite numbers stands for nothing.
-/

set_option autoImplicit false

namespace FlowCanvas.Json

open Binary (binary32 binary64)

/-- A number of a JSON value. -/
inductive Number where
  /-- An integer from `-2 ^ 63` to `2 ^ 64 - 1`. -/
  | integer (value : Int)
  | real (value : Binary binary64)
  deriving BEq

/-- How numerals of a binary format are laid out: the decimal exponents that are written out
with a point. Beyond them a numeral has one digit before the point and an exponent. -/
structure NumeralLayout where
  /-- The least exponent written with a point. -/
  least : Int
  /-- The greatest exponent written with a point. -/
  greatest : Int

/-- Values of 64 bits are written out from `0.00001` up to 16 digits before the point. -/
def layout64 : NumeralLayout := ⟨-5, 15⟩

/-- Values of 32 bits are written out from `0.000001` up to 13 digits before the point. -/
def layout32 : NumeralLayout := ⟨-6, 12⟩

namespace NumeralLayout

/-- The numeral of a positive decimal. Written out, it always has a digit after the point. -/
def numeral (layout : NumeralLayout) (negative : Bool) (d : Decimal) : Numeral :=
  if layout.least ≤ d.exponent ∧ d.exponent ≤ layout.greatest then
    if 0 ≤ d.exponent then
      let length := d.exponent.toNat + 1
      let whole := d.digits.take length
      let fraction := d.digits.drop length
      { negative
        whole := whole ++ List.replicate (length - whole.length) 0
        fraction := some (if fraction.isEmpty then [0] else fraction) }
    else
      let zeros := List.replicate ((-d.exponent).toNat - 1) 0
      { negative, whole := [0], fraction := some (zeros ++ d.digits) }
  else
    let fraction := d.digits.drop 1
    { negative
      whole := d.digits.take 1
      fraction := if fraction.isEmpty then none else some fraction
      exponent := some (decide (d.exponent < 0), Digit.ofNat d.exponent.natAbs) }

end NumeralLayout

/-- The numeral of a finite number of a binary format: its shortest decimal, laid out. An infinity
has none. -/
def numeralOf? {f : Binary.Format} (layout : NumeralLayout) (x : Binary f) : Option Numeral :=
  if x.isInfinite then none
  else if x.rank = 0 then
    some { negative := x.negative, whole := [0], fraction := some [0] }
  else some (layout.numeral x.negative (f.shortest x.rank))

namespace Number

/-- Takes digits into a significand for as long as it fits 64 bits, and returns the digits that
are left over. -/
def collect (significand : Nat) : List Digit → Nat × List Digit
  | [] => (significand, [])
  | d :: ds =>
    if significand * 10 + d.val < UInt64.size then collect (significand * 10 + d.val) ds
    else (significand, d :: ds)

/-- The binary64 rank of a power of ten. -/
def powerOfTen (n : Nat) : Nat := binary64.nearest (Nat.pow 10 n) 1

/-- Scales a binary64 rank by a power of ten; nothing if the result is too large. The powers of
ten reach from 0 to 308, so a smaller exponent takes several divisions. -/
def scale? (rank : Nat) (exponent : Int) : Option Nat :=
  if 0 ≤ exponent then
    if exponent ≤ 308 then
      let r := binary64.mul rank (powerOfTen exponent.toNat)
      if r = binary64.infinity then none else some r
    else if rank = 0 then some 0 else none
  else if -308 ≤ exponent then
    some (binary64.div rank (powerOfTen (-exponent).toNat))
  else if rank = 0 then some 0
  else scale? (binary64.div rank (powerOfTen 308)) (exponent + 308)
  termination_by (-exponent).toNat
  decreasing_by omega

/-- The binary64 number that a numeral stands for. -/
def realOf? (n : Numeral) : Option (Binary binary64) := do
  let (significand, leftOver) := collect 0 n.whole
  let fraction := n.fraction.getD []
  let (significand, ignored) := collect significand fraction
  let places : Int := leftOver.length - (fraction.length - ignored.length : Nat)
  let power : Int :=
    match n.exponent with
    | none => 0
    | some (negative, ds) => if negative then -(Digit.value ds) else Digit.value ds
  let rank ← scale? (binary64.nearest significand 1) (places + power)
  return ⟨n.negative, min rank binary64.infinity, Nat.min_le_right _ _⟩

/-- The number that a numeral stands for. Zero with a minus sign is no integer. -/
def ofNumeral? (n : Numeral) : Option Number :=
  match n.fraction, n.exponent with
  | none, none =>
    let magnitude := Digit.value n.whole
    if n.negative then
      if magnitude ≠ 0 ∧ Int64.minValue.toInt ≤ -magnitude then some (.integer (-magnitude))
      else (realOf? n).map .real
    else if magnitude < UInt64.size then some (.integer magnitude)
    else (realOf? n).map .real
  | _, _ => (realOf? n).map .real

/-- The numeral that a number is written as. -/
def numeral? : Number → Option Numeral
  | .integer i => some (Numeral.ofInt i)
  | .real x => numeralOf? layout64 x

/-- The number as a value of 64 bits. An integer is rounded, and a real number is one already. -/
def toBinary64 : Number → Binary binary64
  | .integer i => Binary.ofInt binary64 i
  | .real x => x

/-- The number as a value of 32 bits. Both kinds of numbers are rounded once. -/
def toBinary32 : Number → Binary binary32
  | .integer i => Binary.ofInt binary32 i
  | .real x => x.convert binary32

/-- The number as an unsigned integer of 64 bits, if it is one. -/
def toUInt64? : Number → Option UInt64
  | .integer i => if 0 ≤ i ∧ i < UInt64.size then some (UInt64.ofNat i.toNat) else none
  | .real _ => none

/-- The number as an unsigned integer of 32 bits, if it is one. -/
def toUInt32? : Number → Option UInt32
  | .integer i => if 0 ≤ i ∧ i < UInt32.size then some (UInt32.ofNat i.toNat) else none
  | .real _ => none

/-- The number as a signed integer of 64 bits, if it is one. -/
def toInt64? : Number → Option Int64
  | .integer i =>
    if Int64.minValue.toInt ≤ i ∧ i ≤ Int64.maxValue.toInt then some (Int64.ofInt i) else none
  | .real _ => none

/-- Whether the number is greater than zero. -/
def isPositive : Number → Bool
  | .integer i => decide (0 < i)
  | .real x => x.isPositive

/-- The text of a number. -/
def text (n : Number) : String :=
  match n.numeral? with
  | some numeral => String.ofList numeral.chars
  | none => "null"

end Number

end FlowCanvas.Json
