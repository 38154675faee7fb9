/-!
# Binary floating-point numbers

A binary floating-point format has finitely many non-negative numbers, and this module names each
of them by its rank: zero has rank 0, the least positive number rank 1, and so on up to infinity,
which comes after the largest finite number. Every finite number is a whole multiple of the least
positive one, so exact arithmetic on the numbers of a format is arithmetic on natural numbers.

`Format.nearest` rounds a quotient of natural numbers to the nearest rank, a tie going to the even
one. Products and quotients of numbers are exact results rounded in this way.
-/

set_option autoImplicit false

namespace FlowCanvas.Binary

/-- A binary floating-point format. -/
structure Format where
  /-- How many binary digits the significand of a number has. -/
  precision : Nat
  /-- The least positive number is two to the power of minus `scale`. -/
  scale : Nat
  infinity : Nat

/-- Numbers of 64 bits: significands of 53 binary digits. -/
def binary64 : Format := ⟨53, 1074, 2047 * Nat.pow 2 52⟩

/-- Numbers of 32 bits: significands of 24 binary digits. -/
def binary32 : Format := ⟨24, 149, 255 * Nat.pow 2 23⟩

namespace Format

variable (f : Format)

/-- The denominator of the least positive number. -/
def denominator : Nat := Nat.pow 2 f.scale

/-- How many numbers a power of two and the next have between them. -/
def binade : Nat := Nat.pow 2 (f.precision - 1)

/-- The significand of the number of a given rank. -/
def significand (rank : Nat) : Nat :=
  if rank < f.binade then rank else f.binade + rank % f.binade

/-- The power of two by which the significand of the number of a given rank is multiplied. -/
def shift (rank : Nat) : Nat := rank / f.binade - 1

/-- The number of a given rank, as a multiple of the least positive number. -/
def units (rank : Nat) : Nat := f.significand rank * Nat.pow 2 (f.shift rank)

/-- The quotient of two natural numbers, rounded to the nearest whole number, a tie to the even
one. -/
def roundedQuotient (a b : Nat) : Nat :=
  let q := a / b
  let r := a % b
  if 2 * r < b then q else if b < 2 * r then q + 1 else q + q % 2

/-- The rank of the number nearest to `num / den`. What is too large for the format has the rank
of infinity. -/
def nearest (num den : Nat) : Nat :=
  let scaled := num * f.denominator
  let length := if scaled < den then 0 else (scaled / den).log2 + 1
  let shift := length - f.precision
  min f.infinity (shift * f.binade + roundedQuotient scaled (den * Nat.pow 2 shift))

/-- Nothing is rounded to more than infinity. -/
theorem nearest_le_infinity (num den : Nat) : f.nearest num den ≤ f.infinity :=
  Nat.min_le_left _ _

/-- The rank of the product of two numbers. -/
def mul (a b : Nat) : Nat :=
  f.nearest (f.units a * f.units b) (f.denominator * f.denominator)

/-- The rank of the quotient of two numbers, the second positive. -/
def div (a b : Nat) : Nat := f.nearest (f.units a) (f.units b)

end Format

end FlowCanvas.Binary

namespace FlowCanvas

open Binary

/-- A number of a binary format: a sign and a rank. There is a negative zero, and there are two
infinities. -/
structure Binary (f : Format) where
  negative : Bool
  /-- The place of the magnitude among the non-negative numbers of the format. -/
  rank : Nat
  rank_le : rank ≤ f.infinity

namespace Binary

variable {f : Format}

/-- The number nearest to a signed quotient of natural numbers. -/
def ofQuotient (f : Format) (negative : Bool) (num den : Nat) : Binary f :=
  ⟨negative, f.nearest num den, f.nearest_le_infinity num den⟩

/-- The number nearest to an integer. -/
def ofInt (f : Format) (i : Int) : Binary f :=
  ofQuotient f (decide (i < 0)) i.natAbs 1

/-- Positive zero. -/
def zero (f : Format) : Binary f := ⟨false, 0, Nat.zero_le _⟩

/-- Numerical equality: the two zeros are equal. -/
instance : BEq (Binary f) where
  beq x y := x.rank == y.rank && (x.negative == y.negative || x.rank == 0)

/-- Whether the number is greater than zero. -/
def isPositive (x : Binary f) : Bool := !x.negative && x.rank != 0

/-- Whether the number is one of the two infinities. -/
def isInfinite (x : Binary f) : Bool := x.rank == f.infinity

/-- The number of another format that is nearest to this one. -/
def convert (g : Format) (x : Binary f) : Binary g :=
  if x.isInfinite then ⟨x.negative, g.infinity, Nat.le_refl _⟩
  else ofQuotient g x.negative (f.units x.rank) f.denominator

end Binary

end FlowCanvas
