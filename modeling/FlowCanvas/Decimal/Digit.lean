/-!
# Decimal digits

Natural numbers as lists of decimal digits, most significant first, and the characters of digits.
-/

set_option autoImplicit false

namespace FlowCanvas

/-- A decimal digit. -/
abbrev Digit := Fin 10

namespace Digit

/-- The character of a digit. -/
def toChar (d : Digit) : Char := Char.ofNat (48 + d.val)

/-- The digit that a character stands for. Only the ten ASCII digits stand for one. -/
def ofChar? (c : Char) : Option Digit :=
  if h : 48 ≤ c.toNat ∧ c.toNat < 58 then some ⟨c.toNat - 48, by omega⟩ else none

/-- The digits at the front of a text, and what follows them. -/
def span : List Char → List Digit × List Char
  | [] => ([], [])
  | c :: cs =>
    match ofChar? c with
    | some d =>
      let (ds, rest) := span cs
      (d :: ds, rest)
    | none => ([], c :: cs)

/-- The natural number that a list of digits writes. -/
def value (ds : List Digit) : Nat :=
  ds.foldl (fun n d => 10 * n + d.val) 0

/-- The digits of a natural number; zero has one digit. -/
def ofNat (n : Nat) : List Digit :=
  if n < 10 then [⟨n % 10, Nat.mod_lt _ (by decide)⟩]
  else ofNat (n / 10) ++ [⟨n % 10, Nat.mod_lt _ (by decide)⟩]
  termination_by n
  decreasing_by omega

/-- The digits of a number write that number. -/
theorem value_ofNat (n : Nat) : value (ofNat n) = n := by
  induction n using ofNat.induct with
  | case1 n h => simp [ofNat, h, value]
  | case2 n h ih =>
    rw [ofNat, if_neg h]
    simp only [value, List.foldl_append, List.foldl_cons, List.foldl_nil] at ih ⊢
    rw [ih]
    omega

/-- The text of a natural number. -/
def natText (n : Nat) : String :=
  String.ofList ((ofNat n).map toChar)

end Digit

end FlowCanvas
