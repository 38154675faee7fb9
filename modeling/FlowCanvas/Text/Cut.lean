/-!
# Cutting texts

Cutting a text at a character, and taking a known text off its front.
-/

set_option autoImplicit false

namespace FlowCanvas.Text

/-- What stands before the first occurrence of a character, and what stands after it. -/
def cutAt? (c : Char) : List Char → Option (List Char × List Char)
  | [] => none
  | d :: cs =>
    if d = c then some ([], cs)
    else (cutAt? c cs).map fun (before, after) => (d :: before, after)

/-- A cut takes the first occurrence of the character out of the text. -/
theorem cutAt?_eq_some_iff {c : Char} {cs before after : List Char} :
    cutAt? c cs = some (before, after) ↔ cs = before ++ c :: after ∧ c ∉ before := by
  induction cs generalizing before with
  | nil => simp [cutAt?]
  | cons d cs ih =>
    by_cases h : d = c
    · cases before with
      | nil => simp [cutAt?, h]
      | cons b before =>
        simp only [cutAt?, h, if_true, List.cons_append, List.mem_cons]
        grind
    · cases before with
      | nil => simp [cutAt?, h]
      | cons b before =>
        simp only [cutAt?, h, if_false, Option.map_eq_some_iff, Prod.exists, List.cons_append,
          List.mem_cons]
        grind

/-- There is no cut where the character does not occur. -/
theorem cutAt?_eq_none_iff {c : Char} {cs : List Char} : cutAt? c cs = none ↔ c ∉ cs := by
  induction cs with
  | nil => simp [cutAt?]
  | cons d cs ih =>
    by_cases h : d = c
    · simp [cutAt?, h]
    · simp [cutAt?, h, ih, Ne.symm h]

/-- What is left of a text after a known front has been taken off. -/
def stripFront? : List Char → List Char → Option (List Char)
  | [], cs => some cs
  | _ :: _, [] => none
  | f :: front, c :: cs => if f = c then stripFront? front cs else none

/-- The front and what is left make up the text. -/
theorem stripFront?_eq_some_iff {front cs rest : List Char} :
    stripFront? front cs = some rest ↔ cs = front ++ rest := by
  induction front generalizing cs with
  | nil => simp [stripFront?]
  | cons f front ih =>
    cases cs with
    | nil => simp [stripFront?]
    | cons c cs =>
      by_cases h : f = c
      · simp [stripFront?, h, ih]
      · simp [stripFront?, h, Ne.symm h]

/-- The parts of a text between the characters that separate them. A text without separators is
one part. -/
def splitParts (isSeparator : Char → Bool) : List Char → List (List Char)
  | [] => [[]]
  | c :: cs =>
    if isSeparator c then [] :: splitParts isSeparator cs
    else
      match splitParts isSeparator cs with
      | [] => [[c]]
      | part :: parts => (c :: part) :: parts

/-- Whether a text starts with another one. -/
def startsWith (s front : String) : Bool := (stripFront? front.toList s.toList).isSome

end FlowCanvas.Text
