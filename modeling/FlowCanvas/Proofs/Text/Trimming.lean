import FlowCanvas.Text.Blank
import Mathlib

/-!
# Trimmed texts

Trimming takes the white space off both ends of a text and nothing else. Its result is trimmed
(`Text.isTrimmed_trimChars`), a trimmed text stays as it is (`Text.trimChars_eq_self_iff`), and
nothing is left of a blank text alone (`Text.trim_eq_empty_iff`).
-/

set_option autoImplicit false

namespace FlowCanvas.Text

variable {c : Char} {cs : List Char} {s : String}

/-- There is no white space at the two ends of a text. -/
structure IsTrimmed (cs : List Char) : Prop where
  front : ∀ c ∈ cs.head?, isBlankChar c = false
  back : ∀ c ∈ cs.getLast?, isBlankChar c = false

/-- Trimming drops white space from the front and then from the back. -/
theorem trimChars_eq_rdropWhile (cs : List Char) :
    trimChars cs = (cs.dropWhile isBlankChar).rdropWhile isBlankChar := rfl

/-- Trimming adds no characters. -/
theorem mem_of_mem_trimChars (h : c ∈ trimChars cs) : c ∈ cs :=
  (List.dropWhile_suffix _).subset ((List.rdropWhile_prefix _ _).subset h)

/-- What has been trimmed is trimmed. -/
theorem isTrimmed_trimChars (cs : List Char) : IsTrimmed (trimChars cs) where
  front := by
    intro c hc
    -- what the second step leaves starts as what it is given
    obtain ⟨rest, hRest⟩ := List.rdropWhile_prefix isBlankChar (cs.dropWhile isBlankChar)
    have hHead : (cs.dropWhile isBlankChar).head? = some c := by
      rw [← hRest, List.head?_append, ← trimChars_eq_rdropWhile, Option.mem_def.1 hc]
      rfl
    have hNot := List.head?_dropWhile_not isBlankChar cs
    rwa [hHead] at hNot
  back := by
    intro c hc
    have hNonempty : trimChars cs ≠ [] := by
      intro hNil
      rw [hNil] at hc
      cases hc
    rw [List.getLast?_eq_getLast_of_ne_nil hNonempty, Option.mem_some_iff] at hc
    rw [← hc, ← Bool.not_eq_true]
    exact List.rdropWhile_last_not isBlankChar _ hNonempty

/-- Trimming leaves exactly the trimmed texts as they are. -/
theorem trimChars_eq_self_iff : trimChars cs = cs ↔ IsTrimmed cs := by
  constructor
  · intro hSame
    rw [← hSame]
    exact isTrimmed_trimChars cs
  · intro h
    have hFront : cs.dropWhile isBlankChar = cs := by
      rw [List.dropWhile_eq_self_iff]
      intro hLength
      rw [Bool.not_eq_true]
      exact h.front _ (List.head?_eq_getElem? ▸ List.getElem?_eq_getElem hLength)
    rw [trimChars_eq_rdropWhile, hFront, List.rdropWhile_eq_self_iff]
    intro hNonempty
    rw [Bool.not_eq_true]
    exact h.back _ (List.getLast?_eq_getLast_of_ne_nil hNonempty)

/-- Nothing is left of a text exactly if it is all white space. -/
theorem trimChars_eq_nil_iff : trimChars cs = [] ↔ ∀ c ∈ cs, isBlankChar c = true := by
  rw [trimChars_eq_rdropWhile, List.rdropWhile_eq_nil_iff]
  constructor
  · intro hAll
    have hNil : cs.dropWhile isBlankChar = [] := by
      by_contra hNonempty
      have hNot := List.head_dropWhile_not isBlankChar hNonempty
      rw [hAll _ (List.head_mem hNonempty)] at hNot
      cases hNot
    exact List.dropWhile_eq_nil_iff.1 hNil
  · intro hAll c hc
    exact hAll c ((List.dropWhile_suffix _).subset hc)

/-- White space at the front of a text makes no difference. -/
theorem trimChars_cons_of_isBlankChar (h : isBlankChar c = true) (cs : List Char) :
    trimChars (c :: cs) = trimChars cs := by
  rw [trimChars_eq_rdropWhile, List.dropWhile_cons_of_pos h, trimChars_eq_rdropWhile]

/-- Trimming twice is trimming once. -/
theorem trimChars_trimChars (cs : List Char) : trimChars (trimChars cs) = trimChars cs :=
  trimChars_eq_self_iff.2 (isTrimmed_trimChars cs)

/-- Trimming makes a text shorter or leaves it as it is. -/
theorem trimChars_eq_self_of_length_le (h : cs.length ≤ (trimChars cs).length) :
    trimChars cs = cs := by
  have hPrefix := List.rdropWhile_prefix isBlankChar (cs.dropWhile isBlankChar)
  have hSuffix := List.dropWhile_suffix (l := cs) isBlankChar
  rw [← trimChars_eq_rdropWhile] at hPrefix
  rw [hPrefix.eq_of_length (le_antisymm hPrefix.length_le (hSuffix.length_le.trans h)),
    hSuffix.eq_of_length (le_antisymm hSuffix.length_le (h.trans hPrefix.length_le))]

/-! ## Strings -/

/-- Trimming a string twice is trimming it once. -/
theorem trim_trim (s : String) : trim (trim s) = trim s := by
  rw [trim, trim, String.toList_ofList, trimChars_trimChars]

/-- Trimming leaves exactly the trimmed strings as they are. -/
theorem trim_eq_self_iff : trim s = s ↔ IsTrimmed s.toList := by
  rw [← trimChars_eq_self_iff, trim, ← String.toList_inj, String.toList_ofList]

/-- A string is blank if nothing is left of it. -/
theorem isBlank_iff : isBlank s = true ↔ trimChars s.toList = [] := by
  rw [trimChars_eq_nil_iff, isBlank, List.all_eq_true]

/-- Trimming empties exactly the blank strings. -/
theorem trim_eq_empty_iff : trim s = "" ↔ isBlank s = true := by
  rw [isBlank_iff, trim, ← String.toList_inj, String.toList_ofList]
  rfl

/-- Trimming neither makes a text blank nor fills a blank one. -/
theorem isBlank_trim (s : String) : isBlank (trim s) = isBlank s := by
  rw [Bool.eq_iff_iff, ← trim_eq_empty_iff, trim_trim, trim_eq_empty_iff]

/-- A trimmed text is blank only if it is empty. -/
theorem IsTrimmed.isBlank_iff (h : IsTrimmed s.toList) : isBlank s = true ↔ s = "" := by
  rw [← trim_eq_empty_iff, trim_eq_self_iff.2 h]

end FlowCanvas.Text
