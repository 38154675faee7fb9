import FlowCanvas.Form.Basic
import FlowCanvas.Proofs.Text.Trimming
import Mathlib

/-!
# Lists written as texts

A form shows a list as one text, its items behind each other with something in between, and reads it
back as the parts between commas and line feeds. What is read off such a text is read off the items
one by one (`Form.partsOf_intercalate`), so the list is read back exactly if every item is one part
(`Form.partsOf_intercalate_eq_self_iff`).
-/

set_option autoImplicit false

namespace FlowCanvas

namespace Text

variable {p : Char → Bool} {c : Char} {cs part : List Char}

/-! ## Cutting a text into parts -/

/-- Splitting a text gives at least one part. -/
theorem splitParts_ne_nil (p : Char → Bool) (cs : List Char) : splitParts p cs ≠ [] := by
  cases cs with
  | nil => exact List.cons_ne_nil _ _
  | cons c cs =>
    unfold splitParts
    split
    · exact List.cons_ne_nil _ _
    · split
      · exact List.cons_ne_nil _ _
      · exact List.cons_ne_nil _ _

/-- The parts on both sides of a separator are found apart from each other. -/
theorem splitParts_append_cons (hc : p c = true) (front rest : List Char) :
    splitParts p (front ++ c :: rest) = splitParts p front ++ splitParts p rest := by
  induction front with
  | nil =>
    show splitParts p (c :: rest) = [] :: splitParts p rest
    rw [splitParts, if_pos hc]
  | cons d front ih =>
    rw [List.cons_append, splitParts, splitParts, ih]
    cases hSplit : splitParts p front with
    | nil => exact absurd hSplit (splitParts_ne_nil p front)
    | cons part parts =>
      split
      · rfl
      · rfl

/-- A text without separators is one part. -/
theorem splitParts_of_forall (h : ∀ c ∈ cs, p c = false) : splitParts p cs = [cs] := by
  induction cs with
  | nil => rfl
  | cons c cs ih =>
    rw [splitParts, if_neg (by simp [h c List.mem_cons_self]),
      ih fun d hd => h d (List.mem_cons_of_mem _ hd)]

/-- There are no separators in the parts of a text. -/
theorem eq_false_of_mem_splitParts (hPart : part ∈ splitParts p cs) (hc : c ∈ part) :
    p c = false := by
  induction cs generalizing part with
  | nil =>
    rw [List.mem_singleton.1 hPart] at hc
    cases hc
  | cons d cs ih =>
    unfold splitParts at hPart
    split at hPart
    · rcases List.mem_cons.1 hPart with rfl | hRest
      · cases hc
      · exact ih hRest hc
    · rename_i hd
      rw [Bool.not_eq_true] at hd
      split at hPart
      · rw [List.mem_singleton.1 hPart, List.mem_singleton] at hc
        rw [hc, hd]
      · rename_i first rest hSplit
        rw [hSplit] at ih
        rcases List.mem_cons.1 hPart with rfl | hRest
        · rcases List.mem_cons.1 hc with rfl | hFirst
          · exact hd
          · exact ih List.mem_cons_self hFirst
        · exact ih (List.mem_cons_of_mem _ hRest) hc

end Text

namespace Form

variable {c : Char} {cs : List Char} {s : String} {items : List String}

/-! ## The parts of a text -/

/-- The characters between the items of a list. -/
def isSeparator (c : Char) : Bool := c == '\n' || c == ','

/-- An item that is read back as it is: trimmed, not empty, and without separators. -/
structure IsPart (s : String) : Prop where
  isTrimmed : Text.IsTrimmed s.toList
  ne_empty : s ≠ ""
  isSeparator : ∀ c ∈ s.toList, isSeparator c = false

/-- The parts of a text that is given by its characters. -/
theorem partsOf_ofList (cs : List Char) :
    partsOf (String.ofList cs) = ((Text.splitParts isSeparator cs).map Text.trimChars).filterMap
      fun part => if part.isEmpty then none else some (String.ofList part) := by
  rw [partsOf, String.toList_ofList]
  rfl

/-- At a separator the parts of a text fall into those before it and those behind it. -/
theorem partsOf_append_cons (hc : isSeparator c = true) (front rest : List Char) :
    partsOf (.ofList (front ++ c :: rest)) = partsOf (.ofList front) ++ partsOf (.ofList rest) := by
  simp only [partsOf_ofList, Text.splitParts_append_cons hc, List.map_append, List.filterMap_append]

/-- White space at the front of a text makes no difference to its parts. -/
theorem partsOf_cons_of_isBlankChar (hBlank : Text.isBlankChar c = true)
    (hc : isSeparator c = false) (cs : List Char) :
    partsOf (.ofList (c :: cs)) = partsOf (.ofList cs) := by
  have hParts : (Text.splitParts isSeparator (c :: cs)).map Text.trimChars =
      (Text.splitParts isSeparator cs).map Text.trimChars := by
    rw [Text.splitParts, if_neg (by simp [hc])]
    cases hSplit : Text.splitParts isSeparator cs with
    | nil => exact absurd hSplit (Text.splitParts_ne_nil _ cs)
    | cons part parts =>
      show Text.trimChars (c :: part) :: _ = _
      rw [Text.trimChars_cons_of_isBlankChar hBlank]
      rfl
  rw [partsOf_ofList, partsOf_ofList, hParts]

/-- An item is the only part of its own text. -/
theorem partsOf_of_isPart (h : IsPart s) : partsOf s = [s] := by
  have hSelf : Text.trimChars s.toList = s.toList := Text.trimChars_eq_self_iff.2 h.isTrimmed
  have hNonempty : ¬ s.toList.isEmpty = true := by
    rw [List.isEmpty_iff, ← String.toList_empty, String.toList_inj]
    exact h.ne_empty
  have hOfList := partsOf_ofList s.toList
  rw [String.ofList_toList, Text.splitParts_of_forall h.isSeparator, List.map_singleton, hSelf,
    List.filterMap_cons, if_neg hNonempty, String.ofList_toList] at hOfList
  exact hOfList

/-- What is read back from a text are items. -/
theorem isPart_of_mem_partsOf {part : String} (h : part ∈ partsOf s) : IsPart part := by
  rw [← String.ofList_toList (s := s), partsOf_ofList] at h
  obtain ⟨trimmed, hTrimmed, hPart⟩ := List.mem_filterMap.1 h
  obtain ⟨raw, hRaw, rfl⟩ := List.mem_map.1 hTrimmed
  split at hPart
  · cases hPart
  · rename_i hNonempty
    cases hPart
    refine ⟨?_, ?_, ?_⟩
    · rw [String.toList_ofList]
      exact Text.isTrimmed_trimChars raw
    · intro hEmpty
      rw [← String.toList_inj, String.toList_ofList] at hEmpty
      exact hNonempty (List.isEmpty_iff.2 hEmpty)
    · intro c hc
      rw [String.toList_ofList] at hc
      exact Text.eq_false_of_mem_splitParts hRaw (Text.mem_of_mem_trimChars hc)

/-! ## Items behind each other -/

/-- What stands between two items in a text: a separator and white space that separates nothing. -/
structure IsGlue (glue : String) : Prop where
  exists_cons : ∃ c blanks, glue.toList = c :: blanks ∧ isSeparator c = true ∧
    ∀ b ∈ blanks, Text.isBlankChar b = true ∧ isSeparator b = false

/-- A comma with a blank behind it can stand between items. -/
theorem isGlue_comma : IsGlue ", " where
  exists_cons := ⟨',', [' '], rfl, rfl, fun _ hb => List.mem_singleton.1 hb ▸ ⟨rfl, rfl⟩⟩

/-- A line feed can stand between items. -/
theorem isGlue_lineFeed : IsGlue "\n" where
  exists_cons := ⟨'\n', [], rfl, rfl, fun _ hb => absurd hb List.not_mem_nil⟩

/-- White space in front of a text does not change its parts, unless it separates. -/
theorem partsOf_append_blanks {blanks : List Char}
    (h : ∀ b ∈ blanks, Text.isBlankChar b = true ∧ isSeparator b = false) (cs : List Char) :
    partsOf (.ofList (blanks ++ cs)) = partsOf (.ofList cs) := by
  induction blanks with
  | nil => rfl
  | cons b blanks ih =>
    obtain ⟨hBlank, hSeparates⟩ := h b List.mem_cons_self
    rw [List.cons_append, partsOf_cons_of_isBlankChar hBlank hSeparates]
    exact ih fun d hd => h d (List.mem_cons_of_mem _ hd)

/-- The parts of a text of items are those of the items. -/
theorem partsOf_intercalate {glue : String} (hGlue : IsGlue glue) (items : List String) :
    partsOf (glue.intercalate items) = items.flatMap partsOf := by
  obtain ⟨c, blanks, hChars, hc, hBlanks⟩ := hGlue.exists_cons
  have hText : glue.intercalate items =
      .ofList (glue.toList.intercalate (items.map String.toList)) := by
    rw [← String.toList_intercalate, String.ofList_toList]
  rw [hText, hChars]
  clear hText
  induction items with
  | nil => rfl
  | cons item rest ih =>
    cases rest with
    | nil => simp [String.ofList_toList]
    | cons next rest =>
      rw [List.map_cons, List.map_cons, List.intercalate_cons_cons, List.append_assoc,
        List.cons_append, partsOf_append_cons hc, partsOf_append_blanks hBlanks,
        String.ofList_toList, List.flatMap_cons]
      rw [List.map_cons] at ih
      rw [ih]

/-- A list that is shown as a text is read back exactly if every item is one part. -/
theorem partsOf_intercalate_eq_self_iff {glue : String} (hGlue : IsGlue glue)
    {items : List String} :
    partsOf (glue.intercalate items) = items ↔ ∀ item ∈ items, IsPart item := by
  rw [partsOf_intercalate hGlue]
  constructor
  · intro hSame item hItem
    rw [← hSame] at hItem
    obtain ⟨whole, -, hPart⟩ := List.mem_flatMap.1 hItem
    exact isPart_of_mem_partsOf hPart
  · intro hParts
    induction items with
    | nil => rfl
    | cons item rest ih =>
      rw [List.flatMap_cons, partsOf_of_isPart (hParts item List.mem_cons_self),
        ih fun other hOther => hParts other (List.mem_cons_of_mem _ hOther)]
      rfl

end Form

end FlowCanvas
