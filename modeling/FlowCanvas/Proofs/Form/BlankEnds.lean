import FlowCanvas.Proofs.Form.Rows
import Mathlib

/-!
# The row to type in

Rows that are edited are never without a row, and at first the last one is blank, to type in.
Filling rows in and adding rows keep it so, but removing does not: a blank row at the end can be
removed from behind one that is filled in, and then there is no blank row at the end until a later
edit brings one back. There is no other way to lose it (`Rows.hasBlankEnd_editAll_iff`).
-/

set_option autoImplicit false

namespace FlowCanvas

/-- A row is blank if its key and its value are. -/
theorem Row.isBlank_iff {row : Row} :
    row.isBlank = true ↔ Text.isBlank row.key = true ∧ Text.isBlank row.value = true := by
  unfold Row.isBlank
  rw [Bool.and_eq_true]

namespace Rows

variable {r : Rows} {x : RowEdit} {rest : List Row} {row last : Row}

/-- The last row has a blank key and a blank value. -/
def HasBlankEnd (r : Rows) : Prop :=
  ∃ last ∈ r.toList.getLast?, Text.isBlank last.key = true ∧ Text.isBlank last.value = true

/-- Rows that editing can start with. -/
inductive IsStart : Rows → Prop
  | initial : IsStart Rows.initial
  | ofMap (m : TextMap) : IsStart (Rows.ofMap m)

/-- Rows have a blank end if the one that stands last is blank. -/
theorem hasBlankEnd_append_iff (rest : List Row) (row : Row) :
    HasBlankEnd ⟨rest ++ [row]⟩ ↔ row.isBlank = true := by
  unfold HasBlankEnd
  rw [List.getLast?_concat, Row.isBlank_iff]
  simp

/-- Rows with a blank end are not empty. -/
theorem HasBlankEnd.ne_nil (h : r.HasBlankEnd) : r.toList ≠ [] := by
  intro hNil
  obtain ⟨last, hLast, -⟩ := h
  rw [hNil] at hLast
  cases hLast

/-- Rows that are given a blank end have one. -/
theorem hasBlankEnd_withBlankEnd (rows : List Row) : (withBlankEnd rows).HasBlankEnd := by
  unfold withBlankEnd
  split
  · rename_i row hLast
    split
    · rename_i hBlank
      exact ⟨row, hLast, Row.isBlank_iff.1 hBlank⟩
    · exact (hasBlankEnd_append_iff rows _).2 rfl
  · exact ⟨Row.blank, rfl, rfl, rfl⟩

/-- Rows that editing starts with have a blank end. -/
theorem IsStart.hasBlankEnd (h : r.IsStart) : r.HasBlankEnd := by
  cases h with
  | initial => exact ⟨Row.blank, rfl, rfl, rfl⟩
  | ofMap m => exact hasBlankEnd_withBlankEnd _

/-! ## One edit -/

/-- An edit removes the last row from behind one that is filled in. -/
inductive Uncovers (r : Rows) : RowEdit → Prop
  | remove {rest : List Row} {row last : Row} (hRows : r.toList = rest ++ [row, last])
      (hFilled : row.isBlank = false) : Uncovers r (.remove (rest.length + 1))

/-- An edit leaves a blank row at the end, whatever the last row has been: it fills a row in, adds
one, or removes the last row from behind a blank one or from behind none. -/
inductive Restores (r : Rows) : RowEdit → Prop
  | set {index : Nat} (key value : String) (h : index < r.toList.length) :
      Restores r (.set index key value)
  | push : Restores r .push
  | remove {rest : List Row} {row last : Row} (hRows : r.toList = rest ++ [row, last])
      (hBlank : row.isBlank = true) : Restores r (.remove (rest.length + 1))
  | removeOnly {last : Row} (hRows : r.toList = [last]) : Restores r (.remove 0)

/-- A removal that leaves any row takes out the row and does no more. -/
theorem toList_remove {index : Nat} (h : r.toList.eraseIdx index ≠ []) :
    (r.remove index).toList = r.toList.eraseIdx index := by
  unfold remove
  split
  · rename_i hNil
    exact absurd hNil h
  · rfl

/-- Behind a row the last one is removed, and the row becomes the last. -/
theorem remove_of_toList_eq (h : r.toList = rest ++ [row, last]) :
    r.remove (rest.length + 1) = ⟨rest ++ [row]⟩ := by
  have hErase : r.toList.eraseIdx (rest.length + 1) = rest ++ [row] := by
    rw [h, List.eraseIdx_append_of_length_le (Nat.le_add_right _ 1), Nat.add_sub_cancel_left]
    rfl
  have hList := toList_remove (hErase ▸ List.concat_ne_nil row rest)
  rw [hErase] at hList
  exact congrArg Rows.mk hList

/-- An edit that restores a blank end leaves one. -/
theorem Restores.hasBlankEnd (h : r.Restores x) : (r.edit x).HasBlankEnd := by
  cases h with
  | set key value hIndex =>
    rw [edit, Rows.set, if_pos hIndex]
    exact hasBlankEnd_withBlankEnd _
  | push => exact (hasBlankEnd_append_iff _ _).2 rfl
  | remove hRows hBlank =>
    rw [edit, remove_of_toList_eq hRows, hasBlankEnd_append_iff]
    exact hBlank
  | removeOnly hRows =>
    rw [edit, Rows.remove, hRows]
    exact IsStart.initial.hasBlankEnd

/-- What an edit uncovers is a row that is filled in. -/
theorem Uncovers.exists_filled (h : r.Uncovers x) :
    ∃ rest row, r.edit x = ⟨rest ++ [row]⟩ ∧ row.isBlank = false := by
  cases h with
  | remove hRows hFilled => exact ⟨_, _, remove_of_toList_eq hRows, hFilled⟩

/-- There is no blank end after an edit that uncovers a row. -/
theorem Uncovers.not_hasBlankEnd (h : r.Uncovers x) : ¬ (r.edit x).HasBlankEnd := by
  obtain ⟨rest, row, hRows, hFilled⟩ := h.exists_filled
  rw [hRows, hasBlankEnd_append_iff, hFilled]
  exact Bool.noConfusion

/-- An edit that neither takes a blank row at the end away nor leaves one there does not touch the
last row. -/
theorem edit_cases (h : r.toList ≠ []) (x : RowEdit) :
    r.Uncovers x ∨ r.Restores x ∨ (r.edit x).toList.getLast? = r.toList.getLast? := by
  cases x with
  | set index key value =>
    by_cases hIndex : index < r.toList.length
    · exact .inr (.inl (.set key value hIndex))
    · rw [edit, Rows.set, if_neg hIndex]
      exact .inr (.inr rfl)
  | push => exact .inr (.inl .push)
  | remove index =>
    obtain ⟨front, last, hRows⟩ := List.eq_nil_or_concat' r.toList |>.resolve_left h
    rcases Nat.lt_trichotomy index front.length with hFront | hLast | hBehind
    · -- the removed row stands before the last one
      have hErase : r.toList.eraseIdx index = front.eraseIdx index ++ [last] := by
        rw [hRows, List.eraseIdx_append_of_lt_length hFront]
      refine .inr (.inr ?_)
      rw [edit, toList_remove (hErase ▸ List.concat_ne_nil _ _), hErase, hRows,
        List.getLast?_concat, List.getLast?_concat]
    · -- the last row is removed, and it matters what stands before it
      subst hLast
      rcases List.eq_nil_or_concat' front with rfl | ⟨rest, row, rfl⟩
      · exact .inr (.inl (.removeOnly hRows))
      · rw [List.append_assoc, List.singleton_append] at hRows
        rw [List.length_append, List.length_singleton]
        cases hBlank : row.isBlank with
        | false => exact .inl (.remove hRows hBlank)
        | true => exact .inr (.inl (.remove hRows hBlank))
    · -- there is no such row
      have hErase : r.toList.eraseIdx index = r.toList := by
        rw [List.eraseIdx_of_length_le]
        rw [hRows, List.length_append, List.length_singleton]
        exact hBehind
      refine .inr (.inr ?_)
      rw [edit, toList_remove (hErase.symm ▸ h), hErase]

/-- Where there is a row, there is one after an edit. -/
theorem ne_nil_edit (h : r.toList ≠ []) (x : RowEdit) : (r.edit x).toList ≠ [] := by
  rcases edit_cases h x with hUncovers | hRestores | hSame
  · obtain ⟨rest, row, hRows, -⟩ := hUncovers.exists_filled
    rw [hRows]
    exact List.concat_ne_nil row rest
  · exact hRestores.hasBlankEnd.ne_nil
  · rw [← List.getLast?_isSome, hSame, List.getLast?_isSome]
    exact h

/-- After an edit the last row is blank if the edit leaves a blank one, or if there was one and the
edit does not uncover a row that is filled in. -/
theorem hasBlankEnd_edit_iff (h : r.toList ≠ []) (x : RowEdit) :
    (r.edit x).HasBlankEnd ↔ r.Restores x ∨ r.HasBlankEnd ∧ ¬ r.Uncovers x := by
  constructor
  · intro hBlank
    rcases edit_cases h x with hUncovers | hRestores | hSame
    · exact absurd hBlank hUncovers.not_hasBlankEnd
    · exact .inl hRestores
    · refine .inr ⟨?_, fun hUncovers => hUncovers.not_hasBlankEnd hBlank⟩
      rwa [HasBlankEnd, hSame] at hBlank
  · rintro (hRestores | ⟨hBlank, hKeeps⟩)
    · exact hRestores.hasBlankEnd
    · rcases edit_cases h x with hUncovers | hRestores | hSame
      · exact absurd hUncovers hKeeps
      · exact hRestores.hasBlankEnd
      · rwa [HasBlankEnd, hSame]

/-! ## All edits -/

/-- One of some edits leaves a blank row at the end, whatever the last row has been. -/
def IsRestored (r : Rows) : List RowEdit → Prop
  | [] => False
  | x :: edits => r.Restores x ∨ (r.edit x).IsRestored edits

/-- Each of some edits that uncovers a row that is filled in is followed by one that leaves a blank
row at the end. -/
def Recovers (r : Rows) : List RowEdit → Prop
  | [] => True
  | x :: edits => (r.Uncovers x → (r.edit x).IsRestored edits) ∧ (r.edit x).Recovers edits

/-- Where there is a row, there is one after any edits. -/
theorem ne_nil_editAll (h : r.toList ≠ []) (edits : List RowEdit) :
    (r.editAll edits).toList ≠ [] :=
  List.foldlRecOn edits _ (motive := fun r : Rows => r.toList ≠ []) h
    fun _ hRows x _ => ne_nil_edit hRows x

/-- After edits the last row is blank if none of them uncovers a row for good, and there was a blank
row at the end before or one of them leaves one. -/
theorem hasBlankEnd_editAll_iff (h : r.toList ≠ []) (edits : List RowEdit) :
    (r.editAll edits).HasBlankEnd ↔ r.Recovers edits ∧ (r.HasBlankEnd ∨ r.IsRestored edits) := by
  induction edits generalizing r with
  | nil => simp [editAll, Recovers, IsRestored]
  | cons x edits ih =>
    have hStep := hasBlankEnd_edit_iff h x
    have hExclusive : r.Restores x → ¬ r.Uncovers x :=
      fun hRestores hUncovers => hUncovers.not_hasBlankEnd hRestores.hasBlankEnd
    have hRest : (r.editAll (x :: edits)).HasBlankEnd ↔
        (r.edit x).Recovers edits ∧ ((r.edit x).HasBlankEnd ∨ (r.edit x).IsRestored edits) :=
      ih (ne_nil_edit h x)
    rw [hRest, hStep, Recovers, IsRestored]
    tauto

/-- Rows that are edited are never without a row. The last one is blank exactly if each edit that
removes a blank row from behind one that is filled in is followed by an edit that brings a blank row
back. -/
theorem keeps_blank_end_iff (hStart : r.IsStart) (edits : List RowEdit) :
    (r.editAll edits).toList ≠ [] ∧ ((r.editAll edits).HasBlankEnd ↔ r.Recovers edits) := by
  have hBlank := hStart.hasBlankEnd
  refine ⟨ne_nil_editAll hBlank.ne_nil edits, ?_⟩
  rw [hasBlankEnd_editAll_iff hBlank.ne_nil]
  exact and_iff_left (.inl hBlank)

/-- The rows of a map with one entry. -/
def queryRows : Rows := ofMap (TextMap.ofList [("query", "state.query")])

/-- A blank row that has been removed is missed until a row is added. -/
theorem keeps_blank_end_iff_queryRows :
    let added : List RowEdit := [.remove 1, .set 5 "q" "state.q", .push]
    queryRows.IsStart ∧ ¬ (queryRows.editAll [.remove 1]).HasBlankEnd ∧
      queryRows.Recovers added ∧ (queryRows.editAll added).HasBlankEnd := by
  intro added
  have hStart : queryRows.IsStart := .ofMap _
  have hRows : queryRows.toList = [] ++ [⟨"query", "state.query"⟩, Row.blank] := by decide
  have hUncovers : queryRows.Uncovers (.remove 1) := Uncovers.remove hRows (by decide)
  have hMissed : ¬ queryRows.Recovers [.remove 1] := fun hAll => hAll.1 hUncovers
  have hEnd : (queryRows.editAll added).HasBlankEnd := ⟨Row.blank, by decide, rfl, rfl⟩
  exact ⟨hStart, fun hBlank => hMissed ((keeps_blank_end_iff hStart _).2.1 hBlank),
    (keeps_blank_end_iff hStart added).2.1 hEnd, hEnd⟩

/-- Not all rows that are edited have a blank row at the end. -/
theorem not_forall_hasBlankEnd :
    ¬ ∀ (r : Rows) (edits : List RowEdit), r.IsStart →
      (r.editAll edits).toList ≠ [] ∧ (r.editAll edits).HasBlankEnd := by
  intro hAll
  obtain ⟨last, hLast, hKey, -⟩ :=
    (hAll Rows.initial [.set 0 "query" "state.query", .remove 1] .initial).2
  have hRows : (Rows.initial.editAll [.set 0 "query" "state.query", .remove 1]).toList =
      [⟨"query", "state.query"⟩] := by decide
  rw [hRows] at hLast
  cases hLast
  revert hKey
  decide

end Rows

end FlowCanvas
