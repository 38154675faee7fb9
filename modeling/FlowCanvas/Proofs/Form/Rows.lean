import FlowCanvas.Form.Rows
import FlowCanvas.Proofs.Keyed.Lists
import FlowCanvas.Proofs.Keyed.SortedEntries
import FlowCanvas.Proofs.Text.Trimming
import Mathlib

/-!
# Maps shown as rows

Rows stand for a map: each key that is not blank has the value of the last row with this key, both
trimmed, and there are no other keys (`Rows.mem_toMap_iff`). Hence a map that is shown as rows comes
back trimmed, keys that differ in white space at their ends alone fall into one, and the trimmed
maps are those that come back unchanged (`Rows.toMap_ofMap_eq_self_iff`).
-/

set_option autoImplicit false

namespace FlowCanvas

/-- What is done to rows that are being edited. -/
inductive RowEdit where
  | set (index : Nat) (key value : String)
  | push
  | remove (index : Nat)

/-- Keys and values without white space at their ends, and no empty key. -/
def TextMap.IsTrimmed (m : TextMap) : Prop :=
  ∀ entry ∈ m.entries,
    Text.trim entry.1 = entry.1 ∧ Text.isBlank entry.1 = false ∧ Text.trim entry.2 = entry.2

namespace Rows

/-- The rows after an edit. -/
def edit (r : Rows) : RowEdit → Rows
  | .set index key value => r.set index key value
  | .push => r.push
  | .remove index => r.remove index

/-- The rows after edits, made one after the other. -/
def editAll (r : Rows) (edits : List RowEdit) : Rows := edits.foldl edit r

/-- The map that rows stand for has trimmed keys and values, and no empty key. -/
theorem isTrimmed_toMap (r : Rows) : r.toMap.IsTrimmed := by
  intro entry hEntry
  obtain ⟨row, hRow, rfl⟩ := List.mem_map.1 (Sorted.mem_of_mem_ofList hEntry)
  have hKey : Text.isBlank row.key = false := by simpa using (List.mem_filter.1 hRow).2
  exact ⟨Text.trim_trim _, (Text.isBlank_trim _).trans hKey, Text.trim_trim _⟩

/-! ## What rows say about a key -/

/-- In a list of rows a key has the value of the last row with this key, both trimmed. A blank key
has no value. -/
structure Assigns (rows : List Row) (key value : String) : Prop where
  isBlank_key : Text.isBlank key = false
  isLast : ∃ before row after, rows = before ++ row :: after ∧ Text.trim row.key = key ∧
    Text.trim row.value = value ∧ ∀ later ∈ after, Text.trim later.key ≠ key

/-- What rows say about a key is found by looking from the end for a row that counts. -/
theorem assigns_iff_find? {rows : List Row} {key value : String} :
    Assigns rows key value ↔
      ((rows.filter (!Text.isBlank ·.key)).reverse.find? (Text.trim ·.key == key)).map
        (Text.trim ·.value) = some value := by
  have hCounts : ∀ row : Row, Text.trim row.key = key →
      Text.isBlank row.key = Text.isBlank key := by
    rintro row rfl
    rw [Text.isBlank_trim]
  rw [← List.filter_reverse, List.find?_filter, Option.map_eq_some_iff]
  simp only [List.find?_eq_some_iff_append, decide_eq_true_eq, Bool.not_eq_true', beq_iff_eq,
    decide_eq_false_iff_not, not_and]
  constructor
  · rintro ⟨hKey, before, row, after, rfl, hHere, hValue, hLast⟩
    refine ⟨row, ⟨⟨(hCounts row hHere).trans hKey, hHere⟩, after.reverse, before.reverse, ?_, ?_⟩,
      hValue⟩
    · simp
    · exact fun later hLater _ => hLast later (List.mem_reverse.1 hLater)
  · rintro ⟨row, ⟨⟨hKey, hHere⟩, after, before, hSplit, hLast⟩, hValue⟩
    have hKey' : Text.isBlank key = false := (hCounts row hHere).symm.trans hKey
    refine ⟨hKey', before.reverse, row, after.reverse, ?_, hHere, hValue, ?_⟩
    · rw [← List.reverse_reverse rows, hSplit]
      simp
    · intro later hLater hSame
      exact hLast later (List.mem_reverse.1 hLater) ((hCounts later hSame).trans hKey') hSame

/-- The map that rows stand for has the entries that the rows say. -/
theorem mem_toMap_iff {rows : List Row} {key value : String} :
    (key, value) ∈ (toMap ⟨rows⟩).entries ↔ Assigns rows key value := by
  rw [(toMap ⟨rows⟩).sorted.mem_iff_lookup, assigns_iff_find?, toMap, TextMap.ofList,
    Sorted.lookup_ofList, ← List.map_reverse, Lists.lookup_map]

/-! ## Maps and back -/

/-- The blank row at the end does not count. -/
theorem toMap_withBlankEnd (rows : List Row) : (withBlankEnd rows).toMap = toMap ⟨rows⟩ := by
  unfold withBlankEnd
  split
  · split
    · rfl
    · have hBlank : [Row.blank].filter (!Text.isBlank ·.key) = [] := rfl
      unfold toMap
      rw [List.filter_append, hBlank, List.append_nil]
  · rename_i hNone
    rw [List.getLast?_eq_none_iff.1 hNone]
    rfl

/-- A map comes back unchanged from its rows exactly if it is trimmed. -/
theorem toMap_ofMap_eq_self_iff {m : TextMap} : (ofMap m).toMap = m ↔ m.IsTrimmed := by
  constructor
  · intro hSame
    rw [← hSame]
    exact isTrimmed_toMap _
  · intro h
    have hFilter : (m.entries.map fun entry => (⟨entry.1, entry.2⟩ : Row)).filter
        (!Text.isBlank ·.key) = m.entries.map fun entry => ⟨entry.1, entry.2⟩ := by
      rw [List.filter_eq_self]
      intro row hRow
      obtain ⟨entry, hEntry, rfl⟩ := List.mem_map.1 hRow
      rw [(h entry hEntry).2.1]
      rfl
    have hTrim : (m.entries.map fun entry => (⟨entry.1, entry.2⟩ : Row)).map
        (fun row => (Text.trim row.key, Text.trim row.value)) = m.entries := by
      rw [List.map_map]
      refine (List.map_congr_left fun entry hEntry => ?_).trans (List.map_id _)
      exact Prod.ext (h entry hEntry).1 (h entry hEntry).2.2
    rw [ofMap, toMap_withBlankEnd, toMap, hFilter, hTrim, TextMap.ofList_entries]

/-- Rows stand for the map that they spell out: whatever edits have been made, each key that is not
blank has the value of the last row with this key, both trimmed, and there are no other keys. A map
that is shown as rows comes back trimmed, with the last of the entries whose keys agree when they
are trimmed. It comes back unchanged exactly if it is trimmed, and a second time nothing
changes. -/
theorem stands_for_map (m : TextMap) (r : Rows) (edits : List RowEdit) :
    (∀ key value, (key, value) ∈ (r.editAll edits).toMap.entries ↔
        Assigns (r.editAll edits).toList key value) ∧
      (ofMap m).toMap.IsTrimmed ∧
      (∀ key value, (key, value) ∈ (ofMap m).toMap.entries ↔
        Assigns (m.entries.map fun entry => ⟨entry.1, entry.2⟩) key value) ∧
      ((ofMap m).toMap = m ↔ m.IsTrimmed) ∧
      (ofMap (ofMap m).toMap).toMap = (ofMap m).toMap := by
  refine ⟨fun key value => mem_toMap_iff, isTrimmed_toMap _, fun key value => ?_,
    toMap_ofMap_eq_self_iff, toMap_ofMap_eq_self_iff.2 (isTrimmed_toMap _)⟩
  rw [ofMap, toMap_withBlankEnd, mem_toMap_iff]

/-- Of keys that differ in white space at their ends alone, the greatest one gives the value. -/
example : (ofMap (TextMap.ofList [("a", "1 "), (" a", "2"), (" ", "3")])).toMap =
    TextMap.ofList [("a", "1")] := by
  decide

end Rows

end FlowCanvas
