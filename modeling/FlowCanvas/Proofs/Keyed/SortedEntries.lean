import FlowCanvas.Keyed.Ordered
import FlowCanvas.Keyed.Sorted
import Mathlib

/-!
# Sorting sorted entries

Entries whose keys ascend stay as they are when they are put into order, so a map is determined by
its entries. What is found at a key changes for that key only when an entry is put in or taken out
(`Sorted.lookup_insert`, `Sorted.lookup_filter_ne`), whether or not the keys ascend; if they do, the
entries are exactly those that are found (`Sorted.IsSorted.mem_iff_lookup`).
-/

set_option autoImplicit false

namespace FlowCanvas

namespace Sorted

variable {α : Type}

/-- An entry with a key behind all others goes to the end. -/
theorem insert_of_lt {key : String} {value : α} {entries : List (String × α)}
    (h : ∀ entry ∈ entries, entry.1 < key) :
    insert key value entries = entries ++ [(key, value)] := by
  induction entries with
  | nil => rfl
  | cons head rest ih =>
    have hHead := h head List.mem_cons_self
    have hNotBefore : ¬ key < head.1 := by
      intro hBefore
      exact String.lt_irrefl _ (String.lt_trans hHead hBefore)
    have hNotSame : key ≠ head.1 := by
      rintro rfl
      exact String.lt_irrefl _ hHead
    rw [insert, if_neg hNotBefore, if_neg hNotSame,
      ih fun entry hEntry => h entry (List.mem_cons_of_mem _ hEntry)]
    rfl

/-- Entries that are sorted already stay as they are. -/
theorem ofList_of_isSorted {entries : List (String × α)} (h : IsSorted entries) :
    ofList entries = entries := by
  suffices hAll : ∀ sorted : List (String × α), IsSorted (sorted ++ entries) →
      entries.foldl (fun sorted entry => insert entry.1 entry.2 sorted) sorted =
        sorted ++ entries from hAll [] h
  clear h
  induction entries with
  | nil => simp
  | cons entry rest ih =>
    intro sorted hSorted
    have hLast : ∀ other ∈ sorted, other.1 < entry.1 := fun other hOther =>
      (List.pairwise_append.1 hSorted).2.2 other hOther entry List.mem_cons_self
    rw [List.foldl_cons, insert_of_lt hLast, ih _ (by simpa using hSorted)]
    simp

/-- Sorting adds no entry. -/
theorem mem_of_mem_ofList {entries : List (String × α)} {entry : String × α}
    (h : entry ∈ ofList entries) : entry ∈ entries := by
  suffices hAll : ∀ (entries sorted : List (String × α)),
      entry ∈ entries.foldl (fun sorted entry => insert entry.1 entry.2 sorted) sorted →
        entry ∈ sorted ∨ entry ∈ entries by
    simpa using hAll entries [] h
  intro entries
  induction entries with
  | nil => exact fun _ hIn => .inl hIn
  | cons head rest ih =>
    intro sorted hIn
    rcases ih _ hIn with hInsert | hRest
    · rcases mem_insert hInsert with rfl | hOld
      · exact .inr List.mem_cons_self
      · exact .inl hOld
    · exact .inr (List.mem_cons_of_mem _ hRest)

/-- An insertion by the order of texts is an ordered insertion. -/
theorem insert_eq_insertEntry (key : String) (value : α) (entries : List (String × α)) :
    insert key value entries =
      Ordered.insertEntry (fun a b => decide (a < b)) key value entries := by
  induction entries with
  | nil => rfl
  | cons head rest ih => simp only [insert, Ordered.insertEntry, decide_eq_true_eq, ih]

/-- Putting an entry in changes what is found at its key, and nothing else. -/
theorem lookup_insert (key k : String) (value : α) (entries : List (String × α)) :
    (insert key value entries).lookup k = if k = key then some value else entries.lookup k := by
  rw [insert_eq_insertEntry, Ordered.lookup_insertEntry]

/-- Sorting entries by their keys is inserting them by the order of texts. -/
theorem ofList_eq_ofEntries (entries : List (String × α)) :
    ofList entries = Ordered.ofEntries (fun a b => decide (a < b)) entries := by
  simp only [ofList, Ordered.ofEntries, insert_eq_insertEntry]

/-- Of the entries with a key the last one is found. -/
theorem lookup_ofList (k : String) (entries : List (String × α)) :
    (ofList entries).lookup k = entries.reverse.lookup k := by
  rw [ofList_eq_ofEntries, Ordered.lookup_ofEntries]

/-- Taking the entries with a key out changes what is found at the key, and nothing else. -/
theorem lookup_filter_ne (key k : String) (entries : List (String × α)) :
    (entries.filter (·.1 != key)).lookup k = if k = key then none else entries.lookup k := by
  induction entries with
  | nil => simp
  | cons head rest ih =>
    rw [Ordered.lookup_cons, List.filter_cons]
    by_cases hGone : head.1 = key
    · rw [if_neg (by simpa using hGone), ih, hGone]
      by_cases hKey : k = key
      · rw [if_pos hKey, if_pos hKey]
      · rw [if_neg hKey, if_neg hKey, if_neg hKey]
    · rw [if_pos (by simpa using hGone), Ordered.lookup_cons, ih]
      by_cases hKey : k = key
      · rw [if_pos hKey, if_pos hKey, if_neg fun hHead => hGone (hHead.symm.trans hKey)]
      · rw [if_neg hKey, if_neg hKey]

/-- In ascending order each key stands once. -/
theorem IsSorted.nodup_keys {entries : List (String × α)} (h : IsSorted entries) :
    (entries.map Prod.fst).Nodup :=
  List.pairwise_map.2 (h.imp fun hLess => ne_of_lt hLess)

/-- The entries in ascending order are those that are found. -/
theorem IsSorted.mem_iff_lookup {entries : List (String × α)} (h : IsSorted entries) {key : String}
    {value : α} : (key, value) ∈ entries ↔ entries.lookup key = some value := by
  constructor
  · intro hMem
    cases hFound : entries.lookup key with
    | none =>
      have hNone := List.lookup_eq_none_iff.1 hFound (key, value) hMem
      simp at hNone
    | some other =>
      obtain ⟨before, after, hSplit, -⟩ := List.lookup_eq_some_iff.1 hFound
      have hOther : (key, other) ∈ entries := hSplit ▸ by simp
      obtain rfl : other = value :=
        congrArg Prod.snd (List.inj_on_of_nodup_map h.nodup_keys hOther hMem rfl)
      rfl
  · intro hFound
    obtain ⟨before, after, hSplit, -⟩ := List.lookup_eq_some_iff.1 hFound
    exact hSplit ▸ by simp

end Sorted

/-- A map of texts is what its own entries make. -/
theorem TextMap.ofList_entries (m : TextMap) : TextMap.ofList m.entries = m := by
  cases m with
  | mk entries sorted =>
    unfold TextMap.ofList
    congr 1
    exact Sorted.ofList_of_isSorted sorted

end FlowCanvas
