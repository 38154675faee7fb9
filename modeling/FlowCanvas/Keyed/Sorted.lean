/-!
# Entries in the order of their keys

Lists of entries with text keys, each key once, in ascending order. Two lists with the same entries
are then equal, so such a list is a finite map. `TextMap` is the type of finite maps from texts to
texts.

The order of texts is that of their code points, which is also the order of their UTF-8 bytes.
-/

set_option autoImplicit false

namespace FlowCanvas

namespace Sorted

variable {α : Type}

/-- The entries have ascending keys. -/
def IsSorted (entries : List (String × α)) : Prop :=
  entries.Pairwise (fun a b => a.1 < b.1)

/-- Puts an entry into its place; an entry with the same key gives way. -/
def insert (key : String) (value : α) : List (String × α) → List (String × α)
  | [] => [(key, value)]
  | (k, v) :: rest =>
    if key < k then (key, value) :: (k, v) :: rest
    else if key = k then (key, value) :: rest
    else (k, v) :: insert key value rest

/-- The entries in the order of their keys, of those with one key the last. -/
def ofList (entries : List (String × α)) : List (String × α) :=
  entries.foldl (fun sorted entry => insert entry.1 entry.2 sorted) []

/-- Inserting under a key adds the new entry and no other one. -/
theorem mem_insert {key : String} {value : α} {entries : List (String × α)}
    {entry : String × α} (h : entry ∈ insert key value entries) :
    entry = (key, value) ∨ entry ∈ entries := by
  induction entries with
  | nil => simpa [insert] using h
  | cons head rest ih =>
    unfold insert at h
    split at h
    · simpa using h
    · split at h
      · rcases List.mem_cons.1 h with h | h
        · exact .inl h
        · exact .inr (List.mem_cons_of_mem _ h)
      · rcases List.mem_cons.1 h with h | h
        · exact .inr (h ▸ List.mem_cons_self)
        · rcases ih h with h | h
          · exact .inl h
          · exact .inr (List.mem_cons_of_mem _ h)

/-- Insertion keeps the order. -/
theorem isSorted_insert (key : String) (value : α) {entries : List (String × α)}
    (h : IsSorted entries) : IsSorted (insert key value entries) := by
  induction entries with
  | nil => simp [insert, IsSorted]
  | cons head rest ih =>
    obtain ⟨k, v⟩ := head
    obtain ⟨hHead, hRest⟩ := List.pairwise_cons.1 h
    unfold insert
    split
    · rename_i hLess
      refine List.pairwise_cons.2 ⟨fun entry hEntry => ?_, h⟩
      rcases List.mem_cons.1 hEntry with hEntry | hEntry
      · exact hEntry ▸ hLess
      · exact String.lt_trans hLess (hHead entry hEntry)
    · rename_i hNotLess
      split
      · rename_i hSame
        exact List.pairwise_cons.2 ⟨fun entry hEntry => hSame ▸ hHead entry hEntry, hRest⟩
      · rename_i hDiffers
        refine List.pairwise_cons.2 ⟨fun entry hEntry => ?_, ih hRest⟩
        rcases mem_insert hEntry with hEntry | hEntry
        · exact hEntry ▸ Std.lt_of_le_of_ne (String.not_lt.1 hNotLess) (Ne.symm hDiffers)
        · exact hHead entry hEntry

/-- The entries of a list are sorted once they have been inserted one by one. -/
theorem isSorted_ofList (entries : List (String × α)) : IsSorted (ofList entries) := by
  suffices ∀ sorted : List (String × α), IsSorted sorted →
      IsSorted (entries.foldl (fun sorted entry => insert entry.1 entry.2 sorted) sorted) from
    this [] List.Pairwise.nil
  induction entries with
  | nil => exact fun _ h => h
  | cons entry entries ih =>
    exact fun sorted h => ih _ (isSorted_insert entry.1 entry.2 h)

end Sorted

/-- A finite map from texts to texts. -/
structure TextMap where
  /-- The entries, in the order of their keys. -/
  entries : List (String × String)
  sorted : Sorted.IsSorted entries
  deriving DecidableEq

namespace TextMap

/-- The map without entries. -/
def empty : TextMap := ⟨[], List.Pairwise.nil⟩

instance : Inhabited TextMap := ⟨empty⟩

/-- The map with the given entries; of those with one key the last counts. -/
def ofList (entries : List (String × String)) : TextMap :=
  ⟨Sorted.ofList entries, Sorted.isSorted_ofList entries⟩

/-- The text at a key. -/
def get? (m : TextMap) (key : String) : Option String := m.entries.lookup key

end TextMap

end FlowCanvas
