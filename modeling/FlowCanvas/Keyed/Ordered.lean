/-!
# Sets in ascending order

Lists of items in ascending order, each once, for an order that is given by a test.
-/

set_option autoImplicit false

namespace FlowCanvas.Ordered

variable {α β : Type} [DecidableEq α]

/-- Puts an item into its place, unless it is there already. -/
def insert (before : α → α → Bool) (a : α) : List α → List α
  | [] => [a]
  | b :: rest =>
    if before a b then a :: b :: rest
    else if a = b then b :: rest
    else b :: insert before a rest

/-- The items of a list in ascending order, each once. -/
def ofList (before : α → α → Bool) (items : List α) : List α :=
  items.foldr (insert before) []

/-- An insertion adds one item and loses none. -/
theorem mem_insert {before : α → α → Bool} {a b : α} {items : List α} :
    b ∈ insert before a items ↔ b = a ∨ b ∈ items := by
  induction items with
  | nil => simp [insert]
  | cons c rest ih =>
    unfold insert
    split
    · simp
    · split
      · grind
      · simp only [List.mem_cons, ih]
        grind

/-- Sorting neither loses an item nor adds one. -/
theorem mem_ofList {before : α → α → Bool} {b : α} {items : List α} :
    b ∈ ofList before items ↔ b ∈ items := by
  induction items with
  | nil => simp [ofList]
  | cons a items ih =>
    rw [List.mem_cons, ← ih]
    exact mem_insert

/-- Puts an entry into its place; an entry with the same key gives way. -/
def insertEntry (before : α → α → Bool) (key : α) (value : β) : List (α × β) → List (α × β)
  | [] => [(key, value)]
  | (k, v) :: rest =>
    if before key k then (key, value) :: (k, v) :: rest
    else if key = k then (key, value) :: rest
    else (k, v) :: insertEntry before key value rest

/-- The entries in ascending order of their keys; of those with one key the last. -/
def ofEntries (before : α → α → Bool) (entries : List (α × β)) : List (α × β) :=
  entries.foldl (fun sorted entry => insertEntry before entry.1 entry.2 sorted) []

/-- A look-up tries the first entry, then the rest. -/
theorem lookup_cons (k : α) (entry : α × β) (rest : List (α × β)) :
    (entry :: rest).lookup k = if k = entry.1 then some entry.2 else rest.lookup k := by
  rw [List.lookup_cons]
  by_cases h : k = entry.1
  · simp [h]
  · rw [beq_false_of_ne h, if_neg h]

/-- Putting an entry in changes what is found at its key, and nothing else. -/
theorem lookup_insertEntry (before : α → α → Bool) (key k : α) (value : β)
    (entries : List (α × β)) :
    (insertEntry before key value entries).lookup k =
      if k = key then some value else entries.lookup k := by
  induction entries with
  | nil => exact lookup_cons k (key, value) []
  | cons head rest ih =>
    unfold insertEntry
    split
    · exact lookup_cons k (key, value) (head :: rest)
    · split
      · rename_i hSame
        rw [lookup_cons, lookup_cons, hSame]
        by_cases h : k = head.1 <;> simp [h]
      · rename_i hOther
        rw [lookup_cons, lookup_cons, ih]
        by_cases h : k = key
        · simp [h, hOther]
        · simp [h]

/-- Of the entries with a key the last one is found. -/
theorem lookup_ofEntries (before : α → α → Bool) (k : α) (entries : List (α × β)) :
    (ofEntries before entries).lookup k = entries.reverse.lookup k := by
  suffices hAll : ∀ (entries sorted : List (α × β)),
      (entries.foldl (fun sorted entry => insertEntry before entry.1 entry.2 sorted)
        sorted).lookup k = (entries.reverse.lookup k).or (sorted.lookup k) by
    have hEmpty := hAll entries []
    rw [List.lookup_nil, Option.or_none] at hEmpty
    exact hEmpty
  intro entries
  induction entries with
  | nil => exact fun _ => rfl
  | cons entry rest ih =>
    intro sorted
    rw [List.foldl_cons, ih, lookup_insertEntry, List.reverse_cons, List.lookup_append,
      Option.or_assoc, lookup_cons]
    by_cases h : k = entry.1 <;> simp [h]

/-- If all entries with a key have one value, that is what is found. -/
theorem lookup_ofEntries_of_mem {before : α → α → Bool} {k : α} {value : β}
    {entries : List (α × β)} (h : (k, value) ∈ entries)
    (hOne : ∀ other, (k, other) ∈ entries → other = value) :
    (ofEntries before entries).lookup k = some value := by
  rw [lookup_ofEntries]
  cases hFound : entries.reverse.lookup k with
  | none =>
    have hNone := List.lookup_eq_none_iff.1 hFound (k, value) (List.mem_reverse.2 h)
    simp at hNone
  | some other =>
    obtain ⟨before, after, hSplit, -⟩ := List.lookup_eq_some_iff.1 hFound
    have hMem : (k, other) ∈ entries.reverse := by simp [hSplit]
    rw [hOne other (List.mem_reverse.1 hMem)]

/-- Nothing is found under a key that no entry has. -/
theorem lookup_ofEntries_eq_none {before : α → α → Bool} {k : α} {entries : List (α × β)}
    (h : ∀ entry ∈ entries, entry.1 ≠ k) : (ofEntries before entries).lookup k = none := by
  rw [lookup_ofEntries, List.lookup_eq_none_iff]
  intro entry hEntry
  simpa using Ne.symm (h entry (List.mem_reverse.1 hEntry))

end FlowCanvas.Ordered
