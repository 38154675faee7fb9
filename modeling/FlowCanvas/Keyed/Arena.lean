import FlowCanvas.Keyed.Roster

/-!
# Arenas

The store under a roster: items lie at places, an index leads from keys to places, and the places
are listed in the order in which they were taken. A place that has become free is not taken again,
so no place in the index or in the order ever comes to mean another item.
-/

set_option autoImplicit false

namespace FlowCanvas

open Keyed (key)

/-- Items at places, with an index and an order. -/
structure Arena (α : Type) {κ : Type} [Keyed α κ] where
  /-- What lies at each of the places that have been taken so far. -/
  items : List (Option α)
  /-- The place of the item with a key. -/
  index : κ → Option Nat
  /-- The places of the items, in the order in which they were taken. -/
  order : List Nat

namespace Arena

variable {α κ : Type} [DecidableEq κ] [Keyed α κ]

/-- The arena without items. -/
def empty : Arena α := ⟨[], fun _ => none, []⟩

/-- The item at a place. -/
def item? (t : Arena α) (p : Nat) : Option α := t.items[p]?.join

/-- The item with a key. -/
def get? (t : Arena α) (k : κ) : Option α := (t.index k).bind t.item?

/-- Whether the index knows a key. -/
def contains (t : Arena α) (k : κ) : Bool := (t.index k).isSome

/-- The items in order. -/
def values (t : Arena α) : List α := t.order.filterMap t.item?

/-- How many places hold an item. -/
def size (t : Arena α) : Nat := t.items.countP Option.isSome

/-- Puts an item at a place in the place of the old one. -/
def store (t : Arena α) (p : Nat) (a : α) : Arena α := { t with items := t.items.set p (some a) }

/-- Puts an item at a new place. -/
def append (t : Arena α) (a : α) : Arena α where
  items := t.items ++ [some a]
  index k := if k = key a then some t.items.length else t.index k
  order := t.order ++ [t.items.length]

/-- Puts an item in, and says whether it has taken the place of another one. -/
def put (t : Arena α) (a : α) : Arena α × Bool :=
  match (t.index (key a)).filter fun p => (t.item? p).isSome with
  | some p => (t.store p a, true)
  | none => (t.append a, false)

/-- Changes the item with a key. -/
def change (t : Arena α) (k : κ) (f : α → α) : Arena α :=
  match t.index k with
  | some p => { t with items := t.items.modify p (Option.map f) }
  | none => t

/-- Changes every item. -/
def changeAll (t : Arena α) (f : α → α) : Arena α :=
  { t with items := t.items.map (Option.map f) }

/-- Takes the item at a place out, and its key out of the index. -/
def free (t : Arena α) (p : Nat) (k : κ) : Arena α where
  items := t.items.set p none
  index l := if l = k then none else t.index l
  order := t.order.filter (· ≠ p)

/-- Takes the item with a key out, and says which one it was. -/
def remove (t : Arena α) (k : κ) : Arena α × Option α :=
  match t.index k with
  | some p => (t.free p k, t.item? p)
  | none => (t, none)

end Arena

end FlowCanvas
