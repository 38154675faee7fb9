import FlowCanvas.Proofs.Table.Binding
import Mathlib

/-!
# Forgetting routes

When connections are taken away, decision tables forget where the outputs led that have lost
theirs. A table that has forgotten some routes (`DecisionTable.Forgets`) is what it was apart from
those: its groups, their order and their flags are the same, and so are all other routes.
-/

set_option autoImplicit false

namespace FlowCanvas

/-- A group as it was, or without its route if its role is one of those that are lost. -/
def ConditionGroup.Forgets (lost : Role → Prop) (g g' : ConditionGroup) : Prop :=
  g' = g ∨ lost g.role ∧ g' = { g with next := none }

/-- A table as it was, apart from routes that it has forgotten, all of them at outputs whose role is
one of those that are lost. -/
structure DecisionTable.Forgets (lost : Role → Prop) (t t' : DecisionTable) : Prop where
  name_eq : t'.name = t.name
  groups : List.Forall₂ (ConditionGroup.Forgets lost) t.groups t'.groups
  defaultNext : t'.defaultNext = t.defaultNext ∨ lost .decisionDefault ∧ t'.defaultNext = none
  errorNext : t'.errorNext = t.errorNext ∨ lost .decisionError ∧ t'.errorNext = none

/-- The data of a node as they were, apart from forgotten routes of a decision table. -/
inductive Payload.Forgets (lost : Role → Prop) : Payload → Payload → Prop
  | same (data : Payload) : Forgets lost data data
  | table {t t' : DecisionTable} (h : t.Forgets lost t') :
      Forgets lost (.decisionTable t) (.decisionTable t')

variable {lost : Role → Prop}

instance : Std.Refl (ConditionGroup.Forgets lost) := ⟨fun _ => .inl rfl⟩

/-- A group that forgets twice has forgotten. -/
theorem ConditionGroup.Forgets.trans {g g' g'' : ConditionGroup} (h : g.Forgets lost g')
    (h' : g'.Forgets lost g'') : g.Forgets lost g'' := by
  rcases h with rfl | ⟨hLost, rfl⟩
  · exact h'
  · rcases h' with rfl | ⟨-, rfl⟩ <;> exact .inr ⟨hLost, rfl⟩

namespace DecisionTable

variable {t t' t'' : DecisionTable} {role : Role} {name : String}

/-- A route that is forgotten in one of two steps is forgotten in both together. -/
theorem next_trans {next next' next'' : Option String} {r : Role}
    (h : next' = next ∨ lost r ∧ next' = none) (h' : next'' = next' ∨ lost r ∧ next'' = none) :
    next'' = next ∨ lost r ∧ next'' = none := by
  rcases h' with rfl | hLost
  · exact h
  · exact .inr hLost

/-- A table that forgets twice has forgotten. -/
theorem Forgets.trans (h : t.Forgets lost t') (h' : t'.Forgets lost t'') : t.Forgets lost t'' where
  name_eq := h'.name_eq.trans h.name_eq
  groups := Lists.forall₂_trans h.groups h'.groups fun _ _ _ => ConditionGroup.Forgets.trans
  defaultNext := next_trans h.defaultNext h'.defaultNext
  errorNext := next_trans h.errorNext h'.errorNext

/-- Making one output lead nowhere forgets its route. -/
theorem forgets_bind? (h : t.bind? role none = some t') (hLost : lost role.normalize) :
    t.Forgets lost t' := by
  have hSame : List.Forall₂ (ConditionGroup.Forgets lost) t.groups t.groups := List.forall₂_refl _
  rcases bind?_eq_some h with ⟨hDefault, rfl⟩ | ⟨hError, rfl⟩ | ⟨-, -, groups, hGroups, rfl⟩
  · exact ⟨rfl, hSame, .inr ⟨hDefault ▸ hLost, rfl⟩, .inl rfl⟩
  · exact ⟨rfl, hSame, .inl rfl, .inr ⟨hError ▸ hLost, rfl⟩⟩
  · obtain ⟨before, g, after, hOld, hRole, -, rfl⟩ := bindGroup?_eq_some hGroups
    refine ⟨rfl, ?_, .inl rfl, .inl rfl⟩
    rw [hOld]
    exact Lists.forall₂_replace (.inr ⟨hRole ▸ hLost, rfl⟩) before after

/-- Nothing is routed anew when routes are forgotten. -/
theorem Forgets.mem_bindings (h : t.Forgets lost t') (hRoute : (role, some name) ∈ t'.bindings) :
    (role, some name) ∈ t.bindings := by
  unfold bindings at hRoute ⊢
  rw [List.mem_append] at hRoute ⊢
  rcases hRoute with hGroup | hFixed
  · left
    obtain ⟨g', hg', hEntry⟩ := List.mem_map.1 hGroup
    obtain ⟨hMem, hValid⟩ := mem_validGroups.1 hg'
    obtain ⟨g, hg, hForgets⟩ := Lists.exists_of_forall₂_right h.groups hMem
    rcases hForgets with rfl | ⟨-, rfl⟩
    · exact List.mem_map.2 ⟨g', mem_validGroups.2 ⟨hg, hValid⟩, hEntry⟩
    · simp at hEntry
  · right
    have hDefault := h.defaultNext
    have hError := h.errorNext
    simp only [List.mem_cons, Prod.mk.injEq, List.not_mem_nil, or_false] at hFixed ⊢
    rcases hFixed with ⟨rfl, hNext⟩ | ⟨rfl, hNext⟩
    · rw [← hNext] at hDefault
      exact .inl ⟨rfl, by simpa using hDefault⟩
    · rw [← hNext] at hError
      exact .inr ⟨rfl, by simpa using hError⟩

/-- On a table with fresh flags no valid group has a route at an output that leads nowhere. -/
theorem IsFresh.notMem_bindings_bind? (hFresh : t.IsFresh) (h : t.bind? role none = some t') :
    (role.normalize, some name) ∉ t'.bindings := by
  rw [hFresh.bindings_bind? h, List.mem_map]
  rintro ⟨entry, -, hEntry⟩
  split at hEntry
  · simp at hEntry
  · rename_i hRole
    subst hEntry
    exact hRole rfl

end DecisionTable

namespace Payload.Forgets

variable {data data' data'' : Payload}

/-- Data that forget twice have forgotten. -/
theorem trans (h : data.Forgets lost data') (h' : data'.Forgets lost data'') :
    data.Forgets lost data'' := by
  cases h with
  | same => exact h'
  | table hTable =>
    cases h' with
    | same => exact .table hTable
    | table hTable' => exact .table (hTable.trans hTable')

/-- What is no decision table afterwards has been none before. -/
theorem exists_table (h : data.Forgets lost data') {t' : DecisionTable}
    (hTable : data' = .decisionTable t') :
    ∃ t, data = .decisionTable t ∧ ∀ role name, (role, some name) ∈ t'.bindings →
      (role, some name) ∈ t.bindings := by
  cases h with
  | same => exact ⟨t', hTable, fun _ _ hRoute => hRoute⟩
  | table h =>
    cases hTable
    exact ⟨_, rfl, fun _ _ => h.mem_bindings⟩

end Payload.Forgets

end FlowCanvas
