import FlowCanvas.Proofs.Table.Binding
import Mathlib

/-!
# Routes written and cleared in closed form

`DecisionTable.bind?` searches for the output that it writes. This module says what comes out
without a search. Writing the route of an output that a fresh table has replaces that one route
(`DecisionTable.withRoute`). Clearing routes (`DecisionTable.clear`) makes the outputs with lost
roles lead nowhere; of several groups with one role only the first is found, so only the first is
cleared. Roles that are cleared one after the other are cleared together
(`DecisionTable.clear_clear`), and that is why their order does not matter.
-/

set_option autoImplicit false

namespace FlowCanvas

namespace DecisionTable

/-! ## Writing one route -/

/-- The table with the route of the output with one role replaced. -/
def withRoute (t : DecisionTable) (role : Role) (next : Option String) : DecisionTable :=
  { t with
    groups := t.groups.map (redirected role next)
    defaultNext := if role = Role.decisionDefault then next else t.defaultNext
    errorNext := if role = Role.decisionError then next else t.errorNext }

variable {t : DecisionTable} {role : Role} {next : Option String} {groups : List ConditionGroup}

/-- Redirecting under a role that no group has changes nothing. -/
theorem map_redirected_eq_self (h : ∀ g ∈ groups, g.role ≠ role) :
    groups.map (redirected role next) = groups :=
  Lists.map_eq_self fun g hg => if_neg (h g hg)

/-- If a role is that of one group only, writing the route of the first group with the role is
writing that of every one. -/
theorem bindGroup?_eq_map {changed : List ConditionGroup}
    (h : bindGroup? role next groups = some changed)
    (hOnce : (groups.map ConditionGroup.role).count role ≤ 1) :
    changed = groups.map (redirected role next) := by
  obtain ⟨before, g, after, rfl, hRole, hBefore, rfl⟩ := bindGroup?_eq_some h
  have hAfter : ∀ b ∈ after, b.role ≠ role := by
    intro b hb hSame
    have hPos : 0 < (after.map ConditionGroup.role).count role :=
      List.count_pos_iff.2 (List.mem_map.2 ⟨b, hb, hSame⟩)
    rw [List.map_append, List.map_cons, List.count_append, hRole, List.count_cons_self] at hOnce
    omega
  rw [List.map_append, List.map_cons, map_redirected_eq_self hBefore,
    map_redirected_eq_self hAfter, redirected, if_pos hRole]

/-- A fresh table has every output once, among its groups and the two fixed outputs. -/
theorem IsFresh.count_outputs (h : t.IsFresh) (hMem : role ∈ t.outputRoles) :
    (t.groups.map ConditionGroup.role ++ [Role.decisionDefault, Role.decisionError]).count role =
      1 := by
  have hGroups : ∀ fixed, (∀ name, Role.ofGroupName name ≠ fixed) →
      (t.groups.map ConditionGroup.role).count fixed = 0 := by
    intro fixed hNe
    rw [List.count_eq_zero, List.mem_map]
    rintro ⟨g, -, hRole⟩
    exact hNe g.name hRole
  rw [outputRoles_eq, List.mem_append] at hMem
  rw [List.count_append]
  rcases hMem with hGroup | hFixed
  · obtain ⟨g, hg, rfl⟩ := List.mem_map.1 hGroup
    obtain ⟨hStored, hValid⟩ := mem_validGroups.1 hg
    have hNone : [Role.decisionDefault, Role.decisionError].count g.role = 0 := by
      have hDefault : g.role ≠ Role.decisionDefault := Role.ofGroupName_ne_decisionDefault g.name
      have hError : g.role ≠ Role.decisionError := Role.ofGroupName_ne_decisionError g.name
      simp [List.count_eq_zero, hDefault, hError]
    rw [h.count_role hStored hValid, hNone]
  · simp only [List.mem_cons, List.not_mem_nil, or_false] at hFixed
    rcases hFixed with rfl | rfl
    · rw [hGroups _ Role.ofGroupName_ne_decisionDefault]
      decide
    · rw [hGroups _ Role.ofGroupName_ne_decisionError]
      decide

/-- Writing the route of an output replaces that route and nothing else. -/
theorem IsFresh.bind?_eq_withRoute (h : t.IsFresh) (hMem : role ∈ t.outputRoles)
    (next : Option String) : t.bind? role next = some (t.withRoute role next) := by
  have hNormal : role.normalize = role := isNormal_of_mem_outputRoles hMem
  obtain ⟨t', hBind⟩ := Option.isSome_iff_exists.1
    (bind?_isSome_of_mem_outputRoles next (hNormal.symm ▸ hMem))
  rw [hBind, Option.some.injEq]
  rcases bind?_eq_some hBind with
    ⟨hDefault, rfl⟩ | ⟨hError, rfl⟩ | ⟨hDefault, hError, groups, hGroups, rfl⟩
  · rw [hNormal] at hDefault
    subst hDefault
    simp only [withRoute, if_pos, if_neg (Ne.symm decisionError_ne_decisionDefault),
      map_redirected_eq_self fun g _ => Role.ofGroupName_ne_decisionDefault g.name]
  · rw [hNormal] at hError
    subst hError
    simp only [withRoute, if_pos, if_neg decisionError_ne_decisionDefault,
      map_redirected_eq_self fun g _ => Role.ofGroupName_ne_decisionError g.name]
  · rw [hNormal] at hDefault hError hGroups
    have hOnce := h.count_outputs hMem
    rw [List.count_append] at hOnce
    simp only [withRoute, if_neg hDefault, if_neg hError]
    rw [← bindGroup?_eq_map hGroups (by omega)]

/-! ## Clearing routes -/

/-- The groups, of which the first one with each lost role leads nowhere. -/
def clearGroups (lost : Role → Bool) : List ConditionGroup → List ConditionGroup
  | [] => []
  | g :: rest =>
    if lost g.role then
      { g with next := none } :: clearGroups (fun r => lost r && r != g.role) rest
    else g :: clearGroups lost rest

/-- The table whose outputs with lost roles lead nowhere. -/
def clear (t : DecisionTable) (lost : Role → Bool) : DecisionTable :=
  { t with
    groups := clearGroups lost t.groups
    defaultNext := if lost Role.decisionDefault then none else t.defaultNext
    errorNext := if lost Role.decisionError then none else t.errorNext }

variable {lost lost' : Role → Bool}

/-- Clearing changes nothing if no role is lost. -/
theorem clearGroups_eq_self (h : ∀ g ∈ groups, lost g.role = false) :
    clearGroups lost groups = groups := by
  induction groups with
  | nil => rfl
  | cons g rest ih =>
    rw [clearGroups, h g List.mem_cons_self, ih fun b hb => h b (List.mem_cons_of_mem _ hb)]
    rfl

/-- A table of which nothing is lost stays as it is. -/
@[simp] theorem clear_false (t : DecisionTable) : t.clear (fun _ => false) = t := by
  unfold clear
  rw [clearGroups_eq_self fun _ _ => rfl]
  rfl

/-- Making the first group with a role lead nowhere is clearing that role. -/
theorem bindGroup?_none_getD (role : Role) (groups : List ConditionGroup) :
    (bindGroup? role none groups).getD groups = clearGroups (· == role) groups := by
  induction groups with
  | nil => rfl
  | cons g rest ih =>
    unfold bindGroup? clearGroups
    by_cases hRole : g.role = role
    · have hRest : clearGroups (fun r => r == role && r != g.role) rest = rest :=
        clearGroups_eq_self fun b _ => by simp [hRole]
      rw [if_pos hRole, if_pos (beq_iff_eq.2 hRole), hRest]
      rfl
    · rw [if_neg hRole, if_neg (by simpa using hRole), ← ih]
      cases bindGroup? role none rest <;> rfl

/-- Making one output lead nowhere is clearing its role; where there is no such output there is
nothing to clear. -/
theorem bind?_none_getD (t : DecisionTable) (role : Role) :
    (t.bind? role none).getD t = t.clear (· == role.normalize) := by
  have hKeep : ∀ fixed, (∀ name, Role.ofGroupName name ≠ fixed) →
      clearGroups (· == fixed) t.groups = t.groups := fun fixed hNe =>
    clearGroups_eq_self fun g _ => by
      simpa using show g.role ≠ fixed from hNe g.name
  unfold bind? clear
  simp only
  split
  · rename_i hDefault
    rw [hDefault, hKeep _ Role.ofGroupName_ne_decisionDefault]
    simp [decisionError_ne_decisionDefault]
  · rename_i hDefault
    split
    · rename_i hError
      rw [hError, hKeep _ Role.ofGroupName_ne_decisionError]
      simp [Ne.symm decisionError_ne_decisionDefault]
    · rename_i hError
      rw [← bindGroup?_none_getD]
      simp only [beq_eq_false_iff_ne.2 (Ne.symm hDefault), beq_eq_false_iff_ne.2 (Ne.symm hError),
        Bool.false_eq_true, if_false]
      cases bindGroup? role.normalize none t.groups <;> rfl

/-- Groups that are cleared twice are cleared of the roles that are lost the one or the other
time. -/
theorem clearGroups_clearGroups (lost lost' : Role → Bool) (groups : List ConditionGroup) :
    clearGroups lost (clearGroups lost' groups) =
      clearGroups (fun r => lost r || lost' r) groups := by
  induction groups generalizing lost lost' with
  | nil => rfl
  | cons g rest ih =>
    -- behind the group that stands for its role, the role is lost no longer
    have hRest : ∀ a b : Role → Bool, (∀ r, r ≠ g.role → a r = lost r) →
        (∀ r, r ≠ g.role → b r = lost' r) → (a g.role || b g.role) = false →
          clearGroups a (clearGroups b rest) =
            clearGroups (fun r => (lost r || lost' r) && r != g.role) rest := by
      intro a b ha hb hHere
      rw [ih]
      congr 1
      funext r
      by_cases hRole : r = g.role
      · subst hRole
        simp [hHere]
      · simp [ha r hRole, hb r hRole, hRole]
    have hRole : ({ g with next := none } : ConditionGroup).role = g.role := rfl
    cases hFirst : lost' g.role <;> cases hSecond : lost g.role <;>
      simp only [clearGroups, hFirst, hSecond, hRole, Bool.or_self, Bool.or_true, Bool.true_or,
        Bool.false_eq_true, if_true, if_false]
    · rw [ih]
    · rw [hRest _ _ (fun r hr => by simp [hr]) (fun _ _ => rfl) (by simp [hFirst])]
    · rw [hRest _ _ (fun _ _ => rfl) (fun r hr => by simp [hr]) (by simp [hSecond])]
    · rw [hRest _ _ (fun r hr => by simp [hr]) (fun r hr => by simp [hr]) (by simp)]

/-- Clearing twice is clearing what is lost either time. -/
theorem clear_clear (t : DecisionTable) (lost lost' : Role → Bool) :
    (t.clear lost').clear lost = t.clear fun r => lost r || lost' r := by
  have hNext : ∀ (b b' : Bool) (next : Option String),
      (if b = true then none else if b' = true then none else next) =
        if (b || b') = true then none else next := by
    intro b b' next
    cases b <;> rfl
  unfold clear
  simp only [clearGroups_clearGroups, hNext]

/-! ## Bindings -/

/-- Where no group has the role of a valid one beside it, clearing routes clears those of the valid
groups with lost roles. -/
theorem filter_clearGroups (hUnique : ∀ g ∈ groups, g.valid = true →
      (groups.map ConditionGroup.role).count g.role = 1) :
    (clearGroups lost groups).filter (·.valid) = (groups.filter (·.valid)).map fun g =>
      if lost g.role then { g with next := none } else g := by
  induction groups generalizing lost with
  | nil => rfl
  | cons g rest ih =>
    have hCount : ∀ b ∈ rest, b.valid = true → b.role ≠ g.role ∧
        (rest.map ConditionGroup.role).count b.role = 1 := by
      intro b hb hValid
      have hOnce := hUnique b (List.mem_cons_of_mem _ hb) hValid
      have hPos : 0 < (rest.map ConditionGroup.role).count b.role :=
        List.count_pos_iff.2 (List.mem_map_of_mem hb)
      rw [List.map_cons, List.count_cons] at hOnce
      split at hOnce
      · omega
      · rename_i hRole
        exact ⟨fun hSame => hRole (beq_iff_eq.2 hSame.symm), hOnce⟩
    have hRest := fun lost => @ih lost fun b hb hValid => (hCount b hb hValid).2
    unfold clearGroups
    split
    · rename_i hLost
      have hSame : ((rest.filter (·.valid)).map fun b =>
          if lost b.role && b.role != g.role then { b with next := none } else b) =
            (rest.filter (·.valid)).map fun b =>
              if lost b.role then { b with next := none } else b := by
        apply List.map_congr_left
        intro b hb
        obtain ⟨hMem, hValid⟩ := List.mem_filter.1 hb
        simp [(hCount b hMem hValid).1]
      rw [List.filter_cons, List.filter_cons, hRest, hSame]
      split <;> simp [hLost]
    · rename_i hKept
      rw [List.filter_cons, List.filter_cons, hRest]
      split <;> simp [hKept]

/-- Clearing routes of a fresh table clears the entries of the outputs with lost roles. -/
theorem IsFresh.bindings_clear (h : t.IsFresh) (lost : Role → Bool) :
    (t.clear lost).bindings = t.bindings.map fun entry =>
      if lost entry.1 then (entry.1, none) else entry := by
  have hValid : (t.clear lost).validGroups = t.validGroups.map fun g =>
      if lost g.role then { g with next := none } else g := by
    unfold validGroups
    rw [← sortByOrder_map fun g => by split <;> rfl]
    exact congrArg sortByOrder (filter_clearGroups fun g hg => h.count_role hg)
  unfold bindings
  rw [hValid, List.map_append, List.map_map, List.map_map]
  refine congrArg₂ (· ++ ·) ?_ ?_
  · apply List.map_congr_left
    intro g _
    simp only [Function.comp_apply]
    split <;> rfl
  · simp only [List.map_cons, List.map_nil, clear]
    congr 1
    · split <;> rfl
    · congr 1
      split <;> rfl

end DecisionTable

end FlowCanvas
