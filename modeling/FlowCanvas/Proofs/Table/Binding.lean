import FlowCanvas.Proofs.Table.Outputs
import Mathlib

/-!
# Leading outputs somewhere else

`DecisionTable.bind?` writes one route of a table. On a table with fresh flags it finds an output
for exactly the roles that normalize to one, the flags stay fresh, and the bindings afterwards are
the old ones with that one entry changed. In particular the roles of the outputs stay, and with them
the ports.
-/

set_option autoImplicit false

namespace FlowCanvas

namespace DecisionTable

/-! ## One group -/

/-- A route is written into the first group with the role, and nothing else changes. -/
theorem bindGroup?_eq_some {role : Role} {target : Option String}
    {groups changed : List ConditionGroup} (h : bindGroup? role target groups = some changed) :
    ∃ before g after, groups = before ++ g :: after ∧ g.role = role ∧
      (∀ b ∈ before, b.role ≠ role) ∧
      changed = before ++ { g with next := target } :: after := by
  induction groups generalizing changed with
  | nil => simp [bindGroup?] at h
  | cons g rest ih =>
    unfold bindGroup? at h
    split at h
    · rename_i hRole
      rw [Option.some.injEq] at h
      exact ⟨[], g, rest, rfl, hRole, by simp, h.symm⟩
    · rename_i hRole
      obtain ⟨changedRest, hRest, rfl⟩ := Option.map_eq_some_iff.1 h
      obtain ⟨before, found, after, rfl, hFound, hBefore, rfl⟩ := ih hRest
      refine ⟨g :: before, found, after, rfl, hFound, ?_, rfl⟩
      exact List.forall_mem_cons.2 ⟨hRole, hBefore⟩

/-- A group can be bound under a role exactly if there is a group with that role. -/
theorem bindGroup?_isSome {role : Role} {target : Option String} {groups : List ConditionGroup} :
    (bindGroup? role target groups).isSome = true ↔ role ∈ groups.map ConditionGroup.role := by
  induction groups with
  | nil => simp [bindGroup?]
  | cons g rest ih =>
    unfold bindGroup?
    by_cases hRole : g.role = role
    · simp [hRole]
    · rw [if_neg hRole, Option.isSome_map, ih, List.map_cons, List.mem_cons]
      simp [Ne.symm hRole]

/-- A change that keeps orders can be made before or after a group is sorted in. -/
theorem insertByOrder_map {f : ConditionGroup → ConditionGroup} (h : ∀ g, (f g).order = g.order)
    (g : ConditionGroup) (groups : List ConditionGroup) :
    insertByOrder (f g) (groups.map f) = (insertByOrder g groups).map f := by
  induction groups with
  | nil => rfl
  | cons head rest ih =>
    rw [List.map_cons, insertByOrder, insertByOrder, h, h]
    split
    · rfl
    · rw [ih, List.map_cons]

/-- Sorting does not look at anything but the orders. -/
theorem sortByOrder_map {f : ConditionGroup → ConditionGroup} (h : ∀ g, (f g).order = g.order)
    (groups : List ConditionGroup) : sortByOrder (groups.map f) = (sortByOrder groups).map f := by
  induction groups with
  | nil => rfl
  | cons g rest ih =>
    show insertByOrder (f g) (sortByOrder (rest.map f)) = _
    rw [ih, insertByOrder_map h]
    rfl

/-- The group with its route replaced if it has a certain role. -/
def redirected (role : Role) (target : Option String) (g : ConditionGroup) : ConditionGroup :=
  if g.role = role then { g with next := target } else g

/-- Redirecting a group keeps its order. -/
theorem redirected_order (role : Role) (target : Option String) (g : ConditionGroup) :
    (redirected role target g).order = g.order := by
  unfold redirected
  split <;> rfl

/-- Redirecting a group keeps its role. -/
theorem redirected_role (role : Role) (target : Option String) (g : ConditionGroup) :
    (redirected role target g).role = g.role := by
  unfold redirected
  split <;> rfl

/-- Where at most one valid group has the role, and no group has it beside a valid one, writing the
route of the first group with the role is writing that of every valid one. -/
theorem filter_bindGroup? {role : Role} {target : Option String}
    {groups changed : List ConditionGroup} (h : bindGroup? role target groups = some changed)
    (hUnique : ∀ g ∈ groups, g.valid = true →
      (groups.map ConditionGroup.role).count g.role = 1) :
    changed.filter (·.valid) = (groups.filter (·.valid)).map (redirected role target) := by
  obtain ⟨before, g, after, rfl, hRole, hBefore, rfl⟩ := bindGroup?_eq_some h
  have hOthers : ∀ rest : List ConditionGroup, (∀ b ∈ rest, b.valid = true → b.role ≠ role) →
      (rest.filter (·.valid)).map (redirected role target) = rest.filter (·.valid) := by
    intro rest hRest
    apply Lists.map_eq_self
    intro b hb
    obtain ⟨hMem, hValid⟩ := List.mem_filter.1 hb
    exact if_neg (hRest b hMem hValid)
  -- a valid group behind the first one with the role would be a second one with it
  have hAfter : ∀ b ∈ after, b.valid = true → b.role ≠ role := by
    intro b hb hValid hSame
    have hCount := hUnique b (by simp [hb]) hValid
    rw [hSame, List.map_append, List.map_cons, List.count_append, List.count_cons, hRole] at hCount
    have hPos : 0 < (after.map ConditionGroup.role).count role :=
      List.count_pos_iff.2 (List.mem_map.2 ⟨b, hb, hSame⟩)
    simp at hCount
    omega
  rw [List.filter_append, List.filter_append, List.map_append,
    hOthers before fun b hb _ => hBefore b hb]
  cases hValid : g.valid <;>
    simp only [List.filter_cons, hValid, if_true, Bool.false_eq_true, if_false, List.map_cons,
      hOthers after hAfter, redirected, if_pos hRole]

/-! ## Whole tables -/

variable {t t' : DecisionTable} {role : Role} {target : Option String}

/-- The three ways in which a route can be written. -/
theorem bind?_eq_some (h : t.bind? role target = some t') :
    (role.normalize = Role.decisionDefault ∧ t' = { t with defaultNext := target }) ∨
      (role.normalize = Role.decisionError ∧ t' = { t with errorNext := target }) ∨
      (role.normalize ≠ Role.decisionDefault ∧ role.normalize ≠ Role.decisionError ∧
        ∃ groups, bindGroup? role.normalize target t.groups = some groups ∧
          t' = { t with groups }) := by
  unfold bind? at h
  simp only at h
  split at h
  · exact .inl ⟨‹_›, (Option.some.inj h).symm⟩
  · split at h
    · exact .inr (.inl ⟨‹_›, (Option.some.inj h).symm⟩)
    · obtain ⟨groups, hGroups, rfl⟩ := Option.map_eq_some_iff.1 h
      exact .inr (.inr ⟨‹_›, ‹_›, groups, hGroups, rfl⟩)

/-- Writing a route keeps the flags fresh. -/
theorem IsFresh.bind? (hFresh : t.IsFresh) (h : t.bind? role target = some t') : t'.IsFresh := by
  have hFlags := isFresh_iff.1 hFresh
  rcases bind?_eq_some h with ⟨-, rfl⟩ | ⟨-, rfl⟩ | ⟨-, -, groups, hGroups, rfl⟩
  · exact isFresh_iff.2 hFlags
  · exact isFresh_iff.2 hFlags
  · obtain ⟨before, g, after, hOld, -, -, rfl⟩ := bindGroup?_eq_some hGroups
    have hRoles : t.groups.map ConditionGroup.role =
        (before ++ { g with next := target } :: after).map ConditionGroup.role := by
      rw [hOld]
      simp [ConditionGroup.role]
    rw [isFresh_iff]
    intro b hb
    show b.valid = isValidAmong (before ++ { g with next := target } :: after) b
    rw [← isValidAmong_congr hRoles rfl rfl]
    rcases List.mem_append.1 hb with hb | hb
    · exact hFlags b (by simp [hOld, hb])
    · rcases List.mem_cons.1 hb with rfl | hb
      · exact hFlags g (by simp [hOld])
      · exact hFlags b (by simp [hOld, hb])

/-- The error output and the default output have different roles. -/
theorem decisionError_ne_decisionDefault : Role.decisionError ≠ Role.decisionDefault := by decide

/-- Writing a route changes the entry of its output in the bindings and no other entry. -/
theorem IsFresh.bindings_bind? (hFresh : t.IsFresh) (h : t.bind? role target = some t') :
    t'.bindings = t.bindings.map fun entry =>
      if entry.1 = role.normalize then (entry.1, target) else entry := by
  have hKeep : ∀ fixed, role.normalize = fixed → (∀ name, Role.ofGroupName name ≠ fixed) →
      t.validGroups.map (fun g => (g.role, g.next)) =
        (t.validGroups.map (fun g => (g.role, g.next))).map fun entry =>
          if entry.1 = role.normalize then (entry.1, target) else entry := by
    intro fixed hFixed hNe
    rw [List.map_map]
    apply List.map_congr_left
    intro g _
    simp [hFixed, ConditionGroup.role, hNe g.name]
  rcases bind?_eq_some h with
    ⟨hDefault, rfl⟩ | ⟨hError, rfl⟩ | ⟨hDefault, hError, groups, hGroups, rfl⟩
  · have hNew : bindings { t with defaultNext := target } =
        t.validGroups.map (fun g => (g.role, g.next)) ++
          [(Role.decisionDefault, target), (Role.decisionError, t.errorNext)] := rfl
    rw [hNew, bindings, List.map_append, ← hKeep _ hDefault Role.ofGroupName_ne_decisionDefault]
    rw [List.map_cons, List.map_cons, List.map_nil, if_pos hDefault.symm,
      if_neg (hDefault ▸ decisionError_ne_decisionDefault)]
  · have hNew : bindings { t with errorNext := target } =
        t.validGroups.map (fun g => (g.role, g.next)) ++
          [(Role.decisionDefault, t.defaultNext), (Role.decisionError, target)] := rfl
    rw [hNew, bindings, List.map_append, ← hKeep _ hError Role.ofGroupName_ne_decisionError]
    rw [List.map_cons, List.map_cons, List.map_nil, if_pos hError.symm,
      if_neg (hError ▸ Ne.symm decisionError_ne_decisionDefault)]
  · have hValid : validGroups { t with groups } =
        t.validGroups.map (redirected role.normalize target) := by
      unfold validGroups
      rw [← sortByOrder_map (redirected_order _ _)]
      exact congrArg sortByOrder (filter_bindGroup? hGroups fun g hg => hFresh.count_role hg)
    unfold bindings
    rw [hValid, List.map_append, List.map_map, List.map_map]
    refine congrArg₂ (· ++ ·) ?_ ?_
    · apply List.map_congr_left
      intro g _
      simp only [Function.comp_apply, redirected_role]
      unfold redirected
      split <;> rfl
    · rw [List.map_cons, List.map_cons, List.map_nil, if_neg (Ne.symm hDefault),
        if_neg (Ne.symm hError)]

/-- Writing a route keeps the roles of the outputs. -/
theorem IsFresh.outputRoles_bind? (hFresh : t.IsFresh) (h : t.bind? role target = some t') :
    t'.outputRoles = t.outputRoles := by
  unfold outputRoles
  rw [hFresh.bindings_bind? h, List.map_map]
  apply List.map_congr_left
  intro entry _
  simp only [Function.comp_apply]
  split <;> rfl

/-- Writing a route keeps the ports. -/
theorem IsFresh.ports_bind? (hFresh : t.IsFresh) (h : t.bind? role target = some t')
    (node : ItemId) : t'.ports node = t.ports node := by
  rw [(hFresh.bind? h).ports_eq, hFresh.ports_eq, hFresh.outputRoles_bind? h]

/-- Whether a route can be written depends on the role alone, and on the roles that there are. -/
theorem bind?_isSome_iff {target : Option String} : (t.bind? role target).isSome = true ↔
    role.normalize ∈
      t.groups.map ConditionGroup.role ++ [Role.decisionDefault, Role.decisionError] := by
  unfold bind?
  simp only [List.mem_append, List.mem_cons, List.not_mem_nil, or_false]
  split
  · rename_i hDefault
    exact iff_of_true rfl (.inr (.inl hDefault))
  · split
    · rename_i hError
      exact iff_of_true rfl (.inr (.inr hError))
    · rename_i hDefault hError
      rw [Option.isSome_map, bindGroup?_isSome, or_iff_left (not_or.2 ⟨hDefault, hError⟩)]

/-- A route can be written for the role of every output. -/
theorem bind?_isSome_of_mem_outputRoles (target : Option String)
    (h : role.normalize ∈ t.outputRoles) :
    (t.bind? role target).isSome = true := by
  rw [outputRoles_eq, List.mem_append] at h
  rw [bind?_isSome_iff, List.mem_append]
  refine h.imp_left fun hGroup => ?_
  obtain ⟨g, hg, hRole⟩ := List.mem_map.1 hGroup
  exact List.mem_map.2 ⟨g, (mem_validGroups.1 hg).1, hRole⟩

end DecisionTable

end FlowCanvas
