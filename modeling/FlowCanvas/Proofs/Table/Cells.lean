import FlowCanvas.Proofs.Table.Binding
import Mathlib

/-!
# Routes as independent cells

The routes of a decision table with fresh flags behave like cells that are named by normal roles
(`DecisionTable.IsFresh.hasRouteCells`): a write reaches one route at most, what has been written is
what the bindings say, writes to different cells commute, and of two writes to one cell the second
decides.

A route is written into the first group with the role, whether or not that group is valid, whereas
only valid groups have a binding. This does no harm because no group has the role of a valid one
beside it: a write that reaches an invalid group does not show in the bindings.
-/

set_option autoImplicit false

namespace FlowCanvas

namespace DecisionTable

variable {t : DecisionTable} {r r₁ r₂ : Role} {groups : List ConditionGroup}

/-! ## Writing into a group -/

/-- The groups with the route of the first one with a role replaced, if there is one. -/
def rebindGroups (role : Role) (next : Option String) (groups : List ConditionGroup) :
    List ConditionGroup :=
  (bindGroup? role next groups).getD groups

/-- Writing into groups goes through them from the front and stops at the first one with the
role. -/
theorem rebindGroups_cons (r : Role) (next : Option String) (g : ConditionGroup)
    (rest : List ConditionGroup) :
    rebindGroups r next (g :: rest) =
      if g.role = r then { g with next } :: rest else g :: rebindGroups r next rest := by
  unfold rebindGroups
  rw [bindGroup?]
  split
  · rfl
  · cases bindGroup? r next rest <;> rfl

/-- Writing under a role that no group has changes nothing. -/
theorem rebindGroups_eq_self (h : ∀ g ∈ groups, g.role ≠ r) (next : Option String) :
    rebindGroups r next groups = groups := by
  induction groups with
  | nil => rfl
  | cons g rest ih =>
    rw [rebindGroups_cons, if_neg (h g List.mem_cons_self),
      ih fun k hk => h k (List.mem_cons_of_mem _ hk)]

/-- Of two routes that are written for one role the second one stays. -/
theorem rebindGroups_rebindGroups_self (r : Role) (next₁ next₂ : Option String)
    (groups : List ConditionGroup) :
    rebindGroups r next₂ (rebindGroups r next₁ groups) = rebindGroups r next₂ groups := by
  induction groups with
  | nil => rfl
  | cons g rest ih =>
    rw [rebindGroups_cons, rebindGroups_cons]
    split
    · rename_i hRole
      have hWritten : ({ g with next := next₁ } : ConditionGroup).role = r := hRole
      rw [rebindGroups_cons, if_pos hWritten]
    · rename_i hRole
      rw [rebindGroups_cons, if_neg hRole, ih]

/-- Routes for different roles can be written in any order. -/
theorem rebindGroups_comm (hOther : r₁ ≠ r₂) (next₁ next₂ : Option String)
    (groups : List ConditionGroup) :
    rebindGroups r₂ next₂ (rebindGroups r₁ next₁ groups) =
      rebindGroups r₁ next₁ (rebindGroups r₂ next₂ groups) := by
  induction groups with
  | nil => rfl
  | cons g rest ih =>
    rw [rebindGroups_cons, rebindGroups_cons]
    -- a group keeps its role when it is written, so the other write still passes over it
    by_cases hFirst : g.role = r₁
    · have hNotSecond : g.role ≠ r₂ := hFirst ▸ hOther
      have hWritten : ({ g with next := next₁ } : ConditionGroup).role ≠ r₂ := hNotSecond
      rw [if_pos hFirst, if_neg hNotSecond, rebindGroups_cons, if_neg hWritten, rebindGroups_cons,
        if_pos hFirst]
    · rw [if_neg hFirst, rebindGroups_cons]
      split
      · have hWritten : ({ g with next := next₂ } : ConditionGroup).role ≠ r₁ := hFirst
        rw [rebindGroups_cons, if_neg hWritten]
      · rw [rebindGroups_cons, if_neg hFirst, ih]

/-! ## Writing into a table -/

/-- The table after the route of an output has been written; as it was if it has no such output. -/
def rebind (t : DecisionTable) (role : Role) (next : Option String) : DecisionTable :=
  (t.bind? role next).getD t

/-- A write sets each of the two further routes if the role is its own, and otherwise looks for a
group; as no group has the role of a further route, it can look for one in any case. -/
theorem rebind_eq (t : DecisionTable) (r : Role) (next : Option String) :
    t.rebind r next =
      { t with
        groups := rebindGroups r.normalize next t.groups
        defaultNext := if r.normalize = Role.decisionDefault then next else t.defaultNext
        errorNext := if r.normalize = Role.decisionError then next else t.errorNext } := by
  have hKeep : ∀ fixed, (∀ name, Role.ofGroupName name ≠ fixed) →
      rebindGroups fixed next t.groups = t.groups := fun fixed hNe =>
    rebindGroups_eq_self (fun g _ => hNe g.name) next
  unfold rebind bind?
  simp only
  split
  · rename_i hDefault
    rw [hDefault, hKeep _ Role.ofGroupName_ne_decisionDefault,
      if_neg (Ne.symm decisionError_ne_decisionDefault)]
    rfl
  · split
    · rename_i hError
      rw [hError, hKeep _ Role.ofGroupName_ne_decisionError]
      rfl
    · rw [rebindGroups]
      cases bindGroup? r.normalize next t.groups <;> rfl

/-- A table in which one route at most has been replaced. -/
inductive RewritesOne (t : DecisionTable) (next : Option String) : DecisionTable → Prop
  | same : RewritesOne t next t
  | default : RewritesOne t next { t with defaultNext := next }
  | error : RewritesOne t next { t with errorNext := next }
  | group {before after : List ConditionGroup} {g : ConditionGroup}
      (hGroups : t.groups = before ++ g :: after) :
      RewritesOne t next { t with groups := before ++ { g with next } :: after }

/-- Writing one route rewrites at most one. -/
theorem rewritesOne_rebind (t : DecisionTable) (r : Role) (next : Option String) :
    t.RewritesOne next (t.rebind r next) := by
  unfold rebind
  cases hBind : t.bind? r next with
  | none => exact .same
  | some t' =>
    rcases bind?_eq_some hBind with ⟨-, rfl⟩ | ⟨-, rfl⟩ | ⟨-, -, groups, hGroups, rfl⟩
    · exact .default
    · exact .error
    · obtain ⟨before, g, after, hOld, -, -, rfl⟩ := bindGroup?_eq_some hGroups
      exact .group hOld

/-- Rewriting a route keeps the roles of all groups. -/
theorem RewritesOne.map_role {t' : DecisionTable} {next : Option String}
    (h : t.RewritesOne next t') :
    t'.groups.map ConditionGroup.role = t.groups.map ConditionGroup.role := by
  cases h with
  | group hGroups =>
    rw [hGroups, List.map_append, List.map_append]
    rfl
  | _ => rfl

/-- A write leaves the roles of the groups as they are. -/
theorem map_role_rebind (t : DecisionTable) (r : Role) (next : Option String) :
    (t.rebind r next).groups.map ConditionGroup.role = t.groups.map ConditionGroup.role :=
  (t.rewritesOne_rebind r next).map_role

/-- The table after routes have been written, one after the other. -/
def rebindAll (t : DecisionTable) (routes : List (Role × Option String)) : DecisionTable :=
  routes.foldl (fun t route => t.rebind route.1 route.2) t

/-- Writing routes keeps the roles of all groups. -/
theorem map_role_rebindAll (t : DecisionTable) (routes : List (Role × Option String)) :
    (t.rebindAll routes).groups.map ConditionGroup.role =
      t.groups.map ConditionGroup.role := by
  induction routes generalizing t with
  | nil => rfl
  | cons route rest ih => exact (ih _).trans (t.map_role_rebind route.1 route.2)

/-- A write does not change which writes are accepted. -/
theorem isSome_bind?_rebind (t : DecisionTable) (r₁ r₂ : Role) (next₁ next₂ : Option String) :
    ((t.rebind r₁ next₁).bind? r₂ next₂).isSome = (t.bind? r₂ next₂).isSome := by
  rw [Bool.eq_iff_iff, bind?_isSome_iff, bind?_isSome_iff, map_role_rebind]

/-- Writes to different cells can be made in any order. -/
theorem rebind_comm (hOther : r₁.normalize ≠ r₂.normalize) (t : DecisionTable)
    (next₁ next₂ : Option String) :
    (t.rebind r₁ next₁).rebind r₂ next₂ = (t.rebind r₂ next₂).rebind r₁ next₁ := by
  have hSwap : ∀ (fixed : Role) (old : Option String),
      (if r₂.normalize = fixed then next₂ else if r₁.normalize = fixed then next₁ else old) =
        if r₁.normalize = fixed then next₁ else if r₂.normalize = fixed then next₂ else old := by
    intro fixed old
    by_cases hFirst : r₁.normalize = fixed
    · rw [if_neg (hFirst ▸ Ne.symm hOther), if_pos hFirst, if_pos hFirst]
    · rw [if_neg hFirst, if_neg hFirst]
  simp only [rebind_eq, hSwap]
  rw [rebindGroups_comm hOther]

/-- Of two writes to one cell the second one alone decides. -/
theorem rebind_rebind_of_eq (hSame : r₁.normalize = r₂.normalize) (t : DecisionTable)
    (next₁ next₂ : Option String) : (t.rebind r₁ next₁).rebind r₂ next₂ = t.rebind r₂ next₂ := by
  have hLast : ∀ (p : Prop) [Decidable p] (old : Option String),
      (if p then next₂ else if p then next₁ else old) = if p then next₂ else old := by
    intro p _ old
    split <;> rfl
  simp only [rebind_eq, hSame, rebindGroups_rebindGroups_self, hLast]

/-! ## Bindings -/

/-- A route that is written for an output replaces the one entry of that output. -/
theorem IsFresh.bindings_rebind (h : t.IsFresh) (hOutput : r.normalize ∈ t.outputRoles)
    (next : Option String) :
    ∃ before old after, t.bindings = before ++ (r.normalize, old) :: after ∧
      r.normalize ∉ (before ++ after).map Prod.fst ∧
      (t.rebind r next).bindings = before ++ (r.normalize, next) :: after := by
  obtain ⟨t', hBind⟩ := Option.isSome_iff_exists.1 (bind?_isSome_of_mem_outputRoles next hOutput)
  obtain ⟨⟨role, old⟩, hEntry, hRole⟩ := List.mem_map.1 hOutput
  obtain rfl : role = r.normalize := hRole
  obtain ⟨before, after, hSplit⟩ := List.append_of_mem hEntry
  -- outputs have different roles, so the write passes over all other entries
  have hOnce : r.normalize ∉ (before ++ after).map Prod.fst := by
    have hNodup := h.nodup_outputRoles
    rw [outputRoles, hSplit, List.map_append, List.map_cons, List.nodup_middle] at hNodup
    rw [List.map_append]
    exact (List.nodup_cons.1 hNodup).1
  have hOthers : ∀ entries ⊆ before ++ after, (entries.map fun entry =>
      if entry.1 = r.normalize then (entry.1, next) else entry) = entries := by
    intro entries hPart
    apply Lists.map_eq_self
    intro entry hMem
    refine if_neg fun hHere => hOnce ?_
    exact hHere ▸ List.mem_map_of_mem (hPart hMem)
  refine ⟨before, old, after, hSplit, hOnce, ?_⟩
  rw [rebind, hBind, Option.getD_some, h.bindings_bind? hBind, hSplit, List.map_append,
    List.map_cons, if_pos rfl, hOthers before (List.subset_append_left _ _),
    hOthers after (List.subset_append_right _ _)]

/-- A route that is written for no output does not show. -/
theorem IsFresh.bindings_rebind_of_notMem (h : t.IsFresh) (hNone : r.normalize ∉ t.outputRoles)
    (next : Option String) : (t.rebind r next).bindings = t.bindings := by
  unfold rebind
  cases hBind : t.bind? r next with
  | none => rfl
  | some t' =>
    rw [Option.getD_some, h.bindings_bind? hBind]
    apply Lists.map_eq_self
    intro entry hEntry
    refine if_neg fun hRole => hNone ?_
    exact hRole ▸ fst_mem_outputRoles hEntry

/-! ## Cells -/

/-- The routes of a table are cells that are named by normal roles. -/
structure HasRouteCells (t : DecisionTable) : Prop where
  /-- A write replaces one route at most and nothing else. -/
  rewritesOne : ∀ r next, t.RewritesOne next (t.rebind r next)
  /-- A write to an output is accepted, and it replaces the one entry of that output. -/
  writes : ∀ r next, r.normalize ∈ t.outputRoles → (t.bind? r next).isSome = true ∧
    ∃ before old after, t.bindings = before ++ (r.normalize, old) :: after ∧
      r.normalize ∉ (before ++ after).map Prod.fst ∧
      (t.rebind r next).bindings = before ++ (r.normalize, next) :: after
  /-- Any other write leaves all entries as they are. -/
  skips : ∀ r next, r.normalize ∉ t.outputRoles → (t.rebind r next).bindings = t.bindings
  /-- No write changes which writes are accepted. -/
  answers : ∀ r₁ r₂ next₁ next₂,
    ((t.rebind r₁ next₁).bind? r₂ next₂).isSome = (t.bind? r₂ next₂).isSome
  /-- Writes to different cells can be made in any order. -/
  commutes : ∀ r₁ r₂ next₁ next₂, r₁.normalize ≠ r₂.normalize →
    (t.rebind r₁ next₁).rebind r₂ next₂ = (t.rebind r₂ next₂).rebind r₁ next₁
  /-- Of two writes to one cell the second one alone decides. -/
  overwrites : ∀ r₁ r₂ next₁ next₂, r₁.normalize = r₂.normalize →
    (t.rebind r₁ next₁).rebind r₂ next₂ = t.rebind r₂ next₂

/-- The routes of a table with fresh flags are independent cells. -/
theorem IsFresh.hasRouteCells (h : t.IsFresh) : t.HasRouteCells where
  rewritesOne := t.rewritesOne_rebind
  writes _ next hOutput :=
    ⟨bind?_isSome_of_mem_outputRoles next hOutput, h.bindings_rebind hOutput next⟩
  skips _ next hNone := h.bindings_rebind_of_notMem hNone next
  answers := t.isSome_bind?_rebind
  commutes _ _ next₁ next₂ hOther := rebind_comm hOther t next₁ next₂
  overwrites _ _ next₁ next₂ hSame := rebind_rebind_of_eq hSame t next₁ next₂

/-- A table in which two of three groups collide. -/
def collidingGroups : DecisionTable :=
  revalidate
    { groups := [{ name := "Late Fee", expression := "days > 30" },
        { name := "Big", expression := "total > 100", next := some "Desk" },
        { name := "BIG", expression := "total > 900", next := some "Boss" }]
      errorNext := some "Log" }

/-- One group has a cell, and a write to another spelling of its role shows there. A write to the
role of the other two is accepted, but it does not show. -/
theorem hasRouteCells_collidingGroups :
    let written := collidingGroups.rebind ⟨"Decision-Out-Late  FEE"⟩ (some "Desk")
    let unseen := collidingGroups.rebind ⟨"decision-out-big"⟩ none
    collidingGroups.IsFresh ∧
      written.bindings = [(⟨"decision-out-late-fee"⟩, some "Desk"), (⟨"decision-default"⟩, none),
        (⟨"decision-error"⟩, some "Log")] ∧
      unseen.groups.map ConditionGroup.next = [none, none, some "Boss"] ∧
      unseen.bindings = [(⟨"decision-out-late-fee"⟩, none), (⟨"decision-default"⟩, none),
        (⟨"decision-error"⟩, some "Log")] ∧
      collidingGroups.HasRouteCells := by
  have hFresh : collidingGroups.IsFresh := isFresh_revalidate _
  refine ⟨hFresh, ?_, ?_, ?_, hFresh.hasRouteCells⟩ <;> decide

end DecisionTable

end FlowCanvas
