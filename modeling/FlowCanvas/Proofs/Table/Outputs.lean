import FlowCanvas.Proofs.Keyed.Lists
import FlowCanvas.Proofs.Table.Roles
import Mathlib

/-!
# Outputs of decision tables

A table whose flags are fresh has outputs with pairwise distinct roles, and its ports are its
input followed by one port for each output, in the order of the bindings. Letting an output lead
somewhere else (`DecisionTable.bind?`) changes the entry of that output in the bindings and nothing
else that the canvas looks at: flags, roles and ports stay.
-/

set_option autoImplicit false

namespace FlowCanvas

namespace DecisionTable

/-! ## Fresh flags -/

/-- The flags of the groups are what the groups say. -/
def IsFresh (t : DecisionTable) : Prop := t.revalidate = t

/-- Taking fresh flags afresh changes nothing. -/
theorem IsFresh.revalidate_eq {t : DecisionTable} (h : t.IsFresh) : t.revalidate = t := h

/-- A group's validity depends on its own texts and on how many groups make its role. -/
theorem isValidAmong_congr {groups others : List ConditionGroup} {g h : ConditionGroup}
    (hRoles : groups.map ConditionGroup.role = others.map ConditionGroup.role)
    (hName : g.name = h.name) (hExpression : g.expression = h.expression) :
    isValidAmong groups g = isValidAmong others h := by
  have hRole : g.role = h.role := by
    unfold ConditionGroup.role
    rw [hName]
  have hCount : ∀ gs : List ConditionGroup, gs.countP (fun other => other.role == g.role) =
      (gs.map ConditionGroup.role).count g.role := by
    intro gs
    rw [List.count, List.countP_map]
    rfl
  have hCount' := hCount others
  unfold isValidAmong
  rw [hCount groups, hRoles, ← hCount', hName, hExpression, hRole]

/-- Taking flags afresh keeps the roles of all groups. -/
@[simp] theorem map_role_revalidateGroups (groups : List ConditionGroup) :
    (revalidateGroups groups).map ConditionGroup.role = groups.map ConditionGroup.role := by
  unfold revalidateGroups
  rw [List.map_map]
  rfl

/-- Taking the flags afresh a second time changes nothing. -/
theorem isFresh_revalidate (t : DecisionTable) : t.revalidate.IsFresh := by
  have hGroups : revalidateGroups (revalidateGroups t.groups) = revalidateGroups t.groups := by
    conv_lhs => unfold revalidateGroups
    conv_rhs => unfold revalidateGroups
    rw [List.map_map]
    apply List.map_congr_left
    intro g _
    have hSame : isValidAmong (revalidateGroups t.groups)
        { g with valid := isValidAmong t.groups g } = isValidAmong t.groups g :=
      isValidAmong_congr (map_role_revalidateGroups _) rfl rfl
    unfold revalidateGroups at hSame
    simp only [Function.comp_apply, hSame]
  unfold IsFresh revalidate
  simp only [hGroups]

/-- The flags are fresh if each is what its group says. -/
theorem isFresh_iff {t : DecisionTable} :
    t.IsFresh ↔ ∀ g ∈ t.groups, g.valid = isValidAmong t.groups g := by
  have hFlags : revalidateGroups t.groups = t.groups ↔
      ∀ g ∈ t.groups, g.valid = isValidAmong t.groups g := by
    unfold revalidateGroups
    conv_lhs => rhs; rw [← List.map_id t.groups]
    rw [List.map_inj_left]
    refine forall₂_congr fun g _ => ?_
    cases g
    simp [eq_comm]
  rw [← hFlags]
  unfold IsFresh revalidate
  cases t
  simp

/-! ## Roles of outputs -/

/-- In a table with fresh flags no other group has the role of a valid one. -/
theorem IsFresh.count_role {t : DecisionTable} (h : t.IsFresh) {g : ConditionGroup}
    (hg : g ∈ t.groups) (hValid : g.valid = true) :
    (t.groups.map ConditionGroup.role).count g.role = 1 := by
  have hFlag := isFresh_iff.1 h g hg
  rw [hValid] at hFlag
  simp only [isValidAmong, Bool.true_eq, Bool.and_eq_true, beq_iff_eq] at hFlag
  rw [List.count, List.countP_map]
  exact hFlag.2

/-- The valid groups of a table are its groups with the flag. -/
theorem mem_validGroups {t : DecisionTable} {g : ConditionGroup} :
    g ∈ t.validGroups ↔ g ∈ t.groups ∧ g.valid = true := by
  rw [validGroups, (sortByOrder_perm _).mem_iff, List.mem_filter]

/-- No two valid groups have the same role. -/
theorem IsFresh.nodup_valid {t : DecisionTable} (h : t.IsFresh) :
    ((t.groups.filter (·.valid)).map ConditionGroup.role).Nodup := by
  rw [List.nodup_iff_count_le_one]
  intro r
  by_cases hr : r ∈ (t.groups.filter (·.valid)).map ConditionGroup.role
  · obtain ⟨g, hg, rfl⟩ := List.mem_map.1 hr
    obtain ⟨hMem, hValid⟩ := List.mem_filter.1 hg
    calc ((t.groups.filter (·.valid)).map ConditionGroup.role).count g.role
        ≤ (t.groups.map ConditionGroup.role).count g.role :=
          (List.filter_sublist.map _).count_le _
      _ ≤ 1 := (h.count_role hMem hValid).le
  · rw [List.count_eq_zero.2 hr]
    exact Nat.zero_le 1

/-- No two outputs of groups have the same role. -/
theorem IsFresh.nodup_validGroups {t : DecisionTable} (h : t.IsFresh) :
    (t.validGroups.map ConditionGroup.role).Nodup := by
  rw [validGroups, ((sortByOrder_perm _).map _).nodup_iff]
  exact h.nodup_valid

/-- The roles of a table's outputs, in the order of the bindings. -/
def outputRoles (t : DecisionTable) : List Role := t.bindings.map Prod.fst

/-- The outputs of a table are those of its valid groups, the default and the error output. -/
theorem outputRoles_eq (t : DecisionTable) : t.outputRoles =
    t.validGroups.map ConditionGroup.role ++ [Role.decisionDefault, Role.decisionError] := by
  simp [outputRoles, bindings, Function.comp_def]

/-- Every binding belongs to an output. -/
theorem fst_mem_outputRoles {t : DecisionTable} {entry : Role × Option String}
    (h : entry ∈ t.bindings) : entry.1 ∈ t.outputRoles :=
  List.mem_map_of_mem h

/-- Outputs are what the rules of connections take them for. -/
theorem isDecisionOutput_of_mem_outputRoles {t : DecisionTable} {r : Role}
    (h : r ∈ t.outputRoles) : r.isDecisionOutput = true := by
  rw [outputRoles_eq, List.mem_append] at h
  rcases h with hGroup | hFixed
  · obtain ⟨g, -, rfl⟩ := List.mem_map.1 hGroup
    exact Role.isDecisionOutput_ofGroupName _
  · simp only [List.mem_cons, List.not_mem_nil, or_false] at hFixed
    rcases hFixed with rfl | rfl <;> decide

/-- The outputs of a table have roles in normal form. -/
theorem isNormal_of_mem_outputRoles {t : DecisionTable} {r : Role} (h : r ∈ t.outputRoles) :
    r.IsNormal := by
  rw [outputRoles_eq, List.mem_append] at h
  rcases h with hGroup | hFixed
  · obtain ⟨g, -, rfl⟩ := List.mem_map.1 hGroup
    exact Role.isNormal_ofGroupName _
  · simp only [List.mem_cons, List.not_mem_nil, or_false] at hFixed
    rcases hFixed with rfl | rfl
    · exact Role.isNormal_decisionDefault
    · exact Role.isNormal_decisionError

/-- The input of a table is none of its outputs. -/
theorem tableIn_notMem_outputRoles (t : DecisionTable) : Role.tableIn ∉ t.outputRoles := by
  intro h
  have hOutput := isDecisionOutput_of_mem_outputRoles h
  revert hOutput
  decide

/-- The outputs of a table with fresh flags have pairwise distinct roles. -/
theorem IsFresh.nodup_outputRoles {t : DecisionTable} (h : t.IsFresh) :
    t.outputRoles.Nodup := by
  rw [outputRoles_eq, List.nodup_append]
  refine ⟨h.nodup_validGroups, by decide, fun r hr s hs => ?_⟩
  obtain ⟨g, -, rfl⟩ := List.mem_map.1 hr
  simp only [List.mem_cons, List.not_mem_nil, or_false] at hs
  rcases hs with rfl | rfl
  · exact Role.ofGroupName_ne_decisionDefault _
  · exact Role.ofGroupName_ne_decisionError _

/-! ## Ports -/

/-- What the port of a table that plays a role is like. -/
def portSpec (r : Role) : PortSpec :=
  if r = Role.tableIn then .flowIn "table-in" "#00bfa5"
  else if r = Role.decisionDefault then .branch "decision-default" "#00bfa5"
  else if r = Role.decisionError then .branch "decision-error" "#e53935"
  else { PortSpec.decisionOut with role := r }

/-- The description of a port for a role has that role. -/
@[simp] theorem role_portSpec (r : Role) : (portSpec r).role = r := by
  unfold portSpec
  split
  · exact ‹r = _›.symm
  · split
    · exact ‹r = _›.symm
    · split
      · exact ‹r = _›.symm
      · rfl

/-- The ports of a table are its input and one port for each output. -/
theorem ports_eq (t : DecisionTable) (node : ItemId) :
    t.ports node =
      (Role.tableIn :: t.revalidate.outputRoles).map (fun r => (portSpec r).on node) := by
  have hIn : NodeKind.decisionTable.ports.filter (·.role == Role.tableIn) =
      [portSpec Role.tableIn] := by decide
  have hFixed : [Role.decisionDefault, Role.decisionError].filterMap PortSpec.ofRole? =
      [portSpec Role.decisionDefault, portSpec Role.decisionError] := by decide
  have hGroups : (t.revalidate.validGroups.map fun g =>
      ({ PortSpec.decisionOut with role := g.role } : PortSpec)) =
        t.revalidate.validGroups.map (fun g => portSpec g.role) := by
    apply List.map_congr_left
    intro g _
    unfold portSpec ConditionGroup.role
    rw [if_neg (Role.ofGroupName_ne_tableIn _), if_neg (Role.ofGroupName_ne_decisionDefault _),
      if_neg (Role.ofGroupName_ne_decisionError _)]
  unfold ports
  rw [hIn, hFixed, hGroups, outputRoles_eq]
  simp [Function.comp_def]

/-- A table with fresh flags has a port for its input and one for each output. -/
theorem IsFresh.ports_eq {t : DecisionTable} (h : t.IsFresh) (node : ItemId) :
    t.ports node = (Role.tableIn :: t.outputRoles).map (fun r => (portSpec r).on node) := by
  rw [DecisionTable.ports_eq, h]

/-- The ports of a table play the roles of its input and its outputs, as they are once the flags are
fresh. -/
theorem map_role_ports (t : DecisionTable) (node : ItemId) :
    (t.ports node).map Port.role = Role.tableIn :: t.revalidate.outputRoles := by
  rw [ports_eq, List.map_map]
  apply Lists.map_eq_self
  intro r _
  exact role_portSpec r

/-- No two ports of a table play the same role. -/
theorem nodup_ports (t : DecisionTable) (node : ItemId) :
    ((t.ports node).map Port.role).Nodup := by
  rw [map_role_ports]
  exact List.nodup_cons.2 ⟨tableIn_notMem_outputRoles _, (isFresh_revalidate t).nodup_outputRoles⟩

end DecisionTable

end FlowCanvas
