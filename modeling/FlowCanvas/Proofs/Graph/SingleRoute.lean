import FlowCanvas.Proofs.Graph.Routes
import Mathlib

/-!
# Edits of a single route

An edit of a decision table that changes one route has the connections of the whole table sifted. A
connection that leaves another output survives exactly if it follows its route, that is, if the name
in the table still is that of the node at its end (`Graph.IsSound.mem_updateNode?_iff`). A route
does not follow when its target is renamed, so such a connection may go.
-/

set_option autoImplicit false

namespace FlowCanvas

namespace DecisionTable

/-- A table that differs from another one at most in where the output with one role leads. -/
inductive DiffersAt (t : DecisionTable) : Role → DecisionTable → Prop
  | group (before after : List ConditionGroup) (g : ConditionGroup) (next : Option String)
      (hGroups : t.groups = before ++ g :: after) (hValid : g.valid = true) :
      t.DiffersAt g.role { t with groups := before ++ { g with next } :: after }
  | default (next : Option String) :
      t.DiffersAt Role.decisionDefault { t with defaultNext := next }
  | error (next : Option String) : t.DiffersAt Role.decisionError { t with errorNext := next }

/-- The first group with a role is bound, behind groups with other roles. -/
theorem bindGroup?_append {before after : List ConditionGroup} {g : ConditionGroup}
    {next : Option String} (h : ∀ b ∈ before, b.role ≠ g.role) :
    bindGroup? g.role next (before ++ g :: after) = some (before ++ { g with next } :: after) := by
  induction before with
  | nil => simp [bindGroup?]
  | cons b before ih =>
    rw [List.cons_append, bindGroup?, if_neg (h b List.mem_cons_self),
      ih fun d hd => h d (List.mem_cons_of_mem _ hd)]
    rfl

/-- On a table with fresh flags such a difference is one route written differently. -/
theorem DiffersAt.bind? {t u : DecisionTable} {role : Role} (h : t.DiffersAt role u)
    (hFresh : t.IsFresh) : role.IsNormal ∧ ∃ next, t.bind? role next = some u := by
  cases h with
  | group before after g next hGroups hValid =>
    have hNormal : g.role.IsNormal := Role.isNormal_ofGroupName g.name
    refine ⟨hNormal, next, ?_⟩
    have hCount := hFresh.count_role (by simp [hGroups]) hValid
    have hBefore : ∀ b ∈ before, b.role ≠ g.role := by
      intro b hb hSame
      have hPos : 0 < (before.map ConditionGroup.role).count g.role :=
        List.count_pos_iff.2 (List.mem_map.2 ⟨b, hb, hSame⟩)
      rw [hGroups, List.map_append, List.count_append, List.map_cons,
        List.count_cons_self] at hCount
      omega
    unfold DecisionTable.bind?
    simp only
    rw [hNormal, if_neg (show g.role ≠ _ from Role.ofGroupName_ne_decisionDefault g.name),
      if_neg (show g.role ≠ _ from Role.ofGroupName_ne_decisionError g.name), hGroups,
      bindGroup?_append hBefore]
    rfl
  | default next =>
    refine ⟨Role.isNormal_decisionDefault, next, ?_⟩
    unfold DecisionTable.bind?
    simp only
    rw [if_pos (show Role.normalize _ = _ from Role.isNormal_decisionDefault)]
  | error next =>
    refine ⟨Role.isNormal_decisionError, next, ?_⟩
    unfold DecisionTable.bind?
    simp only
    rw [Role.isNormal_decisionError, if_neg decisionError_ne_decisionDefault, if_pos rfl]

/-- The entries of the other outputs are the same. -/
theorem DiffersAt.mem_bindings_iff_of_ne {t u : DecisionTable} {role other : Role}
    (h : t.DiffersAt role u) (hFresh : t.IsFresh) (hOther : other ≠ role) (next : Option String) :
    (other, next) ∈ u.bindings ↔ (other, next) ∈ t.bindings := by
  obtain ⟨hNormal, target, hBind⟩ := h.bind? hFresh
  rw [hFresh.bindings_bind? hBind, hNormal, List.mem_map]
  constructor
  · rintro ⟨entry, hEntry, hSame⟩
    split at hSame
    · rename_i hRole
      exact absurd (congrArg Prod.fst hSame).symm (hRole ▸ hOther)
    · exact hSame ▸ hEntry
  · intro hEntry
    exact ⟨_, hEntry, if_neg hOther⟩

end DecisionTable

namespace Graph

variable {g g' : Graph}

/-- An update that keeps the name of a node keeps the names at the ends of all connections. -/
theorem targetName?_putNode {n stored : Node} (hStored : g.node? n.id = some stored)
    (hName : n.name = stored.name) (c : Connection) :
    (g.putNode n).targetName? c = g.targetName? c := by
  unfold targetName?
  rw [node?_putNode]
  split
  · rename_i hSame
    rw [← hSame, hStored, Option.map_some, Option.map_some, n.prepare_name, hName]
  · rfl

/-- A connection is not stale if it leaves the table by no output, or follows its route. -/
theorem IsSound.notMem_stale (hg : g.IsSound) {id : ItemId} {n : Node} {t : DecisionTable}
    {c : Connection} (hNode : g.node? id = some n) (hData : n.data = .decisionTable t)
    (hc : c ∈ g.connections.toList) {h : Graph} (hConnections : h.connections = g.connections)
    {u : DecisionTable}
    (hEntry : leaves id c = true → ∃ name, h.targetName? c = some name ∧
      (c.sourcePort.role, some name) ∈ u.bindings) :
    c.id ∉ h.stale id u := by
  have hNormal : ∀ d ∈ g.connections.toList, leaves id d = true →
      d.sourceNode = id ∧ d.sourcePort.role.isDecisionOutput = true ∧
        d.sourcePort.role.normalize = d.sourcePort.role := by
    intro d hd hLeaves
    rw [leaves, Bool.and_eq_true, beq_iff_eq] at hLeaves
    exact ⟨hLeaves.1, hLeaves.2, (hg.wires d hd).isNormal_sourceRole hg.isPrepared
      (hLeaves.1.symm ▸ hNode) hData hLeaves.2⟩
  refine Graph.notMem_stale (hConnections ▸ hc) ?_ ?_
  · intro hLeaves d hdStored hdLeaves hSame
    rw [hConnections] at hdStored
    obtain ⟨hSource, hRole, hRoleNormal⟩ := hNormal c hc hLeaves
    obtain ⟨hdSource, -, hdNormal⟩ := hNormal d hdStored hdLeaves
    rw [hdNormal, hRoleNormal] at hSame
    exact (hg.eq_of_sourceRole_eq hc hdStored (hSource.symm ▸ hNode) hData hRole
      (hdSource.trans hSource.symm) hSame).symm
  · intro hLeaves
    obtain ⟨name, hName, hMem⟩ := hEntry hLeaves
    rw [hName, (hNormal c hc hLeaves).2.2]
    exact isRouted_iff.2 ⟨rfl, hMem⟩

/-- Drawing routes leaves the nodes alone. -/
theorem nodes_drawRoutes (g : Graph) (table : ItemId) (settled : List Role)
    (bindings : List (Role × Option String)) :
    (g.drawRoutes table settled bindings).1.nodes = g.nodes := by
  refine drawRoutes_keeps (P := fun h => h.nodes = g.nodes) ?_ settled rfl
  intro h h' role name port _ _ hInsert hSame
  obtain ⟨-, rfl⟩ := eq_put_of_insertConnection hInsert
  exact hSame

/-- A connection that leaves a table by some output once the routes have been drawn anew has an
entry in the table. -/
theorem IsSound.entry_of_mem_drawRoutes {id : ItemId} {n : Node} {u : DecisionTable}
    {settled : List Role} {c : Connection}
    (hRest : (g.dropConnections (g.stale id u)).IsSound) (hNode : g.node? id = some n)
    (hData : n.data = .decisionTable u)
    (hc : c ∈ ((g.dropConnections (g.stale id u)).drawRoutes
      id settled u.bindings).1.connections.toList)
    (hLeaves : leaves id c = true) : (c.sourcePort.role, g.targetName? c) ∈ u.bindings := by
  rw [leaves, Bool.and_eq_true, beq_iff_eq] at hLeaves
  have hFollows := hRest.follows_drawRoutes hNode hData settled (p := fun d => d.sourceNode = id)
    (fun d hd hNodes => hRest.follows_of_dropConnections hNode hData hd hNodes) c hc hLeaves.1
  have hNodes := nodes_drawRoutes (g.dropConnections (g.stale id u)) id settled u.bindings
  have hSource := congrArg (Roster.get? · c.sourceNode) hNodes
  obtain ⟨target, hTarget, hEntry⟩ := hFollows n u
    (hSource.trans (hLeaves.1.symm ▸ hNode)) hData hLeaves.2
  have hTargets := congrArg (fun nodes => (Roster.get? nodes c.targetNode).map Node.name) hNodes
  have hName : g.targetName? c = some target.name :=
    hTargets.symm.trans (congrArg (·.map Node.name) hTarget)
  exact hName ▸ hEntry

/-- After one route of a decision table has been edited, a connection that does not leave the output
of that route is there exactly if it does not leave the table by another output either, or the
routes are the same as before, or it follows its route. -/
theorem IsSound.mem_updateNode?_iff (hg : g.IsSound) {n stored : Node} {t u : DecisionTable}
    {role : Role} {refusals : List Refusal} (hStored : g.node? stored.id = some stored)
    (hData : stored.data = .decisionTable t) (hDiffers : t.DiffersAt role u)
    (hEdit : n = { stored with data := .decisionTable u })
    (h : g.updateNode? n false = some (g', refusals))
    {c : Connection} (hc : c ∈ g.connections.toList)
    (hOther : c.sourceNode = stored.id → c.sourcePort.role ≠ role) :
    c ∈ g'.connections.toList ↔
      (leaves stored.id c = true →
        u.bindings = t.bindings ∨ (c.sourcePort.role, g.targetName? c) ∈ t.bindings) := by
  have hPrepared := hg.isPrepared stored (node?_eq_some.1 hStored).1
  have hFresh := hPrepared.isStorable.isFresh hData
  obtain ⟨-, next, hBind⟩ := hDiffers.bind? hFresh
  have hDrift : stored.Drifts n := hEdit ▸ .redirected .refl hData hBind
  have hId : stored.id = n.id := hDrift.id_eq.symm
  have hNew : n.data = .decisionTable u := hEdit ▸ rfl
  have hSame : n.prepare = n := (hDrift.isPrepared hPrepared).prepare_eq
  rw [hId] at hStored hOther ⊢
  have hName := targetName?_putNode hStored hDrift.name_eq c
  have hEntryIff : leaves n.id c = true → ∀ name,
      ((c.sourcePort.role, name) ∈ u.bindings ↔ (c.sourcePort.role, name) ∈ t.bindings) := by
    intro hLeaves name
    rw [leaves, Bool.and_eq_true, beq_iff_eq] at hLeaves
    exact hDiffers.mem_bindings_iff_of_ne hFresh (hOther hLeaves.1) name
  have hChangedIff : routingChanged stored n = (t.bindings != u.bindings) := by
    unfold routingChanged
    rw [Node.table?_eq_some.2 hData, Node.table?_eq_some.2 hNew, hDrift.ports_eq]
    simp
  have hCases := updateNode?_cases hStored h
  rw [hSame, hChangedIff] at hCases
  rcases hCases with ⟨hUnchanged, rfl⟩ | ⟨-, u', -, hNew', hChanged, rfl⟩
  · rw [bne_eq_false_iff_eq] at hUnchanged
    exact ⟨fun _ _ => .inl hUnchanged.symm, fun _ => hc⟩
  · rw [bne_iff_ne] at hChanged
    rw [hNew, Payload.decisionTable.injEq] at hNew'
    subst hNew'
    have hNode : (g.putNode n).node? n.id = some n := by rw [node?_putNode, if_pos rfl, hSame]
    have hRest := hg.dropStale hStored hData (hSame.symm ▸ hNew)
    constructor
    · intro hAfter hLeaves
      have hEntry := hRest.entry_of_mem_drawRoutes hNode hNew hAfter hLeaves
      rw [hName] at hEntry
      exact .inr ((hEntryIff hLeaves _).1 hEntry)
    · intro hKeeps
      refine mem_drawRoutes_of_mem _ (mem_dropConnections.2 ⟨hc, ?_⟩)
      refine hg.notMem_stale (h := g.putNode n) hStored hData hc rfl fun hLeaves => ?_
      obtain ⟨-, target, -, hTarget⟩ := (hg.wires c hc).node?_eq_some
      have hTargetName : g.targetName? c = some target.name := congrArg (·.map (·.name)) hTarget
      have hEntry := (hKeeps hLeaves).resolve_left fun hSameRoutes => hChanged hSameRoutes.symm
      rw [hTargetName] at hEntry
      exact ⟨target.name, hName.trans hTargetName, (hEntryIff hLeaves _).2 hEntry⟩

end Graph

end FlowCanvas
