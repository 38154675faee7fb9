import FlowCanvas.Proofs.Graph.Ancestry
import Mathlib

/-!
# What is shown of connections

A graph shows the images of its connections where the outermost collapsed group above a node stands
for the node (`Graph.connections_visible`). Connections with one image are shown once, since an
image is determined by its key: only images that stand for something hidden have a group's role in
theirs. Every end of what is shown is on something that is shown (`Graph.projects_visible`).
-/

set_option autoImplicit false

namespace FlowCanvas

/-- How a connection is shown, given the groups that stand for nodes: as it is if none stands for
either end, not at all if one stands for both, and otherwise between the ports of these groups and
its own. -/
def Connection.shownAs (standIn : ItemId → Option ItemId) (c : Connection) : Option Connection :=
  match standIn c.sourceNode, standIn c.targetNode with
  | none, none => some c
  | source, target =>
    if source = target then none
    else some (.virtualBetween (source.elim c.sourcePort fun s => ⟨s, Role.groupOutput⟩)
      (target.elim c.targetPort fun t => ⟨t, Role.groupInput⟩))

namespace Connection

variable {standIn : ItemId → Option ItemId} {c d v w : Connection}

/-- An ordinary connection has no group's role in its key. -/
theorem isVirtual_id_of_isVirtual (h : c.isVirtual = false) : c.id.isVirtual = false := by
  unfold isVirtual at h
  rw [Bool.or_eq_false_iff] at h
  exact h.2

/-- The ways in which a connection can be shown. -/
theorem shownAs_cases (h : c.shownAs standIn = some v) :
    (standIn c.sourceNode = none ∧ standIn c.targetNode = none ∧ v = c) ∨
      standIn c.sourceNode ≠ standIn c.targetNode ∧
        v = .virtualBetween
          ((standIn c.sourceNode).elim c.sourcePort fun s => ⟨s, Role.groupOutput⟩)
          ((standIn c.targetNode).elim c.targetPort fun t => ⟨t, Role.groupInput⟩) := by
  unfold shownAs at h
  split at h
  · rename_i hSource hTarget
    exact .inl ⟨hSource, hTarget, (Option.some.inj h).symm⟩
  · split at h
    · cases h
    · rename_i hApart
      exact .inr ⟨hApart, (Option.some.inj h).symm⟩

/-- A connection is shown between the ports of the groups that stand for its nodes and its own. -/
theorem ports_of_shownAs (h : c.shownAs standIn = some v) :
    v.sourcePort = (standIn c.sourceNode).elim c.sourcePort (fun s => ⟨s, Role.groupOutput⟩) ∧
      v.targetPort = (standIn c.targetNode).elim c.targetPort (fun t => ⟨t, Role.groupInput⟩) := by
  rcases shownAs_cases h with ⟨hSource, hTarget, rfl⟩ | ⟨-, rfl⟩
  · rw [hSource, hTarget]
    exact ⟨rfl, rfl⟩
  · exact ⟨rfl, rfl⟩

/-- A connection with its source port on its source node is shown to leave the group that stands for
this node, or the node itself. -/
theorem sourceNode_of_shownAs (h : c.shownAs standIn = some v)
    (hPort : c.sourcePort.node = c.sourceNode) :
    v.sourceNode = (standIn c.sourceNode).getD c.sourceNode := by
  rcases shownAs_cases h with ⟨hNone, -, rfl⟩ | ⟨-, rfl⟩
  · rw [hNone]
    rfl
  · cases standIn c.sourceNode with
    | none => exact hPort
    | some s => rfl

/-- A connection with its target port on its target node is shown to enter the group that stands for
this node, or the node itself. -/
theorem targetNode_of_shownAs (h : c.shownAs standIn = some v)
    (hPort : c.targetPort.node = c.targetNode) :
    v.targetNode = (standIn c.targetNode).getD c.targetNode := by
  rcases shownAs_cases h with ⟨-, hNone, rfl⟩ | ⟨-, rfl⟩
  · rw [hNone]
    rfl
  · cases standIn c.targetNode with
    | none => exact hPort
    | some t => rfl

/-- No group stands for both ends of a connection that is shown. -/
theorem ne_of_shownAs (h : c.shownAs standIn = some v) {s : ItemId}
    (hSource : standIn c.sourceNode = some s) : standIn c.targetNode ≠ some s := by
  rcases shownAs_cases h with ⟨hNone, -⟩ | ⟨hApart, -⟩
  · rw [hNone] at hSource
    cases hSource
  · exact fun hTarget => hApart (hSource.trans hTarget.symm)

/-- A connection that stands for a hidden one has a group's role in its key. -/
theorem isVirtual_id_of_shownAs (h : c.shownAs standIn = some v)
    (hHidden : standIn c.sourceNode ≠ standIn c.targetNode) : v.id.isVirtual = true := by
  rcases shownAs_cases h with ⟨hSource, hTarget, -⟩ | ⟨-, rfl⟩
  · rw [hSource, hTarget] at hHidden
    exact absurd rfl hHidden
  · cases hSource : standIn c.sourceNode with
    | some s => rfl
    | none =>
      cases hTarget : standIn c.targetNode with
      | some t =>
        simp [virtualBetween, between, ConnectionId.isVirtual, Role.isOfGroup]
      | none =>
        rw [hSource, hTarget] at hHidden
        exact absurd rfl hHidden

/-- What is shown of ordinary connections with different keys is determined by its key. -/
theorem eq_of_shownAs (hc : c.isVirtual = false) (hd : d.isVirtual = false)
    (hSame : c.id = d.id → c = d) (hv : c.shownAs standIn = some v)
    (hw : d.shownAs standIn = some w) (hId : v.id = w.id) : v = w := by
  have hcId := isVirtual_id_of_isVirtual hc
  have hdId := isVirtual_id_of_isVirtual hd
  rcases shownAs_cases hv with ⟨-, -, rfl⟩ | ⟨hvHidden, hvEq⟩ <;>
    rcases shownAs_cases hw with ⟨-, -, rfl⟩ | ⟨hwHidden, hwEq⟩
  · exact hSame hId
  · rw [hId, isVirtual_id_of_shownAs hw hwHidden] at hcId
    cases hcId
  · rw [← hId, isVirtual_id_of_shownAs hv hvHidden] at hdId
    cases hdId
  · rw [hvEq, hwEq] at hId ⊢
    rw [(ConnectionId.mk.inj hId).1, (ConnectionId.mk.inj hId).2]

end Connection

namespace Visible

/-- A node that is shown, or a collapsed group that is shown, has an id. -/
def Shows (view : Visible) (id : ItemId) : Prop :=
  (∃ n ∈ view.nodes, n.id = id) ∨ ∃ h ∈ view.groups, h.collapsed = true ∧ h.id = id

/-- An end of a shown connection is where it belongs: at its own port if no group stands for its
node, which is shown then, or else at the port of the group that does, which is shown and
collapsed. -/
def Carries (view : Visible) (standIn : Option ItemId) (node : ItemId) (own : PortId) (role : Role)
    (shown : PortId) : Prop :=
  (standIn = none ∧ shown = own ∧ ∃ n ∈ view.nodes, n.id = node) ∨
    ∃ h ∈ view.groups, h.collapsed = true ∧ standIn = some h.id ∧ shown = ⟨h.id, role⟩

end Visible

namespace Graph

variable {g : Graph}

/-! ## Showing a key once -/

/-- What is left of connections that are shown once each is among them, with keys that are new. -/
theorem mem_of_mem_distinct {passed : List ConnectionId} {connections : List Connection}
    {c : Connection} (h : c ∈ distinct passed connections) :
    c ∈ connections ∧ c.id ∉ passed := by
  induction connections generalizing passed with
  | nil => simp [distinct] at h
  | cons d rest ih =>
    unfold distinct at h
    split at h
    · obtain ⟨hMem, hNew⟩ := ih h
      exact ⟨List.mem_cons_of_mem _ hMem, hNew⟩
    · rename_i hNew
      rcases List.mem_cons.1 h with rfl | hRest
      · exact ⟨List.mem_cons_self, by simpa using hNew⟩
      · obtain ⟨hMem, hOther⟩ := ih hRest
        exact ⟨List.mem_cons_of_mem _ hMem, fun hIn => hOther (List.mem_cons_of_mem _ hIn)⟩

/-- No key is shown twice. -/
theorem nodup_ids_distinct (passed : List ConnectionId) (connections : List Connection) :
    ((distinct passed connections).map Connection.id).Nodup := by
  induction connections generalizing passed with
  | nil => exact List.nodup_nil
  | cons c rest ih =>
    unfold distinct
    split
    · exact ih passed
    · rw [List.map_cons, List.nodup_cons]
      refine ⟨?_, ih (c.id :: passed)⟩
      intro hIn
      obtain ⟨d, hd, hId⟩ := List.mem_map.1 hIn
      exact (mem_of_mem_distinct hd).2 (hId ▸ List.mem_cons_self)

/-- Where connections are determined by their keys, showing each key once is showing each connection
once. -/
theorem distinct_eq_eraseDups {connections : List Connection} (passed : List ConnectionId)
    (hKeys : ∀ c ∈ connections, ∀ d ∈ connections, c.id = d.id → c = d) :
    distinct passed connections =
      (connections.filter fun c => !passed.contains c.id).eraseDups := by
  induction connections generalizing passed with
  | nil => rfl
  | cons c rest ih =>
    have hRest : ∀ d ∈ rest, ∀ e ∈ rest, d.id = e.id → d = e := fun d hd e he =>
      hKeys d (List.mem_cons_of_mem _ hd) e (List.mem_cons_of_mem _ he)
    unfold distinct
    cases hPassed : passed.contains c.id with
    | true =>
      rw [if_pos rfl, ih passed hRest, List.filter_cons_of_neg (by simpa using hPassed)]
    | false =>
      have hLater : rest.filter (fun d => !(c.id :: passed).contains d.id) =
          (rest.filter fun d => !passed.contains d.id).filter fun d => !d == c := by
        rw [List.filter_filter]
        refine List.filter_congr fun d hd => ?_
        have hSame : d.id = c.id ↔ d = c :=
          ⟨hKeys d (List.mem_cons_of_mem _ hd) c List.mem_cons_self, congrArg Connection.id⟩
        rw [List.contains_cons, Bool.not_or]
        congr 1
        rw [Bool.eq_iff_iff, Bool.not_eq_true', Bool.not_eq_true', beq_eq_false_iff_ne,
          beq_eq_false_iff_ne, ne_eq, ne_eq, hSame]
      rw [if_neg Bool.false_ne_true, ih (c.id :: passed) hRest,
        List.filter_cons_of_pos (by simpa using hPassed), List.eraseDups_cons, hLater]

/-! ## Shown connections -/

/-- A graph shows a connection as the groups that stand for its nodes say. -/
theorem shown?_eq (g : Graph) (c : Connection) : g.shown? c = c.shownAs g.standIn? := by
  unfold shown? Connection.shownAs
  cases hSource : g.standIn? c.sourceNode with
  | none =>
    cases hTarget : g.standIn? c.targetNode with
    | none => rfl
    | some t => rfl
  | some s =>
    cases hTarget : g.standIn? c.targetNode with
    | none => rfl
    | some t =>
      by_cases hSame : s = t
      · simp [hSame]
      · simp [hSame]

/-- What is shown are the images of the stored connections, each once. -/
theorem connections_visible
    (hOrdinary : ∀ c ∈ g.connections.toList, c.isVirtual = false) :
    g.visible.connections =
      (g.connections.toList.filterMap (Connection.shownAs g.standIn?)).eraseDups := by
  have hShown : g.shown? = Connection.shownAs g.standIn? := funext g.shown?_eq
  show distinct [] (g.connections.toList.filterMap g.shown?) = _
  rw [hShown, distinct_eq_eraseDups []]
  · simp
  · intro v hv w hw hId
    obtain ⟨c, hc, hcShown⟩ := List.mem_filterMap.1 hv
    obtain ⟨d, hd, hdShown⟩ := List.mem_filterMap.1 hw
    exact Connection.eq_of_shownAs (hOrdinary c hc) (hOrdinary d hd)
      (Roster.eq_of_key_eq hc hd) hcShown hdShown hId

/-- A view shows the projection of the stored connections onto what is visible, where a function
says which group stands for a node. -/
structure Projects (g : Graph) (view : Visible) (standIn : ItemId → Option ItemId) : Prop where
  /-- The outermost collapsed group above a node stands for it. -/
  standIn_iff : ∀ n ∈ g.nodes.toList, ∀ id,
    standIn n.id = some id ↔ ∃ h, g.Covers n.parent h ∧ h.id = id
  connections_eq : view.connections =
    (g.connections.toList.filterMap (Connection.shownAs standIn)).eraseDups
  nodup_ids : (view.connections.map Connection.id).Nodup
  /-- Every end is on a node that is shown or on a collapsed group that is shown, and the two ends
  of a connection are not on one group. -/
  ends : ∀ v ∈ view.connections, ∃ c ∈ g.connections.toList, c.shownAs standIn = some v ∧
    view.Carries (standIn c.sourceNode) c.sourceNode c.sourcePort Role.groupOutput v.sourcePort ∧
    view.Carries (standIn c.targetNode) c.targetNode c.targetPort Role.groupInput v.targetPort ∧
    ∀ s, standIn c.sourceNode = some s → standIn c.targetNode ≠ some s
  /-- Where a connection has a port on its node, it is shown on a node that is shown or on a
  collapsed group that is shown; where it has both, it is not shown between a group and itself,
  unless the id of this group is that of one of its nodes, too. -/
  nodes : ∀ c ∈ g.connections.toList, ∀ v, c.shownAs standIn = some v →
    (c.sourcePort.node = c.sourceNode → view.Shows v.sourceNode) ∧
      (c.targetPort.node = c.targetNode → view.Shows v.targetNode) ∧
      (c.sourcePort.node = c.sourceNode → c.targetPort.node = c.targetNode →
        ∀ h ∈ g.groups.toList, h.id ≠ c.sourceNode → h.id ≠ c.targetNode →
          v.sourceNode = h.id → v.targetNode ≠ h.id)

section

variable (hg : g.IsAcyclic)

include hg

/-- The outermost collapsed group above a stored node stands for it. -/
theorem standIn?_eq_some_iff {n : Node} (hn : n ∈ g.nodes.toList) {id : ItemId} :
    g.standIn? n.id = some id ↔ ∃ h, g.Covers n.parent h ∧ h.id = id := by
  have hNode : g.node? n.id = some n := node?_eq_some.2 ⟨hn, rfl⟩
  unfold standIn?
  rw [hNode]
  exact coverOf?_eq_some_iff hg

/-- The outermost collapsed group above an item is shown. -/
theorem Covers.mem_groups_visible {link : Option ItemId} {h : Group} (hCovers : g.Covers link h) :
    h ∈ g.visible.groups := by
  refine List.mem_filter.2 ⟨hCovers.above.mem, ?_⟩
  rw [hCovers.coverOf?_eq_none hg]
  rfl

/-- Either a node is shown, or the group that stands for it is. -/
theorem visible_cases {id : ItemId} (hStored : ∃ n ∈ g.nodes.toList, n.id = id) :
    (g.standIn? id = none ∧ ∃ n ∈ g.visible.nodes, n.id = id) ∨
      ∃ h ∈ g.visible.groups, h.collapsed = true ∧ g.standIn? id = some h.id := by
  obtain ⟨n, hn, rfl⟩ := hStored
  cases hStandIn : g.standIn? n.id with
  | none =>
    refine .inl ⟨rfl, n, List.mem_filter.2 ⟨hn, ?_⟩, rfl⟩
    unfold standIn? at hStandIn
    rw [node?_eq_some.2 ⟨hn, rfl⟩] at hStandIn
    exact Option.isNone_iff_eq_none.2 hStandIn
  | some s =>
    obtain ⟨h, hCovers, rfl⟩ := (standIn?_eq_some_iff hg hn).1 hStandIn
    exact .inr ⟨h, hCovers.mem_groups_visible hg, hCovers.collapsed, rfl⟩

/-- Every end on a stored node is carried by what is shown. -/
theorem carries_visible {id : ItemId} (hStored : ∃ n ∈ g.nodes.toList, n.id = id) (own : PortId)
    (role : Role) :
    g.visible.Carries (g.standIn? id) id own role
      ((g.standIn? id).elim own fun s => ⟨s, role⟩) := by
  rcases visible_cases hg hStored with ⟨hNone, hNode⟩ | ⟨h, hGroup, hCollapsed, hStandIn⟩
  · rw [hNone]
    exact .inl ⟨rfl, rfl, hNode⟩
  · rw [hStandIn]
    exact .inr ⟨h, hGroup, hCollapsed, rfl, rfl⟩

/-- What stands for a stored node, or the node itself, is shown. -/
theorem shows_visible {id : ItemId} (hStored : ∃ n ∈ g.nodes.toList, n.id = id) :
    g.visible.Shows ((g.standIn? id).getD id) := by
  rcases visible_cases hg hStored with ⟨hNone, hNode⟩ | ⟨h, hGroup, hCollapsed, hStandIn⟩
  · rw [hNone]
    exact .inl hNode
  · rw [hStandIn]
    exact .inr ⟨h, hGroup, hCollapsed, rfl⟩

/-- A graph shows the projection of its connections onto what is visible. -/
theorem projects_visible (hOrdinary : ∀ c ∈ g.connections.toList, c.isVirtual = false)
    (hStored : ∀ c ∈ g.connections.toList,
      (∃ n ∈ g.nodes.toList, n.id = c.sourceNode) ∧ ∃ n ∈ g.nodes.toList, n.id = c.targetNode) :
    g.Projects g.visible g.standIn? := by
  have hConnections := connections_visible hOrdinary
  have hImage : ∀ v ∈ g.visible.connections,
      ∃ c ∈ g.connections.toList, c.shownAs g.standIn? = some v := by
    intro v hv
    rw [hConnections, List.mem_eraseDups] at hv
    exact List.mem_filterMap.1 hv
  refine ⟨fun n hn id => standIn?_eq_some_iff hg hn, hConnections, nodup_ids_distinct [] _, ?_, ?_⟩
  · intro v hv
    obtain ⟨c, hc, hShown⟩ := hImage v hv
    obtain ⟨hSource, hTarget⟩ := Connection.ports_of_shownAs hShown
    refine ⟨c, hc, hShown, ?_, ?_, fun _ => Connection.ne_of_shownAs hShown⟩
    · rw [hSource]
      exact carries_visible hg (hStored c hc).1 _ _
    · rw [hTarget]
      exact carries_visible hg (hStored c hc).2 _ _
  · intro c hc v hShown
    refine ⟨fun hSource => ?_, fun hTarget => ?_, ?_⟩
    · rw [Connection.sourceNode_of_shownAs hShown hSource]
      exact shows_visible hg (hStored c hc).1
    · rw [Connection.targetNode_of_shownAs hShown hTarget]
      exact shows_visible hg (hStored c hc).2
    · intro hSource hTarget h _ hNotSource hNotTarget hLeaves hEnters
      rw [Connection.sourceNode_of_shownAs hShown hSource] at hLeaves
      rw [Connection.targetNode_of_shownAs hShown hTarget] at hEnters
      -- neither node has the id of the group, so the group stands for both
      have hLeft : g.standIn? c.sourceNode = some h.id :=
        (Option.getD_eq_iff.1 hLeaves).resolve_right fun hSame => hNotSource hSame.2.symm
      have hEntered : g.standIn? c.targetNode = some h.id :=
        (Option.getD_eq_iff.1 hEnters).resolve_right fun hSame => hNotTarget hSame.2.symm
      exact Connection.ne_of_shownAs hShown hLeft hEntered

end

end Graph

end FlowCanvas
