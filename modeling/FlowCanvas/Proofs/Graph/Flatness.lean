import FlowCanvas.Proofs.Graph.Records
import FlowCanvas.Proofs.Wire.Ids
import Mathlib

/-!
# Flat graphs

What an editor stores can be written as flat texts: the keys of connections follow from their ports,
and no role starts with a separator (`Graph.IsFlat`). The roles of inputs come from the rules and
have no separators at all. In the roles of decision outputs there is the name of a group, which may
have any.
-/

set_option autoImplicit false

namespace FlowCanvas

/-! ## Ports of the rules -/

/-- A role without underscores and colons that starts with something else than a separator. -/
structure Role.IsPlain (r : Role) : Prop where
  hasStart : r.HasStart
  underscore : '_' ∉ r.text.toList
  colon : r.IsColonFree

/-- A port as the rules have it for some kind of nodes. -/
def PortSpec.IsListed (s : PortSpec) : Prop := s ∈ NodeKind.all.flatMap NodeKind.ports

/-- A node that is a decision table or has ports as the rules have them. -/
def Node.HasListedPorts (n : Node) : Prop := n.table? = none → ∀ p ∈ n.ports, p.spec.IsListed

/-- The list of all kinds has every kind in it. -/
theorem NodeKind.mem_all (k : NodeKind) : k ∈ all := by
  cases k <;> decide

/-- The ports of a kind of nodes are as the rules have them. -/
theorem PortSpec.isListed_of_mem_ports {k : NodeKind} {s : PortSpec} (h : s ∈ k.ports) :
    s.IsListed :=
  List.mem_flatMap.2 ⟨k, k.mem_all, h⟩

namespace PortSpec.IsListed

variable {s : PortSpec}

/-- The ports that the rules have are plain. -/
theorem isPlain (h : s.IsListed) : s.role.IsPlain := by
  have hAll : ∀ s ∈ NodeKind.all.flatMap NodeKind.ports,
      s.role.HasStart ∧ '_' ∉ s.role.text.toList ∧ ':' ∉ s.role.text.toList := by decide
  obtain ⟨hStart, hUnderscore, hColon⟩ := hAll s h
  exact ⟨hStart, hUnderscore, hColon⟩

/-- The ports that the rules have receive or send. -/
theorem direction (h : s.IsListed) :
    s.direction.receives = true ∨ s.direction.sends = true := by
  have hAll : ∀ s ∈ NodeKind.all.flatMap NodeKind.ports,
      s.direction.receives = true ∨ s.direction.sends = true := by decide
  exact hAll s h

end PortSpec.IsListed

/-- The role of a group does not start with a separator. -/
theorem Role.hasStart_ofGroupName (name : String) : (ofGroupName name).HasStart := by
  refine hasStart_iff.2 ⟨'d', frontRest ++ (normalize ⟨name⟩).text.toList, ?_, by decide,
    by decide⟩
  rw [ofGroupName_eq, String.toList_append, toList_decisionOutFront]
  rfl

namespace DecisionTable

/-- The role of an output does not start with a separator. -/
theorem hasStart_of_mem_outputRoles {t : DecisionTable} {r : Role} (h : r ∈ t.outputRoles) :
    r.HasStart := by
  rw [outputRoles_eq, List.mem_append] at h
  rcases h with hGroup | hFixed
  · obtain ⟨g, -, rfl⟩ := List.mem_map.1 hGroup
    exact Role.hasStart_ofGroupName g.name
  · simp only [List.mem_cons, List.not_mem_nil, or_false] at hFixed
    rcases hFixed with rfl | rfl <;> decide

/-- The input of a decision table is as the rules have it. -/
theorem isListed_portSpec_tableIn : (portSpec Role.tableIn).IsListed := by
  unfold PortSpec.IsListed
  decide

end DecisionTable

namespace Node

variable {n m : Node}

/-- A node that is not edited keeps its ports as the rules have them. -/
theorem HasListedPorts.drifts (hn : n.HasListedPorts) (h : n.Drifts m) : m.HasListedPorts := by
  have hTable : m.table? = none → n.table? = none := by
    refine h.keeps (P := fun k => k.table? = none → n.table? = none) (fun hk => hk)
      (fun _ _ hk => hk) ?_
    intro k t t' role next hData hBind hk hNone
    cases hNone
  intro hNone
  rw [h.ports_eq]
  exact hn (hTable hNone)

/-- Preparing a node for storing keeps its ports as the rules have them. -/
theorem HasListedPorts.prepare (hn : n.HasListedPorts) : n.prepare.HasListedPorts := by
  intro hNone
  cases hTable : n.table? with
  | none =>
    rw [prepare_of_table?_eq_none hTable]
    intro p hp
    obtain ⟨q, hq, rfl⟩ := List.mem_map.1 hp
    exact hn hTable q hq
  | some t =>
    rw [prepare_table (table?_eq_some.1 hTable)] at hNone
    cases hNone

/-- A new node has its ports as the rules have them. -/
theorem hasListedPorts_initial (id : ItemId) (kind : NodeKind) :
    ∀ p ∈ (Payload.initial kind).ports id, p.spec.IsListed := by
  rw [ports_initial]
  intro p hp
  obtain ⟨s, hs, rfl⟩ := List.mem_map.1 hp
  exact PortSpec.isListed_of_mem_ports hs

/-- A port of a stored node is one of the rules or an output of a decision table. -/
theorem IsPrepared.spec_cases (h : n.IsPrepared) (hListed : n.HasListedPorts) {p : Port}
    (hp : p ∈ n.ports) :
    p.spec.IsListed ∨ ∃ (t : DecisionTable) (r : Role), r ∈ t.outputRoles ∧
      p.spec = DecisionTable.portSpec r := by
  cases hTable : n.table? with
  | none => exact .inl (hListed hTable p hp)
  | some t =>
    obtain ⟨r, hr, rfl⟩ := (h.isStorable.mem_ports_table (table?_eq_some.1 hTable)).1 hp
    rcases List.mem_cons.1 hr with rfl | hr
    · exact .inl DecisionTable.isListed_portSpec_tableIn
    · exact .inr ⟨t, r, hr, rfl⟩

end Node

namespace Graph

/-- A connection can be written as flat texts: it joins stored nodes, it has the key that belongs to
its ports, and only the role of its source may have separators in it. -/
structure Flattens (g : Graph) (c : Connection) : Prop where
  between_eq : Connection.between c.sourcePort c.targetPort = c
  isVirtual_eq : c.isVirtual = false
  source : ∃ n ∈ g.nodes.toList, n.id = c.sourceNode
  target : ∃ n ∈ g.nodes.toList, n.id = c.targetNode
  hasStart : c.sourcePort.role.HasStart
  isPlain : c.targetPort.role.IsPlain

/-- Nodes and connections are as an editor stores them. -/
structure IsFlat (g : Graph) : Prop where
  isPrepared : g.IsPrepared
  ports : ∀ n ∈ g.nodes.toList, n.HasListedPorts
  connections : ∀ c ∈ g.connections.toList, g.Flattens c

variable {g g' : Graph}

/-- A connection can still be written as flat texts while its nodes stay. -/
theorem Flattens.mono {c : Connection} (h : g.Flattens c)
    (hNodes : ∀ n ∈ g.nodes.toList, c.touches n.id = true →
      ∃ n' ∈ g'.nodes.toList, n'.id = n.id) : g'.Flattens c := by
  obtain ⟨source, hSource, hSourceId⟩ := h.source
  obtain ⟨target, hTarget, hTargetId⟩ := h.target
  obtain ⟨source', hSource', hSourceId'⟩ :=
    hNodes source hSource (by simp [Connection.touches, hSourceId])
  obtain ⟨target', hTarget', hTargetId'⟩ :=
    hNodes target hTarget (by simp [Connection.touches, hTargetId])
  exact ⟨h.between_eq, h.isVirtual_eq, ⟨source', hSource', hSourceId'.trans hSourceId⟩,
    ⟨target', hTarget', hTargetId'.trans hTargetId⟩, h.hasStart, h.isPlain⟩

namespace IsFlat

/-- A port of a flat graph is as the rules have it, or an output of a decision table. -/
theorem spec_cases (hg : g.IsFlat) {node : ItemId} {p : Port} (hp : g.HasPort node p) :
    p.spec.IsListed ∨ ∃ (t : DecisionTable) (r : Role), r ∈ t.outputRoles ∧
      p.spec = DecisionTable.portSpec r := by
  obtain ⟨n, hn, -, hp⟩ := hp
  exact (hg.isPrepared n hn).spec_cases (hg.ports n hn) hp

/-- Every port of a flat graph has a role that starts with something else than a separator. -/
theorem hasStart_role (hg : g.IsFlat) {node : ItemId} {p : Port} (hp : g.HasPort node p) :
    p.role.HasStart := by
  unfold Port.role
  rcases hg.spec_cases hp with hListed | ⟨t, r, hr, hSpec⟩
  · exact hListed.isPlain.hasStart
  · rw [hSpec, DecisionTable.role_portSpec]
    exact DecisionTable.hasStart_of_mem_outputRoles hr

/-- Only inputs of the rules can receive. -/
theorem isPlain_role (hg : g.IsFlat) {node : ItemId} {p : Port} (hp : g.HasPort node p)
    (hReceives : p.spec.direction.receives = true) : p.role.IsPlain := by
  unfold Port.role
  rcases hg.spec_cases hp with hListed | ⟨t, r, hr, hSpec⟩
  · exact hListed.isPlain
  · rw [hSpec, direction_portSpec hr] at hReceives
    cases hReceives

/-- A graph stays flat when it shrinks. -/
theorem shrinks (hg : g.IsFlat) (h : g.Shrinks Node.Drifts g') : g'.IsFlat where
  isPrepared := h.isPrepared hg.isPrepared
  ports := by
    intro n' hn'
    obtain ⟨n, hn, -, hDrift⟩ := h.nodes n' hn'
    exact (hg.ports n hn).drifts hDrift
  connections := by
    intro c hc
    refine (hg.connections c (h.connections c hc)).mono fun n hn hTouches => ?_
    obtain ⟨n', hn', hId, -⟩ := h.ends c hc n hn hTouches
    exact ⟨n', hn', hId⟩

/-- Putting a node in takes no node away. -/
theorem putNode (hg : g.IsFlat) {n : Node}
    (hRoles : n.table? = none → (n.ports.map Port.role).Nodup) (hListed : n.HasListedPorts) :
    (g.putNode n).IsFlat where
  isPrepared := isPrepared_putNode hg.isPrepared hRoles
  ports := by
    intro m hm
    rcases Roster.mem_put.1 hm with rfl | ⟨hOld, -⟩
    · exact hListed.prepare
    · exact hg.ports m hOld
  connections := by
    intro c hc
    refine (hg.connections c hc).mono fun m hm _ => ?_
    by_cases hSame : m.id = n.prepare.id
    · exact ⟨n.prepare, Roster.mem_put.2 (.inl rfl), hSame.symm⟩
    · exact ⟨m, Roster.mem_put.2 (.inr ⟨hm, hSame⟩), rfl⟩

/-- Storing a connection between two ports that the rules let be joined. -/
theorem insert (hg : g.IsFlat) {source target : PortId}
    (h : g.Admits (.between source target)) :
    IsFlat { g with connections := g.connections.put (.between source target) } where
  isPrepared := hg.isPrepared
  ports := hg.ports
  connections := by
    intro c hc
    rw [h.toList_put, List.mem_append, List.mem_singleton] at hc
    rcases hc with hOld | rfl
    · exact (hg.connections c hOld).mono fun n hn _ => ⟨n, hn, rfl⟩
    · obtain ⟨p, q, hp, hpId, hq, hqId, -, hReceives, -⟩ := h.wires.ports
      have hSourceRole : source.role = p.role := by
        rw [show source = p.id from hpId.symm, hp.id_eq hg.isPrepared]
      have hTargetRole : target.role = q.role := by
        rw [show target = q.id from hqId.symm, hq.id_eq hg.isPrepared]
      refine ⟨rfl, h.wires.isVirtual_eq, ?_, ?_, ?_, ?_⟩
      · obtain ⟨n, hn, hId, -⟩ := hp
        exact ⟨n, hn, hId⟩
      · obtain ⟨n, hn, hId, -⟩ := hq
        exact ⟨n, hn, hId⟩
      · show source.role.HasStart
        rw [hSourceRole]
        exact hg.hasStart_role hp
      · show target.role.IsPlain
        rw [hTargetRole]
        exact hg.isPlain_role hq hReceives

/-- A graph stays flat when a connection is added between two ports. -/
theorem addConnection (hg : g.IsFlat) {source target : PortId}
    (h : g.addConnection (.between source target) = .ok g') : g'.IsFlat := by
  obtain ⟨hAdmits, rfl⟩ := addConnection_eq_ok hg.isPrepared h
  have hStored := hg.insert hAdmits
  exact hStored.shrinks (routeAlong_shrinks hStored.isPrepared.hasStorableNodes _)

/-- A graph stays flat when routes are drawn. -/
theorem drawRoutes (hg : g.IsFlat) (table : ItemId) (settled : List Role)
    (bindings : List (Role × Option String)) : (g.drawRoutes table settled bindings).1.IsFlat := by
  refine drawRoutes_keeps ?_ settled hg
  intro g g' role name port _ _ hInsert hg
  obtain ⟨hAdmits, rfl⟩ := insertConnection_eq_ok hg.isPrepared hInsert
  exact hg.insert hAdmits

/-- A graph is flat after the update of a node if it is once the node is in. -/
theorem updateNode? {n : Node} (hPut : (g.putNode n).IsFlat)
    {refusals : List Refusal} (h : g.updateNode? n false = some (g', refusals)) : g'.IsFlat := by
  obtain ⟨stored, -, ⟨-, rfl⟩ | ⟨t, u, -, -, -, hReroute⟩⟩ := updateNode?_eq_some h
  · exact hPut
  · obtain ⟨u', -, rfl⟩ := reroute?_eq_some hReroute
    exact (hPut.shrinks (dropConnections_shrinks _ _).drifts).drawRoutes _ _ _

end IsFlat

end Graph

end FlowCanvas
