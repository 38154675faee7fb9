import FlowCanvas.Proofs.Graph.Shrinking
import Mathlib

/-!
# Sound wiring

A graph is soundly wired (`Graph.IsSound`) if every connection joins two ports of different stored
nodes that may be joined in its direction, if no two connections join the same two nodes, and if no
port for one connection has two. Storing a connection that the rules allow keeps this, and so does
everything that leaves the ports at the ends of the remaining connections where they are
(`Graph.IsSound.mono`).
-/

set_option autoImplicit false

namespace FlowCanvas

namespace Graph

/-- A node of the graph has a port. -/
def HasPort (g : Graph) (node : ItemId) (p : Port) : Prop :=
  ∃ n ∈ g.nodes.toList, n.id = node ∧ p ∈ n.ports

/-- The ends of a connection are ports of two nodes of the graph. The first can send and the second
can receive, and each accepts the role of the other. -/
structure Wires (g : Graph) (c : Connection) : Prop where
  isVirtual_eq : c.isVirtual = false
  nodes_ne : c.sourceNode ≠ c.targetNode
  ports : ∃ p q, g.HasPort c.sourceNode p ∧ p.id = c.sourcePort ∧
    g.HasPort c.targetNode q ∧ q.id = c.targetPort ∧
    p.spec.direction.sends = true ∧ q.spec.direction.receives = true ∧
    p.allows q.role = true ∧ q.allows p.role = true

/-- Connections are as the rules of joining want them. -/
structure IsSound (g : Graph) : Prop where
  isPrepared : g.IsPrepared
  /-- Every connection joins two ports of the graph that fit. -/
  wires : ∀ c ∈ g.connections.toList, g.Wires c
  /-- Two nodes are joined by one connection at most, in whatever direction. -/
  eq_of_joins : ∀ c ∈ g.connections.toList, ∀ d ∈ g.connections.toList,
    d.joins c.sourceNode c.targetNode = true → c = d
  /-- A port for one connection has one at most. -/
  eq_of_occupies : ∀ node p, g.HasPort node p → p.spec.multiple = false →
    ∀ c ∈ g.connections.toList, ∀ d ∈ g.connections.toList,
      c.occupies p.id = true → d.occupies p.id = true → c = d

variable {g g' : Graph} {c : Connection}

/-! ## Ports of a graph -/

/-- A port of a stored node has the key that belongs to it. -/
theorem HasPort.id_eq (hg : g.IsPrepared) {node : ItemId} {p : Port} (h : g.HasPort node p) :
    p.id = ⟨node, p.role⟩ := by
  obtain ⟨n, hn, rfl, hp⟩ := h
  exact (hg n hn).isStorable.id_of_mem_ports hp

/-- A graph has one port for each key. -/
theorem HasPort.eq_of_id_eq (hg : g.IsPrepared) {a b : ItemId} {p q : Port}
    (hp : g.HasPort a p) (hq : g.HasPort b q) (hId : p.id = q.id) : p = q := by
  have hNode : a = b := by
    rw [hp.id_eq hg, hq.id_eq hg, PortId.mk.injEq] at hId
    exact hId.1
  obtain ⟨n, hn, hn', hp⟩ := hp
  obtain ⟨m, hm, hm', hq⟩ := hq
  have hSame : n = m := Roster.eq_of_key_eq hn hm (hn'.trans (hNode.trans hm'.symm))
  subst hSame
  exact (hg n hn).eq_of_id_eq hp hq hId

/-- A port that a stored node finds by a key is one of its ports, with that key. -/
theorem hasPort_of_portById? {id : ItemId} {n : Node} {key : PortId} {p : Port}
    (hNode : g.node? id = some n) (hPort : n.portById? key = some p) :
    g.HasPort id p ∧ p.id = key := by
  obtain ⟨hn, hId⟩ := node?_eq_some.1 hNode
  exact ⟨⟨n, hn, hId, List.mem_of_find?_eq_some hPort⟩, by simpa using List.find?_some hPort⟩

namespace Wires

/-- A wired connection has its source port on its source node. -/
theorem node_sourcePort (hg : g.IsPrepared) (h : g.Wires c) : c.sourcePort.node = c.sourceNode := by
  obtain ⟨p, q, hp, hpId, -⟩ := h.ports
  rw [← hpId, hp.id_eq hg]

/-- A wired connection has its target port on its target node. -/
theorem node_targetPort (hg : g.IsPrepared) (h : g.Wires c) : c.targetPort.node = c.targetNode := by
  obtain ⟨p, q, -, -, hq, hqId, -⟩ := h.ports
  rw [← hqId, hq.id_eq hg]

/-- The nodes at the ends of a wired connection are stored. -/
theorem node?_eq_some (h : g.Wires c) :
    ∃ source target, g.node? c.sourceNode = some source ∧ g.node? c.targetNode = some target := by
  obtain ⟨p, q, ⟨n, hn, hnId, -⟩, -, ⟨m, hm, hmId, -⟩, -⟩ := h.ports
  exact ⟨n, m, Graph.node?_eq_some.2 ⟨hn, hnId⟩, Graph.node?_eq_some.2 ⟨hm, hmId⟩⟩

/-- A connection stays wired as long as the ports at its ends stay. -/
theorem mono (h : g.Wires c)
    (hPorts : ∀ node p, g.HasPort node p → c.touches node = true → c.occupies p.id = true →
      g'.HasPort node p) : g'.Wires c := by
  obtain ⟨p, q, hp, hpId, hq, hqId, hFits⟩ := h.ports
  refine ⟨h.isVirtual_eq, h.nodes_ne, p, q, ?_, hpId, ?_, hqId, hFits⟩
  · exact hPorts _ p hp (by simp [Connection.touches]) (by simp [Connection.occupies, hpId])
  · exact hPorts _ q hq (by simp [Connection.touches]) (by simp [Connection.occupies, hqId])

/-- A port that a connection occupies is the one at its start, which can send, or the one at its
end, which can receive. -/
theorem end_cases (hg : g.IsPrepared) (h : g.Wires c) {node : ItemId} {p : Port}
    (hp : g.HasPort node p) (hOccupies : c.occupies p.id = true) :
    (node = c.sourceNode ∧ p.id = c.sourcePort ∧ p.spec.direction.sends = true) ∨
      (node = c.targetNode ∧ p.id = c.targetPort ∧ p.spec.direction.receives = true) := by
  have hKey := hp.id_eq hg
  obtain ⟨source, target, hs, hsId, ht, htId, hSends, hReceives, -⟩ := h.ports
  rw [Connection.occupies, Bool.or_eq_true, beq_iff_eq, beq_iff_eq] at hOccupies
  rcases hOccupies with hSource | hTarget
  · refine .inl ⟨?_, hSource.symm, ?_⟩
    · rw [← h.node_sourcePort hg, hSource, hKey]
    · rw [hp.eq_of_id_eq hg hs (hSource.symm.trans hsId.symm)]
      exact hSends
  · refine .inr ⟨?_, hTarget.symm, ?_⟩
    · rw [← h.node_targetPort hg, hTarget, hKey]
    · rw [hp.eq_of_id_eq hg ht (hTarget.symm.trans htId.symm)]
      exact hReceives

end Wires

/-! ## Fewer connections -/

/-- A graph stays sound if no connection is new and the ports at the ends of those that remain
stay. -/
theorem IsSound.mono (hg : g.IsSound) (hPrepared : g'.IsPrepared)
    (hConnections : ∀ c ∈ g'.connections.toList, c ∈ g.connections.toList)
    (hPorts : ∀ c ∈ g'.connections.toList, ∀ node p, g.HasPort node p → c.touches node = true →
      c.occupies p.id = true → g'.HasPort node p) : g'.IsSound where
  isPrepared := hPrepared
  wires := fun c hc => (hg.wires c (hConnections c hc)).mono (hPorts c hc)
  eq_of_joins := fun c hc d hd => hg.eq_of_joins c (hConnections c hc) d (hConnections d hd)
  eq_of_occupies := by
    intro node p hp hOne c hc d hd hcp hdp
    -- the port at this end of the connection was there before, and it is the same port
    obtain ⟨a, b, ha, haId, hb, hbId, -⟩ := (hg.wires c (hConnections c hc)).ports
    obtain ⟨old, q, hq, hqId⟩ : ∃ old q, g.HasPort old q ∧ g'.HasPort old q ∧ q.id = p.id := by
      rw [Connection.occupies, Bool.or_eq_true, beq_iff_eq, beq_iff_eq] at hcp
      rcases hcp with hSource | hTarget
      · refine ⟨_, a, ha, hPorts c hc _ a ha ?_ ?_, haId.trans hSource⟩
        · simp [Connection.touches]
        · simp [Connection.occupies, haId]
      · refine ⟨_, b, hb, hPorts c hc _ b hb ?_ ?_, hbId.trans hTarget⟩
        · simp [Connection.touches]
        · simp [Connection.occupies, hbId]
    have hSame : q = p := hqId.1.eq_of_id_eq hPrepared hp hqId.2
    subst hSame
    exact hg.eq_of_occupies old q hq hOne c (hConnections c hc) d (hConnections d hd) hcp hdp

/-- Shrinking keeps a graph sound. -/
theorem IsSound.shrinks (hg : g.IsSound) (h : g.Shrinks Node.Drifts g') : g'.IsSound := by
  refine hg.mono (h.isPrepared hg.isPrepared) h.connections ?_
  rintro c hc _ p ⟨n, hn, rfl, hp⟩ hTouches -
  obtain ⟨n', hn', hId, hDrift⟩ := h.ends c hc n hn hTouches
  exact ⟨n', hn', hId, hDrift.ports_eq ▸ hp⟩

/-- Nodes keep at most one port for each role when another such node is put in. -/
theorem isPrepared_putNode (hg : g.IsPrepared) {n : Node}
    (hRoles : n.table? = none → (n.ports.map Port.role).Nodup) : (g.putNode n).IsPrepared := by
  intro m hm
  rcases Roster.mem_put.1 hm with rfl | ⟨hOld, -⟩
  · exact Node.isPrepared_prepare hRoles
  · exact hg m hOld

/-- A node with another id keeps its ports when a node is put in. -/
theorem HasPort.putNode {n : Node} {node : ItemId} {p : Port} (h : g.HasPort node p)
    (hNe : node ≠ n.id) : (g.putNode n).HasPort node p := by
  obtain ⟨m, hm, rfl, hp⟩ := h
  refine ⟨m, Roster.mem_put.2 (.inr ⟨hm, ?_⟩), rfl, hp⟩
  show m.id ≠ n.prepare.id
  rw [Node.prepare_id]
  exact hNe

/-- Putting in a new node, or one whose ports stay, keeps a graph sound. -/
theorem IsSound.putNode (hg : g.IsSound) {n : Node}
    (hRoles : n.table? = none → (n.ports.map Port.role).Nodup)
    (hPorts : ∀ stored, g.node? n.id = some stored → n.prepare.ports = stored.ports) :
    (g.putNode n).IsSound := by
  refine hg.mono (isPrepared_putNode hg.isPrepared hRoles) (fun _ hc => hc) ?_
  intro c _ node p hp _ _
  by_cases hSame : node = n.id
  · obtain ⟨m, hm, hId, hp⟩ := hp
    have hStored := hPorts m (node?_eq_some.2 ⟨hm, hId.trans hSame⟩)
    refine ⟨n.prepare, Roster.mem_put.2 (.inl rfl), ?_, hStored ▸ hp⟩
    rw [Node.prepare_id]
    exact hSame.symm
  · exact hp.putNode hSame

/-! ## A further connection -/

/-- The rules allow a connection. -/
structure Admits (g : Graph) (c : Connection) : Prop where
  wires : g.Wires c
  contains_eq : g.connections.contains c.id = false
  areJoined_eq : g.areJoined c.sourceNode c.targetNode = false
  isOccupied_eq : ∀ node p, g.HasPort node p → p.spec.multiple = false →
    c.occupies p.id = true → g.isOccupied p.id = false

/-- Nothing stands between two ports of different nodes that are not joined yet if both have room
and fit. -/
theorem obstacle?_eq_none_iff {a b : Node} {p q : Port} :
    g.obstacle? a p b q = none ↔
      (p.id ≠ q.id ∧ a.id ≠ b.id) ∧ g.areJoined a.id b.id = false ∧ g.isFull p = false ∧
        g.isFull q = false ∧ p.fits q = true := by
  unfold obstacle?
  constructor
  · intro h
    split_ifs at h with hSelf hJoined hFullA hFullB hFits
    rw [not_or] at hSelf
    rw [Bool.not_eq_true] at hJoined hFullA hFullB
    exact ⟨hSelf, hJoined, hFullA, hFullB, hFits⟩
  · rintro ⟨hSelf, hJoined, hFullA, hFullB, hFits⟩
    rw [if_neg (not_or.2 hSelf), hJoined, hFullA, hFullB, hFits]
    rfl

/-- What has been checked of a connection that is stored. -/
theorem exists_of_insertConnection (h : g.insertConnection c = .ok g') :
    ∃ source target p q, g.node? c.sourceNode = some source ∧ g.node? c.targetNode = some target ∧
      source.portById? c.sourcePort = some p ∧ target.portById? c.targetPort = some q ∧
      c.isVirtual = false ∧ g.connections.contains c.id = false ∧
      p.spec.direction.sends = true ∧ q.spec.direction.receives = true ∧
      g.obstacle? source p target q = none ∧
      g' = { g with connections := g.connections.put c } := by
  unfold insertConnection at h
  split at h
  · cases h
  · rename_i hVirtual
    split at h
    · cases h
    · rename_i hContains
      split at h
      · cases h
      · cases h
      · rename_i source target hSource hTarget
        split at h
        · cases h
        · cases h
        · rename_i p q hp hq
          split at h
          · cases h
          · rename_i hDirections
            split at h
            · cases h
            · rename_i hObstacle
              rw [Bool.or_eq_true, not_or] at hDirections
              simp only [Bool.not_eq_true', Bool.not_eq_false] at hDirections
              cases h
              exact ⟨source, target, p, q, hSource, hTarget, hp, hq, by simpa using hVirtual,
                by simpa using hContains, hDirections.1, hDirections.2, hObstacle, rfl⟩

/-- A connection that is stored is new, and nothing else changes. -/
theorem eq_put_of_insertConnection (h : g.insertConnection c = .ok g') :
    g.connections.contains c.id = false ∧
      g' = { g with connections := g.connections.put c } := by
  obtain ⟨-, -, -, -, -, -, -, -, -, hNew, -, -, -, hGraph⟩ := exists_of_insertConnection h
  exact ⟨hNew, hGraph⟩

/-- A connection is stored exactly as the rules allow. -/
theorem insertConnection_eq_ok (hg : g.IsPrepared) (h : g.insertConnection c = .ok g') :
    g.Admits c ∧ g' = { g with connections := g.connections.put c } := by
  obtain ⟨source, target, p, q, hSource, hTarget, hp, hq, hVirtual, hContains, hSends, hReceives,
    hObstacle, hGraph⟩ := exists_of_insertConnection h
  obtain ⟨⟨-, hNodes⟩, hJoined, hFullP, hFullQ, hFits⟩ := obstacle?_eq_none_iff.1 hObstacle
  obtain ⟨hpPort, hpId⟩ := hasPort_of_portById? hSource hp
  obtain ⟨hqPort, hqId⟩ := hasPort_of_portById? hTarget hq
  rw [(node?_eq_some.1 hSource).2, (node?_eq_some.1 hTarget).2] at hNodes hJoined
  simp only [Port.fits, Bool.and_eq_true] at hFits
  have hWires : g.Wires c := ⟨hVirtual, hNodes, p, q, hpPort, hpId, hqPort, hqId, hSends, hReceives,
    hFits.1.2, hFits.2⟩
  have hVacant : ∀ node x, g.HasPort node x → x.spec.multiple = false →
      c.occupies x.id = true → g.isOccupied x.id = false := by
    intro node x hx hOne hOccupies
    rcases hWires.end_cases hg hx hOccupies with ⟨-, hId, -⟩ | ⟨-, hId, -⟩
    · rw [hx.eq_of_id_eq hg hpPort (hId.trans hpId.symm)] at hOne ⊢
      simpa [isFull, hOne] using hFullP
    · rw [hx.eq_of_id_eq hg hqPort (hId.trans hqId.symm)] at hOne ⊢
      simpa [isFull, hOne] using hFullQ
  exact ⟨⟨hWires, hContains, hJoined, hVacant⟩, hGraph⟩

/-- The connections after one that the rules allow. -/
theorem Admits.toList_put (h : g.Admits c) :
    (g.connections.put c).toList = g.connections.toList ++ [c] :=
  Roster.toList_put_of_new h.contains_eq

/-- Storing a connection that the rules allow keeps a graph sound. -/
theorem IsSound.insert (hg : g.IsSound) (h : g.Admits c) :
    IsSound { g with connections := g.connections.put c } := by
  have hMem : ∀ d, d ∈ (g.connections.put c).toList ↔ d ∈ g.connections.toList ∨ d = c := by
    intro d
    rw [h.toList_put, List.mem_append, List.mem_singleton]
  have hApart := List.any_eq_false.1 h.areJoined_eq
  have hVacant : ∀ node p, g.HasPort node p → p.spec.multiple = false → c.occupies p.id = true →
      ∀ d ∈ g.connections.toList, d.occupies p.id ≠ true := fun node p hp hOne hc =>
    List.any_eq_false.1 (h.isOccupied_eq node p hp hOne hc)
  refine ⟨hg.isPrepared, ?_, ?_, ?_⟩
  · intro d hd
    rcases (hMem d).1 hd with hOld | rfl
    · exact (hg.wires d hOld).mono fun _ _ hp _ _ => hp
    · exact h.wires.mono fun _ _ hp _ _ => hp
  · intro d hd e he hJoins
    rcases (hMem d).1 hd with hdOld | rfl <;> rcases (hMem e).1 he with heOld | rfl
    · exact hg.eq_of_joins d hdOld e heOld hJoins
    · -- joining is symmetric, so the old connection would join the ends of the new one
      refine absurd ?_ (hApart d hdOld)
      simp only [Connection.joins, Bool.or_eq_true, Bool.and_eq_true, beq_iff_eq] at hJoins ⊢
      rcases hJoins with ⟨hs, ht⟩ | ⟨hs, ht⟩
      · exact .inl ⟨hs.symm, ht.symm⟩
      · exact .inr ⟨ht.symm, hs.symm⟩
    · exact absurd hJoins (hApart e heOld)
    · rfl
  · intro node p hp hOne d hd e he hdp hep
    rcases (hMem d).1 hd with hdOld | rfl <;> rcases (hMem e).1 he with heOld | rfl
    · exact hg.eq_of_occupies node p hp hOne d hdOld e heOld hdp hep
    · exact absurd hdp (hVacant node p hp hOne hep d hdOld)
    · exact absurd hep (hVacant node p hp hOne hdp e heOld)
    · rfl

/-- The wiring stays sound when a connection is inserted. -/
theorem IsSound.insertConnection (hg : g.IsSound) (h : g.insertConnection c = .ok g') :
    g'.IsSound := by
  obtain ⟨hAdmits, rfl⟩ := insertConnection_eq_ok hg.isPrepared h
  exact hg.insert hAdmits

/-- A connection is added by inserting it and routing along it. -/
theorem exists_of_addConnection (h : g.addConnection c = .ok g') :
    ∃ stored, g.insertConnection c = .ok stored ∧ g' = stored.routeAlong c := by
  unfold addConnection at h
  cases hInsert : g.insertConnection c with
  | error refusal =>
    rw [hInsert] at h
    cases h
  | ok stored =>
    rw [hInsert] at h
    cases h
    exact ⟨stored, rfl, rfl⟩

/-- A connection is added only if the rules allow it, and is stored and routed along then. -/
theorem addConnection_eq_ok (hg : g.IsPrepared) (h : g.addConnection c = .ok g') :
    g.Admits c ∧ g' = routeAlong { g with connections := g.connections.put c } c := by
  obtain ⟨stored, hInsert, rfl⟩ := exists_of_addConnection h
  obtain ⟨hAdmits, rfl⟩ := insertConnection_eq_ok hg hInsert
  exact ⟨hAdmits, rfl⟩

/-- Making the table at the start of a connection follow shrinks the graph. -/
theorem routeAlong_shrinks (hg : g.HasStorableNodes) (c : Connection) :
    g.Shrinks Node.Drifts (g.routeAlong c) := by
  rcases routeAlong_cases hg c with hSame | ⟨-, target, -, hRedirects⟩
  · rw [hSame]
    exact .refl g
  · exact hRedirects.shrinks

/-- The wiring stays sound when a connection is added. -/
theorem IsSound.addConnection (hg : g.IsSound) (h : g.addConnection c = .ok g') :
    g'.IsSound := by
  obtain ⟨hAdmits, rfl⟩ := addConnection_eq_ok hg.isPrepared h
  have hStored := hg.insert hAdmits
  exact hStored.shrinks (routeAlong_shrinks hStored.isPrepared.hasStorableNodes c)

/-- What every single addition keeps is kept when connections are added one after the other. -/
theorem addConnections_keeps {P : Graph → Prop}
    (hStep : ∀ g c g', P g → g.addConnection c = .ok g' → P g')
    (connections : List Connection) (hg : P g) :
    P (g.addConnections connections).1 := by
  induction connections generalizing g with
  | nil => exact hg
  | cons c rest ih =>
    unfold addConnections
    split
    · rename_i g' hAdd
      exact ih (hStep g c g' hg hAdd)
    · exact ih hg

end Graph

end FlowCanvas
