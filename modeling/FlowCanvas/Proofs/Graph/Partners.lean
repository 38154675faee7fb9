import FlowCanvas.Canvas.Eligibility
import FlowCanvas.Proofs.Graph.Wiring
import FlowCanvas.Proofs.Wire.Ids
import Mathlib

/-!
# Eligible partners

Whether two ports can be joined is asked in three ways: of the two keys (`Graph.canJoin`), by
storing a connection between them (`Graph.insertConnection`), and of the list of partners of a port
(`Graph.eligibility`). The first two agree on every pair of keys, in one of the two directions
(`Graph.HasPlainPorts.canJoin_iff`). The lists hold texts of keys, which are also the texts of other
keys, so the third agrees with them exactly where no such key is asked for
(`Graph.HasPlainPorts.canConnect_eq_iff`).
-/

set_option autoImplicit false

namespace FlowCanvas

/-- Whether two directions pair does not depend on their order. -/
theorem Direction.pairsWith_comm (a b : Direction) : a.pairsWith b = b.pairsWith a := by
  obtain ⟨_ | _, _ | _⟩ := a <;> obtain ⟨_ | _, _ | _⟩ := b <;> rfl

/-- Of two directions that pair one sends and the other receives. -/
theorem Direction.sends_or_receives {a b : Direction} (h : a.pairsWith b = true) :
    a.sends = true ∧ b.receives = true ∨ b.sends = true ∧ a.receives = true := by
  obtain ⟨_ | _, _ | _⟩ := a <;> obtain ⟨_ | _, _ | _⟩ := b <;> simp_all [pairsWith]

/-- Whether two ports fit does not depend on their order. -/
theorem Port.fits_comm (p q : Port) : p.fits q = q.fits p := by
  unfold fits
  rw [Direction.pairsWith_comm, Bool.and_assoc, Bool.and_assoc, Bool.and_comm (p.allows q.role)]

/-- Whether a connection joins two nodes does not depend on their order. -/
theorem Connection.joins_comm (c : Connection) (a b : ItemId) : c.joins a b = c.joins b a :=
  Bool.or_comm _ _

/-- The text of a key whose node has a name without underscores is not the placeholder. -/
theorem PortId.text_ne_placeholder {p : PortId} (hNode : p.node.text ≠ "")
    (hUnderscore : '_' ∉ p.node.text.toList) : p.text ≠ Eligibility.placeholder := by
  intro h
  have hText := congrArg String.toList h
  rw [toList_text] at hText
  cases hChars : p.node.text.toList with
  | nil => exact hNode (String.toList_eq_nil_iff.1 hChars)
  | cons c rest =>
    rw [hChars] at hText hUnderscore
    have hFirst : c = '_' := (List.cons.inj hText).1
    exact hUnderscore (by simp [hFirst])

namespace Graph

variable {g : Graph} {a b : PortId} {n m : Node} {p q : Port}

/-! ## Ports by their keys -/

/-- A node of the graph has a port with a key. -/
def HasPortAt (g : Graph) (a : PortId) : Prop := ∃ n ∈ g.nodes.toList, ∃ p ∈ n.ports, p.id = a

/-- The endpoints of a graph are the ports of its nodes. -/
theorem mem_endpoints : (n, p) ∈ g.endpoints ↔ n ∈ g.nodes.toList ∧ p ∈ n.ports := by
  simp [endpoints]

/-- A key names a port of a stored node if the node finds the port by the key. -/
theorem endpoint?_eq_some :
    g.endpoint? a = some (n, p) ↔ g.node? a.node = some n ∧ n.portById? a = some p := by
  unfold endpoint?
  simp only [Option.bind_eq_bind, Option.bind_eq_some_iff, Option.pure_def, Option.some.injEq,
    Prod.mk.injEq]
  constructor
  · rintro ⟨n', hNode, p', hPort, rfl, rfl⟩
    exact ⟨hNode, hPort⟩
  · rintro ⟨hNode, hPort⟩
    exact ⟨n, hNode, p, hPort, rfl, rfl⟩

/-- The node and the port that a key names are those that have it. -/
theorem endpoint?_eq_some_iff (hg : g.IsPrepared) :
    g.endpoint? a = some (n, p) ↔ (n ∈ g.nodes.toList ∧ p ∈ n.ports) ∧ p.id = a := by
  rw [endpoint?_eq_some]
  constructor
  · rintro ⟨hNode, hPort⟩
    refine ⟨⟨(node?_eq_some.1 hNode).1, List.mem_of_find?_eq_some hPort⟩, ?_⟩
    simpa using List.find?_some hPort
  · rintro ⟨⟨hn, hp⟩, rfl⟩
    have hKey := (hg n hn).isStorable.id_of_mem_ports hp
    refine ⟨node?_eq_some.2 ⟨hn, by rw [hKey]⟩, ?_⟩
    have hSome : (n.portById? p.id).isSome = true := List.find?_isSome.2 ⟨p, hp, by simp⟩
    obtain ⟨q, hq⟩ := Option.isSome_iff_exists.1 hSome
    have hId : q.id = p.id := by simpa using List.find?_some hq
    rw [hq, (hg n hn).eq_of_id_eq (List.mem_of_find?_eq_some hq) hp hId]

/-- A node has a port with a key exactly if the key names an endpoint. -/
theorem hasPortAt_iff (hg : g.IsPrepared) : g.HasPortAt a ↔ ∃ n p, g.endpoint? a = some (n, p) := by
  simp only [endpoint?_eq_some_iff hg]
  constructor
  · rintro ⟨n, hn, p, hp, hId⟩
    exact ⟨n, p, ⟨hn, hp⟩, hId⟩
  · rintro ⟨n, p, ⟨hn, hp⟩, hId⟩
    exact ⟨n, hn, p, hp, hId⟩

/-! ## Joining two ports -/

/-- Whether two nodes are joined does not depend on their order. -/
theorem areJoined_comm (g : Graph) (a b : ItemId) : g.areJoined a b = g.areJoined b a := by
  unfold areJoined
  simp only [Connection.joins_comm _ a b]

/-- Whether something stands in the way does not depend on which port comes first. -/
theorem obstacle?_eq_none_comm : g.obstacle? n p m q = none ↔ g.obstacle? m q n p = none := by
  rw [obstacle?_eq_none_iff, obstacle?_eq_none_iff, areJoined_comm g m.id, Port.fits_comm q,
    ne_comm (a := q.id), ne_comm (a := m.id)]
  tauto

/-- Two keys can be joined if they name endpoints between which nothing stands. -/
theorem canJoin_eq_true_iff :
    g.canJoin a b = true ↔
      ∃ n p m q, g.endpoint? a = some (n, p) ∧ g.endpoint? b = some (m, q) ∧
        g.obstacle? n p m q = none := by
  unfold canJoin
  constructor
  · intro h
    split at h
    · rename_i n p m q ha hb
      exact ⟨n, p, m, q, ha, hb, Option.isNone_iff_eq_none.1 h⟩
    · cases h
  · rintro ⟨n, p, m, q, ha, hb, hObstacle⟩
    rw [ha, hb]
    exact Option.isNone_iff_eq_none.2 hObstacle

/-- Whether two keys can be joined does not depend on their order. -/
theorem canJoin_comm (g : Graph) (a b : PortId) : g.canJoin a b = g.canJoin b a := by
  have hImp : ∀ a b, g.canJoin a b = true → g.canJoin b a = true := by
    intro a b h
    obtain ⟨n, p, m, q, ha, hb, hObstacle⟩ := canJoin_eq_true_iff.1 h
    exact canJoin_eq_true_iff.2 ⟨m, q, n, p, hb, ha, obstacle?_eq_none_comm.1 hObstacle⟩
  rw [Bool.eq_iff_iff]
  exact ⟨hImp a b, hImp b a⟩

/-- What can be joined with something is a port of the graph. -/
theorem hasPortAt_of_canJoin (hg : g.IsPrepared) (h : g.canJoin a b = true) : g.HasPortAt b := by
  obtain ⟨-, -, m, q, -, hb, -⟩ := canJoin_eq_true_iff.1 h
  exact (hasPortAt_iff hg).2 ⟨m, q, hb⟩

/-! ## Lists of partners -/

/-- The partners of a port are the ports that can be joined with it. -/
theorem mem_partners_iff (hg : g.IsPrepared) (ha : g.endpoint? a = some (n, p)) {text : String} :
    text ∈ g.partners n p ↔ ∃ b, g.canJoin a b = true ∧ b.text = text := by
  unfold partners
  rw [List.mem_map]
  constructor
  · rintro ⟨⟨m, q⟩, hOther, rfl⟩
    obtain ⟨hMem, hNone⟩ := List.mem_filter.1 hOther
    have hb := (endpoint?_eq_some_iff hg).2 ⟨mem_endpoints.1 hMem, rfl⟩
    exact ⟨q.id, canJoin_eq_true_iff.2 ⟨n, p, m, q, ha, hb, Option.isNone_iff_eq_none.1 hNone⟩,
      rfl⟩
  · rintro ⟨b, hJoin, rfl⟩
    obtain ⟨n', p', m, q, ha', hb, hObstacle⟩ := canJoin_eq_true_iff.1 hJoin
    rw [ha, Option.some.injEq, Prod.mk.injEq] at ha'
    obtain ⟨rfl, rfl⟩ := ha'
    obtain ⟨hMem, rfl⟩ := (endpoint?_eq_some_iff hg).1 hb
    refine ⟨(m, q), List.mem_filter.2 ⟨mem_endpoints.2 hMem, ?_⟩, rfl⟩
    exact Option.isNone_iff_eq_none.2 hObstacle

/-- A port has no partners exactly if its key can be joined with none. -/
theorem partners_eq_nil_iff (hg : g.IsPrepared) (ha : g.endpoint? a = some (n, p)) :
    g.partners n p = [] ↔ ∀ b, g.canJoin a b = false := by
  rw [List.eq_nil_iff_forall_not_mem]
  constructor
  · intro hNone b
    rw [Bool.eq_false_iff]
    intro hJoin
    exact hNone b.text ((mem_partners_iff hg ha).2 ⟨b, hJoin, rfl⟩)
  · intro hNone text hText
    obtain ⟨b, hJoin, -⟩ := (mem_partners_iff hg ha).1 hText
    rw [hNone b] at hJoin
    cases hJoin

/-- What a port of the graph lists. -/
theorem get?_eligibility (hg : g.IsPrepared) (ha : g.endpoint? a = some (n, p)) :
    g.eligibility.get? a = some
      (if (g.partners n p).isEmpty then [Eligibility.placeholder] else g.partners n p) := by
  obtain ⟨hMem, rfl⟩ := (endpoint?_eq_some_iff hg).1 ha
  unfold Eligibility.get? eligibility
  refine Ordered.lookup_ofEntries_of_mem ?_ ?_
  · exact List.mem_map.2 ⟨(n, p), mem_endpoints.2 hMem, rfl⟩
  · intro other hOther
    obtain ⟨⟨m, q⟩, hq, hEntry⟩ := List.mem_map.1 hOther
    rw [Prod.mk.injEq] at hEntry
    have hb := (endpoint?_eq_some_iff hg).2 ⟨mem_endpoints.1 hq, hEntry.1⟩
    rw [ha, Option.some.injEq, Prod.mk.injEq] at hb
    rw [← hEntry.2, hb.1, hb.2]

/-- A key that no port has is not in the list of partners. -/
theorem get?_eligibility_eq_none (h : ¬ g.HasPortAt a) :
    g.eligibility.get? a = none := by
  refine Ordered.lookup_ofEntries_eq_none ?_
  intro entry hEntry hKey
  obtain ⟨⟨n, p⟩, hMem, rfl⟩ := List.mem_map.1 hEntry
  obtain ⟨hn, hp⟩ := mem_endpoints.1 hMem
  exact h ⟨n, hn, p, hp, hKey⟩

/-- Exactly the ports of the graph list something. -/
theorem isSome_get?_iff (hg : g.IsPrepared) :
    (g.eligibility.get? a).isSome = true ↔ g.HasPortAt a := by
  constructor
  · intro hSome
    by_contra hNone
    rw [get?_eligibility_eq_none hNone] at hSome
    cases hSome
  · intro hPort
    obtain ⟨n, p, ha⟩ := (hasPortAt_iff hg).1 hPort
    rw [get?_eligibility hg ha]
    rfl

/-! ## Plain ports -/

/-- A graph whose connections have the keys and the nodes of their ports, whose nodes have names
without underscores, and whose nodes have ports with different roles, none of them a group's. -/
structure HasPlainPorts (g : Graph) : Prop where
  isKeyed : ∀ c ∈ g.connections.toList, c.IsKeyed
  ids : ∀ n ∈ g.nodes.toList, n.id.text ≠ "" ∧ '_' ∉ n.id.text.toList
  nodup_roles : ∀ n ∈ g.nodes.toList, (n.ports.map Port.role).Nodup
  isOfGroup_eq : ∀ n ∈ g.nodes.toList, ∀ p ∈ n.ports, p.role.isOfGroup = false

namespace HasPlainPorts

/-- The nodes of a graph with plain ports have at most one port for each role. -/
theorem isPrepared (h : g.HasPlainPorts) (hg : g.HasStorableNodes) : g.IsPrepared :=
  fun n hn => ⟨hg n hn, h.nodup_roles n hn⟩

/-- A connection between two ports is stored exactly if they can be joined, the first one sends and
the second one receives. -/
theorem exists_insertConnection_iff (h : g.HasPlainPorts) (hg : g.HasStorableNodes) :
    (∃ g', g.insertConnection (.between a b) = .ok g') ↔
      ∃ n p m q, g.endpoint? a = some (n, p) ∧ g.endpoint? b = some (m, q) ∧
        g.obstacle? n p m q = none ∧ p.spec.direction.sends = true ∧
        q.spec.direction.receives = true := by
  have hPrepared := h.isPrepared hg
  constructor
  · rintro ⟨g', hInsert⟩
    obtain ⟨n, m, p, q, hn, hm, hp, hq, -, -, hSends, hReceives, hObstacle, -⟩ :=
      exists_of_insertConnection hInsert
    exact ⟨n, p, m, q, endpoint?_eq_some.2 ⟨hn, hp⟩, endpoint?_eq_some.2 ⟨hm, hq⟩, hObstacle,
      hSends, hReceives⟩
  · rintro ⟨n, p, m, q, ha, hb, hObstacle, hSends, hReceives⟩
    obtain ⟨⟨hn, hp⟩, hpId⟩ := (endpoint?_eq_some_iff hPrepared).1 ha
    obtain ⟨⟨hm, hq⟩, hqId⟩ := (endpoint?_eq_some_iff hPrepared).1 hb
    have hpKey := (hg n hn).id_of_mem_ports hp
    have hqKey := (hg m hm).id_of_mem_ports hq
    have hOrdinary : (Connection.between a b).isVirtual = false := by
      rw [← hpId, ← hqId, hpKey, hqKey]
      simp [Connection.isVirtual, Connection.between, ConnectionId.isVirtual,
        h.isOfGroup_eq n hn p hp, h.isOfGroup_eq m hm q hq]
    have hNew : g.connections.contains (Connection.between a b).id = false := by
      -- a stored connection with this key would join the two nodes
      rw [Roster.contains_eq_false_iff]
      intro c hc hKey
      have hKeyed := h.isKeyed c hc
      have hPorts : (⟨c.sourcePort, c.targetPort⟩ : ConnectionId) = ⟨a, b⟩ := by
        rw [← hKeyed.id_eq]
        exact hKey
      rw [ConnectionId.mk.injEq] at hPorts
      have hJoins : c.joins n.id m.id = true := by
        unfold Connection.joins
        rw [← hKeyed.source_eq, ← hKeyed.target_eq, hPorts.1, hPorts.2, ← hpId, ← hqId, hpKey,
          hqKey]
        simp
      have hApart := (obstacle?_eq_none_iff.1 hObstacle).2.1
      exact absurd hJoins (List.any_eq_false.1 hApart c hc)
    obtain ⟨hSource, hSourcePort⟩ := endpoint?_eq_some.1 ha
    obtain ⟨hTarget, hTargetPort⟩ := endpoint?_eq_some.1 hb
    refine ⟨{ g with connections := g.connections.put (.between a b) }, ?_⟩
    unfold insertConnection
    rw [hOrdinary, hNew]
    simp [Connection.between, hSource, hTarget, hSourcePort, hTargetPort, hSends, hReceives,
      hObstacle]

/-- Two ports can be joined exactly if a connection between them is stored in one of the two
directions. -/
theorem canJoin_iff (h : g.HasPlainPorts) (hg : g.HasStorableNodes) :
    g.canJoin a b = true ↔ (∃ g', g.insertConnection (.between a b) = .ok g') ∨
      ∃ g', g.insertConnection (.between b a) = .ok g' := by
  rw [h.exists_insertConnection_iff hg, h.exists_insertConnection_iff hg]
  constructor
  · intro hJoin
    obtain ⟨n, p, m, q, ha, hb, hObstacle⟩ := canJoin_eq_true_iff.1 hJoin
    have hFits := (obstacle?_eq_none_iff.1 hObstacle).2.2.2.2
    unfold Port.fits at hFits
    rw [Bool.and_eq_true, Bool.and_eq_true] at hFits
    rcases Direction.sends_or_receives hFits.1.1 with ⟨hSends, hReceives⟩ | ⟨hSends, hReceives⟩
    · exact .inl ⟨n, p, m, q, ha, hb, hObstacle, hSends, hReceives⟩
    · exact .inr ⟨m, q, n, p, hb, ha, obstacle?_eq_none_comm.1 hObstacle, hSends, hReceives⟩
  · rintro (⟨n, p, m, q, ha, hb, hObstacle, -⟩ | ⟨m, q, n, p, hb, ha, hObstacle, -⟩)
    · exact canJoin_eq_true_iff.2 ⟨n, p, m, q, ha, hb, hObstacle⟩
    · exact canJoin_eq_true_iff.2 ⟨n, p, m, q, ha, hb, obstacle?_eq_none_comm.1 hObstacle⟩

/-! ## Asking the lists -/

/-- The keys of ports of the graph are told apart by their texts. -/
theorem eq_of_text_eq (h : g.HasPlainPorts) (hg : g.HasStorableNodes) (ha : g.HasPortAt a)
    (hb : '_' ∉ b.node.text.toList) (hText : a.text = b.text) : a = b := by
  obtain ⟨n, hn, p, hp, rfl⟩ := ha
  refine PortId.text_inj ?_ hb hText
  rw [(hg n hn).id_of_mem_ports hp]
  exact (h.ids n hn).2

/-- The key of a port of the graph has a node with a name that has no underscores. -/
theorem node_of_hasPortAt (h : g.HasPlainPorts) (hg : g.HasStorableNodes) (ha : g.HasPortAt a) :
    a.node.text ≠ "" ∧ '_' ∉ a.node.text.toList := by
  obtain ⟨n, hn, p, hp, rfl⟩ := ha
  rw [(hg n hn).id_of_mem_ports hp]
  exact h.ids n hn

/-- A port is blocked if it can be joined with none. -/
theorem isBlocked_iff (h : g.HasPlainPorts) (hg : g.HasStorableNodes) :
    g.eligibility.isBlocked a = true ↔ g.HasPortAt a ∧ ∀ b, g.canJoin a b = false := by
  have hPrepared := h.isPrepared hg
  unfold Eligibility.isBlocked
  rw [beq_iff_eq]
  constructor
  · intro hGet
    have hPort := (isSome_get?_iff hPrepared).1 (Option.isSome_iff_exists.2 ⟨_, hGet⟩)
    obtain ⟨n, p, ha⟩ := (hasPortAt_iff hPrepared).1 hPort
    refine ⟨hPort, (partners_eq_nil_iff hPrepared ha).1 ?_⟩
    rw [get?_eligibility hPrepared ha, Option.some.injEq] at hGet
    by_contra hSome
    rw [if_neg (by simpa using hSome)] at hGet
    -- the placeholder would be the text of a port
    obtain ⟨b, hJoin, hText⟩ :=
      (mem_partners_iff hPrepared ha).1 (hGet ▸ List.mem_singleton_self _)
    have hNode := h.node_of_hasPortAt hg (hasPortAt_of_canJoin hPrepared hJoin)
    exact PortId.text_ne_placeholder hNode.1 hNode.2 hText
  · rintro ⟨hPort, hNone⟩
    obtain ⟨n, p, ha⟩ := (hasPortAt_iff hPrepared).1 hPort
    rw [get?_eligibility hPrepared ha, (partners_eq_nil_iff hPrepared ha).2 hNone]
    rfl

end HasPlainPorts

/-- A port of the graph lists the text of a key for something else: because another port that can be
joined with it has the same text, or because none can be joined with it and the text is that of the
placeholder. -/
def Mistakes (g : Graph) (a b : PortId) : Prop :=
  (∃ c, c ≠ b ∧ g.canJoin a c = true ∧ c.text = b.text) ∨
    g.HasPortAt a ∧ (∀ c, g.canJoin a c = false) ∧ b.text = Eligibility.placeholder

/-- A port lists the texts of the ports that can be joined with it, or the placeholder. -/
theorem canConnect_iff (hg : g.IsPrepared) :
    g.eligibility.canConnect a b = true ↔ g.canJoin a b = true ∨ g.Mistakes a b := by
  unfold Eligibility.canConnect
  by_cases hPort : g.HasPortAt a
  · obtain ⟨n, p, ha⟩ := (hasPortAt_iff hg).1 hPort
    rw [get?_eligibility hg ha, Option.any_some, List.contains_iff_mem]
    cases hPartners : g.partners n p with
    | nil =>
      have hNone := (partners_eq_nil_iff hg ha).1 hPartners
      unfold Mistakes
      simp [hNone, hPort]
    | cons first rest =>
      have hSome : ¬ ∀ c, g.canJoin a c = false := by
        rw [← partners_eq_nil_iff hg ha, hPartners]
        exact List.cons_ne_nil _ _
      rw [List.isEmpty_cons, if_neg Bool.false_ne_true, ← hPartners, mem_partners_iff hg ha]
      unfold Mistakes
      constructor
      · rintro ⟨c, hJoin, hText⟩
        by_cases hSame : c = b
        · exact .inl (hSame ▸ hJoin)
        · exact .inr (.inl ⟨c, hSame, hJoin, hText⟩)
      · rintro (hJoin | ⟨c, -, hJoin, hText⟩ | ⟨-, hNone, -⟩)
        · exact ⟨b, hJoin, rfl⟩
        · exact ⟨c, hJoin, hText⟩
        · exact absurd hNone hSome
  · have hNone : ∀ c, g.canJoin a c = false := fun c =>
      Bool.eq_false_iff.2 fun hJoin => hPort (hasPortAt_of_canJoin hg (canJoin_comm g a c ▸ hJoin))
    rw [get?_eligibility_eq_none hPort]
    unfold Mistakes
    simp [hNone, hPort]

namespace HasPlainPorts

/-- No key is mistaken for another if its node has a name without underscores. -/
theorem not_mistakes (h : g.HasPlainPorts) (hg : g.HasStorableNodes) (hNode : b.node.text ≠ "")
    (hUnderscore : '_' ∉ b.node.text.toList) : ¬ g.Mistakes a b := by
  rintro (⟨c, hOther, hJoin, hText⟩ | ⟨-, -, hText⟩)
  · have hPort := hasPortAt_of_canJoin (h.isPrepared hg) hJoin
    exact hOther (h.eq_of_text_eq hg hPort hUnderscore hText)
  · exact PortId.text_ne_placeholder hNode hUnderscore hText

/-- The lists agree with the direct question exactly if no key is mistaken for another. -/
theorem canConnect_eq_iff (h : g.HasPlainPorts) (hg : g.HasStorableNodes) :
    g.eligibility.canConnect a b = g.canJoin a b ↔ ¬ g.Mistakes a b := by
  have hConnect := canConnect_iff (a := a) (b := b) (h.isPrepared hg)
  constructor
  · intro hSame hMistakes
    have hJoin : g.canJoin a b = true := hSame ▸ hConnect.2 (.inr hMistakes)
    -- a key that can be joined is that of a port of the graph, and these are not mistaken
    have hNode := h.node_of_hasPortAt hg (hasPortAt_of_canJoin (h.isPrepared hg) hJoin)
    exact h.not_mistakes hg hNode.1 hNode.2 hMistakes
  · intro hNot
    rw [Bool.eq_iff_iff, hConnect]
    exact or_iff_left hNot

end HasPlainPorts

end Graph

end FlowCanvas
