import FlowCanvas.Proofs.Graph.Redrawing
import FlowCanvas.Proofs.Graph.Storing
import Mathlib

/-!
# What an update of a node can reach

An update of a node replaces that node, and if it is a decision table whose routing has changed, the
connections that leave its outputs follow. Nothing else can change (`Graph.ChangesOnly`), apart from
the records of groups, which lose the keys of connections that have been dropped.
-/

set_option autoImplicit false

namespace FlowCanvas

namespace Graph

/-- Only one node and what leaves it by decision outputs differs between two graphs. -/
structure ChangesOnly (g : Graph) (id : ItemId) (g' : Graph) : Prop where
  /-- The nodes keep their ids and their order, and all but the one stay as they are. -/
  nodes : List.Forall₂ (fun n n' => n'.id = n.id ∧ (n.id ≠ id → n' = n))
    g.nodes.toList g'.nodes.toList
  /-- So do the connections that do not leave the node by a decision output. -/
  others : g'.connections.toList.filter (!leaves id ·) =
    g.connections.toList.filter (!leaves id ·)
  /-- All connections stay, unless the node is a decision table whose routes or ports differ. -/
  connections : g'.connections = g.connections ∨ ∃ n n' t t', g.node? id = some n ∧
    g'.node? id = some n' ∧ n.data = .decisionTable t ∧ n'.data = .decisionTable t' ∧
      (t'.bindings ≠ t.bindings ∨ n'.ports ≠ n.ports)
  /-- Groups only forget connections that have been dropped. -/
  groups : g'.groups =
    (g.forget ((g.connections.toList.filter (· ∉ g'.connections.toList)).map (·.id))).groups

variable {g g' : Graph} {id : ItemId} {t : DecisionTable} {c : Connection} {n : Node}

/-- If no connection is dropped, groups need not forget any. -/
theorem groups_forget_nil (g : Graph) : (g.forget []).groups = g.groups := by
  show (g.dropConnections []).groups = g.groups
  rw [dropConnections_nil]

/-- A change of one node alone, with all connections and records kept, stays within its frame. -/
theorem ChangesOnly.of_eq (hNodes : List.Forall₂ (fun n n' => n'.id = n.id ∧ (n.id ≠ id → n' = n))
      g.nodes.toList g'.nodes.toList) (hConnections : g'.connections = g.connections)
    (hGroups : g'.groups = g.groups) : g.ChangesOnly id g' where
  nodes := hNodes
  others := by rw [hConnections]
  connections := .inl hConnections
  groups := by
    have hNone : g.connections.toList.filter (· ∉ g'.connections.toList) = [] := by
      rw [hConnections, List.filter_eq_nil_iff]
      intro c hc
      simpa using hc
    rw [hNone, List.map_nil, groups_forget_nil, hGroups]

/-- A graph that stays as it is changes within every frame. -/
theorem ChangesOnly.refl (g : Graph) (id : ItemId) : g.ChangesOnly id g :=
  .of_eq (List.forall₂_same.2 fun _ _ => ⟨rfl, fun _ => rfl⟩) rfl rfl

/-- Putting a stored node in leaves all other nodes in their places as they are. -/
theorem forall₂_putNode {stored : Node} (hStored : g.node? n.id = some stored) :
    List.Forall₂ (fun m m' => m'.id = m.id ∧ (m.id ≠ n.id → m' = m)) g.nodes.toList
      (g.putNode n).nodes.toList := by
  obtain ⟨hMem, hId⟩ := node?_eq_some.1 hStored
  show List.Forall₂ _ _ (g.nodes.put n.prepare).toList
  rw [Roster.toList_put_of_key_eq hMem (hId.trans n.prepare_id.symm)]
  unfold Roster.replaced
  rw [List.forall₂_map_right_iff, List.forall₂_same]
  intro m _
  split
  · rename_i hSame
    have hHere : m.id = n.prepare.id := hSame
    exact ⟨hHere.symm, fun hNe => absurd (hHere.trans n.prepare_id) hNe⟩
  · exact ⟨rfl, fun _ => rfl⟩

/-- Putting in a node changes only that node. -/
theorem changesOnly_putNode {stored : Node} (hStored : g.node? n.id = some stored) :
    g.ChangesOnly n.id (g.putNode n) :=
  .of_eq (forall₂_putNode hStored) rfl rfl

/-- When the connections of a table are brought in line, those stay that are there afterwards. -/
theorem Reroutes.staysOn_iff (h : g.Reroutes id t g') (hc : c ∈ g.connections.toList) :
    g.staysOn id t c = true ↔ c ∈ g'.connections.toList := by
  obtain ⟨drawn, hList, -⟩ := h.connections
  have hKept : ∀ d ∈ g.connections.toList, g.staysOn id t d = true →
      d ∈ g'.connections.toList := by
    intro d hd hStays
    rw [hList]
    exact List.mem_append_left _ (List.mem_filter.2 ⟨hd, hStays⟩)
  refine ⟨hKept c hc, fun hAfter => ?_⟩
  by_cases hLeaves : leaves id c = true
  · obtain ⟨target, hTarget, hBinding⟩ := h.follows c hAfter hLeaves
    have hRoute : g.isOnRoute t c = true := by
      refine isOnRoute_iff.2 ⟨target, ?_, hBinding⟩
      unfold node? at hTarget ⊢
      rwa [h.nodes] at hTarget
    -- the first connection on the route stays, and it is the only one there
    obtain ⟨d, hd, hdLeaves, hdStays, hRole⟩ := exists_staysOn hc hLeaves hRoute
    rw [h.apart c hAfter d (hKept d hd hdStays) hLeaves hdLeaves hRole.symm]
    exact hdStays
  · simp [staysOn, hLeaves]

/-- Bringing the connections of a table in line changes only connections that leave it. -/
theorem Reroutes.others (h : g.Reroutes id t g') :
    g'.connections.toList.filter (!leaves id ·) = g.connections.toList.filter (!leaves id ·) := by
  obtain ⟨drawn, hList, hDrawn⟩ := h.connections
  have hNone : drawn.filter (!leaves id ·) = [] := by
    rw [List.filter_eq_nil_iff]
    intro c hc
    obtain ⟨role, name, port, hBinding, -, rfl⟩ := hDrawn c hc
    simp [leaves_of_mem_bindings hBinding]
  rw [hList, List.filter_append, hNone, List.append_nil, List.filter_filter]
  apply List.filter_congr
  intro c _
  cases hLeaves : leaves id c <;> simp [staysOn, hLeaves]

/-- An update of a node changes only that node and what leaves it by decision outputs. -/
theorem changesOnly_updateNode? (hg : g.HasStorableNodes) {keepConnections : Bool}
    {refusals : List Refusal} (h : g.updateNode? n keepConnections = some (g', refusals)) :
    g.ChangesOnly n.id g' := by
  cases keepConnections with
  | true =>
    obtain ⟨stored, hStored, hResult⟩ := Option.map_eq_some_iff.1 h
    cases hResult
    exact changesOnly_putNode hStored
  | false =>
    obtain ⟨stored, hStored, ⟨-, rfl⟩ | ⟨t, u, hOld, hNew, hChanged, hReroute⟩⟩ :=
      updateNode?_eq_some h
    · exact changesOnly_putNode hStored
    · have hNode : (g.putNode n).node? n.id = some n.prepare := by rw [node?_putNode, if_pos rfl]
      have hReroutes := reroutes_reroute? (hasStorableNodes_putNode hg n)
        (tableOf?_eq_some.2 ⟨_, hNode, hNew⟩) hReroute
      constructor
      case nodes =>
        rw [hReroutes.nodes]
        exact forall₂_putNode hStored
      case others => exact hReroutes.others
      case connections =>
        refine .inr ⟨stored, n.prepare, t, u, hStored, ?_, hOld, hNew, ?_⟩
        · rw [node?, hReroutes.nodes]
          exact hNode
        · unfold routingChanged at hChanged
          rw [Node.table?_eq_some.2 hOld, Node.table?_eq_some.2 hNew] at hChanged
          simp only [Bool.or_eq_true, bne_iff_ne] at hChanged
          exact hChanged.imp Ne.symm Ne.symm
      case groups =>
        rw [hReroutes.groups]
        have hDropped : (g.putNode n).connections.toList.filter (!(g.putNode n).staysOn n.id u ·) =
            g.connections.toList.filter (· ∉ g'.connections.toList) := by
          apply List.filter_congr
          intro c hc
          rw [Bool.eq_iff_iff, Bool.not_eq_true', decide_eq_true_iff, ← hReroutes.staysOn_iff hc,
            Bool.not_eq_true]
        rw [hDropped]
        rfl

/-! ## Updates without a change -/

/-- A node has the routing that it has. -/
theorem routingChanged_self (n : Node) : routingChanged n n = false := by
  unfold routingChanged
  cases n.table? with
  | none => rfl
  | some t => simp

/-- An update by what is stored already changes nothing, and draws nothing. -/
theorem updateNode?_eq_self (hg : g.HasStorableNodes) (hn : g.node? n.id = some n)
    (keepConnections : Bool) : g.updateNode? n keepConnections = some (g, []) := by
  have hStored := (node?_eq_some.1 hn).1
  have hPrepare : n.prepare = n := hg n hStored
  have hPut : g.putNode n = g := by
    unfold putNode
    rw [hPrepare, Roster.put_eq_self hStored]
  unfold updateNode?
  rw [hn, hPrepare, hPut, Option.map_some]
  simp only [routingChanged_self, Bool.and_false, Bool.false_eq_true, if_false]

end Graph

end FlowCanvas
