import FlowCanvas.Proofs.Graph.Deleting
import FlowCanvas.Proofs.Graph.Dropping
import FlowCanvas.Proofs.Graph.TableSync
import FlowCanvas.Proofs.Table.Clearing
import Mathlib

/-!
# What removing connections does

Connections are removed one by one, with tables forgetting routes as they go, or all at once, with
tables forgetting routes in the end. Either way the result can be told from what is removed and what
is left (`Graph.without`), where nothing depends on the order. Removing in two steps is removing
together (`Graph.without_without`) if the connections that leave one output, however its role is
written, are all taken for connections of a decision output or none is.
-/

set_option autoImplicit false

namespace FlowCanvas

instance (lost left : List Connection) (id : ItemId) (role : Role) :
    Decidable (Vacates lost left id role) :=
  inferInstanceAs (Decidable (_ ∧ _))

/-- Whether a node vacates an output depends only on which connections are lost and left. -/
theorem vacates_congr {lost lost' left left' : List Connection}
    (hLost : ∀ c, c ∈ lost ↔ c ∈ lost') (hLeft : ∀ c, c ∈ left ↔ c ∈ left') (id : ItemId)
    (role : Role) : Vacates lost left id role ↔ Vacates lost' left' id role := by
  unfold Vacates
  simp only [hLost, hLeft]

/-! ## Tables that are cleared -/

namespace Graph

variable {g g' : Graph} {c : Connection} {ids : List ConnectionId}

/-- The graph in whose decision tables the outputs with lost roles lead nowhere. -/
def clear (g : Graph) (lost : ItemId → Role → Bool) : Graph :=
  { g with
    nodes := g.nodes.modify (fun n => n.mapTable (·.clear (lost n.id))) (fun n => n.id_mapTable _) }

/-- A graph of which nothing is lost stays as it is. -/
@[simp] theorem clear_false (g : Graph) : g.clear (fun _ _ => false) = g :=
  eq_of_toList_eq
    (Lists.map_eq_self fun _ _ => Node.mapTable_eq_self fun t _ => t.clear_false) rfl rfl

/-- Clearing a graph twice is clearing what is lost either time. -/
theorem clear_clear (g : Graph) (lost lost' : ItemId → Role → Bool) :
    (g.clear lost').clear lost = g.clear fun id r => lost id r || lost' id r := by
  refine eq_of_toList_eq ?_ rfl rfl
  show (g.nodes.toList.map _).map _ = g.nodes.toList.map _
  rw [List.map_map]
  apply List.map_congr_left
  intro n _
  rw [Function.comp_apply, Node.id_mapTable, Node.mapTable_mapTable]
  congr 1
  funext t
  exact t.clear_clear _ _

/-- Clearing a graph clears the tables that it finds. -/
theorem tableOf?_clear (g : Graph) (lost : ItemId → Role → Bool) (id : ItemId) :
    (g.clear lost).tableOf? id = (g.tableOf? id).map (·.clear (lost id)) := by
  have hFind : (g.clear lost).node? id =
      (g.node? id).map fun n => n.mapTable (·.clear (lost n.id)) := by
    show List.find? _ (g.nodes.toList.map _) = Option.map _ (List.find? _ _)
    rw [List.find?_map]
    congr 2
    funext n
    exact congrArg (fun key => decide (key = id)) (n.id_mapTable _)
  unfold tableOf?
  rw [hFind]
  cases hNode : g.node? id with
  | none => rfl
  | some n =>
    rw [Option.map_some, Option.bind_some, Option.bind_some, Node.table?_mapTable,
      (node?_eq_some.1 hNode).2]

/-- Making one output of a node's table lead nowhere clears it. If the node is not there, has no
table or no such output, there is nothing to clear. -/
theorem bind?_none_getD (g : Graph) (id : ItemId) (role : Role) :
    (do let n ← g.node? id
        let t ← n.table?
        let t' ← t.bind? role none
        return { g with nodes := g.nodes.put { n with data := .decisionTable t' } }).getD g =
      g.clear fun other r => other == id && r == role.normalize := by
  have hHere : ∀ n : Node, n.id = id →
      n.mapTable (·.clear fun r => n.id == id && r == role.normalize) =
        n.mapTable (·.clear (· == role.normalize)) := by
    intro n hId
    simp only [hId, beq_self_eq_true, Bool.true_and]
  have hOther : ∀ n : Node, n.id ≠ id →
      n.mapTable (·.clear fun r => n.id == id && r == role.normalize) = n := by
    intro n hNe
    simp only [beq_eq_false_iff_ne.2 hNe, Bool.false_and]
    exact Node.mapTable_eq_self fun t _ => t.clear_false
  have hSame : (∀ n, g.node? id = some n → ∀ t, n.data = .decisionTable t →
      t.clear (· == role.normalize) = t) →
        g.clear (fun other r => other == id && r == role.normalize) = g := by
    intro hNode
    refine eq_of_toList_eq (Lists.map_eq_self fun n hn => ?_) rfl rfl
    by_cases hId : n.id = id
    · rw [hHere n hId]
      exact Node.mapTable_eq_self (hNode n (node?_eq_some.2 ⟨hn, hId⟩))
    · exact hOther n hId
  simp only [Option.bind_eq_bind, Option.pure_def]
  cases hNode : g.node? id with
  | none => exact (hSame fun n hn => by rw [hNode] at hn; cases hn).symm
  | some n =>
    rw [hNode] at hSame
    simp only [Option.some.injEq, forall_eq'] at hSame
    rw [Option.bind_some]
    cases hTable : n.table? with
    | none =>
      refine (hSame fun t hData => ?_).symm
      rw [Node.table?_eq_some.2 hData] at hTable
      cases hTable
    | some t =>
      have hData := Node.table?_eq_some.1 hTable
      have hClear := t.bind?_none_getD role
      rw [Option.bind_some]
      cases hBind : t.bind? role none with
      | none =>
        refine (hSame fun u hu => ?_).symm
        rw [hBind, Option.getD_none] at hClear
        obtain rfl : t = u := Payload.decisionTable.inj (hData.symm.trans hu)
        exact hClear.symm
      | some t' =>
        rw [hBind, Option.getD_some] at hClear
        subst hClear
        refine eq_of_toList_eq ?_ rfl rfl
        rw [Option.bind_some, Option.getD_some,
          ← Node.mapTable_of_table (f := (·.clear (· == role.normalize))) hData]
        refine (Roster.toList_put_of_get? (Node.mapTable · (·.clear (· == role.normalize)))
          (fun m => m.id_mapTable _) hNode).trans ?_
        apply List.map_congr_left
        intro m _
        by_cases hId : m.id = id
        · rw [if_pos (show Keyed.key m = id from hId), hHere m hId]
        · rw [if_neg (show Keyed.key m ≠ id from hId), hOther m hId]

/-- By losing one connection a node vacates at most the output that it left by. -/
theorem vacates_singleton {left : List Connection} {id : ItemId} {role : Role} :
    Vacates [c] left id role ↔ (id = c.sourceNode ∧ role = c.sourcePort.role.normalize) ∧
      Vacates [c] left c.sourceNode c.sourcePort.role.normalize := by
  simp only [Vacates, List.mem_singleton, exists_eq_left, true_and, and_true]
  constructor
  · rintro ⟨⟨rfl, hRole, rfl⟩, hLeft⟩
    exact ⟨⟨rfl, rfl⟩, hRole, hLeft⟩
  · rintro ⟨⟨rfl, rfl⟩, hRole, hLeft⟩
    exact ⟨⟨rfl, hRole, rfl⟩, hLeft⟩

/-- Forgetting the route of a removed connection clears the output that it vacates. -/
theorem unroute?_getD (g : Graph) (c : Connection) :
    (g.unroute? c).getD g =
      g.clear fun id role => decide (Vacates [c] g.connections.toList id role) := by
  have hGuard : (!c.sourcePort.role.isDecisionOutput || g.connections.toList.any fun d =>
      d.sourceNode == c.sourceNode &&
        d.sourcePort.role.normalize == c.sourcePort.role.normalize) = true ↔
      ¬ Vacates [c] g.connections.toList c.sourceNode c.sourcePort.role.normalize := by
    simp only [Vacates, List.mem_singleton, exists_eq_left, true_and, and_true]
    cases c.sourcePort.role.isDecisionOutput <;> simp
  have hLost : (fun id role => decide (Vacates [c] g.connections.toList id role)) = fun id role =>
      ((id == c.sourceNode && role == c.sourcePort.role.normalize) &&
        decide (Vacates [c] g.connections.toList c.sourceNode c.sourcePort.role.normalize)) := by
    funext id role
    rw [decide_eq_decide.2 vacates_singleton, Bool.decide_and, Bool.decide_and]
    rfl
  rw [hLost]
  unfold unroute?
  simp only [hGuard, ite_not]
  split
  · rename_i hVacates
    simp only [hVacates, decide_true, Bool.and_true]
    exact g.bind?_none_getD c.sourceNode c.sourcePort.role
  · rename_i hStays
    simp only [hStays, decide_false, Bool.and_false, clear_false, Option.getD_none]

/-! ## Taking connections out together -/

/-- The stored connections with keys in a list. -/
def among (g : Graph) (ids : List ConnectionId) : List Connection :=
  g.connections.toList.filter (ids.contains ·.id)

/-- The stored connections with other keys. -/
def outside (g : Graph) (ids : List ConnectionId) : List Connection :=
  g.connections.toList.filter (!ids.contains ·.id)

/-- The graph without the connections with keys in a list. Outputs that have lost their last
connection lead nowhere. -/
def without (g : Graph) (ids : List ConnectionId) : Graph :=
  (g.dropConnections ((g.among ids).map (·.id))).clear fun id role =>
    decide (Vacates (g.among ids) (g.outside ids) id role)

/-- The connections among some keys are the stored ones with these keys. -/
theorem mem_among : c ∈ g.among ids ↔ c ∈ g.connections.toList ∧ c.id ∈ ids := by
  rw [among, List.mem_filter, List.contains_iff_mem]

/-- The connections outside some keys are the stored ones with other keys. -/
theorem mem_outside : c ∈ g.outside ids ↔ c ∈ g.connections.toList ∧ c.id ∉ ids := by
  simp [outside]

/-- The keys of the connections among some keys are those that are stored. -/
theorem mem_map_among {id : ConnectionId} :
    id ∈ (g.among ids).map Connection.id ↔ id ∈ ids ∧ ∃ c ∈ g.connections.toList, c.id = id := by
  rw [List.mem_map]
  constructor
  · rintro ⟨c, hc, rfl⟩
    exact ⟨(mem_among.1 hc).2, c, (mem_among.1 hc).1, rfl⟩
  · rintro ⟨hId, c, hc, rfl⟩
    exact ⟨c, mem_among.2 ⟨hc, hId⟩, rfl⟩

/-- It does not matter in which form the keys and the connections to remove are listed. -/
theorem clear_dropConnections_eq_without {gone : List ConnectionId} {removed : List Connection}
    (hGone : ∀ id, id ∈ gone ↔ id ∈ (g.among ids).map Connection.id)
    (hRemoved : ∀ c, c ∈ removed ↔ c ∈ g.among ids) :
    (g.dropConnections gone).clear (fun id role =>
      decide (Vacates removed (g.dropConnections gone).connections.toList id role)) =
        g.without ids := by
  have hLeft : ∀ c, c ∈ (g.dropConnections gone).connections.toList ↔ c ∈ g.outside ids := by
    intro c
    rw [mem_dropConnections, mem_outside, hGone, mem_map_among]
    constructor
    · rintro ⟨hc, hKept⟩
      exact ⟨hc, fun hId => hKept ⟨hId, c, hc, rfl⟩⟩
    · rintro ⟨hc, hKept⟩
      exact ⟨hc, fun hId => hKept hId.1⟩
  unfold without
  rw [← dropConnections_congr hGone]
  congr 1
  funext id role
  exact decide_eq_decide.2 (vacates_congr hRemoved hLeft id role)

/-- A graph without connections does not depend on the order and number of their keys. -/
theorem without_congr {ids' : List ConnectionId} (h : ∀ id, id ∈ ids ↔ id ∈ ids') :
    g.without ids = g.without ids' := by
  have hContains : ids.contains = ids'.contains := by
    funext id
    rw [Bool.eq_iff_iff, List.contains_iff_mem, List.contains_iff_mem, h]
  unfold without among outside
  rw [hContains]

/-- Removing no connection that is stored changes nothing. -/
theorem without_of_among_eq_nil (h : g.among ids = []) : g.without ids = g := by
  have hNone : ∀ id role, decide (Vacates [] (g.outside ids) id role) = false := by
    simp [Vacates]
  unfold without
  simp only [h, hNone, List.map_nil, dropConnections_nil, clear_false]

/-- A graph without some connections has those outside their keys. -/
theorem toList_connections_without (g : Graph) (ids : List ConnectionId) :
    (g.without ids).connections.toList = g.outside ids := by
  show g.connections.toList.filter _ = g.connections.toList.filter _
  apply List.filter_congr
  intro c hc
  rw [Bool.eq_iff_iff, Bool.not_eq_true', Bool.not_eq_true', Bool.eq_false_iff, Bool.eq_false_iff,
    Ne, Ne, List.contains_iff_mem, List.contains_iff_mem, mem_map_among]
  exact not_congr (and_iff_left ⟨c, hc, rfl⟩)

/-! ## One after the other -/

/-- Every connection is taken for one that leaves a decision output exactly if it is by the normal
form of its role. -/
def HasStableRoles (g : Graph) : Prop :=
  ∀ c ∈ g.connections.toList,
    c.sourcePort.role.isDecisionOutput = c.sourcePort.role.normalize.isDecisionOutput

/-- Roles stay stable when connections go. -/
theorem HasStableRoles.without (h : g.HasStableRoles) (ids : List ConnectionId) :
    (g.without ids).HasStableRoles := by
  intro c hc
  rw [toList_connections_without] at hc
  exact h c (mem_outside.1 hc).1

/-- What is vacated in one of two steps is what both together vacate. -/
theorem HasStableRoles.vacates_append (h : g.HasStableRoles) (ids ids' : List ConnectionId)
    (id : ItemId) (role : Role) :
    Vacates (g.among (ids ++ ids')) (g.outside (ids ++ ids')) id role ↔
      Vacates ((g.without ids).among ids') ((g.without ids).outside ids') id role ∨
        Vacates (g.among ids) (g.outside ids) id role := by
  have hAmong : ∀ c, c ∈ (g.without ids).among ids' ↔
      c ∈ g.connections.toList ∧ c.id ∉ ids ∧ c.id ∈ ids' := by
    intro c
    rw [mem_among, toList_connections_without, mem_outside, and_assoc]
  have hOutside : ∀ c, c ∈ (g.without ids).outside ids' ↔ c ∈ g.outside (ids ++ ids') := by
    intro c
    rw [mem_outside, toList_connections_without, mem_outside, mem_outside, List.mem_append, not_or,
      and_assoc]
  constructor
  · rintro ⟨⟨c, hc, hSource, hOutput, hRole⟩, hLeft⟩
    obtain ⟨hStored, hId⟩ := mem_among.1 hc
    have hLeft' : ∀ d ∈ (g.without ids).outside ids', d.sourceNode = id →
        d.sourcePort.role.normalize ≠ role := fun d hd => hLeft d ((hOutside d).1 hd)
    by_cases hFirst : c.id ∈ ids
    · by_cases hVacant : ∀ d ∈ g.outside ids, d.sourceNode = id →
          d.sourcePort.role.normalize ≠ role
      · exact .inr ⟨⟨c, mem_among.2 ⟨hStored, hFirst⟩, hSource, hOutput, hRole⟩, hVacant⟩
      · -- another connection stays at the output, and it leaves in the second step
        push Not at hVacant
        obtain ⟨d, hd, hdSource, hdRole⟩ := hVacant
        obtain ⟨hdStored, hdFirst⟩ := mem_outside.1 hd
        have hdSecond : d.id ∈ ids' := by
          by_contra hdSecond
          refine hLeft d (mem_outside.2 ⟨hdStored, ?_⟩) hdSource hdRole
          simp [hdFirst, hdSecond]
        have hdOutput : d.sourcePort.role.isDecisionOutput = true := by
          rw [h d hdStored, hdRole, ← hRole, ← h c hStored, hOutput]
        exact .inl ⟨⟨d, (hAmong d).2 ⟨hdStored, hdFirst, hdSecond⟩, hdSource, hdOutput, hdRole⟩,
          hLeft'⟩
    · have hSecond : c.id ∈ ids' := (List.mem_append.1 hId).resolve_left hFirst
      exact .inl ⟨⟨c, (hAmong c).2 ⟨hStored, hFirst, hSecond⟩, hSource, hOutput, hRole⟩, hLeft'⟩
  · rintro (⟨⟨c, hc, hEnds⟩, hLeft⟩ | ⟨⟨c, hc, hEnds⟩, hLeft⟩)
    · obtain ⟨hStored, -, hSecond⟩ := (hAmong c).1 hc
      refine ⟨⟨c, mem_among.2 ⟨hStored, List.mem_append_right _ hSecond⟩, hEnds⟩, ?_⟩
      exact fun d hd => hLeft d ((hOutside d).2 hd)
    · obtain ⟨hStored, hFirst⟩ := mem_among.1 hc
      refine ⟨⟨c, mem_among.2 ⟨hStored, List.mem_append_left _ hFirst⟩, hEnds⟩, ?_⟩
      intro d hd
      obtain ⟨hdStored, hdKept⟩ := mem_outside.1 hd
      exact hLeft d (mem_outside.2 ⟨hdStored, fun hIn => hdKept (List.mem_append_left _ hIn)⟩)

/-- Removing connections in two steps is removing them together. -/
theorem HasStableRoles.without_without (h : g.HasStableRoles) (ids ids' : List ConnectionId) :
    (g.without ids).without ids' = g.without (ids ++ ids') := by
  have hKeys : ∀ id, id ∈ (g.among ids).map Connection.id ++
      ((g.without ids).among ids').map Connection.id ↔
        id ∈ (g.among (ids ++ ids')).map Connection.id := by
    intro id
    rw [List.mem_append, mem_map_among, mem_map_among, mem_map_among, toList_connections_without,
      List.mem_append]
    simp only [mem_outside]
    constructor
    · rintro (⟨hId, hStored⟩ | ⟨hId, c, ⟨hc, -⟩, hKey⟩)
      · exact ⟨.inl hId, hStored⟩
      · exact ⟨.inr hId, c, hc, hKey⟩
    · rintro ⟨hId, c, hc, rfl⟩
      by_cases hFirst : c.id ∈ ids
      · exact .inl ⟨hFirst, c, hc, rfl⟩
      · exact .inr ⟨hId.resolve_left hFirst, c, ⟨hc, hFirst⟩, rfl⟩
  have hDrop : (g.without ids).dropConnections (((g.without ids).among ids').map (·.id)) =
      (g.dropConnections ((g.among (ids ++ ids')).map (·.id))).clear fun id role =>
        decide (Vacates (g.among ids) (g.outside ids) id role) := by
    rw [← dropConnections_congr hKeys, ← dropConnections_dropConnections]
    rfl
  conv_lhs => rw [Graph.without]
  rw [hDrop, clear_clear, Graph.without]
  congr 1
  funext id role
  rw [← Bool.decide_or]
  exact decide_eq_decide.2 (h.vacates_append ids ids' id role).symm

/-! ## All ways to remove connections -/

/-- Removing one connection, if it is there. -/
theorem IsStorable.removeConnection?_getD (hg : g.IsStorable) (id : ConnectionId) :
    (g.removeConnection? id).getD g = g.without [id] := by
  have hAmong : ∀ d, d ∈ g.among [id] ↔ g.connection? id = some d := by
    intro d
    rw [mem_among, List.mem_singleton]
    exact Roster.get?_eq_some_iff.symm
  cases hFound : g.connection? id with
  | none =>
    have hNone : g.removeConnection? id = none := by
      unfold removeConnection?
      rw [hFound]
      split <;> rfl
    rw [hNone, Option.getD_none, without_of_among_eq_nil]
    rw [List.eq_nil_iff_forall_not_mem]
    intro d hd
    rw [hAmong, hFound] at hd
    cases hd
  | some c =>
    obtain ⟨hc, hId⟩ := Roster.get?_eq_some_iff.1 hFound
    have hOrdinary : id.isVirtual = false := by
      have hVirtual := hg.isVirtual_eq c hc
      rw [Connection.isVirtual, Bool.or_eq_false_iff] at hVirtual
      exact hId ▸ hVirtual.2
    have hOnly : ∀ d, d ∈ [c] ↔ d ∈ g.among [id] := by
      intro d
      rw [hAmong, hFound, List.mem_singleton, Option.some.injEq, eq_comm]
    unfold removeConnection?
    rw [hOrdinary, hFound]
    simp only [Bool.false_eq_true, if_false, Option.map_some, Option.getD_some]
    rw [unroute?_getD, clear_dropConnections_eq_without _ hOnly]
    intro key
    rw [mem_map_among, List.mem_singleton]
    constructor
    · rintro rfl
      exact ⟨rfl, c, hc, hId⟩
    · exact And.left

/-- Removing connections one by one. -/
theorem IsStorable.foldl_removeConnection? (hg : g.IsStorable) (h : g.HasStableRoles)
    (ids : List ConnectionId) :
    ids.foldl (fun g id => (g.removeConnection? id).getD g) g = g.without ids := by
  induction ids generalizing g with
  | nil => exact (without_of_among_eq_nil (List.filter_eq_nil_iff.2 (by simp))).symm
  | cons id rest ih =>
    have hFirst := hg.removeConnection?_getD id
    have hStorable : ((g.removeConnection? id).getD g).IsStorable := by
      cases hRemove : g.removeConnection? id with
      | none => exact hg
      | some g' => exact hg.shrinks (removeConnection?_shrinks hRemove)
    rw [List.foldl_cons, ih hStorable (hFirst ▸ h.without [id]), hFirst, h.without_without,
      List.singleton_append]

/-- Removing a list of connections. -/
theorem removeConnections_eq_foldl (g : Graph) (ids : List ConnectionId) :
    (g.removeConnections ids).1 = ids.foldl (fun g id => (g.removeConnection? id).getD g) g := by
  induction ids generalizing g with
  | nil => rfl
  | cons id rest ih =>
    rw [List.foldl_cons, ← ih]
    conv_lhs => rw [removeConnections]
    cases g.removeConnection? id <;> rfl

/-- Tables that forget the routes of removed connections are cleared of all outputs that these
vacate. -/
theorem unrouteAll_eq_clear (removed : List Connection) (g : Graph) :
    (g.unrouteAll removed).1 =
      g.clear fun id role => decide (Vacates removed g.connections.toList id role) := by
  induction removed generalizing g with
  | nil =>
    have hNone : ∀ id role, decide (Vacates [] g.connections.toList id role) = false := by
      simp [Vacates]
    simp only [hNone, clear_false]
    rfl
  | cons c rest ih =>
    have hFirst := g.unroute?_getD c
    have hStep : (g.unrouteAll (c :: rest)).1 = (((g.unroute? c).getD g).unrouteAll rest).1 := by
      conv_lhs => rw [unrouteAll]
      cases g.unroute? c <;> rfl
    rw [hStep, ih, hFirst, clear_clear]
    congr 1
    funext id role
    rw [← Bool.decide_or]
    refine decide_eq_decide.2 ?_
    show Vacates rest g.connections.toList id role ∨ Vacates [c] g.connections.toList id role ↔ _
    simp only [Vacates, List.mem_singleton, List.exists_mem_cons_iff, exists_eq_left]
    rw [← or_and_right, or_comm]

/-- Deleting nothing but connections. -/
theorem IsStorable.delete_connections (hg : g.IsStorable) (ids : List ConnectionId) :
    (g.delete { connections := ids }).1 = g.without ids := by
  set gone := (g.doomed { connections := ids }).sorted with hGone
  have hNodes : gone.nodes = [] := rfl
  have hGroups : gone.groups = [] := rfl
  have hMem : ∀ id, id ∈ gone.connections ↔ id ∈ (g.among ids).map Connection.id := by
    intro id
    rw [hGone, Selection.sorted, Ordered.mem_ofList, mem_connections_doomed hg, mem_map_among]
    constructor
    · rintro ⟨c, hc, rfl, ⟨-, hId⟩ | ⟨n, hn, -⟩⟩
      · exact ⟨hId, c, hc, rfl⟩
      · exact absurd hn List.not_mem_nil
    · rintro ⟨hId, c, hc, rfl⟩
      exact ⟨c, hc, rfl, .inl ⟨hg.isVirtual_eq c hc, hId⟩⟩
  have hRest : g.withoutSelection { connections := ids } = g.dropConnections gone.connections := by
    have hParent : ∀ link : Option ItemId, link.filter (fun _ => true) = link := by
      intro link
      cases link <;> rfl
    refine eq_of_toList_eq ?_ rfl ?_
    · rw [nodes_withoutSelection, ← hGone, hNodes, hGroups]
      simp only [List.contains_nil, Bool.not_false, List.filter_true, hParent]
      exact List.map_id _
    · rw [groups_withoutSelection, ← hGone, hGroups]
      unfold Group.withoutGone
      simp only [hGroups, List.contains_nil, Bool.not_false, List.filter_true, hParent]
      rfl
  rw [delete_eq hg.nodes, unrouteAll_eq_clear, hRest, ← hGone]
  refine clear_dropConnections_eq_without hMem fun c => ?_
  rw [mem_filterMap_connection?, List.mem_filter, List.contains_iff_mem, hMem, mem_map_among,
    mem_among]
  constructor
  · rintro ⟨hc, hId, -⟩
    exact ⟨hc, hId⟩
  · rintro ⟨hc, hId⟩
    exact ⟨hc, hId, c, hc, rfl⟩

end Graph

end FlowCanvas
