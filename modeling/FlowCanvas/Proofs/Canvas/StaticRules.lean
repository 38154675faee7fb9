import FlowCanvas.Canvas.Basic
import FlowCanvas.Proofs.Graph.Flatness
import FlowCanvas.Proofs.Graph.Partners
import Mathlib

/-!
# Static rules

The static rules judge two ports by the texts of their keys (`canEverJoin`): they look up what the
roles in the texts stand for, whereas a graph asks the ports themselves. Both say the same about
ports that nodes have by default, as long as nothing is connected. Decisive is that reading a role
back from a text, which loses what follows a colon, does not lose the family of the role.
-/

set_option autoImplicit false

namespace FlowCanvas

namespace Role

/-- What is left of a role when it is read back from a text. -/
def upToColon (r : Role) : Role := ⟨String.ofList (PortId.upToColon r.text.toList)⟩

/-- A role without a colon is read back as it is. -/
theorem upToColon_eq_self {r : Role} (h : r.IsColonFree) : r.upToColon = r := by
  unfold upToColon
  rw [PortId.upToColon_of_notMem h, String.ofList_toList]

/-- A role that starts like that of a group's output belongs to the family of these outputs. -/
theorem family_of_startsWith {r : Role} (h : Text.startsWith r.text decisionOutFront = true) :
    r.family = decisionOut := by
  unfold family
  rw [if_pos h]

/-- The role of a group still starts like one when it is read back from a text. -/
theorem startsWith_upToColon_ofGroupName (name : String) :
    Text.startsWith (ofGroupName name).upToColon.text decisionOutFront = true := by
  have hFront : PortId.upToColon (ofGroupName name).text.toList =
      decisionOutFront.toList ++ PortId.upToColon (normalize ⟨name⟩).text.toList := by
    have hColonFree : ∀ c ∈ 'd' :: frontRest, (c != ':') = true := by simp [frontRest]
    unfold PortId.upToColon
    rw [ofGroupName_eq, String.toList_append, toList_decisionOutFront,
      List.takeWhile_append_of_pos hColonFree]
  unfold upToColon
  rw [hFront, ← String.toList_ofList (l := PortId.upToColon _), ← String.toList_append,
    String.ofList_toList]
  exact startsWith_front_append _ _

end Role

/-- Where only roles outside the groups' family or the family itself are listed, a role is accepted
for its family. -/
theorem acceptedBy_eq_any_family {allowed : List Role} (hAllowed : ∀ a ∈ allowed, a.family = a)
    (r : Role) : acceptedBy allowed r = allowed.any (· == r.family) := by
  unfold acceptedBy
  rw [Bool.eq_iff_iff, List.any_eq_true, List.any_eq_true]
  simp only [Bool.or_eq_true, beq_iff_eq]
  constructor
  · rintro ⟨a, ha, hSame | rfl⟩
    · exact ⟨a, ha, hSame⟩
    · exact ⟨a, ha, (hAllowed a ha).symm⟩
  · rintro ⟨a, ha, hSame⟩
    exact ⟨a, ha, .inl hSame⟩

namespace PortSpec

/-- The descriptions that are looked up by roles list families. -/
theorem family_of_mem_allowed {role a : Role} {s : PortSpec} (h : ofRole? role = some s)
    (ha : a ∈ s.allowed) : a.family = a := by
  have hListed : ∀ s ∈ decisionOut :: NodeKind.all.flatMap NodeKind.ports,
      ∀ a ∈ s.allowed, a.family = a := by decide
  unfold ofRole? at h
  split at h
  · cases h
    exact hListed _ List.mem_cons_self a ha
  · exact hListed s (List.mem_cons_of_mem _ (List.mem_of_find?_eq_some h)) a ha

/-- A description that is looked up by a role allows the roles that a port made by it accepts,
though it compares families only. -/
theorem allows_eq_allows_on {role : Role} {s : PortSpec} (h : ofRole? role = some s) (node : ItemId)
    (r : Role) : s.allows r = (s.on node).allows r :=
  (acceptedBy_eq_any_family (fun _ => family_of_mem_allowed h) r).symm

/-- A port that can be looked up by its role, even if what follows a colon is lost. -/
structure IsRuled (s : PortSpec) : Prop where
  isReadable : s.role.IsReadable
  ofRole? : ∃ rule, PortSpec.ofRole? s.role.upToColon = some rule ∧
    rule.direction = s.direction ∧ rule.allowed = s.allowed
  family_eq : s.role.upToColon.family = s.role.family

/-- The ports of the kinds of nodes can be looked up by their roles. -/
theorem IsListed.isRuled {s : PortSpec} (h : s.IsListed) : s.IsRuled := by
  have hAll : ∀ s ∈ NodeKind.all.flatMap NodeKind.ports, PortSpec.ofRole? s.role = some s := by
    decide
  have hPlain := h.isPlain
  have hSelf := Role.upToColon_eq_self hPlain.colon
  exact ⟨hPlain.hasStart.isReadable, ⟨s, by rw [hSelf]; exact hAll s h, rfl, rfl⟩, by rw [hSelf]⟩

/-- The output of a group can be looked up by its role, whatever the name of the group is. -/
theorem isRuled_decisionOut (name : String) :
    IsRuled { decisionOut with role := .ofGroupName name } where
  isReadable := (Role.hasStart_ofGroupName name).isReadable
  ofRole? := by
    have hFamily := Role.family_of_startsWith (Role.startsWith_upToColon_ofGroupName name)
    refine ⟨decisionOut, ?_, rfl, rfl⟩
    unfold PortSpec.ofRole?
    rw [if_pos hFamily]
  family_eq := by
    rw [Role.family_of_startsWith (Role.startsWith_upToColon_ofGroupName name),
      Role.family_ofGroupName]

/-- What is looked up for a port by its role allows what the port accepts, even if what follows a
colon in the role is lost on both sides. -/
theorem IsRuled.exists_rule {p q : Port} (hp : p.spec.IsRuled) (hq : q.spec.IsRuled) :
    ∃ rule, PortSpec.ofRole? p.role.upToColon = some rule ∧ rule.direction = p.spec.direction ∧
      rule.allows q.role.upToColon = p.allows q.role := by
  obtain ⟨rule, hRule, hDirection, hAllowed⟩ := hp.ofRole?
  refine ⟨rule, hRule, hDirection, ?_⟩
  have hFamilies : ∀ a ∈ p.spec.allowed, a.family = a :=
    hAllowed ▸ fun _ => family_of_mem_allowed hRule
  have hFamily : q.role.upToColon.family = q.role.family := hq.family_eq
  unfold Port.allows
  rw [acceptedBy_eq_any_family hFamilies, ← hFamily, ← hAllowed, allows]

end PortSpec

/-- The ports of a decision table can be looked up, whatever the names of its groups are. -/
theorem DecisionTable.isRuled_portSpec {t : DecisionTable} {r : Role}
    (hr : r ∈ Role.tableIn :: t.outputRoles) : (portSpec r).IsRuled := by
  rcases List.mem_cons.1 hr with rfl | hOutput
  · exact isListed_portSpec_tableIn.isRuled
  · rw [outputRoles_eq, List.mem_append] at hOutput
    rcases hOutput with hGroup | hFixed
    · obtain ⟨g, -, rfl⟩ := List.mem_map.1 hGroup
      unfold portSpec ConditionGroup.role
      rw [if_neg (Role.ofGroupName_ne_tableIn _), if_neg (Role.ofGroupName_ne_decisionDefault _),
        if_neg (Role.ofGroupName_ne_decisionError _)]
      exact PortSpec.isRuled_decisionOut g.name
    · simp only [List.mem_cons, List.not_mem_nil, or_false] at hFixed
      rcases hFixed with rfl | rfl <;>
        exact PortSpec.IsListed.isRuled (by unfold PortSpec.IsListed; decide)

namespace Node

/-- A node that can be named in a text and has the ports that follow from its data. -/
structure IsPristine (n : Node) : Prop where
  nonempty : n.id.text ≠ ""
  underscore : '_' ∉ n.id.text.toList
  ports_eq : n.ports = n.defaultPorts

namespace IsPristine

variable {n : Node} {p : Port}

/-- Ports that a node has by default can be looked up, and have the keys that belong to them. -/
theorem isRuled (h : n.IsPristine) (hp : p ∈ n.ports) :
    p.spec.IsRuled ∧ p.id = ⟨n.id, p.role⟩ := by
  rw [h.ports_eq] at hp
  unfold defaultPorts Payload.ports at hp
  split at hp
  · rename_i t _
    rw [DecisionTable.ports_eq] at hp
    obtain ⟨r, hr, rfl⟩ := List.mem_map.1 hp
    exact ⟨DecisionTable.isRuled_portSpec hr, rfl⟩
  · obtain ⟨s, hs, rfl⟩ := List.mem_map.1 hp
    exact ⟨(PortSpec.isListed_of_mem_ports hs).isRuled, rfl⟩

/-- The text of a port is read as the port, apart from what follows a colon in its role. -/
theorem parse_text (h : n.IsPristine) (hp : p ∈ n.ports) :
    PortId.parse p.id.text = .ok ⟨n.id, p.role.upToColon⟩ := by
  obtain ⟨hRuled, hId⟩ := h.isRuled hp
  rw [hId]
  exact PortId.parse_eq_ok_iff.2 ⟨p.role.text.toList, PortId.toList_text _, h.underscore,
    fun hEmpty => h.nonempty (String.toList_eq_nil_iff.1 hEmpty), by simp [Role.upToColon],
    PortId.upToColon_ne_nil_of_isReadable hRuled.isReadable⟩

/-- Storing a node with the ports that follow from its data leaves them as they are. -/
theorem prepare_ports (h : n.IsPristine) : n.prepare.ports = n.ports := by
  cases hTable : n.table? with
  | none =>
    rw [prepare_of_table?_eq_none hTable]
    refine Lists.map_eq_self fun p hp => ?_
    unfold Port.boundTo
    rw [← (h.isRuled hp).2]
  | some t =>
    have hData := table?_eq_some.1 hTable
    rw [prepare_table hData, h.ports_eq, defaultPorts, hData]
    show t.revalidate.ports n.id = t.ports n.id
    rw [DecisionTable.ports_eq, DecisionTable.ports_eq,
      (DecisionTable.isFresh_revalidate t).revalidate_eq]

/-- A pristine node is prepared as soon as it is ready to be stored. -/
theorem isPrepared (h : n.IsPristine) : n.prepare.IsPrepared := by
  refine isPrepared_prepare fun hNone => ?_
  have hPorts : n.ports = n.kind.ports.map (·.on n.id) := by
    rw [h.ports_eq, defaultPorts, kind]
    unfold table? at hNone
    cases hData : n.data <;> simp_all [Payload.ports, Payload.table?]
  rw [hPorts, List.map_map]
  show (n.kind.ports.map PortSpec.role).Nodup
  cases n.kind <;> decide

end IsPristine

end Node

/-! ## Judging texts -/

/-- The static rules do not tell which of two texts comes first. -/
theorem canEverJoin_comm (s t : String) : canEverJoin s t = canEverJoin t s := by
  unfold canEverJoin
  cases PortId.parse s with
  | error => cases PortId.parse t <;> rfl
  | ok a =>
    cases PortId.parse t with
    | error => rfl
    | ok b =>
      simp only
      cases PortSpec.ofRole? a.role with
      | none => cases PortSpec.ofRole? b.role <;> rfl
      | some p =>
        cases PortSpec.ofRole? b.role with
        | none => rfl
        | some q =>
          simp only
          rw [bne_comm, Direction.pairsWith_comm, Bool.and_assoc, Bool.and_comm (p.allows b.role),
            ← Bool.and_assoc]

/-- Of two ports that nodes have by default, the static rules say what the ports themselves say. -/
theorem canEverJoin_eq {m n : Node} (hm : m.IsPristine) (hn : n.IsPristine) {p q : Port}
    (hp : p ∈ m.ports) (hq : q ∈ n.ports) :
    canEverJoin p.id.text q.id.text = (m.id != n.id && p.fits q) := by
  obtain ⟨r, hr, hrDirection, hrAllows⟩ := (hm.isRuled hp).1.exists_rule (hn.isRuled hq).1
  obtain ⟨s, hs, hsDirection, hsAllows⟩ := (hn.isRuled hq).1.exists_rule (hm.isRuled hp).1
  unfold canEverJoin Port.fits
  rw [hm.parse_text hp, hn.parse_text hq]
  simp only [hr, hs]
  rw [hrDirection, hrAllows, hsDirection, hsAllows, Bool.and_assoc, Bool.and_assoc, Bool.and_assoc]

/-! ## Asking a canvas -/

namespace Graph

variable {g : Graph} {a b : PortId} {m n : Node} {p q : Port}

/-- As long as nothing is connected, ports of different nodes can be joined exactly if they fit. -/
theorem canJoin_eq_of_connections_eq_nil (hg : g.IsPrepared) (hFree : g.connections.toList = [])
    (ha : g.endpoint? a = some (m, p)) (hb : g.endpoint? b = some (n, q)) :
    g.canJoin a b = (m.id != n.id && p.fits q) := by
  have hJoined : g.areJoined m.id n.id = false := by simp [areJoined, hFree]
  have hFull : ∀ p, g.isFull p = false := by simp [isFull, isOccupied, hFree]
  have hKeys : m.id ≠ n.id → p.id ≠ q.id := by
    obtain ⟨⟨hm, hp⟩, -⟩ := (endpoint?_eq_some_iff hg).1 ha
    obtain ⟨⟨hn, hq⟩, -⟩ := (endpoint?_eq_some_iff hg).1 hb
    rw [(hg m hm).isStorable.id_of_mem_ports hp, (hg n hn).isStorable.id_of_mem_ports hq]
    exact fun hOther hSame => hOther (PortId.mk.inj hSame).1
  have hNone : (g.obstacle? m p n q).isNone = true ↔ m.id ≠ n.id ∧ p.fits q = true := by
    rw [Option.isNone_iff_eq_none, obstacle?_eq_none_iff]
    constructor
    · rintro ⟨⟨-, hOther⟩, -, -, -, hFits⟩
      exact ⟨hOther, hFits⟩
    · rintro ⟨hOther, hFits⟩
      exact ⟨⟨hKeys hOther, hOther⟩, hJoined, hFull p, hFull q, hFits⟩
  unfold canJoin
  rw [ha, hb, Bool.eq_iff_iff, Bool.and_eq_true, bne_iff_ne]
  exact hNone

/-- No two ports of one node can be joined. -/
theorem canJoin_eq_false_of_node_eq (h : a.node = b.node) : g.canJoin a b = false := by
  rw [Bool.eq_false_iff]
  intro hJoin
  obtain ⟨m, p, n, q, ha, hb, hNone⟩ := canJoin_eq_true_iff.1 hJoin
  have hm := (node?_eq_some.1 (endpoint?_eq_some.1 ha).1).2
  have hn := (node?_eq_some.1 (endpoint?_eq_some.1 hb).1).2
  exact (obstacle?_eq_none_iff.1 hNone).1.2 (by rw [hm, hn, h])

end Graph

namespace Canvas

variable {m n : Node} {p q : Port}

/-- A canvas with just two pristine nodes lets two of their ports be joined if the nodes differ and
the ports fit. -/
theorem canJoin_addNode_addNode (config : Config) (hm : m.IsPristine) (hn : n.IsPristine)
    (hp : p ∈ m.ports) (hq : q ∈ n.ports) :
    ((({ config } : Canvas).addNode m).addNode n).canJoin p.id q.id =
      (m.id != n.id && p.fits q) := by
  have hpId := (hm.isRuled hp).2
  have hqId := (hn.isRuled hq).2
  by_cases hSame : m.id = n.id
  · have hNode : p.id.node = q.id.node := by rw [hpId, hqId, hSame]
    rw [bne_eq_false_iff_eq.2 hSame, Bool.false_and]
    exact Graph.canJoin_eq_false_of_node_eq hNode
  · set g := ((({ config } : Canvas).addNode m).addNode n).graph with hg
    have hGraph : g = (Graph.putNode {} m).putNode n := rfl
    have hPrepared : g.IsPrepared := by
      intro k hk
      rcases Roster.mem_put.1 hk with rfl | ⟨hOld, -⟩
      · exact hn.isPrepared
      · rcases Roster.mem_put.1 hOld with rfl | ⟨hNone, -⟩
        · exact hm.isPrepared
        · simp at hNone
    have hmNode : g.node? m.id = some m.prepare := by
      rw [hGraph, Graph.node?_putNode, if_neg (Ne.symm hSame), Graph.node?_putNode, if_pos rfl]
    have hnNode : g.node? n.id = some n.prepare := by
      rw [hGraph, Graph.node?_putNode, if_pos rfl]
    have ha : g.endpoint? p.id = some (m.prepare, p) :=
      (Graph.endpoint?_eq_some_iff hPrepared).2
        ⟨⟨(Graph.node?_eq_some.1 hmNode).1, hm.prepare_ports ▸ hp⟩, rfl⟩
    have hb : g.endpoint? q.id = some (n.prepare, q) :=
      (Graph.endpoint?_eq_some_iff hPrepared).2
        ⟨⟨(Graph.node?_eq_some.1 hnNode).1, hn.prepare_ports ▸ hq⟩, rfl⟩
    have hJoin := Graph.canJoin_eq_of_connections_eq_nil hPrepared rfl ha hb
    rw [Node.prepare_id, Node.prepare_id] at hJoin
    exact hJoin

/-- The static rules say of two texts what a canvas with just the two nodes says of the ports, and
they say the same whichever text comes first. -/
theorem canEverJoin_exact (config : Config) :
    (∀ m n : Node, m.IsPristine → n.IsPristine → ∀ p ∈ m.ports, ∀ q ∈ n.ports,
      (canEverJoin p.id.text q.id.text = true ↔
        ((({ config } : Canvas).addNode m).addNode n).canJoin p.id q.id = true)) ∧
      ∀ s t, canEverJoin s t = canEverJoin t s := by
  refine ⟨fun m n hm hn p hp q hq => ?_, canEverJoin_comm⟩
  rw [canJoin_addNode_addNode config hm hn hp hq, canEverJoin_eq hm hn hp hq]

/-- A table with a group whose name has all separators in it. -/
def tableOfSeparators : Node :=
  Node.new ⟨"t"⟩ "table" (.decisionTable { groups := [{ name := "a:b_c+d", expression := "x" }] })

/-- The ports of the table and of a piece of code are judged by their texts as by the canvas. -/
theorem canEverJoin_exact_tableOfSeparators :
    let code := Node.new ⟨"p"⟩ "code" (Payload.initial .python)
    (tableOfSeparators.ports.map (·.id.text))[1]? = some "t_decision-out-a:b_c+d" ∧
      canEverJoin "t_decision-out-a:b_c+d" "p_python-in" = true ∧
      ∀ p ∈ tableOfSeparators.ports, ∀ q ∈ code.ports,
        (canEverJoin p.id.text q.id.text = true ↔
          (((({} : Canvas).addNode tableOfSeparators).addNode code).canJoin p.id q.id = true)) := by
  intro code
  have hTable : tableOfSeparators.IsPristine := ⟨by decide, by decide, rfl⟩
  have hCode : code.IsPristine := ⟨by decide, by decide, rfl⟩
  exact ⟨by decide, by decide,
    (canEverJoin_exact {}).1 tableOfSeparators code hTable hCode⟩

end Canvas

end FlowCanvas
