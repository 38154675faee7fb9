import FlowCanvas.Proofs.Graph.Dropping
import FlowCanvas.Proofs.Graph.TableSync
import Mathlib

/-!
# What rerouting drops and draws

Bringing the connections of a decision table in line with its routes (`Graph.Reroutes`) keeps of
those that leave one output the first that leads where the table says, drops the others, and draws
what is missing, as far as the rules allow. A connection that the rules refuse stays refused when
more are drawn, so what is missing at the end is refused at the end, and doing the same again does
nothing (`Graph.Reroutes.again`).
-/

set_option autoImplicit false

namespace FlowCanvas

namespace Graph

/-- Whether a connection leads where a table says that its output leads. -/
def isOnRoute (g : Graph) (t : DecisionTable) (c : Connection) : Bool :=
  isRouted t.bindings c.sourcePort.role.normalize (g.targetName? c)

/-- The first of some connections that leaves an output with a role and leads where the table
says. -/
def firstOnRoute? (g : Graph) (t : DecisionTable) (connections : List Connection) (role : Role) :
    Option Connection :=
  connections.find? fun d => d.sourcePort.role.normalize == role && g.isOnRoute t d

/-- Whether a connection stays when the connections of a table are brought in line: it leaves the
table by no output, or it is the first one at its output that leads where the table says. -/
def staysOn (g : Graph) (id : ItemId) (t : DecisionTable) (c : Connection) : Bool :=
  !leaves id c || g.firstOnRoute? t (g.connections.toList.filter (leaves id))
    c.sourcePort.role.normalize == some c

/-- What bringing the connections of a table in line with its routes makes of a graph. -/
structure Reroutes (g : Graph) (id : ItemId) (t : DecisionTable) (g' : Graph) : Prop where
  nodes : g'.nodes = g.nodes
  /-- The connections that leave the table lead where it says. -/
  follows : ∀ c ∈ g'.connections.toList, leaves id c = true →
    ∃ target, g'.node? c.targetNode = some target ∧
      (c.sourcePort.role.normalize, some target.name) ∈ t.bindings
  /-- No two of them leave one output. -/
  apart : ∀ c ∈ g'.connections.toList, ∀ d ∈ g'.connections.toList, leaves id c = true →
    leaves id d = true → c.sourcePort.role.normalize = d.sourcePort.role.normalize → c = d
  /-- What stays keeps its order, and what is drawn comes after it: connections from outputs of the
  table to the ports at which their routes end. -/
  connections : ∃ drawn, g'.connections.toList =
      g.connections.toList.filter (g.staysOn id t) ++ drawn ∧
    ∀ c ∈ drawn, ∃ role name port, (role, some name) ∈ t.bindings ∧
      g.routeTarget? id role name = some port ∧ c = .between ⟨id, role⟩ port.id
  /-- A route without a connection leads to no node, to a node without a port for it, or to a port
  with which a connection is still refused. -/
  refused : ∀ role name, (role, some name) ∈ t.bindings →
    (∀ c ∈ g'.connections.toList, leaves id c = true → c.sourcePort.role.normalize ≠ role) →
      ∀ target port, g'.nodes.toList.find? (fun n => n.name == name && n.id != id) = some target →
        target.ports.find? (fun p => p.spec.direction.receives && p.allows role) = some port →
          ∃ refusal, g'.addConnection (.between ⟨id, role⟩ port.id) = .error refusal
  /-- Groups forget what has been dropped. -/
  groups : g'.groups =
    (g.forget ((g.connections.toList.filter (!g.staysOn id t ·)).map (·.id))).groups

variable {g g' : Graph} {id : ItemId} {t : DecisionTable} {c : Connection}

/-- A connection is on the route of a table if the table binds its output to the name of its
target. -/
theorem isOnRoute_iff : g.isOnRoute t c = true ↔ ∃ target, g.node? c.targetNode = some target ∧
    (c.sourcePort.role.normalize, some target.name) ∈ t.bindings := by
  unfold isOnRoute targetName?
  rw [isRouted_iff, Option.isSome_map, Option.isSome_iff_exists]
  constructor
  · rintro ⟨⟨target, hTarget⟩, hMem⟩
    rw [hTarget] at hMem
    exact ⟨target, hTarget, hMem⟩
  · rintro ⟨target, hTarget, hMem⟩
    rw [hTarget]
    exact ⟨⟨target, rfl⟩, hMem⟩

/-! ## What stays -/

/-- The first connection on a route is sought from the front. -/
theorem firstOnRoute?_cons (d : Connection) (rest : List Connection) (role : Role) :
    g.firstOnRoute? t (d :: rest) role =
      if d.sourcePort.role.normalize = role ∧ g.isOnRoute t d = true then some d
      else g.firstOnRoute? t rest role := by
  unfold firstOnRoute?
  rw [List.find?_cons]
  by_cases h : d.sourcePort.role.normalize = role ∧ g.isOnRoute t d = true
  · simp [h]
  · rw [if_neg h, (by simpa using h : (d.sourcePort.role.normalize == role && g.isOnRoute t d) =
      false)]

/-- The first connection on a route is one of those searched, at the output, and on the route. -/
theorem mem_of_firstOnRoute? {connections : List Connection} {role : Role}
    (h : g.firstOnRoute? t connections role = some c) :
    c ∈ connections ∧ c.sourcePort.role.normalize = role ∧ g.isOnRoute t c = true := by
  have hFound := List.find?_some h
  rw [Bool.and_eq_true, beq_iff_eq] at hFound
  exact ⟨List.mem_of_find?_eq_some h, hFound⟩

/-- Sifting drops what is not the first connection on its route at an output that is not settled
yet. -/
theorem sift_snd_eq (g : Graph) (t : DecisionTable) (settled : List Role)
    {connections : List Connection} (hIds : (connections.map Connection.id).Nodup) :
    (g.sift t.bindings settled connections).2 = (connections.filter fun c =>
      !(!settled.contains c.sourcePort.role.normalize &&
        g.firstOnRoute? t connections c.sourcePort.role.normalize == some c)).map (·.id) := by
  induction connections generalizing settled with
  | nil => rfl
  | cons d rest ih =>
    rw [List.map_cons, List.nodup_cons] at hIds
    have hNe : ∀ c ∈ rest, d ≠ c := by
      rintro c hc rfl
      exact hIds.1 (List.mem_map_of_mem hc)
    have hNotFirst : g.firstOnRoute? t rest d.sourcePort.role.normalize ≠ some d := fun hFirst =>
      hNe d (mem_of_firstOnRoute? hFirst).1 rfl
    unfold sift
    simp only
    rw [show isRouted t.bindings d.sourcePort.role.normalize
      ((g.node? d.targetNode).map Node.name) = g.isOnRoute t d from rfl]
    split
    · rename_i hKept
      rw [Bool.and_eq_true, Bool.not_eq_true'] at hKept
      have hOpen : d.sourcePort.role.normalize ∉ settled := by simpa using hKept.2
      rw [ih _ hIds.2, List.filter_cons_of_neg (by simp [firstOnRoute?_cons, hKept.1, hOpen])]
      congr 1
      apply List.filter_congr
      intro c hc
      by_cases hRole : d.sourcePort.role.normalize = c.sourcePort.role.normalize
      · simp [firstOnRoute?_cons, hRole, hKept.1, hNe c hc]
      · simp [firstOnRoute?_cons, hRole, Ne.symm hRole]
    · rename_i hDropped
      rw [Bool.and_eq_true, Bool.not_eq_true', not_and, Bool.not_eq_false] at hDropped
      show d.id :: (g.sift t.bindings settled rest).2 = _
      rw [ih _ hIds.2, List.filter_cons_of_pos, List.map_cons]
      · congr 2
        apply List.filter_congr
        intro c hc
        by_cases hRole : d.sourcePort.role.normalize = c.sourcePort.role.normalize ∧
            g.isOnRoute t d = true
        · have hSettled := hDropped hRole.2
          rw [hRole.1] at hSettled
          rw [hSettled]
          rfl
        · rw [firstOnRoute?_cons, if_neg hRole]
      · rw [firstOnRoute?_cons]
        by_cases hRoute : g.isOnRoute t d = true
        · rw [hDropped hRoute]
          rfl
        · simp [hRoute, hNotFirst]

/-- Sifting settles the outputs that a connection on its route leaves. -/
theorem mem_sift_fst {settled : List Role} {connections : List Connection} {role : Role} :
    role ∈ (g.sift t.bindings settled connections).1 ↔
      role ∈ settled ∨ ∃ c ∈ connections, g.isOnRoute t c = true ∧
        c.sourcePort.role.normalize = role := by
  induction connections generalizing settled with
  | nil => simp [sift]
  | cons d rest ih =>
    unfold sift
    simp only
    rw [show isRouted t.bindings d.sourcePort.role.normalize
      ((g.node? d.targetNode).map Node.name) = g.isOnRoute t d from rfl,
      List.exists_mem_cons_iff]
    split
    · rename_i hKept
      rw [Bool.and_eq_true] at hKept
      rw [ih, List.mem_cons, or_assoc, or_left_comm, eq_comm]
      simp only [hKept.1, true_and]
    · rename_i hDropped
      rw [Bool.and_eq_true, Bool.not_eq_true', not_and, Bool.not_eq_false,
        List.contains_iff_mem] at hDropped
      show role ∈ (g.sift t.bindings settled rest).1 ↔ _
      rw [ih]
      constructor
      · exact Or.imp_right Or.inr
      · rintro (hSettled | ⟨hRoute, rfl⟩ | hRest)
        · exact .inl hSettled
        · exact .inl (hDropped hRoute)
        · exact .inr hRest

/-- The keys of the connections that do not stay. -/
theorem stale_eq (g : Graph) (id : ItemId) (t : DecisionTable) :
    g.stale id t = (g.connections.toList.filter (!g.staysOn id t ·)).map (·.id) := by
  unfold stale
  rw [sift_snd_eq g t [] ((List.filter_sublist.map _).nodup g.connections.nodup),
    List.filter_filter]
  congr 1
  apply List.filter_congr
  intro c _
  simp [staysOn, Bool.and_comm]

/-- What is left when the connections that do not stay are dropped. -/
theorem toList_dropConnections_stale (g : Graph) (id : ItemId) (t : DecisionTable) :
    (g.dropConnections (g.stale id t)).connections.toList =
      g.connections.toList.filter (g.staysOn id t) := by
  show g.connections.toList.filter _ = _
  rw [stale_eq]
  apply List.filter_congr
  intro c hc
  rw [Bool.eq_iff_iff, Bool.not_eq_true', Bool.eq_false_iff, Ne, List.contains_iff_mem,
    List.mem_map]
  constructor
  · intro hKept
    by_contra hStays
    exact hKept ⟨c, List.mem_filter.2 ⟨hc, by simpa using hStays⟩, rfl⟩
  · rintro hStays ⟨d, hd, hId⟩
    obtain ⟨hdStored, hdStale⟩ := List.mem_filter.1 hd
    rw [Roster.eq_of_key_eq hdStored hc hId, hStays] at hdStale
    cases hdStale

/-- A connection of the table that stays is the first one on its route at its output. -/
theorem firstOnRoute?_of_staysOn (hStays : g.staysOn id t c = true) (hLeaves : leaves id c = true) :
    g.firstOnRoute? t (g.connections.toList.filter (leaves id)) c.sourcePort.role.normalize =
      some c := by
  simpa [staysOn, hLeaves] using hStays

/-- Where a connection leads where the table says, one stays. -/
theorem exists_staysOn (hc : c ∈ g.connections.toList) (hLeaves : leaves id c = true)
    (hRoute : g.isOnRoute t c = true) :
    ∃ d ∈ g.connections.toList, leaves id d = true ∧ g.staysOn id t d = true ∧
      d.sourcePort.role.normalize = c.sourcePort.role.normalize := by
  have hSome : (g.firstOnRoute? t (g.connections.toList.filter (leaves id))
      c.sourcePort.role.normalize).isSome = true :=
    List.find?_isSome.2 ⟨c, List.mem_filter.2 ⟨hc, hLeaves⟩, by simp [hRoute]⟩
  obtain ⟨d, hFirst⟩ := Option.isSome_iff_exists.1 hSome
  obtain ⟨hd, hRole, -⟩ := mem_of_firstOnRoute? hFirst
  obtain ⟨hdStored, hdLeaves⟩ := List.mem_filter.1 hd
  exact ⟨d, hdStored, hdLeaves, by simp [staysOn, hRole, hFirst], hRole⟩

/-- The settled outputs are those that keep a connection. -/
theorem mem_settled {role : Role} :
    role ∈ g.settled id t ↔ ∃ c ∈ g.connections.toList, leaves id c = true ∧
      g.staysOn id t c = true ∧ c.sourcePort.role.normalize = role := by
  unfold settled
  rw [mem_sift_fst]
  simp only [List.not_mem_nil, false_or, List.mem_filter, and_assoc]
  constructor
  · rintro ⟨c, hc, hLeaves, hRoute, rfl⟩
    exact exists_staysOn hc hLeaves hRoute
  · rintro ⟨c, hc, hLeaves, hStays, hRole⟩
    obtain ⟨-, -, hRoute⟩ := mem_of_firstOnRoute? (firstOnRoute?_of_staysOn hStays hLeaves)
    exact ⟨c, hc, hLeaves, hRoute, hRole⟩

/-! ## What is drawn -/

/-- What a route is drawn to depends on the nodes only. -/
theorem routeTarget?_congr (h : g'.nodes = g.nodes) (id : ItemId) (role : Role) (name : String) :
    g'.routeTarget? id role name = g.routeTarget? id role name := by
  unfold routeTarget?
  rw [h]

/-- A connection whose checks succeed is stored. -/
theorem insertConnection_eq_ok_of_checks {source target : Node} {p q : Port}
    (hVirtual : c.isVirtual = false) (hNew : g.connections.contains c.id = false)
    (hSource : g.node? c.sourceNode = some source) (hTarget : g.node? c.targetNode = some target)
    (hp : source.portById? c.sourcePort = some p) (hq : target.portById? c.targetPort = some q)
    (hSends : p.spec.direction.sends = true) (hReceives : q.spec.direction.receives = true)
    (hObstacle : g.obstacle? source p target q = none) :
    g.insertConnection c = .ok { g with connections := g.connections.put c } := by
  unfold insertConnection
  simp only [hVirtual, hNew, hSource, hTarget, hp, hq, hSends, hReceives, hObstacle, Bool.not_true,
    Bool.or_self, Bool.false_eq_true, if_false]

/-- What is accepted beside more connections is accepted beside fewer. -/
theorem exists_insertConnection_of_subset {h : Graph} (hNodes : h.nodes = g.nodes)
    (hMore : ∀ c ∈ g.connections.toList, c ∈ h.connections.toList)
    (hInsert : h.insertConnection c = .ok g') : ∃ g'', g.insertConnection c = .ok g'' := by
  obtain ⟨source, target, p, q, hSource, hTarget, hp, hq, hVirtual, hContains, hSends, hReceives,
    hObstacle, -⟩ := exists_of_insertConnection hInsert
  obtain ⟨hSelf, hJoined, hFullP, hFullQ, hFits⟩ := obstacle?_eq_none_iff.1 hObstacle
  have hAny : ∀ P : Connection → Bool, h.connections.toList.any P = false →
      g.connections.toList.any P = false := by
    intro P hNone
    rw [List.any_eq_false] at hNone ⊢
    exact fun c hc => hNone c (hMore c hc)
  have hFull : ∀ x : Port, h.isFull x = false → g.isFull x = false := by
    intro x hNone
    unfold isFull isOccupied at hNone ⊢
    rw [Bool.and_eq_false_iff] at hNone ⊢
    exact hNone.imp_right (hAny _)
  unfold node? at hSource hTarget
  rw [hNodes] at hSource hTarget
  exact ⟨_, insertConnection_eq_ok_of_checks hVirtual (hAny _ hContains) hSource hTarget hp hq
    hSends hReceives (obstacle?_eq_none_iff.2
      ⟨hSelf, hAny _ hJoined, hFull p hFullP, hFull q hFullQ, hFits⟩)⟩

/-- Drawing adds connections at the end, one at most for each route that is not settled and leads
somewhere. -/
theorem toList_drawRoutes (g : Graph) (id : ItemId) (settled : List Role)
    (bindings : List (Role × Option String)) :
    ∃ drawn, (g.drawRoutes id settled bindings).1.connections.toList =
        g.connections.toList ++ drawn ∧
      (drawn.map (·.sourcePort.role)).Sublist (bindings.map Prod.fst) ∧
      ∀ c ∈ drawn, ∃ role name port, (role, some name) ∈ bindings ∧ role ∉ settled ∧
        g.routeTarget? id role name = some port ∧ c = .between ⟨id, role⟩ port.id := by
  induction bindings generalizing g with
  | nil => exact ⟨[], (List.append_nil _).symm, List.Sublist.refl _, by simp⟩
  | cons binding rest ih =>
    -- what is drawn for the other routes is drawn for them among all routes
    have hSkip : ∃ drawn, (g.drawRoutes id settled rest).1.connections.toList =
          g.connections.toList ++ drawn ∧
        (drawn.map (·.sourcePort.role)).Sublist ((binding :: rest).map Prod.fst) ∧
        ∀ c ∈ drawn, ∃ role name port, (role, some name) ∈ binding :: rest ∧ role ∉ settled ∧
          g.routeTarget? id role name = some port ∧ c = .between ⟨id, role⟩ port.id := by
      obtain ⟨drawn, hList, hSub, hDrawn⟩ := ih g
      refine ⟨drawn, hList, hSub.cons _, fun c hc => ?_⟩
      obtain ⟨role, name, port, hMem, hRest⟩ := hDrawn c hc
      exact ⟨role, name, port, List.mem_cons_of_mem _ hMem, hRest⟩
    obtain ⟨role, _ | name⟩ := binding
    · exact hSkip
    · unfold drawRoutes
      split
      · exact hSkip
      · rename_i hOpen
        split
        · exact hSkip
        · rename_i port hPort
          split
          · rename_i g' hInsert
            obtain ⟨hNew, rfl⟩ := eq_put_of_insertConnection hInsert
            obtain ⟨drawn, hList, hSub, hDrawn⟩ :=
              ih { g with connections := g.connections.put (.between ⟨id, role⟩ port.id) }
            refine ⟨.between ⟨id, role⟩ port.id :: drawn, ?_, hSub.cons_cons role, ?_⟩
            · rw [hList, Roster.toList_put_of_new hNew, List.append_assoc, List.singleton_append]
            · refine List.forall_mem_cons.2 ⟨⟨role, name, port, List.mem_cons_self, ?_, hPort, rfl⟩,
                fun c hc => ?_⟩
              · simpa using hOpen
              · obtain ⟨role', name', port', hMem, hRest⟩ := hDrawn c hc
                exact ⟨role', name', port', List.mem_cons_of_mem _ hMem, hRest⟩
          · exact hSkip

/-- Drawing leaves groups as they are. -/
theorem groups_drawRoutes (g : Graph) (id : ItemId) (settled : List Role)
    (bindings : List (Role × Option String)) :
    (g.drawRoutes id settled bindings).1.groups = g.groups := by
  refine drawRoutes_keeps (P := fun h => h.groups = g.groups) ?_ settled rfl
  intro h h' role name port _ _ hInsert hSame
  obtain ⟨-, rfl⟩ := eq_put_of_insertConnection hInsert
  exact hSame

/-- A route that is not settled and leads somewhere is drawn, or a connection for it is refused even
after everything has been drawn. -/
theorem mem_drawRoutes_or_refused {settled : List Role} {bindings : List (Role × Option String)}
    {role : Role} {name : String} (hMem : (role, some name) ∈ bindings) (hOpen : role ∉ settled)
    {port : Port} (hPort : g.routeTarget? id role name = some port) :
    .between ⟨id, role⟩ port.id ∈ (g.drawRoutes id settled bindings).1.connections.toList ∨
      ∃ refusal, (g.drawRoutes id settled bindings).1.insertConnection
        (.between ⟨id, role⟩ port.id) = .error refusal := by
  induction bindings generalizing g with
  | nil => simp at hMem
  | cons binding rest ih =>
    rcases List.mem_cons.1 hMem with rfl | hRest
    · unfold drawRoutes
      simp only [List.contains_iff_mem, hOpen, if_false, hPort]
      cases hInsert : g.insertConnection (.between ⟨id, role⟩ port.id) with
      | ok g' =>
        obtain ⟨-, rfl⟩ := eq_put_of_insertConnection hInsert
        exact .inl (mem_drawRoutes_of_mem settled (Roster.mem_put.2 (.inl rfl)))
      | error refusal =>
        right
        show ∃ refusal, (g.drawRoutes id settled rest).1.insertConnection _ = .error refusal
        cases hAgain : (g.drawRoutes id settled rest).1.insertConnection
          (.between ⟨id, role⟩ port.id) with
        | error refusal => exact ⟨refusal, rfl⟩
        | ok g' =>
          obtain ⟨g'', hBefore⟩ := exists_insertConnection_of_subset
            (nodes_drawRoutes g id settled rest)
            (fun c hc => mem_drawRoutes_of_mem settled hc) hAgain
          rw [hInsert] at hBefore
          cases hBefore
    · obtain ⟨role', _ | name'⟩ := binding
      · exact ih hRest hPort
      · unfold drawRoutes
        split
        · exact ih hRest hPort
        · split
          · exact ih hRest hPort
          · split
            · rename_i hInsert
              obtain ⟨-, rfl⟩ := eq_put_of_insertConnection hInsert
              exact ih hRest hPort
            · exact ih hRest hPort

/-- If the rules refuse all that could be drawn, nothing is drawn. -/
theorem drawRoutes_eq_self {settled : List Role} {bindings : List (Role × Option String)}
    (h : ∀ role name, (role, some name) ∈ bindings → role ∉ settled → ∀ port,
      g.routeTarget? id role name = some port →
        ∃ refusal, g.insertConnection (.between ⟨id, role⟩ port.id) = .error refusal) :
    (g.drawRoutes id settled bindings).1 = g := by
  induction bindings with
  | nil => rfl
  | cons binding rest ih =>
    have hRest := ih fun role name hMem => h role name (List.mem_cons_of_mem _ hMem)
    obtain ⟨role, _ | name⟩ := binding
    · exact hRest
    · unfold drawRoutes
      split
      · exact hRest
      · rename_i hOpen
        split
        · exact hRest
        · rename_i port hPort
          obtain ⟨refusal, hRefused⟩ :=
            h role name List.mem_cons_self (by simpa using hOpen) port hPort
          rw [hRefused]
          exact hRest

/-! ## Rerouting -/

/-- Adding a connection is refused for the same reason as inserting it. -/
theorem addConnection_eq_error {refusal : Refusal} :
    g.addConnection c = .error refusal ↔ g.insertConnection c = .error refusal := by
  unfold addConnection
  cases g.insertConnection c with
  | ok stored => simp [pure, Except.pure, bind, Except.bind]
  | error refusal' => simp [bind, Except.bind]

/-- A route ends at the first port that receives and accepts it, on the first other node with the
name. -/
theorem routeTarget?_eq_some_iff {role : Role} {name : String} {port : Port} :
    g.routeTarget? id role name = some port ↔ ∃ target,
      g.nodes.toList.find? (fun n => n.name == name && n.id != id) = some target ∧
        target.ports.find? (fun p => p.spec.direction.receives && p.allows role) = some port :=
  Option.bind_eq_some_iff

/-- What can be drawn for a table: connections from outputs that keep none, to the ports at which
their routes end, and no two from one output. -/
structure Draws (g : Graph) (id : ItemId) (t : DecisionTable) (drawn : List Connection) : Prop where
  ends : ∀ c ∈ drawn, ∃ role name port, (role, some name) ∈ t.bindings ∧ role ∉ g.settled id t ∧
    g.routeTarget? id role name = some port ∧ c = .between ⟨id, role⟩ port.id
  nodup : (drawn.map (·.sourcePort.role)).Nodup

/-- The roles of bindings are in normal form. -/
theorem isNormal_of_mem_bindings {role : Role} {name : String}
    (h : (role, some name) ∈ t.bindings) : role.normalize = role :=
  DecisionTable.isNormal_of_mem_outputRoles (DecisionTable.fst_mem_outputRoles h)

/-- A connection that is drawn from a bound output leaves the table. -/
theorem leaves_of_mem_bindings {role : Role} {name : String} (h : (role, some name) ∈ t.bindings)
    (target : PortId) : leaves id (.between ⟨id, role⟩ target) = true :=
  leaves_iff.2 ⟨rfl,
    DecisionTable.isDecisionOutput_of_mem_outputRoles (DecisionTable.fst_mem_outputRoles h)⟩

/-- What is drawn leaves an output that was not settled, by a role in normal form. -/
theorem Draws.role_open {drawn : List Connection} (h : g.Draws id t drawn) (hc : c ∈ drawn) :
    c.sourcePort.role.normalize = c.sourcePort.role ∧ c.sourcePort.role ∉ g.settled id t := by
  obtain ⟨role, name, port, hBinding, hOpen, -, rfl⟩ := h.ends c hc
  exact ⟨isNormal_of_mem_bindings hBinding, hOpen⟩

/-- What is drawn leads where the table says. -/
theorem Draws.isOnRoute (hg : g.HasStorableNodes) {drawn : List Connection}
    (h : g.Draws id t drawn) (hc : c ∈ drawn) : g.isOnRoute t c = true := by
  obtain ⟨role, name, port, hBinding, -, hPort, rfl⟩ := h.ends c hc
  obtain ⟨target, hTarget, rfl, -, hTargetPort⟩ := routeTarget?_eq_some hPort
  have hKey := (hg target hTarget).id_of_mem_ports hTargetPort
  refine isOnRoute_iff.2 ⟨target, node?_eq_some.2 ⟨hTarget, ?_⟩, ?_⟩
  · show target.id = port.id.node
    rw [hKey]
  · show (role.normalize, some target.name) ∈ t.bindings
    rwa [isNormal_of_mem_bindings hBinding]

/-- No two connections that stay or are drawn leave one output. -/
theorem Draws.apart {drawn : List Connection} (h : g.Draws id t drawn) {d : Connection}
    (hc : c ∈ g.connections.toList.filter (g.staysOn id t) ++ drawn)
    (hd : d ∈ g.connections.toList.filter (g.staysOn id t) ++ drawn)
    (hcLeaves : leaves id c = true) (hdLeaves : leaves id d = true)
    (hRole : c.sourcePort.role.normalize = d.sourcePort.role.normalize) : c = d := by
  -- an output for which something is drawn keeps no connection
  have hKeepsNone : ∀ a ∈ drawn, ∀ b ∈ g.connections.toList.filter (g.staysOn id t),
      leaves id b = true → b.sourcePort.role.normalize ≠ a.sourcePort.role.normalize := by
    intro a ha b hb hLeaves hSame
    obtain ⟨hStored, hStays⟩ := List.mem_filter.1 hb
    obtain ⟨hNormal, hOpen⟩ := h.role_open ha
    exact hOpen (mem_settled.2 ⟨b, hStored, hLeaves, hStays, hSame.trans hNormal⟩)
  rcases List.mem_append.1 hc with hcStays | hcNew <;>
    rcases List.mem_append.1 hd with hdStays | hdNew
  · have hFirst := firstOnRoute?_of_staysOn (List.mem_filter.1 hcStays).2 hcLeaves
    rw [hRole, firstOnRoute?_of_staysOn (List.mem_filter.1 hdStays).2 hdLeaves,
      Option.some.injEq] at hFirst
    exact hFirst.symm
  · exact absurd hRole (hKeepsNone d hdNew c hcStays hcLeaves)
  · exact absurd hRole.symm (hKeepsNone c hcNew d hdStays hdLeaves)
  · rw [(h.role_open hcNew).1, (h.role_open hdNew).1] at hRole
    exact List.inj_on_of_nodup_map h.nodup hcNew hdNew hRole

/-- The connections afterwards are those that stay and those that are drawn. -/
theorem exists_draws (hFresh : t.IsFresh) : ∃ drawn, g.Draws id t drawn ∧
    ((g.dropConnections (g.stale id t)).drawRoutes id (g.settled id t) t.bindings
      ).1.connections.toList = g.connections.toList.filter (g.staysOn id t) ++ drawn := by
  obtain ⟨drawn, hList, hSub, hDrawn⟩ :=
    toList_drawRoutes (g.dropConnections (g.stale id t)) id (g.settled id t) t.bindings
  rw [toList_dropConnections_stale] at hList
  -- dropping connections leaves the nodes as they are, and with them the ends of the routes
  exact ⟨drawn, ⟨hDrawn, hSub.nodup hFresh.nodup_outputRoles⟩, hList⟩

/-- Bringing the connections of a table in line with its routes. -/
theorem reroutes_reroute? (hg : g.HasStorableNodes) (hTable : g.tableOf? id = some t)
    {refusals : List Refusal} (h : g.reroute? id = some (g', refusals)) : g.Reroutes id t g' := by
  obtain ⟨t', hTable', rfl⟩ := reroute?_eq_some h
  obtain rfl : t = t' := Option.some.inj (hTable.symm.trans hTable')
  set rest := g.dropConnections (g.stale id t)
  set after := (rest.drawRoutes id (g.settled id t) t.bindings).1
  have hNodes : after.nodes = rest.nodes := nodes_drawRoutes rest id (g.settled id t) t.bindings
  obtain ⟨drawn, hDraws, hList⟩ : ∃ drawn, g.Draws id t drawn ∧
      after.connections.toList = g.connections.toList.filter (g.staysOn id t) ++ drawn :=
    exists_draws (hg.isFresh hTable)
  constructor
  case nodes => exact hNodes
  case follows =>
    intro c hc hLeaves
    have hRoute : g.isOnRoute t c = true := by
      rw [hList, List.mem_append] at hc
      rcases hc with hStays | hNew
      · exact (mem_of_firstOnRoute?
          (firstOnRoute?_of_staysOn (List.mem_filter.1 hStays).2 hLeaves)).2.2
      · exact hDraws.isOnRoute hg hNew
    obtain ⟨target, hTarget, hBinding⟩ := isOnRoute_iff.1 hRoute
    exact ⟨target, (congrArg (Roster.get? · c.targetNode) hNodes).trans hTarget, hBinding⟩
  case apart =>
    intro c hc d hd
    rw [hList] at hc hd
    exact hDraws.apart hc hd
  case connections =>
    refine ⟨drawn, hList, fun c hc => ?_⟩
    obtain ⟨role, name, port, hBinding, -, hPort, hConnection⟩ := hDraws.ends c hc
    exact ⟨role, name, port, hBinding, hPort, hConnection⟩
  case refused =>
    intro role name hBinding hVacant target port hTarget hPort
    have hRouted : rest.routeTarget? id role name = some port := by
      rw [← routeTarget?_congr hNodes]
      exact routeTarget?_eq_some_iff.2 ⟨target, hTarget, hPort⟩
    have hOpen : role ∉ g.settled id t := by
      intro hIn
      obtain ⟨c, hc, hLeaves, hStays, hRole⟩ := mem_settled.1 hIn
      refine hVacant c ?_ hLeaves hRole
      rw [hList]
      exact List.mem_append_left _ (List.mem_filter.2 ⟨hc, hStays⟩)
    rcases mem_drawRoutes_or_refused hBinding hOpen hRouted with hDrawn | ⟨refusal, hRefused⟩
    · exact absurd (isNormal_of_mem_bindings hBinding)
        (hVacant _ hDrawn (leaves_of_mem_bindings hBinding port.id))
    · exact ⟨refusal, addConnection_eq_error.2 hRefused⟩
  case groups =>
    rw [← stale_eq]
    exact groups_drawRoutes rest id (g.settled id t) t.bindings

/-- Once the connections of a table are in line with its routes, all of them stay. -/
theorem Reroutes.staysOn_eq (h : g.Reroutes id t g') (hc : c ∈ g'.connections.toList) :
    g'.staysOn id t c = true := by
  by_cases hLeaves : leaves id c = true
  · obtain ⟨d, hd, hdLeaves, hdStays, hRole⟩ :=
      exists_staysOn hc hLeaves (isOnRoute_iff.2 (h.follows c hc hLeaves))
    rw [h.apart c hc d hd hLeaves hdLeaves hRole.symm]
    exact hdStays
  · simp [staysOn, hLeaves]

/-- Bringing the connections of a table in line a second time does nothing. -/
theorem Reroutes.again (h : g.Reroutes id t g') (hTable : g.tableOf? id = some t) :
    ∃ refusals, g'.reroute? id = some (g', refusals) := by
  have hTable' : g'.tableOf? id = some t := by
    unfold tableOf? node? at hTable ⊢
    rw [h.nodes, hTable]
  have hStale : g'.stale id t = [] := by
    rw [stale_eq, List.map_eq_nil_iff, List.filter_eq_nil_iff]
    intro c hc
    simp [h.staysOn_eq hc]
  have hDraw : (g'.drawRoutes id (g'.settled id t) t.bindings).1 = g' := by
    refine drawRoutes_eq_self fun role name hBinding hOpen port hPort => ?_
    obtain ⟨target, hTarget, hFound⟩ := routeTarget?_eq_some_iff.1 hPort
    have hVacant : ∀ c ∈ g'.connections.toList, leaves id c = true →
        c.sourcePort.role.normalize ≠ role := fun c hc hLeaves hRole =>
      hOpen (mem_settled.2 ⟨c, hc, hLeaves, h.staysOn_eq hc, hRole⟩)
    obtain ⟨refusal, hRefused⟩ := h.refused role name hBinding hVacant target port hTarget hFound
    exact ⟨refusal, addConnection_eq_error.1 hRefused⟩
  have hResult : ∃ result, g'.reroute? id = some result :=
    Option.isSome_iff_exists.1 (by rw [reroute?, Option.isSome_map, hTable']; rfl)
  obtain ⟨⟨again, refusals⟩, hResult⟩ := hResult
  obtain ⟨t', hSame, hAgain⟩ := reroute?_eq_some hResult
  obtain rfl : t = t' := Option.some.inj (hTable'.symm.trans hSame)
  rw [hStale, dropConnections_nil, hDraw] at hAgain
  exact ⟨refusals, hAgain ▸ hResult⟩

end Graph

end FlowCanvas
