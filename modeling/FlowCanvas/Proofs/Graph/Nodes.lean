import FlowCanvas.Flow.Node
import FlowCanvas.Proofs.Table.Binding
import Mathlib

/-!
# Nodes on a canvas

Nodes are stored in a prepared form, in which each role is played by one port. Apart from being
edited, a node that is stored can change in two ways: it is moved into a group (`Node.Moves`), or
its decision table is made to lead somewhere else. A node that has changed in these ways only has
drifted (`Node.Drifts`). It keeps its id, its name, its ports and its form.
-/

set_option autoImplicit false

namespace FlowCanvas

namespace Node

/-! ## Decision tables of nodes -/

/-- The decision table of a node is what its data are. -/
theorem table?_eq_some {n : Node} {t : DecisionTable} :
    n.table? = some t ↔ n.data = .decisionTable t := by
  unfold table?
  cases n.data <;> simp [Payload.table?]

/-- The node with its decision table changed, if it has one. -/
def mapTable (n : Node) (f : DecisionTable → DecisionTable) : Node :=
  match n.data with
  | .decisionTable t => { n with data := .decisionTable (f t) }
  | _ => n

section

variable {n : Node} {t : DecisionTable} {f : DecisionTable → DecisionTable}

/-- The decision table of a node that has one is changed. -/
theorem mapTable_of_table (h : n.data = .decisionTable t) :
    n.mapTable f = { n with data := .decisionTable (f t) } := by
  unfold mapTable
  rw [h]

/-- A node without a decision table stays as it is. -/
theorem mapTable_of_table?_eq_none (h : n.table? = none) : n.mapTable f = n := by
  unfold mapTable
  split
  · rename_i t hData
    rw [table?_eq_some.2 hData] at h
    cases h
  · rfl

/-- A node stays as it is if its decision table does. -/
theorem mapTable_eq_self (h : ∀ t, n.data = .decisionTable t → f t = t) : n.mapTable f = n := by
  cases hTable : n.table? with
  | none => exact mapTable_of_table?_eq_none hTable
  | some t =>
    have hData := table?_eq_some.1 hTable
    rw [mapTable_of_table hData, h t hData, ← hData]

/-- A changed decision table leaves the id of its node. -/
@[simp] theorem id_mapTable (n : Node) (f : DecisionTable → DecisionTable) :
    (n.mapTable f).id = n.id := by
  unfold mapTable
  split <;> rfl

/-- The decision table of a node after a change is the changed one. -/
@[simp] theorem table?_mapTable (n : Node) (f : DecisionTable → DecisionTable) :
    (n.mapTable f).table? = n.table?.map f := by
  cases hTable : n.table? with
  | none => rw [mapTable_of_table?_eq_none hTable, hTable, Option.map_none]
  | some t =>
    rw [mapTable_of_table (table?_eq_some.1 hTable)]
    rfl

/-- Two changes of a decision table can be made at once. -/
theorem mapTable_mapTable (n : Node) (f f' : DecisionTable → DecisionTable) :
    (n.mapTable f).mapTable f' = n.mapTable (f' ∘ f) := by
  cases hTable : n.table? with
  | none => simp only [mapTable_of_table?_eq_none hTable]
  | some t =>
    rw [mapTable_of_table (table?_eq_some.1 hTable), mapTable_of_table (table?_eq_some.1 hTable),
      mapTable_of_table (t := f t) rfl, Function.comp_apply]

end

/-! ## Prepared nodes -/

/-- A node in the form in which nodes are stored. -/
def IsStorable (n : Node) : Prop := n.prepare = n

/-- A node in the form in which nodes are stored, with at most one port for each role. -/
structure IsPrepared (n : Node) : Prop where
  prepare_eq : n.prepare = n
  nodup_roles : (n.ports.map Port.role).Nodup

/-- A node that is prepared has the form in which nodes are stored. -/
theorem IsPrepared.isStorable {n : Node} (h : n.IsPrepared) : n.IsStorable := h.prepare_eq

/-- A decision table is prepared with fresh flags and its own ports. -/
theorem prepare_table {n : Node} {t : DecisionTable} (h : n.data = .decisionTable t) :
    n.prepare =
      { n with data := .decisionTable t.revalidate, ports := t.revalidate.ports n.id } := by
  unfold prepare
  rw [h]

/-- A node without a decision table is prepared with its ports bound to it. -/
theorem prepare_of_table?_eq_none {n : Node} (h : n.table? = none) : n.prepare = n.rebindPorts := by
  unfold prepare
  split
  · rename_i t hData
    unfold table? Payload.table? at h
    rw [hData] at h
    cases h
  · rfl

/-- The nodes with a decision table are those of that kind. -/
theorem kind_eq_decisionTable_iff {n : Node} :
    n.kind = .decisionTable ↔ ∃ t, n.data = .decisionTable t := by
  unfold kind Payload.kind
  constructor
  · intro h
    split at h <;> cases h
    exact ⟨_, ‹_›⟩
  · rintro ⟨t, h⟩
    rw [h]

/-- Preparing a node keeps its id. -/
@[simp] theorem prepare_id (n : Node) : n.prepare.id = n.id := by
  unfold prepare
  split <;> rfl

/-- Preparing a node keeps its name. -/
@[simp] theorem prepare_name (n : Node) : n.prepare.name = n.name := by
  unfold prepare
  split <;> rfl

/-- Preparing a node keeps its kind. -/
@[simp] theorem prepare_kind (n : Node) : n.prepare.kind = n.kind := by
  unfold prepare
  split
  · rename_i hData
    unfold kind
    rw [hData]
    rfl
  · rfl

/-- Ports that are bound to a node stay as they are when they are bound to it again. -/
theorem map_boundTo_map_boundTo (ports : List Port) (id : ItemId) :
    (ports.map (·.boundTo id)).map (·.boundTo id) = ports.map (·.boundTo id) := by
  rw [List.map_map]
  rfl

/-- Preparing a second time changes nothing. -/
theorem isStorable_prepare (n : Node) : n.prepare.IsStorable := by
  unfold IsStorable
  cases hTable : n.table? with
  | none =>
    have hRebound : n.rebindPorts.table? = none := hTable
    rw [prepare_of_table?_eq_none hTable, prepare_of_table?_eq_none hRebound]
    unfold rebindPorts
    rw [map_boundTo_map_boundTo]
  | some t =>
    have hData := table?_eq_some.1 hTable
    rw [prepare_table hData, prepare_table (t := t.revalidate) rfl,
      (DecisionTable.isFresh_revalidate t).revalidate_eq]

/-- Preparing makes the stored form of a node, provided that its ports differ in their roles, which
those of decision tables always do. -/
theorem isPrepared_prepare {n : Node}
    (h : n.table? = none → (n.ports.map Port.role).Nodup) : n.prepare.IsPrepared := by
  refine ⟨isStorable_prepare n, ?_⟩
  cases hTable : n.table? with
  | none =>
    rw [prepare_of_table?_eq_none hTable]
    unfold rebindPorts
    rw [List.map_map]
    exact h hTable
  | some t =>
    rw [prepare_table (table?_eq_some.1 hTable)]
    exact DecisionTable.nodup_ports _ _

/-- The ports of a new node are those of its kind. -/
theorem ports_initial (id : ItemId) (kind : NodeKind) :
    (Payload.initial kind).ports id = kind.ports.map (·.on id) := by
  cases kind <;> rfl

/-- A new node has ports with different roles. -/
theorem nodup_roles_initial (id : ItemId) (kind : NodeKind) :
    (((Payload.initial kind).ports id).map Port.role).Nodup := by
  rw [ports_initial, List.map_map]
  show (kind.ports.map PortSpec.role).Nodup
  cases kind <;> decide

namespace IsStorable

variable {n : Node}

/-- The key of a port follows from its node and its role. -/
theorem id_of_mem_ports (h : n.IsStorable) {p : Port} (hp : p ∈ n.ports) :
    p.id = ⟨n.id, p.role⟩ := by
  unfold IsStorable at h
  rw [← h] at hp
  cases hTable : n.table? with
  | none =>
    rw [prepare_of_table?_eq_none hTable] at hp
    obtain ⟨q, -, rfl⟩ := List.mem_map.1 hp
    rfl
  | some t =>
    rw [prepare_table (table?_eq_some.1 hTable)] at hp
    rw [DecisionTable.ports_eq] at hp
    obtain ⟨r, -, rfl⟩ := List.mem_map.1 hp
    rfl

/-- The keys of the ports of a stored node follow the node. -/
theorem rebindPorts_eq (h : n.IsStorable) : n.rebindPorts = n := by
  have hPorts : n.ports.map (·.boundTo n.id) = n.ports := by
    apply Lists.map_eq_self
    intro p hp
    have hKey := h.id_of_mem_ports hp
    show ({ p with id := ⟨n.id, p.role⟩ } : Port) = p
    rw [← hKey]
  unfold rebindPorts
  rw [hPorts]

/-- The decision table of a stored node has fresh flags. -/
theorem isFresh (h : n.IsStorable) {t : DecisionTable} (ht : n.data = .decisionTable t) :
    t.IsFresh := by
  have hData : n.prepare.data = n.data := congrArg Node.data h
  rw [prepare_table ht, ht, Payload.decisionTable.injEq] at hData
  exact hData

/-- A stored node with a decision table has the ports of that table. -/
theorem ports_eq (h : n.IsStorable) {t : DecisionTable} (ht : n.data = .decisionTable t) :
    n.ports = t.ports n.id := by
  have hPorts : n.prepare.ports = n.ports := congrArg Node.ports h
  rw [prepare_table ht, (h.isFresh ht).revalidate_eq] at hPorts
  exact hPorts.symm

/-- A port of a decision table plays the role of the input or that of an output. -/
theorem mem_ports_table (h : n.IsStorable) {t : DecisionTable} (ht : n.data = .decisionTable t)
    {p : Port} :
    p ∈ n.ports ↔
      ∃ r ∈ Role.tableIn :: t.outputRoles, p = (DecisionTable.portSpec r).on n.id := by
  rw [h.ports_eq ht, (h.isFresh ht).ports_eq, List.mem_map]
  simp only [eq_comm]

end IsStorable

/-- A node has one port for each key. -/
theorem IsPrepared.eq_of_id_eq {n : Node} (h : n.IsPrepared) {p q : Port} (hp : p ∈ n.ports)
    (hq : q ∈ n.ports) (hId : p.id = q.id) : p = q := by
  have hRole : p.role = q.role := by
    rw [h.isStorable.id_of_mem_ports hp, h.isStorable.id_of_mem_ports hq, PortId.mk.injEq] at hId
    exact hId.2
  exact List.inj_on_of_nodup_map h.nodup_roles hp hq hRole

/-! ## Drift -/

/-- What becomes of a node that is put into a group or taken out of one. -/
def Moves (n m : Node) : Prop := ∃ parent, m = { n with parent }

instance : Std.Refl Moves := ⟨fun n => ⟨n.parent, rfl⟩⟩

instance : IsTrans Node Moves where
  trans := by
    rintro n m k ⟨parent, rfl⟩ ⟨parent', rfl⟩
    exact ⟨parent', rfl⟩

/-- What becomes of a stored node that is not edited. -/
inductive Drifts (n : Node) : Node → Prop
  | refl : n.Drifts n
  | moved {m : Node} (h : n.Drifts m) (parent : Option ItemId) : n.Drifts { m with parent }
  | redirected {m : Node} (h : n.Drifts m) {t t' : DecisionTable} {role : Role}
      {next : Option String} (hTable : m.data = .decisionTable t)
      (hBind : t.bind? role next = some t') : n.Drifts { m with data := .decisionTable t' }

namespace Drifts

variable {n m : Node}

instance : Std.Refl Drifts := ⟨fun _ => .refl⟩

instance : IsTrans Node Drifts where
  trans := by
    intro n m k h h'
    induction h' with
    | refl => exact h
    | moved _ parent ih => exact ih.moved parent
    | redirected _ hTable hBind ih => exact ih.redirected hTable hBind

/-- What holds of a node and is kept by moving and by leading somewhere else holds after drift. -/
theorem keeps (h : n.Drifts m) {P : Node → Prop} (hStart : P n)
    (hMoved : ∀ (k : Node) (parent : Option ItemId), P k → P { k with parent })
    (hRedirected : ∀ (k : Node) (t t' : DecisionTable) (role : Role) (next : Option String),
      k.data = .decisionTable t → t.bind? role next = some t' → P k →
        P { k with data := .decisionTable t' }) :
    P m := by
  induction h with
  | refl => exact hStart
  | moved _ parent ih => exact hMoved _ parent ih
  | redirected _ hTable hBind ih => exact hRedirected _ _ _ _ _ hTable hBind ih

/-- A node that is not edited keeps its id. -/
theorem id_eq (h : n.Drifts m) : m.id = n.id :=
  h.keeps (P := fun k => k.id = n.id) rfl (fun _ _ hk => hk) fun _ _ _ _ _ _ _ hk => hk

/-- A node that is not edited keeps its name. -/
theorem name_eq (h : n.Drifts m) : m.name = n.name :=
  h.keeps (P := fun k => k.name = n.name) rfl (fun _ _ hk => hk) fun _ _ _ _ _ _ _ hk => hk

/-- A node that is not edited keeps its ports. -/
theorem ports_eq (h : n.Drifts m) : m.ports = n.ports :=
  h.keeps (P := fun k => k.ports = n.ports) rfl (fun _ _ hk => hk)
    fun _ _ _ _ _ _ _ hk => hk

/-- A node that is not edited keeps the form in which nodes are stored. -/
theorem isStorable (h : n.Drifts m) (hn : n.IsStorable) : m.IsStorable := by
  refine h.keeps hn ?_ ?_
  · intro k parent hk
    unfold IsStorable at hk ⊢
    cases hTable : k.table? with
    | none =>
      have hSame : ({ k with parent } : Node).table? = none := hTable
      rw [prepare_of_table?_eq_none hTable] at hk
      rw [prepare_of_table?_eq_none hSame]
      have hPorts : k.rebindPorts.ports = k.ports := congrArg Node.ports hk
      unfold rebindPorts at hPorts ⊢
      simp only at hPorts ⊢
      rw [hPorts]
    | some t =>
      have hData := table?_eq_some.1 hTable
      have hSame : ({ k with parent } : Node).data = .decisionTable t := hData
      rw [prepare_table hSame, (IsStorable.isFresh hk hData).revalidate_eq]
      simp only [hData, IsStorable.ports_eq hk hData]
  · intro k t t' role next hData hBind hk
    have hFresh := hk.isFresh hData
    unfold IsStorable
    rw [prepare_table (t := t') rfl]
    rw [(hFresh.bind? hBind).revalidate_eq]
    simp only [hFresh.ports_bind? hBind, hk.ports_eq hData]

/-- A node that is not edited keeps at most one port for each role. -/
theorem isPrepared (h : n.Drifts m) (hn : n.IsPrepared) : m.IsPrepared :=
  ⟨h.isStorable hn.isStorable, h.ports_eq ▸ hn.nodup_roles⟩

end Drifts

/-- Moving a node into a group or out of one is no edit of it. -/
theorem Moves.drifts {n m : Node} (h : n.Moves m) : n.Drifts m := by
  obtain ⟨parent, rfl⟩ := h
  exact .moved .refl parent

end Node

end FlowCanvas
