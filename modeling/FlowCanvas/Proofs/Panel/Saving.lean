import FlowCanvas.Panel.Sidebar
import FlowCanvas.Proofs.Canvas.Reach
import FlowCanvas.Proofs.Graph.TableSync
import FlowCanvas.Proofs.Panel.Applying
import FlowCanvas.Proofs.Panel.TableEdits
import Mathlib

/-!
# Saving the panel of a decision table

While the panel of a decision table is open, its working copy is edited and connections are drawn
and removed on the canvas (`Sidebar.Works`). Saving the panel then loses no connection whose route
has been left alone in the panel (`Sidebar.Works.save_keeps_iff`), with one exception: a connection
that ends at the table itself loses its route when the table is renamed, because routes lead to
names.
-/

set_option autoImplicit false

namespace FlowCanvas

open FlowCanvas.Json (Value)

namespace Panel

/-- The panel after an edit of the working copy of a decision table. -/
def editTable (p : Panel) (x : TableEdit) : Panel :=
  match p.content with
  | .decisionTable e => { p with content := .decisionTable (e.edit x) }
  | _ => p

/-- The panel with another value in its form. -/
def setField (p : Panel) (id : String) (value : Value) : Panel :=
  { p with form := p.form.set id value }

/-- The panel with other rows for the inputs. -/
def setInputs (p : Panel) (inputs : Rows) : Panel := { p with inputs }

/-- What a decision table becomes when its panel is saved. -/
theorem save_table_cases {p : Panel} {e : TableEditor} (hContent : p.content = .decisionTable e)
    {n : Node} {stored : DecisionTable} (hData : n.data = .decisionTable stored) :
    p.save n = n ∨ ∃ tableName, (p.save n).id = n.id ∧
      (p.save n).data = .decisionTable { e.merge stored with name := tableName } := by
  obtain hSame | ⟨data, name, outputPath, hRead, hWritten⟩ := p.save_cases n
  · exact .inl hSame
  · rw [hContent, hData] at hRead
    obtain ⟨tableName, -, rfl⟩ := read_table_iff.1 hRead
    refine .inr ⟨tableName, p.id_save n, ?_⟩
    rw [hWritten, data_written]

/-- The table that is saved leads where the stored one does, at the outputs whose routes have been
left alone in the panel. -/
theorem exists_table_save {p : Panel} {t : DecisionTable} {edits : List TableEdit}
    (hContent : p.content = .decisionTable ((TableEditor.ofTable t).editAll edits)) {n : Node}
    {stored : DecisionTable} (hStorable : n.IsStorable) (hData : n.data = .decisionTable stored)
    {r : Role} (hRoute : TableEdit.LeaveRoute t edits r) :
    (p.save n).id = n.id ∧ ∃ u, (p.save n).prepare.data = .decisionTable u ∧
      ∀ name, (r, some name) ∈ stored.bindings → (r, some name) ∈ u.bindings := by
  rcases save_table_cases hContent hData with hSame | ⟨tableName, hId, hNew⟩
  · rw [hSame]
    exact ⟨rfl, stored, (congrArg Node.data hStorable).trans hData, fun _ hMem => hMem⟩
  · have hTidy := (TableEditor.isTidy_ofTable t).editAll edits
    have hFresh := (hTidy.isFresh_merge stored).of_groups_eq
      (u := { ((TableEditor.ofTable t).editAll edits).merge stored with name := tableName }) rfl
    refine ⟨hId, _, congrArg Node.data (Node.prepare_table hNew), fun name hMem => ?_⟩
    rw [hFresh.revalidate_eq]
    exact TableEditor.mem_bindings_merge hRoute (hStorable.isFresh hData) hMem

end Panel

/-- A node that is stored can be updated. -/
theorem Canvas.exists_updateNode? {c : Canvas} {n stored : Node}
    (h : c.graph.node? n.id = some stored) :
    ∃ refusals, c.graph.updateNode? n false =
      some ((c.updateNode n false).1.graph, refusals) := by
  obtain ⟨⟨g, refusals⟩, hUpdate⟩ : ∃ result, c.graph.updateNode? n false = some result := by
    rw [← Option.isSome_iff_exists, Graph.updateNode?, Option.isSome_map, h]
    rfl
  refine ⟨refusals, ?_⟩
  unfold updateNode
  rw [hUpdate]
  rfl

namespace Sidebar

/-- Saving the open panel updates its node, unless that stays as it is. -/
theorem canvas_save {s : Sidebar} {c : Canvas} {id : ItemId} {p : Panel} {n : Node}
    (hSelection : s.selection = some (id, some p)) (hNode : c.graph.node? id = some n) :
    (s.save c).2.1 = if p.save n == n then c else (c.updateNode (p.save n) false).1 := by
  unfold save
  simp only [hSelection, hNode]
  split
  · rfl
  · rfl

/-- What the sidebar and the canvas become while the panel of a decision table is open, which has
been opened on a given canvas. The edits of the working copy are listed. -/
inductive Works (table : ItemId) (c₀ : Canvas) : List TableEdit → Sidebar → Canvas → Prop
  | opened (s : Sidebar) : Works table c₀ [] (s.openNode c₀ (some table)) c₀
  | editTable {edits : List TableEdit} {s : Sidebar} {c : Canvas} (h : Works table c₀ edits s c)
    (x : TableEdit) : Works table c₀ (edits ++ [x]) (s.editPanel (·.editTable x)) c
  | setField {edits : List TableEdit} {s : Sidebar} {c : Canvas} (h : Works table c₀ edits s c)
    (id : String) (value : Value) : Works table c₀ edits (s.editPanel (·.setField id value)) c
  | setInputs {edits : List TableEdit} {s : Sidebar} {c : Canvas} (h : Works table c₀ edits s c)
    (inputs : Rows) : Works table c₀ edits (s.editPanel (·.setInputs inputs)) c
  | connect {edits : List TableEdit} {s : Sidebar} {c : Canvas} (h : Works table c₀ edits s c)
    (source target : PortId) : Works table c₀ edits s (c.connect source target).1
  | removeConnection {edits : List TableEdit} {s : Sidebar} {c : Canvas}
    (h : Works table c₀ edits s c) (id : ConnectionId) :
    Works table c₀ edits s (c.removeConnection id).1
  | delete {edits : List TableEdit} {s : Sidebar} {c : Canvas} (h : Works table c₀ edits s c)
    (selection : Selection)
    (hStays : (c.delete selection).1.graph.nodes.contains table = true) :
    Works table c₀ edits s (c.delete selection).1

namespace Works

variable {table : ItemId} {c₀ c : Canvas} {edits : List TableEdit} {s : Sidebar}

/-- The open panel shows the working copy after all edits of it. -/
theorem exists_panel (h : Works table c₀ edits s c) {t : DecisionTable}
    (hTable : c₀.graph.tableOf? table = some t) :
    ∃ p : Panel, s.selection = some (table, some p) ∧
      p.content = .decisionTable ((TableEditor.ofTable t).editAll edits) := by
  induction h with
  | opened s =>
    obtain ⟨n, hNode, hData⟩ := Graph.tableOf?_eq_some.1 hTable
    have hKind : n.kind = .decisionTable := Node.kind_eq_decisionTable_iff.2 ⟨t, hData⟩
    refine ⟨.ofContent (.decisionTable (.ofTable {})) n, ?_, ?_⟩
    · unfold openNode
      simp only [Option.bind_some, hNode, Option.map_some, hKind]
      rw [(Graph.node?_eq_some.1 hNode).2]
      rfl
    · show Panel.Content.decisionTable (.ofTable (n.data.table?.getD {})) = _
      rw [hData]
      rfl
  | editTable _ x ih =>
    obtain ⟨p, hSelection, hContent⟩ := ih
    refine ⟨p.editTable x, ?_, ?_⟩
    · unfold editPanel
      rw [hSelection]
      rfl
    · unfold Panel.editTable
      rw [hContent]
      simp [TableEditor.editAll]
  | setField _ id value ih =>
    obtain ⟨p, hSelection, hContent⟩ := ih
    refine ⟨p.setField id value, ?_, hContent⟩
    unfold editPanel
    rw [hSelection]
    rfl
  | setInputs _ inputs ih =>
    obtain ⟨p, hSelection, hContent⟩ := ih
    refine ⟨p.setInputs inputs, ?_, hContent⟩
    unfold editPanel
    rw [hSelection]
    rfl
  | connect _ source target ih => exact ih
  | removeConnection _ id ih => exact ih
  | delete _ selection hStays ih => exact ih

/-- The table stays in sync with the connections that leave it. -/
theorem isInSyncAt (h : Works table c₀ edits s c) (hStorable : c₀.graph.IsStorable)
    (hSync : c₀.graph.IsInSyncAt table) : c.graph.IsStorable ∧ c.graph.IsInSyncAt table := by
  induction h with
  | opened s => exact ⟨hStorable, hSync⟩
  | editTable _ x ih => exact ih
  | setField _ id value ih => exact ih
  | setInputs _ inputs ih => exact ih
  | connect _ source target ih =>
    exact Canvas.addConnection_keeps (P := fun g => g.IsStorable ∧ g.IsInSyncAt table) ih
      fun _ hAdd => ⟨ih.1.addConnection hAdd, ih.2.addConnection ih.1.nodes hAdd⟩
  | removeConnection _ id ih =>
    exact Canvas.removeConnection_keeps (P := fun g => g.IsStorable ∧ g.IsInSyncAt table) ih
      fun _ hRemove => ⟨ih.1.shrinks (Graph.removeConnection?_shrinks hRemove),
        ih.2.removeConnection? ih.1.nodes hRemove⟩
  | delete _ selection hStays ih =>
    exact ⟨ih.1.shrinks (Graph.delete_shrinks ih.1.nodes selection),
      ih.2.delete ih.1.nodes hStays⟩

/-- Saving the panel keeps a connection that leaves the table by an output whose route has been left
alone in the panel, and the table leads where the connection does, unless the connection ends at the
table itself and that is renamed. -/
theorem save_keeps_iff (h : Works table c₀ edits s c) (hReached : c₀.Reached) {t : DecisionTable}
    (hTable : c₀.graph.tableOf? table = some t) (hSync : c₀.graph.IsInSyncAt table)
    {d : Connection} (hd : d ∈ c.graph.connections.toList) (hLeaves : Graph.leaves table d = true)
    (hRoute : TableEdit.LeaveRoute t edits d.sourcePort.role) :
    d ∈ (s.save c).2.1.graph.connections.toList ∧ (s.save c).2.1.graph.IsFollowed d ↔
      (d.targetNode = table → ((s.save c).2.1.graph.node? table).map Node.name =
        (c.graph.node? table).map Node.name) := by
  obtain ⟨p, hSelection, hContent⟩ := h.exists_panel hTable
  obtain ⟨hStorable, hNow⟩ := h.isInSyncAt hReached.isStorable hSync
  obtain ⟨stored, hStored⟩ := hNow.isTable
  obtain ⟨n, hNode, hData⟩ := Graph.tableOf?_eq_some.1 hStored
  have hFollowed := hNow.isFollowed hd hLeaves hStored
  rw [canvas_save hSelection hNode]
  split
  · exact ⟨fun _ _ => rfl, fun _ => ⟨hd, hFollowed⟩⟩
  · obtain ⟨hn, hnId⟩ := Graph.node?_eq_some.1 hNode
    obtain ⟨hId, u, hNew, hRoutes⟩ :=
      Panel.exists_table_save hContent (hStorable.nodes n hn) hData hRoute
    have hSource : (p.save n).id = table := hId.trans hnId
    subst hSource
    obtain ⟨refusals, hUpdate⟩ := Canvas.exists_updateNode? hNode
    have hAfter : (c.updateNode (p.save n) false).1.graph.node? (p.save n).id =
        some (p.save n).prepare := by
      rw [Graph.node?, Graph.nodes_updateNode? hUpdate, ← Graph.node?, Graph.node?_putNode,
        if_pos rfl]
    rw [hNow.updateNode?_iff hStorable.nodes hd hLeaves hUpdate, hAfter, Option.map_some,
      (p.save n).prepare_name]
    refine hFollowed.putNode_iff (Graph.leaves_iff.1 hLeaves).1 hNew fun v name hv => ?_
    rw [hStored, Option.some.injEq] at hv
    subst hv
    exact hRoutes name

end Works

/-- A table with two groups, beside code and with nothing drawn. -/
def groupsBesideCode : Canvas :=
  Canvas.performAll {}
    [.addNode (Node.new ⟨"t"⟩ "table" (.decisionTable
        { groups := [{ name := "a", expression := "x" },
            { name := "b", expression := "y" }] })),
      .createNode ⟨"p"⟩ .python "code" .origin]

/-- The connection that is drawn from the second group. -/
def fromSecond : Connection :=
  .between ⟨⟨"t"⟩, .ofGroupName "b"⟩ ⟨⟨"p"⟩, ⟨"python-in"⟩⟩

/-- The panel of the table in which the first group has been removed and the table renamed. -/
def renamedWithoutFirst : Sidebar :=
  ((openNode {} groupsBesideCode (some ⟨"t"⟩)).editPanel
    (·.editTable (.removeGroup 0))).editPanel (·.setField "node_name" (.string "renamed"))

/-- What is drawn from the second group, which meanwhile has become the first, is kept. -/
theorem Works.save_keeps_iff_fromSecond :
    let c := (groupsBesideCode.connect fromSecond.sourcePort fromSecond.targetPort).1
    let saved := (renamedWithoutFirst.save c).2.1
    (saved.graph.node? ⟨"t"⟩).map Node.name = some "renamed" ∧
      fromSecond ∈ saved.graph.connections.toList ∧ saved.graph.IsFollowed fromSecond := by
  intro c saved
  have hWorks : Works ⟨"t"⟩ groupsBesideCode [.removeGroup 0] renamedWithoutFirst c :=
    (((Works.opened {}).editTable (.removeGroup 0)).setField _ _).connect _ _
  have hReached : groupsBesideCode.Reached := (Canvas.Reached.start {}).performAll _
  obtain ⟨t, hTable, hLoaded⟩ : ∃ t ∈ groupsBesideCode.graph.tableOf? ⟨"t"⟩,
      ∃ g₀ ∈ t.groups[1]?, g₀.role = fromSecond.sourcePort.role ∧
        ∃ g ∈ ((TableEditor.ofTable t).editAll [.removeGroup 0]).table.groups[0]?,
          g.role = fromSecond.sourcePort.role ∧ g.valid = true := by decide
  obtain ⟨g₀, hLoaded, hRole₀, g, hShown, hRole, hValid⟩ := hLoaded
  have hEmpty : groupsBesideCode.graph.connections.toList = [] := by decide
  have hSync : groupsBesideCode.graph.IsInSyncAt ⟨"t"⟩ :=
    ⟨⟨t, hTable⟩, by simp [hEmpty], by simp [hEmpty], by simp [hEmpty]⟩
  refine ⟨by decide, (hWorks.save_keeps_iff hReached hTable hSync (by decide)
    (by decide) ?_).2 fun hSelf => absurd hSelf (by decide)⟩
  exact hRole ▸ .ofGroup hLoaded rfl hShown (hRole.trans hRole₀.symm) hValid

/-- The only connection of a table that leads to itself. -/
def toItself : Connection := .between ⟨⟨"t"⟩, .decisionDefault⟩ ⟨⟨"t"⟩, ⟨"table-in"⟩⟩

/-- A table that leads to itself when no group applies. -/
def loop : Canvas :=
  Canvas.perform {} (.load
    { nodes := [Node.new ⟨"t"⟩ "table" (.decisionTable { defaultNext := some "table" })]
      connections := [toItself] })

/-- The connection of the table to itself is in line with its routes. -/
theorem isInSyncAt_loop : loop.graph.IsInSyncAt ⟨"t"⟩ := by
  have hOnly : loop.graph.connections.toList = [toItself] := by decide
  have hTable : loop.graph.tableOf? ⟨"t"⟩ = some { defaultNext := some "table" } := by
    decide
  have hPort : ∃ n ∈ loop.graph.nodes.toList, ∃ p ∈ n.ports,
      n.id = ⟨"t"⟩ ∧ p.id = toItself.sourcePort := by decide
  have hName : ∃ n ∈ loop.graph.node? ⟨"t"⟩, n.name = "table" := by decide
  obtain ⟨n, hn, p, hp, hId, hpId⟩ := hPort
  obtain ⟨target, hTarget, hName⟩ := hName
  have hFollowed : loop.graph.IsFollowed toItself :=
    ⟨_, target, hTable, hTarget,
      DecisionTable.mem_bindings_default_iff.2 (congrArg some hName)⟩
  refine ⟨⟨_, hTable⟩, fun c hc _ => ?_, fun c hc d hd _ _ _ => ?_, fun c hc _ => ?_⟩
  · rw [hOnly, List.mem_singleton] at hc
    exact ⟨p, ⟨n, hn, hId, hp⟩, hc ▸ hpId⟩
  · rw [hOnly, List.mem_singleton] at hc hd
    exact hc.trans hd.symm
  · rw [hOnly, List.mem_singleton] at hc
    exact hc ▸ hFollowed.follows

/-- When a table that leads to itself is renamed, it no longer leads where its connection does. -/
theorem not_forall_save_keeps :
    ¬ ∀ (table : ItemId) (c₀ c : Canvas) (edits : List TableEdit) (s : Sidebar) (t : DecisionTable)
      (d : Connection), Works table c₀ edits s c → c₀.Reached →
        c₀.graph.tableOf? table = some t → (t.groups.map ConditionGroup.role).Nodup →
          c₀.graph.IsInSyncAt table → d ∈ c.graph.connections.toList →
            Graph.leaves table d = true → TableEdit.LeaveRoute t edits d.sourcePort.role →
              d ∈ (s.save c).2.1.graph.connections.toList ∧
                (s.save c).2.1.graph.IsFollowed d := by
  intro hAll
  let s : Sidebar := (openNode {} loop (some ⟨"t"⟩)).editPanel
    (·.setField "node_name" (.string "renamed"))
  have hWorks : Works ⟨"t"⟩ loop [] s loop := (Works.opened {}).setField _ _
  have hReached : loop.Reached := (Canvas.Reached.start {}).edit _
  have hTable : loop.graph.tableOf? ⟨"t"⟩ = some { defaultNext := some "table" } := by
    decide
  have hSaved : (s.save loop).2.1.graph.tableOf? ⟨"t"⟩ = some { defaultNext := some "table" } ∧
      ((s.save loop).2.1.graph.node? ⟨"t"⟩).map Node.name = some "renamed" := by decide
  obtain ⟨-, u, target, hu, hTarget, hRoute⟩ := hAll _ _ _ _ _ _ toItself hWorks hReached hTable
    (by simp) isInSyncAt_loop (by decide) rfl (.atDefault (by simp))
  change Graph.node? _ ⟨"t"⟩ = _ at hTarget
  change Graph.tableOf? _ ⟨"t"⟩ = _ at hu
  rw [hSaved.1, Option.some.injEq] at hu
  rw [hTarget, Option.map_some, Option.some.injEq] at hSaved
  subst hu
  rw [hSaved.2] at hRoute
  exact absurd hRoute (by decide)

end Sidebar

end FlowCanvas
