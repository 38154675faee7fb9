import FlowCanvas.Proofs.Canvas.Reach
import FlowCanvas.Proofs.Table.Sorting
import Mathlib

/-!
# Ports of stored nodes

What leaves a decision table is kept twice: as the routes of its groups, and as the ports to which
connections are attached. On a reachable canvas both say the same, and so do the flags of the
groups, whatever has been loaded, updated and deleted (`Canvas.Reached.hasExactPorts`).
-/

set_option autoImplicit false

namespace FlowCanvas

/-- Some ports are those of a decision table whose flags are right. -/
structure DecisionTable.IsDrawnAs (t : DecisionTable) (ports : List Port) : Prop where
  valid_eq : ∀ g ∈ t.groups, g.valid = isValidAmong t.groups g
  /-- The bindings go through the valid groups by their order, and end with the fixed outputs. -/
  bindings_eq : ∃ outputs, IsStableSort (t.groups.filter (·.valid)) outputs ∧
    t.bindings = outputs.map (fun g => (g.role, g.next)) ++
      [(Role.decisionDefault, t.defaultNext), (Role.decisionError, t.errorNext)]
  /-- Behind the input there is one port for each binding. -/
  roles_eq : ports.map Port.role = Role.tableIn :: t.bindings.map Prod.fst
  nodup_roles : (ports.map Port.role).Nodup

/-- The ports of a node have the keys that belong to them and, for a decision table, are what the
table says. -/
structure Node.HasExactPorts (n : Node) : Prop where
  id_eq : ∀ p ∈ n.ports, p.id = ⟨n.id, p.role⟩
  table : ∀ t, n.table? = some t → t.IsDrawnAs n.ports

/-- A table with fresh flags is drawn with the ports that it makes for itself. -/
theorem DecisionTable.IsFresh.isDrawnAs {t : DecisionTable} (h : t.IsFresh) (node : ItemId) :
    t.IsDrawnAs (t.ports node) where
  valid_eq := isFresh_iff.1 h
  bindings_eq := ⟨t.validGroups, isStableSort_sortByOrder _, rfl⟩
  roles_eq := by
    rw [map_role_ports, h.revalidate_eq]
    rfl
  nodup_roles := nodup_ports t node

/-- A node that is ready to be stored has exactly the ports that belong to it. -/
theorem Node.hasExactPorts_of_isStorable {n : Node} (h : n.IsStorable) : n.HasExactPorts where
  id_eq := fun _ => h.id_of_mem_ports
  table := by
    intro t hTable
    have hData := table?_eq_some.1 hTable
    rw [h.ports_eq hData]
    exact (h.isFresh hData).isDrawnAs n.id

namespace Canvas

/-- Every node that is stored on a reachable canvas has the ports that belong to it. -/
theorem Reached.hasExactPorts {c : Canvas} (hc : Reached c) {n : Node}
    (hn : n ∈ c.graph.nodes.toList) : n.HasExactPorts :=
  n.hasExactPorts_of_isStorable (hc.isStorable.nodes n hn)

/-- A decision table whose flags are all wrong: two of its groups make the same role, one has no
expression, and two others share an order. -/
def staleTable : DecisionTable where
  groups := [{ name := "Big deal", expression := "a", order := 5, valid := true },
    { name := "late", expression := "b", order := 2 },
    { name := "big  DEAL", expression := "c", order := 1, valid := true },
    { name := "first", expression := "d", order := 1, next := some "code" },
    { name := "open", expression := " ", order := 0, valid := true },
    { name := "second", expression := "e", order := 1 }]

/-- Loading that table without any ports, and then updating it in a batch. -/
def staleEdits : List Edit :=
  let n : Node := { id := ⟨"t"⟩, data := .decisionTable staleTable }
  [.load { nodes := [n] }, .updateNodes [{ n with ports := [⟨⟨⟨"u"⟩, ⟨"x"⟩⟩, default⟩] }]]

/-- However stale the table is that is handed in, it ends up with the right ports. -/
theorem Reached.hasExactPorts_staleEdits :
    ∃ n ∈ (Canvas.performAll {} staleEdits).graph.nodes.toList,
      n.ports.map (·.role.text) = ["table-in", "decision-out-first", "decision-out-second",
        "decision-out-late", "decision-default", "decision-error"] ∧ n.HasExactPorts := by
  have hPorts : ∃ n ∈ (Canvas.performAll {} staleEdits).graph.nodes.toList,
      n.ports.map (·.role.text) = ["table-in", "decision-out-first", "decision-out-second",
        "decision-out-late", "decision-default", "decision-error"] := by decide
  obtain ⟨n, hn, hRoles⟩ := hPorts
  exact ⟨n, hn, hRoles, ((Reached.start {}).performAll staleEdits).hasExactPorts hn⟩

end Canvas

end FlowCanvas
