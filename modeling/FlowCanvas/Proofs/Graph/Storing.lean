import FlowCanvas.Proofs.Graph.Rerouting
import Mathlib

/-!
# Graphs that can be stored

Loading a flow projects it onto what a graph can hold: nodes in their prepared form, and no virtual
connections. A graph of that form (`Graph.IsStorable`) is what is loaded of its own flow
(`Graph.IsStorable.ofFlow_toFlow`), so going back to it by loading its flow loses nothing. Every
operation keeps a graph storable, whatever is put into it.
-/

set_option autoImplicit false

namespace FlowCanvas

namespace Graph

/-- A graph of the form that loading gives. -/
structure IsStorable (g : Graph) : Prop where
  nodes : g.HasStorableNodes
  isVirtual_eq : ∀ c ∈ g.connections.toList, c.isVirtual = false

variable {g g' : Graph}

/-- The empty graph has the form that loading gives. -/
theorem isStorable_empty : IsStorable {} where
  nodes := by simp [HasStorableNodes]
  isVirtual_eq := by simp

/-- What is loaded can be stored. -/
theorem isStorable_ofFlow (f : Flow) : (Graph.ofFlow f).IsStorable where
  nodes := by
    intro n hn
    obtain ⟨m, -, rfl⟩ := List.mem_map.1 (Roster.mem_of_mem_ofList hn)
    exact m.isStorable_prepare
  isVirtual_eq := by
    intro c hc
    have hOrdinary := (List.mem_filter.1 (Roster.mem_of_mem_ofList hc)).2
    simpa using hOrdinary

/-- Nodes keep the stored form when another one is put in. -/
theorem hasStorableNodes_putNode (hg : g.HasStorableNodes) (n : Node) :
    (g.putNode n).HasStorableNodes := by
  intro m hm
  rcases Roster.mem_put.1 hm with rfl | ⟨hOld, -⟩
  · exact n.isStorable_prepare
  · exact hg m hOld

namespace IsStorable

variable {c : Connection}

/-- A storable graph is what is loaded of its flow. -/
theorem ofFlow_toFlow (hg : g.IsStorable) : Graph.ofFlow g.toFlow = g := by
  have hNodes : g.nodes.toList.map Node.prepare = g.nodes.toList :=
    Lists.map_eq_self hg.nodes
  have hConnections : g.connections.toList.filter (!·.isVirtual) = g.connections.toList := by
    rw [List.filter_eq_self]
    intro c hc
    rw [hg.isVirtual_eq c hc]
    rfl
  unfold ofFlow toFlow
  simp only
  rw [hNodes, hConnections, Roster.ofList_toList, Roster.ofList_toList, Roster.ofList_toList]

/-- A graph keeps its form when it shrinks. -/
theorem shrinks (hg : g.IsStorable) (h : g.Shrinks Node.Drifts g') : g'.IsStorable where
  nodes := h.hasStorableNodes hg.nodes
  isVirtual_eq := fun c hc => hg.isVirtual_eq c (h.connections c hc)

/-- A graph keeps its form when a node is put in. -/
theorem putNode (hg : g.IsStorable) (n : Node) : (g.putNode n).IsStorable where
  nodes := hasStorableNodes_putNode hg.nodes n
  isVirtual_eq := hg.isVirtual_eq

/-- A graph keeps its form when a group is put in. -/
theorem putGroup (hg : g.IsStorable) (group : Group) : (g.putGroup group).IsStorable :=
  hg.shrinks (putGroup_shrinks g group).drifts

/-- A graph keeps its form when an ordinary connection is put in. -/
theorem putConnection (hg : g.IsStorable) (hc : c.isVirtual = false) :
    IsStorable { g with connections := g.connections.put c } where
  nodes := hg.nodes
  isVirtual_eq := by
    intro d hd
    rcases Roster.mem_put.1 hd with rfl | ⟨hOld, -⟩
    · exact hc
    · exact hg.isVirtual_eq d hOld

/-- A graph keeps its form when a connection is inserted. -/
theorem insertConnection (hg : g.IsStorable) (h : g.insertConnection c = .ok g') :
    g'.IsStorable := by
  obtain ⟨-, -, -, -, -, -, -, -, hOrdinary, -, -, -, -, rfl⟩ := exists_of_insertConnection h
  exact hg.putConnection hOrdinary

/-- A graph keeps its form when a connection is added. -/
theorem addConnection (hg : g.IsStorable) (h : g.addConnection c = .ok g') : g'.IsStorable := by
  obtain ⟨stored, hInsert, rfl⟩ := exists_of_addConnection h
  have hStored := hg.insertConnection hInsert
  exact hStored.shrinks (routeAlong_shrinks hStored.nodes c)

/-- A graph keeps its form when routes are drawn. -/
theorem drawRoutes (hg : g.IsStorable) (table : ItemId) (settled : List Role)
    (bindings : List (Role × Option String)) :
    (g.drawRoutes table settled bindings).1.IsStorable :=
  drawRoutes_keeps (fun _ _ _ _ _ _ _ hInsert hg => hg.insertConnection hInsert) settled hg

/-- A graph keeps its form when a table is rerouted. -/
theorem reroute? (hg : g.IsStorable) {id : ItemId} {refusals : List Refusal}
    (h : g.reroute? id = some (g', refusals)) : g'.IsStorable := by
  obtain ⟨t, -, rfl⟩ := reroute?_eq_some h
  exact (hg.shrinks (dropConnections_shrinks _ _).drifts).drawRoutes _ _ _

/-- A graph keeps its form when a node is updated. -/
theorem updateNode? (hg : g.IsStorable) {n : Node} {keepConnections : Bool}
    {refusals : List Refusal} (h : g.updateNode? n keepConnections = some (g', refusals)) :
    g'.IsStorable := by
  rcases updateNode?_puts_or_reroutes h with rfl | hReroute
  · exact hg.putNode n
  · exact (hg.putNode n).reroute? hReroute

/-- A graph keeps its form when ordinary connections are put in. -/
theorem putConnections (hg : g.IsStorable) {connections : List Connection}
    (h : ∀ c ∈ connections, c.isVirtual = false) :
    IsStorable { g with connections := g.connections.putAll connections } where
  nodes := hg.nodes
  isVirtual_eq := by
    intro c hc
    rcases Roster.mem_of_mem_putAll hc with hOld | hNew
    · exact hg.isVirtual_eq c hOld
    · exact h c hNew

end IsStorable

end Graph

end FlowCanvas
