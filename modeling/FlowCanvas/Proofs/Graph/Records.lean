import FlowCanvas.Proofs.Graph.Regrouping
import FlowCanvas.Proofs.Graph.Rerouting
import Mathlib

/-!
# Records of collapsed groups

What the groups of a graph have recorded are keys of connections that are stored
(`Graph.RecordsStored`). A group records stored connections when it collapses, each once
(`Graph.nodup_ids_hiddenBy`), and a connection that is taken out is taken out of all records: apart
from putting groups in and collapsing them, every operation only prunes the records
(`Graph.Prunes`).
-/

set_option autoImplicit false

namespace FlowCanvas

namespace HiddenConnections

/-- Everything that is recorded. -/
def ids (h : HiddenConnections) : List ConnectionId := h.inputs ++ h.outputs ++ h.internal

/-- Forgetting keys filters everything that is recorded. -/
theorem ids_forget (h : HiddenConnections) (gone : List ConnectionId) :
    (h.forget gone).ids = h.ids.filter (!gone.contains ·) := by
  simp [ids, forget]

/-- A record keeps exactly the keys that it is not to forget. -/
theorem mem_ids_forget {h : HiddenConnections} {gone : List ConnectionId} {id : ConnectionId} :
    id ∈ (h.forget gone).ids ↔ id ∈ h.ids ∧ id ∉ gone := by
  rw [ids_forget, List.mem_filter]
  simp

/-- Only the empty record records nothing. -/
theorem ids_eq_nil_iff {h : HiddenConnections} : h.ids = [] ↔ h = {} := by
  cases h
  simp [ids]

/-- A record is empty if it is the one without keys. -/
theorem isEmpty_iff {h : HiddenConnections} : h.isEmpty = true ↔ h = {} := by
  cases h
  simp [isEmpty, and_assoc]

/-- A change of keys that leaves all recorded keys as they are leaves the record as it is. -/
theorem map_eq_self {h : HiddenConnections} {f : ConnectionId → ConnectionId}
    (hSame : ∀ id ∈ h.ids, f id = id) : h.map f = h := by
  unfold ids at hSame
  simp only [List.mem_append] at hSame
  unfold map
  rw [Lists.map_eq_self fun id hId => hSame id (.inl (.inl hId)),
    Lists.map_eq_self fun id hId => hSame id (.inl (.inr hId)),
    Lists.map_eq_self fun id hId => hSame id (.inr hId)]

/-- Two changes of keys can be made at once. -/
theorem map_map (h : HiddenConnections) (f f' : ConnectionId → ConnectionId) :
    (h.map f).map f' = h.map (f' ∘ f) := by
  simp [map]

end HiddenConnections

namespace Graph

/-- Every recorded key is that of a stored connection. -/
def RecordsStored (g : Graph) : Prop :=
  ∀ h ∈ g.groups.toList, ∀ id ∈ h.hidden.ids, ∃ c ∈ g.connections.toList, c.id = id

/-- What an operation does that neither puts a group in nor collapses one: groups stay as collapsed
as they were, they record at most what they recorded, and what they still record is stored if it was
stored before. -/
structure Prunes (g g' : Graph) : Prop where
  groups : ∀ h' ∈ g'.groups.toList, ∃ h ∈ g.groups.toList,
    h'.collapsed = h.collapsed ∧ h'.hidden.ids.Sublist h.hidden.ids
  stored : ∀ h' ∈ g'.groups.toList, ∀ id ∈ h'.hidden.ids,
    (∃ c ∈ g.connections.toList, c.id = id) → ∃ c ∈ g'.connections.toList, c.id = id

variable {g g' g'' : Graph} {id : ItemId} {c : Connection}

namespace Prunes

/-- Records stay as they are if groups do, and stored if there are only more connections. -/
theorem of_groups_eq (hGroups : g'.groups = g.groups)
    (hConnections : ∀ c ∈ g.connections.toList, ∃ c' ∈ g'.connections.toList, c'.id = c.id) :
    g.Prunes g' where
  groups := fun h hh => ⟨h, hGroups ▸ hh, rfl, List.Sublist.refl _⟩
  stored := by
    rintro - - id - ⟨c, hc, rfl⟩
    exact hConnections c hc

/-- A graph prunes nothing when it stays as it is. -/
theorem refl (g : Graph) : g.Prunes g := of_groups_eq rfl fun c hc => ⟨c, hc, rfl⟩

/-- Nothing is pruned while groups and connections stay. -/
theorem of_eq (hGroups : g'.groups = g.groups) (hConnections : g'.connections = g.connections) :
    g.Prunes g' :=
  of_groups_eq hGroups fun c hc => ⟨c, hConnections ▸ hc, rfl⟩

/-- Two prunings after each other are one. -/
theorem trans (h : g.Prunes g') (h' : g'.Prunes g'') : g.Prunes g'' where
  groups := by
    intro k hk
    obtain ⟨k', hk', hCollapsed', hSub'⟩ := h'.groups k hk
    obtain ⟨k'', hk'', hCollapsed, hSub⟩ := h.groups k' hk'
    exact ⟨k'', hk'', hCollapsed'.trans hCollapsed, hSub'.trans hSub⟩
  stored := by
    intro k hk id hId hStored
    obtain ⟨k', hk', -, hSub⟩ := h'.groups k hk
    exact h'.stored k hk id hId (h.stored k' hk' id (hSub.subset hId) hStored)

end Prunes

/-! ## Operations that prune records -/

/-- Dropping connections prunes the records of groups. -/
theorem dropConnections_prunes (g : Graph) (ids : List ConnectionId) :
    g.Prunes (g.dropConnections ids) := by
  have hForget : ∀ h' ∈ (g.dropConnections ids).groups.toList,
      ∃ h ∈ g.groups.toList, { h with hidden := h.hidden.forget ids } = h' :=
    fun _ hh' => List.mem_map.1 hh'
  refine ⟨?_, ?_⟩
  · intro h' hh'
    obtain ⟨h, hh, rfl⟩ := hForget h' hh'
    refine ⟨h, hh, rfl, ?_⟩
    rw [HiddenConnections.ids_forget]
    exact List.filter_sublist
  · rintro h' hh' id hId ⟨c, hc, rfl⟩
    obtain ⟨h, -, rfl⟩ := hForget h' hh'
    exact ⟨c, mem_dropConnections.2 ⟨hc, (HiddenConnections.mem_ids_forget.1 hId).2⟩, rfl⟩

/-- Putting connections in prunes nothing that is still stored. -/
theorem putConnections_prunes (g : Graph) (connections : List Connection) :
    g.Prunes { g with connections := g.connections.putAll connections } :=
  .of_groups_eq rfl fun _ hc => Roster.exists_mem_putAll hc connections

/-- Inserting a connection prunes nothing that is still stored. -/
theorem insertConnection_prunes (h : g.insertConnection c = .ok g') : g.Prunes g' := by
  obtain ⟨-, rfl⟩ := eq_put_of_insertConnection h
  exact putConnections_prunes g [c]

/-- Adding a connection prunes nothing that is still stored. -/
theorem addConnection_prunes (h : g.addConnection c = .ok g') : g.Prunes g' := by
  obtain ⟨stored, hInsert, rfl⟩ := exists_of_addConnection h
  refine (insertConnection_prunes hInsert).trans ?_
  unfold routeAlong
  repeat' split
  all_goals exact .of_eq rfl rfl

/-- Removing a connection prunes the records of groups. -/
theorem removeConnection?_prunes {id : ConnectionId} (h : g.removeConnection? id = some g') :
    g.Prunes g' := by
  obtain ⟨c, -, rfl⟩ := removeConnection?_eq_some h
  refine (dropConnections_prunes g [id]).trans ?_
  cases hUnroute : (g.dropConnections [id]).unroute? c with
  | none => exact .refl _
  | some g' =>
    have hRedirects := (unroute?_eq_some hUnroute).1
    exact .of_eq hRedirects.groups_eq hRedirects.connections_eq

/-- Rerouting a table prunes the records of groups. -/
theorem reroute?_prunes {refusals : List Refusal} (h : g.reroute? id = some (g', refusals)) :
    g.Prunes g' := by
  obtain ⟨t, -, rfl⟩ := reroute?_eq_some h
  exact drawRoutes_keeps (fun _ _ _ _ _ _ _ hInsert hg =>
    hg.trans (insertConnection_prunes hInsert)) _ (dropConnections_prunes g _)

/-- Updating a node prunes the records of groups. -/
theorem updateNode?_prunes {n : Node} {keepConnections : Bool} {refusals : List Refusal}
    (h : g.updateNode? n keepConnections = some (g', refusals)) : g.Prunes g' := by
  have hPut : g.Prunes (g.putNode n) := .of_eq rfl rfl
  rcases updateNode?_puts_or_reroutes h with rfl | hReroute
  · exact hPut
  · exact hPut.trans (reroute?_prunes hReroute)

/-- Moving items between groups prunes nothing that is still stored. -/
theorem setParent_prunes (g : Graph) (ids : List ItemId) (parent : Option ItemId) :
    g.Prunes (g.setParent ids parent).1 := by
  unfold setParent
  split
  · rw [moveAll_eq]
    refine ⟨?_, fun _ _ _ _ hStored => hStored⟩
    intro h' hh'
    obtain ⟨h, hh, rfl⟩ := List.mem_map.1 hh'
    refine ⟨h, hh, ?_⟩
    split <;> exact ⟨rfl, List.Sublist.refl _⟩
  · exact .refl g

/-- A deletion prunes the records of groups. -/
theorem delete_prunes (g : Graph) (s : Selection) : g.Prunes (g.delete s).1 := by
  have hWithout : g.Prunes (g.withoutSelection s) := by
    refine Prunes.trans ?_ (dropConnections_prunes _ _)
    refine ⟨?_, fun _ _ _ _ hStored => hStored⟩
    intro h' hh'
    obtain ⟨h, hh, rfl⟩ := List.mem_map.1 (List.mem_of_mem_filter hh')
    refine ⟨h, hh, ?_⟩
    split <;> exact ⟨rfl, List.Sublist.refl _⟩
  obtain ⟨hGroups, hConnections⟩ := unrouteAll_keeps
    ((g.doomed s).sorted.connections.filterMap g.connection?) (g.withoutSelection s)
  exact hWithout.trans (.of_eq hGroups hConnections)

/-! ## What a group records -/

/-- The keys of the connections that a group hides are those of stored connections. -/
theorem exists_of_mem_hiddenBy {group : ItemId} {id : ConnectionId}
    (h : id ∈ (g.hiddenBy group).ids) : ∃ c ∈ g.connections.toList, c.id = id := by
  unfold hiddenBy HiddenConnections.ids at h
  simp only [List.mem_append] at h
  rcases h with (h | h) | h <;>
  · obtain ⟨c, hc, rfl⟩ := List.mem_map.1 h
    exact ⟨c, List.mem_of_mem_filter hc, rfl⟩

/-- A group hides a connection as an input, as an output or as one inside, but only as one of
them. -/
theorem nodup_ids_hiddenBy (g : Graph) (group : ItemId) : (g.hiddenBy group).ids.Nodup := by
  let inside (c : Connection) : Bool × Bool :=
    ((g.nodesBelow group).contains c.sourceNode, (g.nodesBelow group).contains c.targetNode)
  have hKinds : [(false, true), (true, false), (true, true)].Nodup := by decide
  have hNodup := Roster.nodup_flatMap_filter g.connections inside hKinds
  simp only [List.flatMap_cons, List.flatMap_nil, List.append_nil, ← List.append_assoc] at hNodup
  exact hNodup

namespace RecordsStored

/-- Pruned records still have keys of stored connections only. -/
theorem prunes (hg : g.RecordsStored) (h : g.Prunes g') : g'.RecordsStored := by
  intro k' hk' id hId
  obtain ⟨k, hk, -, hSub⟩ := h.groups k' hk'
  exact h.stored k' hk' id hId (hg k hk id (hSub.subset hId))

/-- A group may be put in whose record has keys of stored connections only. -/
theorem putGroup (hg : g.RecordsStored) {group : Group}
    (h : ∀ id ∈ group.hidden.ids, ∃ c ∈ g.connections.toList, c.id = id) :
    (g.putGroup group).RecordsStored := by
  intro h' hh' id hId
  rcases Roster.mem_put.1 hh' with rfl | ⟨hOld, -⟩
  · exact h id hId
  · exact hg h' hOld id hId

/-- Toggling a group records keys of stored connections only. -/
theorem toggle? (hg : g.RecordsStored) (h : g.toggle? id = some g') : g'.RecordsStored := by
  obtain ⟨group, -, rfl⟩ := Option.map_eq_some_iff.1 h
  split
  · exact hg.putGroup (by simp [HiddenConnections.ids])
  · exact hg.putGroup fun _ => exists_of_mem_hiddenBy

end RecordsStored

/-! ## Exact records -/

/-- Groups record keys of stored connections, each once, and expanded groups record nothing. -/
structure HasExactRecords (g : Graph) : Prop where
  recordsStored : g.RecordsStored
  nodup : ∀ h ∈ g.groups.toList, h.hidden.ids.Nodup
  expanded : ∀ h ∈ g.groups.toList, h.collapsed = false → h.hidden = {}

/-- The records of the empty graph are exact. -/
theorem hasExactRecords_empty : HasExactRecords {} where
  recordsStored := by simp [RecordsStored]
  nodup := by simp
  expanded := by simp

namespace HasExactRecords

/-- Exact records stay exact when they are pruned. -/
theorem prunes (hg : g.HasExactRecords) (h : g.Prunes g') : g'.HasExactRecords where
  recordsStored := hg.recordsStored.prunes h
  nodup := by
    intro k' hk'
    obtain ⟨k, hk, -, hSub⟩ := h.groups k' hk'
    exact hSub.nodup (hg.nodup k hk)
  expanded := by
    intro k' hk' hExpanded
    obtain ⟨k, hk, hCollapsed, hSub⟩ := h.groups k' hk'
    rw [hg.expanded k hk (hCollapsed.symm.trans hExpanded)] at hSub
    exact HiddenConnections.ids_eq_nil_iff.1 (List.sublist_nil.1 hSub)

/-- A group that is put in has to record nothing, or what it hides if it is collapsed. -/
theorem putGroup (hg : g.HasExactRecords) {group : Group}
    (h : group.hidden = {} ∨ group.collapsed = true ∧ ∃ id, group.hidden = g.hiddenBy id) :
    (g.putGroup group).HasExactRecords where
  recordsStored := by
    apply hg.recordsStored.putGroup
    rcases h with hEmpty | ⟨-, id, hHidden⟩
    · simp [hEmpty, HiddenConnections.ids]
    · exact hHidden ▸ fun _ => exists_of_mem_hiddenBy
  nodup := by
    intro k hk
    rcases Roster.mem_put.1 hk with rfl | ⟨hOld, -⟩
    · rcases h with hEmpty | ⟨-, id, hHidden⟩
      · simp [hEmpty, HiddenConnections.ids]
      · exact hHidden ▸ nodup_ids_hiddenBy g id
    · exact hg.nodup k hOld
  expanded := by
    intro k hk hExpanded
    rcases Roster.mem_put.1 hk with rfl | ⟨hOld, -⟩
    · rcases h with hEmpty | ⟨hCollapsed, -⟩
      · exact hEmpty
      · rw [hCollapsed] at hExpanded
        cases hExpanded
    · exact hg.expanded k hOld hExpanded

/-- Exact records stay exact when a group is toggled. -/
theorem toggle? (hg : g.HasExactRecords) (h : g.toggle? id = some g') : g'.HasExactRecords := by
  obtain ⟨group, -, rfl⟩ := Option.map_eq_some_iff.1 h
  split
  · exact hg.putGroup (.inl rfl)
  · exact hg.putGroup (.inr ⟨rfl, id, rfl⟩)

/-- Expanding a group that has just been collapsed gives back the graph. -/
theorem exists_toggle? (hg : g.HasExactRecords) {h : Group} (hh : h ∈ g.groups.toList)
    (hExpanded : h.collapsed = false) :
    ∃ g', g.toggle? h.id = some g' ∧ g'.toggle? h.id = some g := by
  have hGroup : g.group? h.id = some h := group?_eq_some.2 ⟨hh, rfl⟩
  let boxed : Group := { h with collapsed := true, hidden := g.hiddenBy h.id }
  have hBoxed : (g.putGroup boxed).group? h.id = some boxed := by
    rw [group?_putGroup, if_pos rfl]
  refine ⟨g.putGroup boxed, ?_, ?_⟩
  · simp [Graph.toggle?, hGroup, hExpanded, boxed]
  · have hSame : ({ boxed with collapsed := false, hidden := {} } : Group) = h := by
      rw [← hg.expanded h hh hExpanded, ← hExpanded]
    have hBack : (g.putGroup boxed).putGroup h = g := by
      show { g with groups := (g.groups.put boxed).put h } = g
      rw [Roster.put_put_of_get? (b := boxed) hGroup rfl]
    unfold Graph.toggle?
    rw [hBoxed, Option.map_some, if_pos rfl, hSame, hBack]

end HasExactRecords

end Graph

end FlowCanvas
