import FlowCanvas.Proofs.Json.Lexing
import FlowCanvas.Proofs.Wire.Flows
import FlowCanvas.Wire.File
import Mathlib

/-!
# Reading saved flows back

A flow is read back from its text whole if each of its parts is (`Flow.IsRecoverable`): the keys of
ports are made to follow their nodes, connections are read from flat texts, and the keys that groups
have recorded are looked up among the connections.

For that it is enough that separators stand nowhere in the keys where they do harm
(`Flow.HasFlatKeys`). The id of a node may have underscores, except in front, although the flat text
of a port does not tell where such an id ends.
-/

set_option autoImplicit false

namespace FlowCanvas

namespace Connection

variable {c : Connection}

/-- A connection is read back from its flat texts if its roles have no colons. -/
theorem ofFlat_toFlat (h : c.IsKeyed) (hSource : c.sourcePort.role.IsReadable)
    (hTarget : c.targetPort.role.IsReadable) (hSourceColon : c.sourcePort.role.IsColonFree)
    (hTargetColon : c.targetPort.role.IsColonFree) : Connection.ofFlat c.toFlat = .ok c := by
  have hRead : ∀ p : PortId, p.role.IsReadable → p.role.IsColonFree →
      PortId.parseFor p.node p.text = .ok p := by
    intro p hReadable hColon
    rw [PortId.parseFor_text hReadable, PortId.upToColon_of_notMem hColon, String.ofList_toList]
  have hSourceRead : PortId.parseFor ⟨c.sourceNode.text⟩ c.sourcePort.text = .ok c.sourcePort := by
    rw [← h.source_eq]
    exact hRead _ hSource hSourceColon
  have hTargetRead : PortId.parseFor ⟨c.targetNode.text⟩ c.targetPort.text = .ok c.targetPort := by
    rw [← h.target_eq]
    exact hRead _ hTarget hTargetColon
  unfold toFlat ofFlat
  simp only
  rw [hSourceRead, hTargetRead]
  exact congrArg Except.ok h.eq_between.symm

end Connection

/-- What is read from the document of a node; the node itself where that is nothing. -/
def Node.reread (n : Node) : Node := (Wire.node? (Wire.ofNode n)).getD n

/-- A bound node is read back with its ports reread, and rebinding gives them back. -/
theorem Node.node?_ofNode_eq_reread {n : Node} (hLegible : n.IsLegible)
    (hPorts : ∀ p ∈ n.ports, p.IsReadable) (hBound : n.rebindPorts = n) :
    Wire.node? (Wire.ofNode n) = some n.reread ∧ n.reread.rebindPorts = n := by
  have hBack := Wire.node?_ofNode hLegible hPorts
  obtain ⟨read, hRead, hRebound⟩ := Option.map_eq_some_iff.1 hBack
  unfold reread
  rw [hRead]
  exact ⟨rfl, hRebound.trans hBound⟩

namespace Flow

/-- A recorded key is found among the connections by its text. -/
theorem resolve_eq {connections : List Connection} {id read : ConnectionId}
    (hStored : ∃ c ∈ connections, c.id = id) (hText : read.text = id.text)
    (hInj : ∀ c ∈ connections, c.id.text = id.text → c.id = id) :
    resolve connections read = id := by
  unfold resolve
  split
  · rename_i c hFind
    have hMem := List.mem_reverse.1 (List.mem_of_find?_eq_some hFind)
    have hSame := List.find?_some hFind
    exact hInj c hMem ((beq_iff_eq.1 hSame).trans hText)
  · rename_i hNone
    obtain ⟨c, hc, rfl⟩ := hStored
    have hOther := List.find?_eq_none.1 hNone c (List.mem_reverse.2 hc)
    exact absurd hText.symm (by simpa using hOther)

/-- A key that is read from its text means the same among the connections of a flow. -/
structure Recalls (connections : List Connection) (id : ConnectionId) : Prop where
  isOk_parse : ∃ read, ConnectionId.parse id.text = .ok read
  resolve_reread : resolve connections id.reread = id

/-- A key without colons whose text can be read is told from those with other texts. -/
theorem recalls_of_isOk {connections : List Connection} {id : ConnectionId}
    (hStored : ∃ c ∈ connections, c.id = id) (hColon : ':' ∉ id.text.toList)
    (hRead : ∃ read, ConnectionId.parse id.text = .ok read)
    (hInj : ∀ c ∈ connections, c.id.text = id.text → c.id = id) : Recalls connections id := by
  refine ⟨hRead, ?_⟩
  obtain ⟨read, hParse⟩ := hRead
  unfold ConnectionId.reread
  rw [hParse]
  exact resolve_eq hStored (ConnectionId.text_of_parse hColon hParse) hInj

/-- A flow whose document can be read, though perhaps with other keys in the records of groups. -/
structure IsReadable (f : Flow) : Prop where
  isLegible : f.IsLegible
  rebindPorts_eq : ∀ n ∈ f.nodes, n.rebindPorts = n
  ports : ∀ n ∈ f.nodes, ∀ p ∈ n.ports, p.IsReadable
  connections : ∀ c ∈ f.connections, Connection.ofFlat c.toFlat = .ok c
  recorded : ∀ g ∈ f.groups, ∀ id ∈ g.hidden.ids, ∃ read, ConnectionId.parse id.text = .ok read

namespace IsReadable

variable {f : Flow} (h : f.IsReadable)

include h

/-- A node of a readable flow is read back with its ports reread, and rebinding gives them
back. -/
theorem node?_ofNode {n : Node} (hn : n ∈ f.nodes) :
    Wire.node? (Wire.ofNode n) = some n.reread ∧ n.reread.rebindPorts = n :=
  Node.node?_ofNode_eq_reread (h.isLegible.nodes n hn) (h.ports n hn) (h.rebindPorts_eq n hn)

/-- What is read before keys are linked. -/
theorem flow?_ofFlow :
    Wire.flow? (Wire.ofFlow f) = some
      { nodes := f.nodes.map Node.reread
        connections := f.connections
        groups := f.groups.map fun g =>
          { g with hidden := g.hidden.map ConnectionId.reread } } := by
  refine Wire.flow?_ofFlow_eq_some_iff.2 ⟨?_, ?_, ?_⟩
  · refine List.forall₂_map_right_iff.2 (List.forall₂_same.2 fun n hn => ?_)
    exact (h.node?_ofNode hn).1
  · refine List.forall₂_same.2 fun c hc => ?_
    rw [Wire.connection?_ofConnection, h.connections c hc]
    rfl
  · refine List.forall₂_map_right_iff.2 (List.forall₂_same.2 fun g hg => ?_)
    rw [Wire.group?_ofGroup (h.isLegible.groups g hg), Wire.hidden?_ofHidden (h.recorded g hg)]
    rfl

/-- Binding the ports of what is read to their nodes gives the nodes back. -/
theorem rebindPorts_reread : (f.nodes.map Node.reread).map Node.rebindPorts = f.nodes := by
  rw [List.map_map]
  exact Lists.map_eq_self fun n hn => (h.node?_ofNode hn).2

/-- What is read from the text, in every layout: all but the recorded keys is read back, and these
are looked up among the connections. -/
theorem parse?_print {layout : Json.PageLayout} (hLayout : layout.IsBlank) :
    Flow.parse? (f.print layout) = some
      { f with
        groups := f.groups.map fun g =>
          { g with hidden := g.hidden.map fun id => resolve f.connections id.reread } } := by
  rw [Flow.parse?_print h.isLegible hLayout, h.flow?_ofFlow, Option.map_some]
  unfold relink
  simp only
  rw [h.rebindPorts_reread, List.map_map]
  simp only [Function.comp_def, HiddenConnections.map_map]

end IsReadable

/-- A flow of which every part is read back from its document. -/
structure IsRecoverable (f : Flow) : Prop where
  isLegible : f.IsLegible
  rebindPorts_eq : ∀ n ∈ f.nodes, n.rebindPorts = n
  ports : ∀ n ∈ f.nodes, ∀ p ∈ n.ports, p.IsReadable
  connections : ∀ c ∈ f.connections, Connection.ofFlat c.toFlat = .ok c
  recorded : ∀ g ∈ f.groups, ∀ id ∈ g.hidden.ids, Recalls f.connections id

namespace IsRecoverable

variable {f : Flow} (h : f.IsRecoverable)

include h

/-- A recoverable flow is readable. -/
theorem isReadable : f.IsReadable where
  isLegible := h.isLegible
  rebindPorts_eq := h.rebindPorts_eq
  ports := h.ports
  connections := h.connections
  recorded := fun g hg id hId => (h.recorded g hg id hId).isOk_parse

/-- A recoverable flow is read back from its text, in every layout. -/
theorem parse?_print {layout : Json.PageLayout} (hLayout : layout.IsBlank) :
    Flow.parse? (f.print layout) = some f := by
  have hGroups : f.groups.map (fun g =>
      { g with hidden := g.hidden.map fun id => resolve f.connections id.reread }) = f.groups := by
    refine Lists.map_eq_self fun g hg => ?_
    rw [HiddenConnections.map_eq_self fun id hId => (h.recorded g hg id hId).resolve_reread]
  rw [h.isReadable.parse?_print hLayout, hGroups]

end IsRecoverable

/-! ## Keys as flat texts -/

/-- A flow in whose keys separators do no harm. -/
structure HasFlatKeys (f : Flow) : Prop where
  nodes : ∀ n ∈ f.nodes, n.id.IsCuttable
  ports : ∀ n ∈ f.nodes, ∀ p ∈ n.ports, p.id = ⟨n.id, p.role⟩ ∧ p.role.IsReadable ∧
    (p.spec.direction.receives = true ∨ p.spec.direction.sends = true)
  connections : ∀ c ∈ f.connections, c.IsKeyed ∧
    (c.sourcePort.role.text ≠ "" ∧ c.sourcePort.role.IsColonFree) ∧
    (c.targetPort.role.text ≠ "" ∧ c.targetPort.role.IsColonFree)
  nodup_texts : (f.connections.map (·.id.text)).Nodup
  /-- What a group has recorded are keys of connections that can be told from their texts. -/
  recorded : ∀ g ∈ f.groups, ∀ id ∈ g.hidden.ids, (∃ c ∈ f.connections, c.id = id) ∧
    id.source.node.IsCuttable ∧ id.target.node.IsCuttable ∧
    '+' ∉ id.source.node.text.toList ∧ '+' ∉ id.source.role.text.toList

instance (f : Flow) : Decidable f.HasFlatKeys :=
  decidable_of_iff
    ((∀ n ∈ f.nodes, n.id.IsCuttable) ∧
      (∀ n ∈ f.nodes, ∀ p ∈ n.ports, p.id = ⟨n.id, p.role⟩ ∧ p.role.IsReadable ∧
        (p.spec.direction.receives = true ∨ p.spec.direction.sends = true)) ∧
      (∀ c ∈ f.connections, c.IsKeyed ∧
        (c.sourcePort.role.text ≠ "" ∧ c.sourcePort.role.IsColonFree) ∧
        (c.targetPort.role.text ≠ "" ∧ c.targetPort.role.IsColonFree)) ∧
      (f.connections.map (·.id.text)).Nodup ∧
      ∀ g ∈ f.groups, ∀ id ∈ g.hidden.ids, (∃ c ∈ f.connections, c.id = id) ∧
        id.source.node.IsCuttable ∧ id.target.node.IsCuttable ∧
        '+' ∉ id.source.node.text.toList ∧ '+' ∉ id.source.role.text.toList)
    ⟨fun h => ⟨h.1, h.2.1, h.2.2.1, h.2.2.2.1, h.2.2.2.2⟩,
      fun h => ⟨h.nodes, h.ports, h.connections, h.nodup_texts, h.recorded⟩⟩

namespace HasFlatKeys

variable {f : Flow}

/-- The ports of a flow with flat keys are bound to their nodes. -/
theorem rebindPorts_eq (h : f.HasFlatKeys) {n : Node} (hn : n ∈ f.nodes) : n.rebindPorts = n := by
  have hPorts : n.ports.map (·.boundTo n.id) = n.ports := by
    refine Lists.map_eq_self fun p hp => ?_
    unfold Port.boundTo
    rw [← (h.ports n hn p hp).1]
  unfold Node.rebindPorts
  rw [hPorts]

/-- The ports of a flow with flat keys can be read. -/
theorem isReadable_port (h : f.HasFlatKeys) {n : Node} (hn : n ∈ f.nodes) {p : Port}
    (hp : p ∈ n.ports) : p.IsReadable := by
  obtain ⟨hId, hRole, hDirection⟩ := h.ports n hn p hp
  refine ⟨?_, hDirection⟩
  rw [hId]
  exact PortId.isOk_parse_text (h.nodes n hn) hRole

/-- The connections of a flow with flat keys are read back from their flat texts. -/
theorem ofFlat_toFlat (h : f.HasFlatKeys) {c : Connection} (hc : c ∈ f.connections) :
    Connection.ofFlat c.toFlat = .ok c := by
  obtain ⟨hKeyed, ⟨hSource, hSourceColon⟩, hTarget, hTargetColon⟩ := h.connections c hc
  exact Connection.ofFlat_toFlat hKeyed (hSourceColon.isReadable hSource)
    (hTargetColon.isReadable hTarget) hSourceColon hTargetColon

/-- A recorded key is that of the only connection with its text. -/
theorem recalls (h : f.HasFlatKeys) {g : Group} (hg : g ∈ f.groups) {id : ConnectionId}
    (hId : id ∈ g.hidden.ids) : Recalls f.connections id := by
  obtain ⟨⟨c, hc, rfl⟩, hSource, hTarget, hNodePlus, hRolePlus⟩ := h.recorded g hg id hId
  obtain ⟨hKeyed, ⟨hSourceRole, hSourceColon⟩, hTargetRole, hTargetColon⟩ := h.connections c hc
  rw [hKeyed.id_eq] at hSource hTarget hNodePlus hRolePlus
  refine recalls_of_isOk ⟨c, hc, rfl⟩ ?_ ?_ fun d hd hText =>
    congrArg Connection.id (List.inj_on_of_nodup_map h.nodup_texts hd hc hText)
  · rw [hKeyed.id_eq, ConnectionId.toList_text, PortId.toList_text, PortId.toList_text]
    unfold Role.IsColonFree at hSourceColon hTargetColon
    simp [hSource.colon, hTarget.colon, hSourceColon, hTargetColon]
  · rw [hKeyed.id_eq]
    exact ConnectionId.isOk_parse_text_of_notMem
      (PortId.isOk_parse_text hSource (hSourceColon.isReadable hSourceRole))
      (PortId.isOk_parse_text hTarget (hTargetColon.isReadable hTargetRole)) hNodePlus hRolePlus

/-- A legible flow with flat keys is recoverable. -/
theorem isRecoverable (h : f.HasFlatKeys) (hLegible : f.IsLegible) : f.IsRecoverable where
  isLegible := hLegible
  rebindPorts_eq := fun _ hn => h.rebindPorts_eq hn
  ports := fun _ hn _ hp => h.isReadable_port hn hp
  connections := fun _ hc => h.ofFlat_toFlat hc
  recorded := fun _ hg _ hId => h.recalls hg hId

/-- A flow with flat keys and legible numbers is read back from both texts that are saved of it. -/
theorem reads_back (h : f.HasFlatKeys) (hLegible : f.IsLegible) :
    Flow.parse? (f.print Json.compact) = some f ∧ Flow.parse? f.fileText = some f := by
  have hRecoverable := h.isRecoverable hLegible
  exact ⟨hRecoverable.parse?_print Json.isBlank_compact,
    hRecoverable.parse?_print Json.isBlank_indented⟩

end HasFlatKeys

/-- A decision table that leads to some code, both in a collapsed box within a box, beside a start
with free values. All ids have underscores. -/
def boxedTable : Flow :=
  let route := Connection.between ⟨⟨"the_table"⟩, .ofGroupName "a_b"⟩ ⟨⟨"code_2_"⟩, ⟨"python-in"⟩⟩
  { nodes := [
      .new ⟨"start_"⟩ "start" (.start (.object [("x_y", .array [.bool true, .null])])),
      { Node.new ⟨"the_table"⟩ "table"
          (.decisionTable { groups := [{ name := "a_b", expression := "x > 1" }] }) with
        parent := some ⟨"in_box"⟩ },
      { Node.new ⟨"code_2_"⟩ "code" (.python {}) with parent := some ⟨"in_box"⟩ }]
    connections := [route]
    groups := [
      { id := ⟨"out_box"⟩, title := "box" },
      { id := ⟨"in_box"⟩, parent := some ⟨"out_box"⟩, collapsed := true,
        hidden := { internal := [route.id] } }] }

/-- The flow of the boxed table is legible. -/
theorem isLegible_boxedTable : boxedTable.IsLegible where
  nodes := by
    have hPlaces : ∀ n ∈ boxedTable.nodes, n.position.IsLegible ∧ n.size.IsLegible := by
      decide +kernel
    have hData : ∀ n ∈ boxedTable.nodes, n.data.IsLegible := by
      unfold boxedTable
      simp [Node.new, Payload.IsLegible, Json.Value.IsLegible, Json.Value.AreLegible,
        Json.Value.AreLegibleFields, Sorted.IsSorted]
    exact fun n hn => ⟨(hPlaces n hn).1, (hPlaces n hn).2, hData n hn⟩
  groups := by
    have hPlaces : ∀ g ∈ boxedTable.groups, g.position.IsLegible ∧ g.size.IsLegible := by
      decide +kernel
    exact fun g hg => ⟨(hPlaces g hg).1, (hPlaces g hg).2⟩
  depth_le := by decide

/-- The flow of the boxed table is read back from both of its texts. -/
theorem HasFlatKeys.reads_back_boxedTable :
    boxedTable.HasFlatKeys ∧ Flow.parse? (boxedTable.print Json.compact) = some boxedTable ∧
      Flow.parse? boxedTable.fileText = some boxedTable := by
  have hKeys : boxedTable.HasFlatKeys := by decide
  exact ⟨hKeys, hKeys.reads_back isLegible_boxedTable⟩

end Flow

end FlowCanvas
