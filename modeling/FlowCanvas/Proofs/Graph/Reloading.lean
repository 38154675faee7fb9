import FlowCanvas.Proofs.Graph.Flatness
import FlowCanvas.Proofs.Graph.Storing
import FlowCanvas.Proofs.Wire.Recovery
import Mathlib

/-!
# Reloading graphs

A flat graph is the graph of its flow (`Graph.IsStorable.ofFlow_toFlow`), and its flow is read back
from its document exactly if no decision output that is connected has a colon in its role and no
recorded connection leaves an output with an underscore right behind the first plus sign in its role
(`Flow.IsReloadable`). A role is cut off before a colon, and a text with such a plus sign is no key
at all.
-/

set_option autoImplicit false

namespace FlowCanvas

/-- A flow whose keys mean the same when they are read from flat texts. -/
structure Flow.IsReloadable (f : Flow) : Prop where
  /-- No connection leaves an output with a colon in its role. -/
  colonFree : ∀ c ∈ f.connections, c.sourcePort.role.IsColonFree
  /-- No recorded connection leaves an output with an underscore right behind the first plus sign in
  its role. -/
  recorded : ∀ g ∈ f.groups, ∀ id ∈ g.hidden.ids, ¬ id.source.role.HasPlusUnderscore

instance (f : Flow) : Decidable f.IsReloadable :=
  decidable_of_iff ((∀ c ∈ f.connections, c.sourcePort.role.IsColonFree) ∧
    ∀ g ∈ f.groups, ∀ id ∈ g.hidden.ids, ¬ id.source.role.HasPlusUnderscore)
    ⟨fun h => ⟨h.1, h.2⟩, fun h => ⟨h.1, h.2⟩⟩

namespace Connection

/-- What is read from flat texts leaves an output without a colon in its role. -/
theorem isColonFree_of_ofFlat {flat : Wire.FlatConnection} {c : Connection}
    (h : Connection.ofFlat flat = .ok c) : c.sourcePort.role.IsColonFree := by
  unfold ofFlat at h
  cases hSource : PortId.parseFor ⟨flat.sourceNode⟩ flat.sourcePort with
  | error e =>
    rw [hSource] at h
    cases h
  | ok source =>
    cases hTarget : PortId.parseFor ⟨flat.targetNode⟩ flat.targetPort with
    | error e =>
      rw [hSource, hTarget] at h
      cases h
    | ok target =>
      rw [hSource, hTarget] at h
      cases h
      exact PortId.isColonFree_of_parseFor hSource

end Connection

namespace Graph

variable {g : Graph}

namespace Flattens

variable {c d : Connection}

/-- A connection that can be written as flat texts has the key and the nodes of its ports. -/
theorem isKeyed (h : g.Flattens c) : c.IsKeyed := by
  rw [← h.between_eq]
  exact Connection.isKeyed_between _ _

/-- A connection that can be written as flat texts leaves a node with a plain id. -/
theorem isPlain_source (h : g.Flattens c) (hIds : ∀ n ∈ g.nodes.toList, n.id.IsPlain) :
    c.sourcePort.node.IsPlain := by
  obtain ⟨n, hn, hId⟩ := h.source
  rw [h.isKeyed.source_eq, ← hId]
  exact hIds n hn

/-- A connection that can be written as flat texts enters a node with a plain id. -/
theorem isPlain_target (h : g.Flattens c) (hIds : ∀ n ∈ g.nodes.toList, n.id.IsPlain) :
    c.targetPort.node.IsPlain := by
  obtain ⟨n, hn, hId⟩ := h.target
  rw [h.isKeyed.target_eq, ← hId]
  exact hIds n hn

/-- A connection that can be written as flat texts is read back if its source has no colon in its
role. -/
theorem ofFlat_toFlat (h : g.Flattens c) (hColon : c.sourcePort.role.IsColonFree) :
    Connection.ofFlat c.toFlat = .ok c :=
  Connection.ofFlat_toFlat h.isKeyed h.hasStart.isReadable h.isPlain.hasStart.isReadable hColon
    h.isPlain.colon

/-- Stored connections differ in the texts of their keys. -/
theorem eq_of_text_eq (h : g.Flattens c) (h' : g.Flattens d)
    (hIds : ∀ n ∈ g.nodes.toList, n.id.IsPlain) (hText : c.id.text = d.id.text) : c.id = d.id := by
  rw [h.isKeyed.id_eq, h'.isKeyed.id_eq] at hText ⊢
  exact ConnectionId.text_inj hText (h.isPlain_source hIds) (h'.isPlain_source hIds)
    (h.isPlain_target hIds) (h'.isPlain_target hIds) h.isPlain.underscore h'.isPlain.underscore

/-- The text of the key of a connection has no colons if the role of its source has none. -/
theorem colon_notMem_text (h : g.Flattens c) (hIds : ∀ n ∈ g.nodes.toList, n.id.IsPlain)
    (hColon : c.sourcePort.role.IsColonFree) : ':' ∉ c.id.text.toList := by
  rw [h.isKeyed.id_eq, ConnectionId.toList_text, PortId.toList_text, PortId.toList_text]
  have hTargetColon : ':' ∉ c.targetPort.role.text.toList := h.isPlain.colon
  unfold Role.IsColonFree at hColon
  simp [(h.isPlain_source hIds).colon, (h.isPlain_target hIds).colon, hColon, hTargetColon]

/-- The text of the key of a connection without colons can be read, unless the role of its source
has an underscore right behind its first plus sign. -/
theorem isOk_parse_iff (h : g.Flattens c) (hIds : ∀ n ∈ g.nodes.toList, n.id.IsPlain)
    (hColon : c.sourcePort.role.IsColonFree) :
    (∃ read, ConnectionId.parse c.id.text = .ok read) ↔
      ¬ c.sourcePort.role.HasPlusUnderscore := by
  rw [h.isKeyed.id_eq]
  exact ConnectionId.isOk_parse_text_iff (h.isPlain_source hIds) (h.isPlain_target hIds) h.hasStart
    h.isPlain.hasStart hColon h.isPlain.colon

end Flattens

namespace IsFlat

/-- A flat graph has the form that loading gives. -/
theorem isStorable (hg : g.IsFlat) : g.IsStorable where
  nodes := hg.isPrepared.hasStorableNodes
  isVirtual_eq := fun c hc => (hg.connections c hc).isVirtual_eq

/-- The ports of a flat graph can be read from their texts. -/
theorem isReadable (hg : g.IsFlat) {n : Node} (hn : n ∈ g.nodes.toList) (hId : n.id.IsPlain)
    {p : Port} (hp : p ∈ n.ports) : p.IsReadable := by
  have hPort : g.HasPort n.id p := ⟨n, hn, rfl, hp⟩
  refine ⟨?_, ?_⟩
  · rw [hPort.id_eq hg.isPrepared]
    exact ⟨_, PortId.parse_text hId (hg.hasStart_role hPort)⟩
  · rcases hg.spec_cases hPort with hListed | ⟨t, r, hr, hSpec⟩
    · exact hListed.direction
    · rw [hSpec, direction_portSpec hr]
      exact .inr rfl

variable (hIds : ∀ n ∈ g.nodes.toList, n.id.IsPlain)

include hIds

/-- A recorded key is that of a stored connection, so its text is read, and what is read is resolved
to the key with that text. -/
theorem recalls (hg : g.IsFlat) (hRecords : g.RecordsStored) (h : g.toFlow.IsReloadable)
    {group : Group} (hGroup : group ∈ g.groups.toList) {id : ConnectionId}
    (hId : id ∈ group.hidden.ids) : Flow.Recalls g.connections.toList id := by
  obtain ⟨c, hc, rfl⟩ := hRecords group hGroup id hId
  have hFlat := hg.connections c hc
  have hColon := h.colonFree c hc
  have hPlus := h.recorded group hGroup c.id hId
  rw [hFlat.isKeyed.id_eq] at hPlus
  exact Flow.recalls_of_isOk ⟨c, hc, rfl⟩ (hFlat.colon_notMem_text hIds hColon)
    ((hFlat.isOk_parse_iff hIds hColon).2 hPlus)
    fun d hd hText => (hg.connections d hd).eq_of_text_eq hFlat hIds hText

variable (hLegible : g.toFlow.IsLegible)

include hLegible

/-- Every part of a reloadable flow is read back. -/
theorem isRecoverable (hg : g.IsFlat) (hRecords : g.RecordsStored)
    (h : g.toFlow.IsReloadable) : g.toFlow.IsRecoverable where
  isLegible := hLegible
  rebindPorts_eq := fun n hn => (hg.isPrepared n hn).isStorable.rebindPorts_eq
  ports := fun n hn _ hp => hg.isReadable hn (hIds n hn) hp
  connections := fun c hc => (hg.connections c hc).ofFlat_toFlat (h.colonFree c hc)
  recorded := fun _ hGroup _ hId => hg.recalls hIds hRecords h hGroup hId

/-- A flow that is read back as it was is reloadable. -/
theorem isReloadable (hg : g.IsFlat) (hRecords : g.RecordsStored) {f : Flow}
    (hRead : Wire.flow? (Wire.ofFlow g.toFlow) = some f)
    (hSame : (Graph.ofFlow f.relink).toFlow = g.toFlow) : g.toFlow.IsReloadable := by
  obtain ⟨-, hConnections, hGroups⟩ := Wire.flow?_ofFlow_eq_some_iff.1 hRead
  -- every connection has been read from flat texts, where a role ends before its first colon
  have hColon : ∀ c ∈ g.connections.toList, c.sourcePort.role.IsColonFree := by
    intro c hc
    have hMem : c ∈ (Graph.ofFlow f.relink).toFlow.connections := hSame ▸ hc
    have hListed : c ∈ f.connections := List.mem_of_mem_filter (Roster.mem_of_mem_ofList hMem)
    obtain ⟨d, hd⟩ := Lists.exists_of_forall₂ hConnections.flip hListed
    rw [Wire.connection?_ofConnection] at hd
    cases hFlat : Connection.ofFlat d.toFlat with
    | error e =>
      rw [hFlat] at hd
      cases hd
    | ok read =>
      rw [hFlat] at hd
      rw [← Option.some.inj hd]
      exact Connection.isColonFree_of_ofFlat hFlat
  refine ⟨hColon, ?_⟩
  intro group hGroup id hId
  obtain ⟨read, hOne⟩ := Lists.exists_of_forall₂ hGroups hGroup
  rw [Wire.group?_ofGroup (hLegible.groups _ hGroup)] at hOne
  obtain ⟨hidden, hHidden, -⟩ := Option.map_eq_some_iff.1 hOne
  obtain ⟨c, hc, rfl⟩ := hRecords _ hGroup id hId
  have hFlat := hg.connections c hc
  have hPlus := (hFlat.isOk_parse_iff hIds (hColon c hc)).1
    (Wire.isOk_of_hidden?_ofHidden hHidden c.id hId)
  rw [hFlat.isKeyed.id_eq]
  exact hPlus

end IsFlat

end Graph

end FlowCanvas
