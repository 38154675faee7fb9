import FlowCanvas.Proofs.Graph.Storing
import FlowCanvas.Proofs.Wire.FreeValues
import FlowCanvas.Proofs.Wire.Recovery
import Mathlib

/-!
# Flows that have been loaded

What is read from a text has gone through flat texts once (`Flow.IsLoaded`): the keys and the roles
of connections end before any colon, so connections are read back whatever their ids are, and the
keys that groups have recorded can be read again. The keys of ports are another matter, because they
are made anew on loading from ids that were never read as a part of a flat text.
-/

set_option autoImplicit false

namespace FlowCanvas

open FlowCanvas.Json

/-! ## Reading twice -/

/-- A port that has been read for a node belongs to it and has a role without a colon. -/
theorem PortId.exists_of_parseFor {node : ItemId} {raw : String} {p : PortId}
    (h : parseFor node raw = .ok p) : p.node = node ∧ p.role.IsReadable ∧ p.role.IsColonFree := by
  have hColon := isColonFree_of_parseFor h
  unfold parseFor at h
  split at h
  · cases h
  · simp only at h
    split at h
    · cases h
    · rename_i hNonempty
      cases h
      refine ⟨rfl, hColon.isReadable fun hEmpty => hNonempty ?_, hColon⟩
      simpa using hEmpty

/-- What has been read as a connection from flat texts is read back from its own flat texts. -/
theorem Connection.ofFlat_toFlat_of_ofFlat {flat : Wire.FlatConnection} {c : Connection}
    (h : Connection.ofFlat flat = .ok c) : Connection.ofFlat c.toFlat = .ok c := by
  unfold ofFlat at h
  cases hSource : PortId.parseFor ⟨flat.sourceNode⟩ flat.sourcePort with
  | error e =>
    rw [hSource] at h
    cases h
  | ok source =>
    cases hTarget : PortId.parseFor ⟨flat.targetNode⟩ flat.targetPort with
    | error e =>
      rw [hSource, hTarget] at h
      cases h
    | ok target =>
      rw [hSource, hTarget] at h
      cases h
      obtain ⟨-, hSourceRole, hSourceColon⟩ := PortId.exists_of_parseFor hSource
      obtain ⟨-, hTargetRole, hTargetColon⟩ := PortId.exists_of_parseFor hTarget
      exact ofFlat_toFlat ⟨rfl, rfl, rfl⟩ hSourceRole hTargetRole hSourceColon hTargetColon

/-- A direction that is read from a name receives or sends. -/
theorem Direction.works_of_ofName? {s : String} {d : Direction} (h : ofName? s = some d) :
    d.receives = true ∨ d.sends = true := by
  unfold ofName? at h
  split at h <;> cases h <;> decide

namespace Wire

variable {d : Document}

/-- A required field has been read from what is there. -/
theorem exists_of_required? {α : Type} {read? : Document → Option α} {part : Option Document}
    {a : α} (h : required? read? part = some a) : ∃ e, part = some e ∧ read? e = some a := by
  cases part with
  | none => cases h
  | some e => exact ⟨e, rfl, h⟩

/-- A port that has been read receives or sends. -/
theorem works_of_port? {p : Port} (h : port? d = some p) :
    p.spec.direction.receives = true ∨ p.spec.direction.sends = true := by
  obtain ⟨fields, -, hRead⟩ := direction_of_port? h
  obtain ⟨part, -, hDirection⟩ := Option.bind_eq_some_iff.1 hRead
  obtain ⟨e, -, hName⟩ := exists_of_required? hDirection
  obtain ⟨name, -, hOfName⟩ := Option.bind_eq_some_iff.1 hName
  exact Direction.works_of_ofName? hOfName

/-- The items of a list that may be missing have all been read. -/
theorem exists_of_mem_listOrEmpty {α : Type} {item? : Document → Option α}
    {part : Option Document} {items : List α} {a : α}
    (h : withDefault? (list? item?) [] part = some items) (ha : a ∈ items) :
    ∃ e, item? e = some a := by
  cases part with
  | none =>
    cases h
    simp at ha
  | some list =>
    obtain ⟨e, -, he⟩ := exists_of_mem_list? h ha (Nat.le_succ list.depth)
    exact ⟨e, he⟩

/-- The ports of a node that has been read receive or send. -/
theorem works_of_node? {n : Node} (h : node? d = some n) {p : Port} (hp : p ∈ n.ports) :
    p.spec.direction.receives = true ∨ p.spec.direction.sends = true := by
  obtain ⟨fields, -, hRead⟩ := ports_of_node? h
  obtain ⟨part, -, hPorts⟩ := Option.bind_eq_some_iff.1 hRead
  obtain ⟨e, hPort⟩ := exists_of_mem_listOrEmpty hPorts hp
  exact works_of_port? hPort

/-- The key of a connection that has been read can be parsed from its text again. -/
theorem parse_of_connectionId? {id : ConnectionId} (h : connectionId? d = some id) :
    ConnectionId.parse id.text = .ok id := by
  obtain ⟨raw, -, hRead⟩ := Option.bind_eq_some_iff.1 h
  cases hParse : ConnectionId.parse raw with
  | error e =>
    rw [hParse] at hRead
    cases hRead
  | ok read =>
    rw [hParse] at hRead
    cases hRead
    exact ConnectionId.parse_text_of_parse hParse

/-- The keys in a record that has been read can be parsed from their texts again. -/
theorem parse_of_hidden? {hidden : HiddenConnections} (h : hidden? d = some hidden)
    {id : ConnectionId} (hId : id ∈ hidden.ids) : ConnectionId.parse id.text = .ok id := by
  obtain ⟨parts, -, h⟩ := Option.bind_eq_some_iff.1 h
  split at h
  · obtain ⟨inputs, hInputs, h⟩ := Option.bind_eq_some_iff.1 h
    obtain ⟨outputs, hOutputs, h⟩ := Option.bind_eq_some_iff.1 h
    obtain ⟨internal, hInternal, h⟩ := Option.bind_eq_some_iff.1 h
    cases h
    unfold HiddenConnections.ids at hId
    rw [List.mem_append, List.mem_append] at hId
    have hRead : ∃ e, connectionId? e = some id := by
      rcases hId with (hId | hId) | hId
      · exact exists_of_mem_listOrEmpty hInputs hId
      · exact exists_of_mem_listOrEmpty hOutputs hId
      · exact exists_of_mem_listOrEmpty hInternal hId
    obtain ⟨e, he⟩ := hRead
    exact parse_of_connectionId? he
  · cases h

/-- The keys that a group has recorded when it is read can be parsed from their texts again. -/
theorem parse_of_group? {group : Group} (h : group? d = some group) {id : ConnectionId}
    (hId : id ∈ group.hidden.ids) : ConnectionId.parse id.text = .ok id := by
  obtain ⟨recorded, hHidden⟩ := hidden_of_group? h
  cases recorded with
  | none =>
    rw [← Option.some.inj hHidden] at hId
    simp [HiddenConnections.ids] at hId
  | some e => exact parse_of_hidden? hHidden hId

/-- What has been read as a connection has been read from flat texts. -/
theorem ofFlat_toFlat_of_connection? {c : Connection} (h : connection? d = some c) :
    Connection.ofFlat c.toFlat = .ok c := by
  obtain ⟨flat, -, hRead⟩ := Option.bind_eq_some_iff.1 h
  cases hFlat : Connection.ofFlat flat with
  | error e =>
    rw [hFlat] at hRead
    cases hRead
  | ok read =>
    rw [hFlat] at hRead
    cases hRead
    exact Connection.ofFlat_toFlat_of_ofFlat hFlat

end Wire

/-- Changing all keys of a record changes everything that is recorded. -/
theorem HiddenConnections.ids_map (h : HiddenConnections) (f : ConnectionId → ConnectionId) :
    (h.map f).ids = h.ids.map f := by
  simp [ids, map]

/-- The ports of decision tables receive or send. -/
theorem DecisionTable.works_portSpec (r : Role) :
    (portSpec r).direction.receives = true ∨ (portSpec r).direction.sends = true := by
  unfold portSpec
  split_ifs
  · exact .inl rfl
  all_goals exact .inr rfl

/-- The ports of a decision table work in some way, and other nodes keep theirs. -/
theorem Node.works_prepare (n : Node)
    (h : ∀ p ∈ n.ports, p.spec.direction.receives = true ∨ p.spec.direction.sends = true) :
    ∀ p ∈ n.prepare.ports, p.spec.direction.receives = true ∨ p.spec.direction.sends = true := by
  intro p hp
  cases hTable : n.table? with
  | none =>
    rw [prepare_of_table?_eq_none hTable] at hp
    obtain ⟨q, hq, rfl⟩ := List.mem_map.1 hp
    exact h q hq
  | some t =>
    rw [prepare_table (table?_eq_some.1 hTable)] at hp
    rw [DecisionTable.ports_eq] at hp
    obtain ⟨r, -, rfl⟩ := List.mem_map.1 hp
    exact DecisionTable.works_portSpec r

/-! ## Loaded flows -/

namespace Flow

/-- A flow that can have been loaded. -/
structure IsLoaded (f : Flow) : Prop where
  /-- Ports work in some way, because there are names only for such. -/
  directions : ∀ n ∈ f.nodes, ∀ p ∈ n.ports,
    p.spec.direction.receives = true ∨ p.spec.direction.sends = true
  /-- Documents of flows nest four levels more deeply than the free values in them. -/
  freeValues : ∀ n ∈ f.nodes, ∀ v ∈ n.data.freeValues, v.IsReadWithin (maxDepth - 4)
  connections : ∀ c ∈ f.connections, Connection.ofFlat c.toFlat = .ok c
  recorded : ∀ g ∈ f.groups, ∀ id ∈ g.hidden.ids, ∃ read, ConnectionId.parse id.text = .ok read

/-- A flow whose numbers are read back from the numerals that they are written as. Infinities have
none. -/
structure HasLegibleNumbers (f : Flow) : Prop where
  nodes : ∀ n ∈ f.nodes, n.position.IsLegible ∧ n.size.IsLegible ∧
    ∀ v ∈ n.data.freeValues, ∀ x ∈ v.numbers, x.IsLegible
  groups : ∀ g ∈ f.groups, g.position.IsLegible ∧ g.size.IsLegible

/-- A key that is resolved keeps its text. -/
theorem text_resolve (connections : List Connection) (id : ConnectionId) :
    (resolve connections id).text = id.text := by
  unfold resolve
  split
  · rename_i hFind
    simpa using List.find?_some hFind
  · rfl

/-- A flow that has been read from a document has gone through flat texts. -/
theorem isLoaded_of_flow? {d : Document} {f : Flow} (h : Wire.flow? d = some f)
    (hd : d.depth ≤ maxDepth) : f.IsLoaded := by
  obtain ⟨hNodes, hConnections, hGroups⟩ := Wire.exists_of_flow? (k := maxDepth) h (by omega)
  refine ⟨fun n hn p hp => ?_, fun n hn v hv => ?_, fun c hc => ?_, fun g hg id hId => ?_⟩
  · obtain ⟨e, -, he⟩ := hNodes n hn
    exact Wire.works_of_node? he hp
  · exact Wire.isReadWithin_flow? h (by decide) hd hn hv
  · obtain ⟨e, he⟩ := hConnections c hc
    exact Wire.ofFlat_toFlat_of_connection? he
  · obtain ⟨e, he⟩ := hGroups g hg
    exact ⟨id, Wire.parse_of_group? he hId⟩

namespace IsLoaded

variable {f : Flow}

/-- Relinking keeps a flow one that has gone through flat texts. -/
theorem relink (h : f.IsLoaded) : f.relink.IsLoaded where
  directions := by
    intro n hn p hp
    obtain ⟨m, hm, rfl⟩ := List.mem_map.1 hn
    obtain ⟨q, hq, rfl⟩ := List.mem_map.1 hp
    exact h.directions m hm q hq
  freeValues := by
    intro n hn
    obtain ⟨m, hm, rfl⟩ := List.mem_map.1 hn
    exact h.freeValues m hm
  connections := h.connections
  recorded := by
    intro g hg id hId
    obtain ⟨group, hGroup, rfl⟩ := List.mem_map.1 hg
    rw [HiddenConnections.ids_map] at hId
    obtain ⟨recorded, hRecorded, rfl⟩ := List.mem_map.1 hId
    rw [text_resolve]
    exact h.recorded group hGroup recorded hRecorded

/-- What a canvas holds of a loaded flow is a loaded flow. -/
theorem ofFlow (h : f.IsLoaded) : (Graph.ofFlow f).toFlow.IsLoaded where
  directions := by
    intro n hn p hp
    obtain ⟨m, hm, rfl⟩ := List.mem_map.1 (Roster.mem_of_mem_ofList hn)
    exact m.works_prepare (h.directions m hm) p hp
  freeValues := by
    intro n hn
    obtain ⟨m, hm, rfl⟩ := List.mem_map.1 (Roster.mem_of_mem_ofList hn)
    rw [Node.freeValues_prepare]
    exact h.freeValues m hm
  connections := fun c hc =>
    h.connections c (List.mem_of_mem_filter (Roster.mem_of_mem_ofList hc))
  recorded := fun g hg => h.recorded g (Roster.mem_of_mem_ofList hg)

/-- A loaded flow with legible numbers is legible. -/
theorem isLegible (h : f.IsLoaded) (hNumbers : f.HasLegibleNumbers) : f.IsLegible where
  nodes := fun n hn =>
    ⟨(hNumbers.nodes n hn).1, (hNumbers.nodes n hn).2.1, Payload.isLegible_iff.2 fun v hv =>
      (h.freeValues n hn v hv).isLegible ((hNumbers.nodes n hn).2.2 v hv)⟩
  groups := fun g hg => ⟨(hNumbers.groups g hg).1, (hNumbers.groups g hg).2⟩
  depth_le := Wire.depth_ofFlow_le (by decide) fun n hn v hv => (h.freeValues n hn v hv).depth_le

end IsLoaded

/-- What is read from a text can have been loaded. -/
theorem isLoaded_of_parse? {text : String} {f : Flow} (h : Flow.parse? text = some f) :
    f.IsLoaded := by
  obtain ⟨read, hRead, rfl⟩ := Option.map_eq_some_iff.1 h
  obtain ⟨d, hDocument, hFlow⟩ := Option.bind_eq_some_iff.1 hRead
  exact (isLoaded_of_flow? hFlow (Document.depth_le_of_parse? hDocument)).relink

end Flow

end FlowCanvas
