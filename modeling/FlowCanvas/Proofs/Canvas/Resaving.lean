import FlowCanvas.Canvas.Basic
import FlowCanvas.Proofs.Wire.Loading
import Mathlib

/-!
# Saving what has been loaded

What has been loaded is the same drawing when it is saved and loaded again exactly if the keys of
its ports can be read from their flat texts and the keys that groups have recorded are found again
(`Canvas.reloads_loaded_iff`). Neither follows from having been loaded once: ports are made anew or
made to follow their nodes on loading, whatever the id of the node is, and such an id may start with
an underscore.
-/

set_option autoImplicit false

namespace FlowCanvas

/-! ## Ports that can be read again -/

namespace PortId

/-- The flat text of the port can be read: there is something before its first underscore, and
something between that and the next colon. -/
def IsReadable (p : PortId) : Prop :=
  match Text.cutAt? '_' p.node.text.toList with
  | none => p.node.text.toList ≠ [] ∧ p.role.IsReadable
  | some (before, after) => before ≠ [] ∧ after.head? ≠ some ':'

instance (p : PortId) : Decidable p.IsReadable :=
  match hCut : Text.cutAt? '_' p.node.text.toList with
  | none =>
    decidable_of_iff (p.node.text.toList ≠ [] ∧ p.role.IsReadable)
      (by rw [IsReadable, hCut])
  | some (before, after) =>
    decidable_of_iff (before ≠ [] ∧ after.head? ≠ some ':') (by rw [IsReadable, hCut])

/-- Something stands before the first colon of a text that starts, and not with a colon. -/
theorem upToColon_ne_nil_iff {cs : List Char} :
    upToColon cs ≠ [] ↔ cs.head? ∉ [none, some ':'] := by
  cases cs with
  | nil => simp [upToColon]
  | cons c rest =>
    by_cases hColon : c = ':'
    · simp [upToColon, hColon]
    · simp [upToColon, hColon]

/-- A text with an underscore is read if there is something before and something behind it. -/
theorem isOk_parse_iff {raw : String} {node rest : List Char}
    (hRaw : raw.toList = node ++ '_' :: rest) (hNode : '_' ∉ node) :
    (∃ p, parse raw = .ok p) ↔ node ≠ [] ∧ rest.head? ∉ [none, some ':'] := by
  constructor
  · rintro ⟨p, hp⟩
    obtain ⟨rest', hRaw', hNode', hNonempty, -, hRest⟩ := parse_eq_ok_iff.1 hp
    obtain ⟨rfl, rfl⟩ := Text.append_cons_inj (hRaw.symm.trans hRaw') hNode hNode'
    exact ⟨hNonempty, upToColon_ne_nil_iff.1 hRest⟩
  · rintro ⟨hNonempty, hRest⟩
    rw [← String.ofList_toList (s := raw), hRaw]
    exact isOk_parse node rest hNode hNonempty (upToColon_ne_nil_iff.2 hRest)

/-- The text of a port can be read exactly if the port is readable. -/
theorem isOk_parse_text_iff {p : PortId} : (∃ q, parse p.text = .ok q) ↔ p.IsReadable := by
  unfold IsReadable
  cases hCut : Text.cutAt? '_' p.node.text.toList with
  | none =>
    exact isOk_parse_iff (toList_text p) (Text.cutAt?_eq_none_iff.1 hCut)
  | some parts =>
    obtain ⟨before, after⟩ := parts
    obtain ⟨hText, hBefore⟩ := Text.cutAt?_eq_some_iff.1 hCut
    have hRaw : p.text.toList = before ++ '_' :: (after ++ '_' :: p.role.text.toList) := by
      rw [toList_text, hText]
      simp
    rw [isOk_parse_iff hRaw hBefore]
    cases after <;> simp

end PortId

namespace Wire

open FlowCanvas.Json

/-- If a port is read back from its document, its text can be read. -/
theorem isOk_of_port?_ofPort {p read : Port} (h : port? (ofPort p) = some read) :
    ∃ id, PortId.parse p.id.text = .ok id := by
  have hLegible := isLegible_object.1 (isLegible_ofPort p)
  unfold port? ofPort at h
  rw [setAside?_object hLegible] at h
  have hField : fieldNamed? (("id", .string p.id.text) :: portSpecFields p.spec) "id" =
      some (some (.string p.id.text)) := by
    simp [fieldNamed?, fieldsNamed, portSpecFields]
  dsimp only [Option.bind_eq_bind, Option.bind_some] at h
  rw [hField, Option.bind_some] at h
  obtain ⟨id, hId, -⟩ := Option.bind_eq_some_iff.1 h
  refine ⟨id, ?_⟩
  change (PortId.parse p.id.text).toOption = some id at hId
  cases hParse : PortId.parse p.id.text with
  | error e =>
    rw [hParse] at hId
    cases hId
  | ok q =>
    rw [hParse] at hId
    cases hId
    rfl

/-- The keys of the ports of a node that is read can be read. -/
theorem isOk_of_node?_ofNode {n read : Node} (hn : n.IsLegible)
    (h : node? (ofNode n) = some read) {p : Port} (hp : p ∈ n.ports) :
    ∃ id, PortId.parse p.id.text = .ok id := by
  have hLegible : ∀ field ∈ documentFields n, field.2.IsLegible :=
    isLegible_object.1 (isLegible_ofNode hn)
  have hField := fieldNamed?_documentFields n "ports" (ofList ofPort n.ports)
    (by simp [documentFields])
  obtain ⟨fields, hFields, hPorts⟩ := ports_of_node? h
  change setAside? nodeFields (.object (documentFields n)) = some fields at hFields
  rw [setAside?_object hLegible, Option.some.injEq] at hFields
  rw [← hFields, hField, Option.bind_some] at hPorts
  obtain ⟨q, hPort⟩ := Lists.exists_of_forall₂ (list?_ofList_eq_some_iff.1 hPorts) hp
  exact isOk_of_port?_ofPort hPort

end Wire

namespace Flow

/-- A flow that can be saved and loaded once more: the texts of its ports can be read, and what is
read from the texts of the recorded keys is resolved to these keys. -/
structure IsReprintable (f : Flow) : Prop where
  ports : ∀ n ∈ f.nodes, ∀ p ∈ n.ports, p.id.IsReadable
  recorded : ∀ g ∈ f.groups, ∀ id ∈ g.hidden.ids, resolve f.connections id.reread = id

instance (f : Flow) : Decidable f.IsReprintable :=
  decidable_of_iff ((∀ n ∈ f.nodes, ∀ p ∈ n.ports, p.id.IsReadable) ∧
    ∀ g ∈ f.groups, ∀ id ∈ g.hidden.ids, resolve f.connections id.reread = id)
    ⟨fun h => ⟨h.1, h.2⟩, fun h => ⟨h.ports, h.recorded⟩⟩

variable {f : Flow}

/-- A flow of which it can be decided that its numbers are legible: there are no free values in
it. -/
def HasLegiblePlaces (f : Flow) : Prop :=
  (∀ n ∈ f.nodes, n.position.IsLegible ∧ n.size.IsLegible ∧ n.data.freeValues.isEmpty = true) ∧
    ∀ g ∈ f.groups, g.position.IsLegible ∧ g.size.IsLegible

instance (f : Flow) : Decidable f.HasLegiblePlaces := inferInstanceAs (Decidable (_ ∧ _))

/-- A flow with legible places and no free values has legible numbers. -/
theorem HasLegiblePlaces.hasLegibleNumbers (h : f.HasLegiblePlaces) : f.HasLegibleNumbers where
  nodes := by
    intro n hn
    obtain ⟨hPosition, hSize, hEmpty⟩ := h.1 n hn
    refine ⟨hPosition, hSize, ?_⟩
    rw [List.isEmpty_iff.1 hEmpty]
    exact fun v hv => absurd hv List.not_mem_nil
  groups := h.2

/-- The keys of the ports of a flow that is read from its text can be read. -/
theorem isOk_of_parse?_print {read : Flow} (hLegible : f.IsLegible)
    (h : Flow.parse? (f.print Json.compact) = some read) {n : Node} (hn : n ∈ f.nodes) {p : Port}
    (hp : p ∈ n.ports) : ∃ id, PortId.parse p.id.text = .ok id := by
  rw [Flow.parse?_print hLegible Json.isBlank_compact] at h
  obtain ⟨unlinked, hRead, -⟩ := Option.map_eq_some_iff.1 h
  obtain ⟨hNodes, -, -⟩ := Wire.flow?_ofFlow_eq_some_iff.1 hRead
  obtain ⟨m, hm⟩ := Lists.exists_of_forall₂ hNodes hn
  exact Wire.isOk_of_node?_ofNode (hLegible.nodes n hn) hm hp

namespace IsLoaded

/-- A loaded flow whose ports are bound and can be read is readable as a whole. -/
theorem isReadable (h : f.IsLoaded) (hLegible : f.IsLegible)
    (hBound : ∀ n ∈ f.nodes, n.rebindPorts = n)
    (hPorts : ∀ n ∈ f.nodes, ∀ p ∈ n.ports, ∃ id, PortId.parse p.id.text = .ok id) :
    f.IsReadable where
  isLegible := hLegible
  rebindPorts_eq := hBound
  ports := fun n hn p hp => ⟨hPorts n hn p hp, h.directions n hn p hp⟩
  connections := h.connections
  recorded := h.recorded

/-- Every part of a reprintable flow is read back. -/
theorem isRecoverable (h : f.IsLoaded) (hLegible : f.IsLegible)
    (hBound : ∀ n ∈ f.nodes, n.rebindPorts = n) (hReprintable : f.IsReprintable) :
    f.IsRecoverable where
  isLegible := hLegible
  rebindPorts_eq := hBound
  ports := fun n hn p hp =>
    ⟨PortId.isOk_parse_text_iff.2 (hReprintable.ports n hn p hp), h.directions n hn p hp⟩
  connections := h.connections
  recorded := fun g hg id hId => ⟨h.recorded g hg id hId, hReprintable.recorded g hg id hId⟩

end IsLoaded

end Flow

/-- A change of keys that leaves a record as it is leaves every key in it as it is. -/
theorem HiddenConnections.eq_self_of_map_eq {h : HiddenConnections}
    {f : ConnectionId → ConnectionId} (hSame : h.map f = h) : ∀ id ∈ h.ids, f id = id := by
  have hIds : h.ids.map f = h.ids := by rw [← ids_map, hSame]
  exact List.map_inj_left.1 (hIds.trans (List.map_id _).symm)

namespace Canvas

variable {c loaded : Canvas} {text : String}

/-- What a canvas holds after a text has been loaded has been loaded and can be stored. -/
theorem isLoaded_of_loadText? (h : c.loadText? text = some loaded) :
    loaded.flow.IsLoaded ∧ loaded.graph.IsStorable := by
  obtain ⟨f, hRead, rfl⟩ := Option.map_eq_some_iff.1 h
  exact ⟨(Flow.isLoaded_of_parse? hRead).ofFlow, Graph.isStorable_ofFlow f⟩

/-- If what is read from the text of a canvas is what the canvas holds, recorded keys are resolved
to themselves. -/
theorem resolve_of_reloads (hReadable : c.flow.IsReadable) {read : Flow}
    (hRead : Flow.parse? (c.flow.print Json.compact) = some read)
    (hSame : (Graph.ofFlow read).toFlow = c.flow) {g : Group} (hg : g ∈ c.flow.groups)
    {id : ConnectionId} (hId : id ∈ g.hidden.ids) :
    Flow.resolve c.flow.connections id.reread = id := by
  rw [hReadable.parse?_print Json.isBlank_compact] at hRead
  cases hRead
  have hGroups := congrArg Flow.groups hSame
  change (Roster.ofList _).toList = c.flow.groups at hGroups
  rw [Roster.toList_ofList_of_nodup] at hGroups
  · have hGroup := List.map_inj_left.1 (hGroups.trans (List.map_id _).symm) g hg
    exact HiddenConnections.eq_self_of_map_eq (congrArg Group.hidden hGroup) id hId
  · rw [List.map_map]
    exact c.graph.groups.nodup

/-- What has been loaded from a text can be saved and loaded again, into whatever canvas, exactly if
the keys of its ports can be read from their texts and the recorded keys are found again. -/
theorem reloads_loaded_iff (h : c.loadText? text = some loaded)
    (hNumbers : loaded.flow.HasLegibleNumbers) (fresh : Canvas) :
    (∃ reloaded, fresh.loadText? (loaded.flow.print Json.compact) = some reloaded ∧
      reloaded.flow = loaded.flow) ↔ loaded.flow.IsReprintable := by
  obtain ⟨hLoaded, hStorable⟩ := isLoaded_of_loadText? h
  have hLegible := hLoaded.isLegible hNumbers
  have hBound : ∀ n ∈ loaded.flow.nodes, n.rebindPorts = n := fun n hn =>
    (hStorable.nodes n hn).rebindPorts_eq
  constructor
  · rintro ⟨reloaded, hReload, hSame⟩
    obtain ⟨read, hRead, rfl⟩ := Option.map_eq_some_iff.1 hReload
    have hPorts : ∀ n ∈ loaded.flow.nodes, ∀ p ∈ n.ports, ∃ id, PortId.parse p.id.text = .ok id :=
      fun n hn p hp => Flow.isOk_of_parse?_print hLegible hRead hn hp
    have hReadable := hLoaded.isReadable hLegible hBound hPorts
    exact ⟨fun n hn p hp => PortId.isOk_parse_text_iff.1 (hPorts n hn p hp),
      fun g hg id hId => resolve_of_reloads hReadable hRead hSame hg hId⟩
  · intro hReprintable
    have hRecoverable := hLoaded.isRecoverable hLegible hBound hReprintable
    have hRead := hRecoverable.parse?_print Json.isBlank_compact
    refine ⟨fresh.load loaded.flow, ?_, congrArg Graph.toFlow hStorable.ofFlow_toFlow⟩
    unfold loadText?
    rw [hRead, Option.map_some]

/-- The text of a table whose id has an underscore, drawn without its ports, and of a route from
it. -/
def textOfRoutedTable : String :=
  "\x7b\"nodes\":[\x7b\"id\":\"a_b\",\"type\":\"decision-table\",\"data\":\x7b\x7d\x7d]," ++
    "\"connections\":[\x7b\"sourceNodeId\":\"a_b\",\"sourcePortId\":\"a_b_decision-default\"," ++
      "\"targetNodeId\":\"c\",\"targetPortId\":\"c_python-in\"\x7d]\x7d"

/-- The text of a table whose id starts with an underscore. -/
def textOfHiddenTable : String :=
  "\x7b\"nodes\":[\x7b\"id\":\"_t\",\"type\":\"decision-table\",\"data\":\x7b\x7d\x7d]\x7d"

/-- What a new canvas holds after a text has been loaded. -/
def loadedFrom (text : String) : Canvas := (loadText? {} text).getD {}

/-- What is decided on loading a text holds of what is loaded. -/
theorem loadText?_of_any (text : String) (P : Canvas → Prop) [DecidablePred P]
    (h : (loadText? {} text).any (P ·) = true) :
    loadText? {} text = some (loadedFrom text) ∧ P (loadedFrom text) := by
  obtain ⟨loaded, hLoad, hP⟩ := (Option.any_eq_true _ _).1 h
  unfold loadedFrom
  rw [hLoad]
  exact ⟨rfl, of_decide_eq_true hP⟩

/-- The text of the routed table is loaded, and what is loaded survives saving and loading. -/
theorem reloads_loaded_routedTable :
    loadText? {} textOfRoutedTable = some (loadedFrom textOfRoutedTable) ∧
      (loadedFrom textOfRoutedTable).flow.HasLegibleNumbers ∧
      (loadedFrom textOfRoutedTable).flow.connections.length = 1 ∧
      ∃ reloaded,
        loadText? {} ((loadedFrom textOfRoutedTable).flow.print Json.compact) = some reloaded ∧
          reloaded.flow = (loadedFrom textOfRoutedTable).flow := by
  obtain ⟨hLoad, hPlaces, hReprintable, hRoute⟩ :=
    loadText?_of_any textOfRoutedTable (fun c => c.flow.HasLegiblePlaces ∧
      c.flow.IsReprintable ∧ c.flow.connections.length = 1) (by decide +kernel)
  have hNumbers := hPlaces.hasLegibleNumbers
  exact ⟨hLoad, hNumbers, hRoute, (reloads_loaded_iff hLoad hNumbers {}).2 hReprintable⟩

/-- A table whose id starts with an underscore has ports that cannot be read from their texts. -/
theorem not_forall_reloads_loaded :
    ¬ ∀ (c loaded : Canvas) (text : String), c.loadText? text = some loaded →
      loaded.flow.HasLegibleNumbers → ∀ fresh : Canvas, ∃ reloaded,
        fresh.loadText? (loaded.flow.print Json.compact) = some reloaded ∧
          reloaded.flow = loaded.flow := by
  intro h
  obtain ⟨hLoad, hPlaces, hPorts⟩ :=
    loadText?_of_any textOfHiddenTable (fun c => c.flow.HasLegiblePlaces ∧
      ¬ ∀ n ∈ c.flow.nodes, ∀ p ∈ n.ports, p.id.IsReadable) (by decide +kernel)
  have hNumbers := hPlaces.hasLegibleNumbers
  have hLegible := (isLoaded_of_loadText? hLoad).1.isLegible hNumbers
  obtain ⟨reloaded, hReload, -⟩ := h {} _ _ hLoad hNumbers {}
  obtain ⟨read, hRead, -⟩ := Option.map_eq_some_iff.1 hReload
  exact hPorts fun n hn p hp =>
    PortId.isOk_parse_text_iff.1 (Flow.isOk_of_parse?_print hLegible hRead hn hp)

end Canvas

end FlowCanvas
