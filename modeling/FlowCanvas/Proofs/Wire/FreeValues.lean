import FlowCanvas.Proofs.Json.ReadValues
import FlowCanvas.Proofs.Wire.Flows
import Mathlib

/-!
# Free values in flows

Nodes of two kinds hold JSON values that a user is free to choose. In a flow that has been read,
such a value nests no more deeply than in the text, so the document of the flow nests no more deeply
than the text, unless that is shallower than documents of flows are anyway
(`Wire.depth_ofFlow_le`).
-/

set_option autoImplicit false

namespace FlowCanvas

open FlowCanvas.Json

namespace Payload

/-- The values in the data of a node that a user is free to choose. -/
def freeValues : Payload → List Value
  | .start state => [state]
  | .tool t => [t.config]
  | _ => []

/-- Data are legible if the free values in them are. -/
theorem isLegible_iff {data : Payload} : data.IsLegible ↔ ∀ v ∈ data.freeValues, v.IsLegible := by
  cases data <;> simp [IsLegible, freeValues]

/-- Only the data of two kinds of nodes have free values. -/
theorem freeValues_of_kind_ne {data : Payload} (hStart : data.kind ≠ .start)
    (hTool : data.kind ≠ .tool) : data.freeValues = [] := by
  cases data with
  | start => exact absurd rfl hStart
  | tool => exact absurd rfl hTool
  | _ => rfl

end Payload

/-- Preparing a node keeps its free values. -/
@[simp] theorem Node.freeValues_prepare (n : Node) :
    n.prepare.data.freeValues = n.data.freeValues := by
  unfold prepare
  split
  · rename_i hData
    rw [hData]
    rfl
  · rfl

namespace Wire

variable {d e : Document} {k : Nat}

/-! ## Parts of documents -/

/-- What is found under a name is the value of a field. -/
theorem mem_of_fieldNamed? {fields : List (String × Document)} {name : String}
    (h : fieldNamed? fields name = some (some e)) : ∃ field ∈ fields, field.2 = e := by
  unfold fieldNamed? at h
  split at h
  · cases h
  · rename_i hNamed
    cases h
    obtain ⟨field, hField, rfl⟩ := List.mem_map.1
      (show e ∈ fieldsNamed name fields by rw [hNamed]; exact List.mem_singleton_self e)
    exact ⟨field, List.mem_of_mem_filter hField, rfl⟩
  · cases h

/-- The fields of a record nest less deeply than the record. -/
theorem depth_of_mem_record? {names : List String} {parts : List (Option Document)}
    (h : record? names d = some parts) (he : some e ∈ parts) (hd : d.depth ≤ k + 1) :
    e.depth ≤ k := by
  unfold record? at h
  split at h
  · rename_i fields
    obtain ⟨name, -, hName⟩ := Lists.exists_of_forall₂_right (Lists.mapM_eq_some_iff.1 h) he
    obtain ⟨field, hField, rfl⟩ := mem_of_fieldNamed? hName
    exact Document.depth_object_le_iff.1 hd field hField
  · rename_i items
    split at h
    · cases h
      rcases List.mem_append.1 he with hItem | hMissing
      · obtain ⟨item, hItem, hSame⟩ := List.mem_map.1 hItem
        cases hSame
        exact Document.depth_array_le_iff.1 hd _ hItem
      · cases List.eq_of_mem_replicate hMissing
    · cases h
  · cases h

/-- The items of a list are read from documents that nest less deeply. -/
theorem exists_of_mem_list? {α : Type} {item? : Document → Option α} {items : List α} {a : α}
    (h : list? item? d = some items) (ha : a ∈ items) (hd : d.depth ≤ k + 1) :
    ∃ e : Document, e.depth ≤ k ∧ item? e = some a := by
  unfold list? at h
  split at h
  · obtain ⟨e, he, hItem⟩ := Lists.exists_of_forall₂_right (Lists.mapM_eq_some_iff.1 h) ha
    exact ⟨e, Document.depth_array_le_iff.1 hd e he, hItem⟩
  · cases h

/-- The items of a list in a record are read from documents that nest two levels less deeply. -/
theorem exists_of_mem_withDefault? {α : Type} {names : List String} {parts : List (Option Document)}
    (hParts : record? names d = some parts) {part : Option Document} (hPart : part ∈ parts)
    {item? : Document → Option α} {items : List α}
    (h : withDefault? (list? item?) [] part = some items) {a : α} (ha : a ∈ items)
    (hd : d.depth ≤ k + 2) : ∃ e : Document, e.depth ≤ k ∧ item? e = some a := by
  cases part with
  | none =>
    cases h
    simp at ha
  | some list =>
    have hList : list.depth ≤ k + 1 := depth_of_mem_record? hParts hPart hd
    exact exists_of_mem_list? h ha hList

/-! ## Reading free values -/

/-- A free value in a record is read within the record, or is the default. -/
theorem isReadWithin_withDefault? {part : Option Document} {v : Value}
    (h : withDefault? Value.ofDocument? Value.empty part = some v) (hk : 1 ≤ k)
    (hPart : ∀ e ∈ part, e.depth ≤ k) : v.IsReadWithin k := by
  cases part with
  | none =>
    cases h
    exact Value.IsReadWithin.empty.mono hk
  | some e => exact (Value.IsReadWithin.of_ofDocument? e h).mono (hPart e rfl)

/-- Reading data of a kind gives data of that kind. -/
theorem kind_of_payloadData? {reading : Reading} {kind : NodeKind} {data : Payload}
    (h : payloadData? reading d kind = some data) : data.kind = kind := by
  cases kind <;>
    simp only [payloadData?, Option.bind_eq_bind, Option.bind_eq_some_iff,
      Option.map_eq_some_iff] at h
  case python | decisionTable =>
    obtain ⟨_, -, rfl⟩ := h
    rfl
  all_goals
    obtain ⟨parts, -, h⟩ := h
    split at h
    · simp only [Option.bind_eq_some_iff] at h
      grind [Payload.kind]
    · cases h

/-- The free values of data are read within the depth of their document. -/
theorem isReadWithin_payloadData? {reading : Reading} {kind : NodeKind} {data : Payload}
    (h : payloadData? reading d kind = some data) (hk : 1 ≤ k) (hd : d.depth ≤ k + 1) {v : Value}
    (hv : v ∈ data.freeValues) : v.IsReadWithin k := by
  have hKind := kind_of_payloadData? h
  by_cases hStart : kind = .start
  · subst hStart
    obtain ⟨parts, hParts, hData⟩ := Option.bind_eq_some_iff.1 h
    split at hData
    · obtain ⟨state, hState, hResult⟩ := Option.bind_eq_some_iff.1 hData
      cases hResult
      obtain rfl := List.mem_singleton.1 hv
      refine isReadWithin_withDefault? hState hk fun e he => ?_
      exact depth_of_mem_record? hParts (List.mem_singleton.2 he.symm) hd
    · cases hData
  · by_cases hTool : kind = .tool
    · subst hTool
      obtain ⟨parts, hParts, hData⟩ := Option.bind_eq_some_iff.1 h
      split at hData
      · obtain ⟨id, -, hData⟩ := Option.bind_eq_some_iff.1 hData
        obtain ⟨name, -, hData⟩ := Option.bind_eq_some_iff.1 hData
        obtain ⟨config, hConfig, hResult⟩ := Option.bind_eq_some_iff.1 hData
        cases hResult
        obtain rfl := List.mem_singleton.1 hv
        refine isReadWithin_withDefault? hConfig hk fun e he => ?_
        exact depth_of_mem_record? hParts (by simp [Option.mem_def.1 he]) hd
      · cases hData
    · rw [Payload.freeValues_of_kind_ne (hKind ▸ hStart) (hKind ▸ hTool)] at hv
      simp at hv

/-- Only objects are set aside. -/
theorem eq_object_of_setAside? {readAtOnce : List String} {fields : List (String × Document)}
    (h : setAside? readAtOnce d = some fields) : d = .object fields := by
  unfold setAside? at h
  split at h
  · split at h
    · cases h
      rfl
    · cases h
  · cases h

/-- The free values of a node are read a level within its document. -/
theorem isReadWithin_node? {n : Node} (h : node? d = some n) (hk : 1 ≤ k) (hd : d.depth ≤ k + 2)
    {v : Value} (hv : v ∈ n.data.freeValues) : v.IsReadWithin k := by
  obtain ⟨fields, kind, hFields, hRead⟩ := data_of_node? h
  rw [eq_object_of_setAside? hFields] at hd
  obtain ⟨part, hPart, hData⟩ := Option.bind_eq_some_iff.1 hRead
  cases part with
  | none => cases hData
  | some e =>
    obtain ⟨field, hField, rfl⟩ := mem_of_fieldNamed? hPart
    have hDepth : field.2.depth ≤ k + 1 := Document.depth_object_le_iff.1 hd field hField
    exact isReadWithin_payloadData? hData hk hDepth hv

/-- The parts of a flow are read from parts of its document. -/
theorem exists_of_flow? {f : Flow} (h : flow? d = some f) (hd : d.depth ≤ k + 2) :
    (∀ n ∈ f.nodes, ∃ e : Document, e.depth ≤ k ∧ node? e = some n) ∧
      (∀ c ∈ f.connections, ∃ e, connection? e = some c) ∧
      ∀ g ∈ f.groups, ∃ e, group? e = some g := by
  obtain ⟨parts, hParts, h⟩ := Option.bind_eq_some_iff.1 h
  split at h
  · rename_i nodes connections groups
    obtain ⟨readNodes, hNodes, h⟩ := Option.bind_eq_some_iff.1 h
    obtain ⟨readConnections, hConnections, h⟩ := Option.bind_eq_some_iff.1 h
    obtain ⟨readGroups, hGroups, h⟩ := Option.bind_eq_some_iff.1 h
    cases h
    exact ⟨fun n hn => exists_of_mem_withDefault? hParts (by simp) hNodes hn hd,
      fun c hc => (exists_of_mem_withDefault? hParts (by simp) hConnections hc hd).imp
        fun _ => And.right,
      fun g hg => (exists_of_mem_withDefault? hParts (by simp) hGroups hg hd).imp
        fun _ => And.right⟩
  · cases h

/-- The free values of a flow are read four levels within its document. -/
theorem isReadWithin_flow? {f : Flow} (h : flow? d = some f) (hk : 1 ≤ k) (hd : d.depth ≤ k + 4)
    {n : Node} (hn : n ∈ f.nodes) {v : Value} (hv : v ∈ n.data.freeValues) : v.IsReadWithin k := by
  obtain ⟨e, he, hNode⟩ := (exists_of_flow? (k := k + 2) h hd).1 n hn
  exact isReadWithin_node? hNode hk he hv

/-! ## Depths of documents -/

/-- A text has no depth. -/
@[simp] theorem depth_string (s : String) : (Document.string s).depth = 0 := rfl

/-- A truth value has no depth. -/
@[simp] theorem depth_bool (b : Bool) : (Document.bool b).depth = 0 := rfl

/-- An integer has no depth. -/
@[simp] theorem depth_ofInt (i : Int) : (ofInt i).depth = 0 := rfl

/-- A natural number has no depth. -/
@[simp] theorem depth_ofNat (n : Nat) : (ofNat n).depth = 0 := rfl

/-- A coordinate has no depth. -/
@[simp] theorem depth_ofBinary32 (x : Coordinate) : (ofBinary32 x).depth = 0 := by
  unfold ofBinary32
  split <;> rfl

/-- What may be missing has no depth if what is written for it has none. -/
theorem depth_ofOption {α : Type} {write : α → Document} (h : ∀ a, (write a).depth = 0)
    (o : Option α) : (ofOption write o).depth = 0 := by
  cases o with
  | none => rfl
  | some a => exact h a

/-- A text that may be missing has no depth. -/
@[simp] theorem depth_ofOptionalText (o : Option String) : (ofOption .string o).depth = 0 :=
  depth_ofOption depth_string o

/-- An item id that may be missing has no depth. -/
@[simp] theorem depth_ofOptionalItem (o : Option ItemId) : (ofOptionalItem o).depth = 0 :=
  depth_ofOption (fun _ => rfl) o

/-- A number that may be missing has no depth. -/
@[simp] theorem depth_ofOptionalId (o : Option UInt64) : (ofOptionalId o).depth = 0 :=
  depth_ofOption (fun _ => rfl) o

/-- A list is at most one level deeper than its items. -/
theorem depth_ofList_le {α : Type} {write : α → Document} {items : List α}
    (h : ∀ a ∈ items, (write a).depth ≤ k) : (ofList write items).depth ≤ k + 1 := by
  rw [ofList, Document.depth_array_le_iff]
  intro d hd
  obtain ⟨a, ha, rfl⟩ := List.mem_map.1 hd
  exact h a ha

/-- A list of texts has at most one level. -/
theorem depth_ofTexts_le {α : Type} (text : α → String) (items : List α) :
    (ofList (fun a => .string (text a)) items).depth ≤ 1 :=
  depth_ofList_le fun _ _ => Nat.le_refl 0

/-- A map of texts has at most one level. -/
theorem depth_ofTextMap_le (m : TextMap) : (ofTextMap m).depth ≤ 1 := by
  refine Document.depth_object_le_iff.2 fun field hField => ?_
  obtain ⟨entry, -, rfl⟩ := List.mem_map.1 hField
  exact Nat.le_refl 0

/-- A point has at most one level. -/
theorem depth_ofPoint_le (p : Point) : (ofPoint p).depth ≤ 1 := by
  refine Document.depth_array_le_iff.2 ?_
  simp

/-- Code has at most two levels. -/
theorem depth_ofPythonCode_le (c : PythonCode) : (ofPythonCode c).depth ≤ 2 := by
  have hLibraries := depth_ofTexts_le id c.libraries
  refine Document.depth_object_le_iff.2 ?_
  simpa using hLibraries

/-- A decision table has at most five levels. -/
theorem depth_ofDecisionTable_le (t : DecisionTable) : (ofDecisionTable t).depth ≤ 5 := by
  have hGroups : (ofList ofConditionGroup t.groups).depth ≤ 4 := by
    refine depth_ofList_le fun g _ => ?_
    have hConditions : (ofList ofCondition g.conditions).depth ≤ 2 := by
      refine depth_ofList_le fun c _ => Document.depth_object_le_iff.2 ?_
      simp
    refine Document.depth_object_le_iff.2 ?_
    simpa using hConditions
  refine Document.depth_object_le_iff.2 ?_
  simpa using hGroups

/-- The document of the data of a node nests as deeply as its free values do, and not very deeply
without them. -/
theorem depth_ofPayloadData_le {data : Payload} (hk : 4 ≤ k)
    (h : ∀ v ∈ data.freeValues, v.toDocument.depth ≤ k) : (ofPayloadData data).depth ≤ k + 1 := by
  have hCode : ∀ c : PythonCode, (ofPythonCode c).depth ≤ k := fun c =>
    (depth_ofPythonCode_le c).trans (by omega)
  cases data with
  | start state =>
    refine Document.depth_object_le_iff.2 ?_
    simpa using h state (List.mem_singleton_self state)
  | tool t =>
    refine Document.depth_object_le_iff.2 ?_
    simpa using h t.config (List.mem_singleton_self t.config)
  | python code => exact (hCode code).trans (Nat.le_succ k)
  | decisionTable t => exact (depth_ofDecisionTable_le t).trans (by omega)
  | finish outputs =>
    refine Document.depth_object_le_iff.2 ?_
    simpa using (depth_ofTextMap_le outputs).trans (by omega)
  | fileExtractor f =>
    refine Document.depth_object_le_iff.2 ?_
    simpa using (depth_ofTexts_le id f.paths).trans (by omega)
  | telegramTrigger t =>
    have hChats : (ofList (fun c : Int64 => ofInt c.toInt) t.chats).depth ≤ 1 :=
      depth_ofList_le fun _ _ => Nat.le_refl 0
    refine Document.depth_object_le_iff.2 ?_
    simpa using hChats.trans (by omega)
  | _ =>
    refine Document.depth_object_le_iff.2 ?_
    simp [hCode]

/-- A node has at most two levels around the free values in it. -/
theorem depth_ofNode_le {n : Node} (hk : 4 ≤ k)
    (h : ∀ v ∈ n.data.freeValues, v.toDocument.depth ≤ k) : (ofNode n).depth ≤ k + 2 := by
  have hPoint : ∀ p : Point, (ofPoint p).depth ≤ k + 1 := fun p =>
    (depth_ofPoint_le p).trans (by omega)
  have hPorts : (ofList ofPort n.ports).depth ≤ k + 1 := by
    refine depth_ofList_le fun p _ => ?_
    have hAllowed := depth_ofTexts_le Role.text p.spec.allowed
    refine le_trans (b := 2) (Document.depth_object_le_iff.2 ?_) (by omega)
    simpa [portSpecFields] using hAllowed
  have hInputs : (ofTextMap n.inputMap).depth ≤ k + 1 :=
    (depth_ofTextMap_le n.inputMap).trans (by omega)
  have hData := depth_ofPayloadData_le hk h
  refine Document.depth_object_le_iff.2 ?_
  simp [payloadFields, hPoint, hPorts, hInputs, hData]

/-- A group has at most three levels. -/
theorem depth_ofGroup_le (g : Group) : (ofGroup g).depth ≤ 3 := by
  have hPoint : ∀ p : Point, (ofPoint p).depth ≤ 2 := fun p =>
    (depth_ofPoint_le p).trans (by omega)
  have hHidden : (ofHidden g.hidden).depth ≤ 2 := by
    have hIds : ∀ ids, (ofConnectionIds ids).depth ≤ 1 := depth_ofTexts_le ConnectionId.text
    refine Document.depth_object_le_iff.2 ?_
    simp [hIds]
  refine Document.depth_object_le_iff.2 ?_
  simp [hPoint, hHidden]

/-- The document of a flow nests four levels more deeply than its free values do, and not very
deeply without them. -/
theorem depth_ofFlow_le {f : Flow} (hk : 4 ≤ k)
    (h : ∀ n ∈ f.nodes, ∀ v ∈ n.data.freeValues, v.toDocument.depth ≤ k) :
    (ofFlow f).depth ≤ k + 4 := by
  have hNodes : (ofList ofNode f.nodes).depth ≤ k + 3 :=
    depth_ofList_le fun n hn => depth_ofNode_le hk (h n hn)
  have hConnections : (ofList ofConnection f.connections).depth ≤ k + 3 := by
    refine le_trans (b := 2) (depth_ofList_le fun c _ => ?_) (by omega)
    refine Document.depth_object_le_iff.2 ?_
    simp
  have hGroups : (ofList ofGroup f.groups).depth ≤ k + 3 :=
    (depth_ofList_le fun g _ => depth_ofGroup_le g).trans (by omega)
  refine Document.depth_object_le_iff.2 ?_
  simp [hNodes, hConnections, hGroups]

end Wire

end FlowCanvas
