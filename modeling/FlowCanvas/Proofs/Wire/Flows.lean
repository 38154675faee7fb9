import FlowCanvas.Proofs.Graph.Records
import FlowCanvas.Proofs.Wire.Ids
import FlowCanvas.Proofs.Wire.Payloads
import FlowCanvas.Wire.Flow
import Mathlib

/-!
# Documents of flows

A flow is read part by part from its document (`flow?_ofFlow_eq_some_iff`). Nodes are read back up
to the keys of their ports, which are made to follow the node anyway. What is read of a connection
and of the record of a group depends on the flat texts of their keys.

Coordinates and free values have to be legible for that: their numerals stand for the same numbers.
-/

set_option autoImplicit false

namespace FlowCanvas

open FlowCanvas.Json

/-! ## Legible flows -/

/-- A coordinate that is read back from the numeral that it is written as. Infinities have none. -/
def Coordinate.IsLegible (x : Coordinate) : Prop :=
  ∃ n, numeralOf? layout32 x = some n ∧ n.IsLegible ∧
    (Number.ofNumeral? n).map Number.toBinary32 = some x

/-- A point with legible coordinates. -/
def Point.IsLegible (p : Point) : Prop := Coordinate.IsLegible p.x ∧ Coordinate.IsLegible p.y

instance {f : Binary.Format} : DecidableEq (Binary f) := fun x y =>
  decidable_of_iff (x.negative = y.negative ∧ x.rank = y.rank) (by cases x; cases y; simp)

instance (x : Coordinate) : Decidable (Coordinate.IsLegible x) :=
  decidable_of_iff ((numeralOf? layout32 x).any fun n => Numeral.scan? n.chars = some (n, []) ∧
    (Number.ofNumeral? n).map Number.toBinary32 = some x)
    (by simp [Coordinate.IsLegible, Numeral.IsLegible, Option.any_eq_true])

instance (p : Point) : Decidable p.IsLegible := inferInstanceAs (Decidable (_ ∧ _))

/-- Most kinds of data have no free values. -/
theorem Payload.isLegible_of_kind_ne {data : Payload} (hStart : data.kind ≠ .start)
    (hTool : data.kind ≠ .tool) : data.IsLegible := by
  cases data with
  | start => exact absurd rfl hStart
  | tool => exact absurd rfl hTool
  | _ => trivial

/-- A node whose place and whose free values are legible. -/
structure Node.IsLegible (n : Node) : Prop where
  position : n.position.IsLegible
  size : n.size.IsLegible
  data : n.data.IsLegible

/-- A group whose place is legible. -/
structure Group.IsLegible (g : Group) : Prop where
  position : g.position.IsLegible
  size : g.size.IsLegible

/-- A flow whose numbers are read back and which does not nest more deeply than is allowed. -/
structure Flow.IsLegible (f : Flow) : Prop where
  nodes : ∀ n ∈ f.nodes, n.IsLegible
  groups : ∀ g ∈ f.groups, g.IsLegible
  depth_le : (Wire.ofFlow f).depth ≤ maxDepth

/-- A flow of which it can be decided that it is legible and has plain ids: there are no free values
in it, and its ids are made of the characters of UUIDs. -/
def Flow.IsSimple (f : Flow) : Prop :=
  (∀ n ∈ f.nodes, n.id.text.toList ≠ [] ∧ n.id.text.toList.all ItemId.uuidChars.contains = true ∧
      n.position.IsLegible ∧ n.size.IsLegible ∧ n.kind ≠ .start ∧ n.kind ≠ .tool) ∧
    (∀ g ∈ f.groups, g.position.IsLegible ∧ g.size.IsLegible) ∧
    (Wire.ofFlow f).depth ≤ maxDepth

instance (f : Flow) : Decidable f.IsSimple := inferInstanceAs (Decidable (_ ∧ _))

namespace Flow.IsSimple

variable {f : Flow}

/-- The nodes of a simple flow have plain ids. -/
theorem isPlain_id (h : f.IsSimple) : ∀ n ∈ f.nodes, n.id.IsPlain := by
  intro n hn
  obtain ⟨hNonempty, hChars, -⟩ := h.1 n hn
  exact ItemId.isPlain_of_uuidChars hNonempty hChars

/-- A simple flow is legible. -/
theorem isLegible (h : f.IsSimple) : f.IsLegible where
  nodes := by
    intro n hn
    obtain ⟨-, -, hPosition, hSize, hStart, hTool⟩ := h.1 n hn
    exact ⟨hPosition, hSize, Payload.isLegible_of_kind_ne hStart hTool⟩
  groups := fun g hg => ⟨(h.2.1 g hg).1, (h.2.1 g hg).2⟩
  depth_le := h.2.2

end Flow.IsSimple

/-- A port whose key can be read and which works in some way. -/
structure Port.IsReadable (p : Port) : Prop where
  isOk_parse : ∃ id, PortId.parse p.id.text = .ok id
  direction : p.spec.direction.receives = true ∨ p.spec.direction.sends = true

/-! ## Names -/

/-- A direction is read back from its name, unless it neither receives nor sends. -/
theorem Direction.ofName?_name {d : Direction} (h : d.receives = true ∨ d.sends = true) :
    Direction.ofName? d.name = some d := by
  obtain ⟨_ | _, _ | _⟩ := d
  · simp at h
  all_goals rfl

/-- A side is read back from its name. -/
@[simp] theorem Side.ofName?_name (s : Side) : Side.ofName? s.name = some s := by
  cases s <;> rfl

/-- A behavior is read back from its name. -/
@[simp] theorem Behavior.ofName?_name (b : Behavior) : Behavior.ofName? b.name = some b := by
  cases b <;> rfl

namespace Wire

/-! ## Reading parts -/

/-- A legible document has a value. -/
theorem hasValue_of_isLegible {d : Document} (hd : d.IsLegible) : hasValue d = true :=
  Value.isSome_ofDocument? d hd

/-- What is legible can be set aside. -/
theorem setAside?_object {names : List String} {fields : List (String × Document)}
    (h : ∀ field ∈ fields, field.2.IsLegible) : setAside? names (.object fields) = some fields := by
  unfold setAside?
  simp only
  rw [if_pos]
  rw [List.all_eq_true]
  intro field hField
  rw [hasValue_of_isLegible (h field hField), Bool.or_true]

/-- A list is read item by item. -/
theorem list?_ofList_eq_some_iff {α β : Type} {read? : Document → Option β} {write : α → Document}
    {items : List α} {results : List β} :
    list? read? (ofList write items) = some results ↔
      List.Forall₂ (fun a b => read? (write a) = some b) items results := by
  unfold list? ofList
  simp only
  rw [Lists.mapM_eq_some_iff, List.forall₂_map_left_iff]

/-- A legible coordinate is read back. -/
theorem coordinate?_ofBinary32 {x : Coordinate} (h : Coordinate.IsLegible x) :
    coordinate? (ofBinary32 x) = some x := by
  obtain ⟨n, hNumeral, -, hBack⟩ := h
  unfold ofBinary32
  rw [hNumeral]
  exact hBack

/-- The document of a legible coordinate is legible. -/
theorem isLegible_ofBinary32 {x : Coordinate} (h : Coordinate.IsLegible x) :
    (ofBinary32 x).IsLegible := by
  obtain ⟨n, hNumeral, hLegible, hBack⟩ := h
  unfold ofBinary32
  rw [hNumeral]
  refine ⟨hLegible, ?_⟩
  rw [← Option.isSome_map, hBack]
  rfl

/-- A legible point is read back. -/
theorem point?_ofPoint {p : Point} (h : p.IsLegible) : point? (ofPoint p) = some p := by
  unfold point? ofPoint
  simp only
  rw [coordinate?_ofBinary32 h.1, coordinate?_ofBinary32 h.2]
  rfl

/-- The document of a legible point is legible. -/
theorem isLegible_ofPoint {p : Point} (h : p.IsLegible) : (ofPoint p).IsLegible := by
  refine isLegible_array.2 ?_
  simp [isLegible_ofBinary32 h.1, isLegible_ofBinary32 h.2]

/-- An item id is read from its text. -/
@[simp] theorem itemId?_string (s : String) : itemId? (.string s) = some ⟨s⟩ := rfl

/-- A role is read from its text. -/
@[simp] theorem role?_string (s : String) : role? (.string s) = some ⟨s⟩ := rfl

/-- An item id that may be missing is read back. -/
@[simp] theorem optional?_item (o : Option ItemId) :
    optional? itemId? (some (ofOptionalItem o)) = some o := by
  unfold ofOptionalItem
  refine optional?_ofOption ?_ ?_ o
  · exact fun _ => rfl
  · exact fun _ => by simp

/-- Roles are read back. -/
@[simp] theorem list?_role (roles : List Role) :
    list? role? (ofList (fun r => .string r.text) roles) = some roles :=
  list?_ofList fun _ _ => rfl

/-! ## Fields that have been read -/

/-- The direction of a port that has been read stands in its field `port_type`. -/
theorem direction_of_port? {d : Document} {p : Port} (h : port? d = some p) :
    ∃ fields, setAside? ["id"] d = some fields ∧
      (fieldNamed? fields "port_type").bind
        (required? fun d => (text? d).bind Direction.ofName?) = some p.spec.direction := by
  obtain ⟨fields, hFields, h⟩ := Option.bind_eq_some_iff.1 h
  refine ⟨fields, hFields, ?_⟩
  -- every step of the reader leaves its result behind, whatever their order and number
  repeat replace ⟨_, _, h⟩ := Option.bind_eq_some_iff.1 h
  cases h
  exact Option.bind_eq_some_iff.2 ⟨_, ‹fieldNamed? fields "port_type" = some _›, ‹_›⟩

/-- The ports of a node that has been read stand in its field `ports`; there are none without it. -/
theorem ports_of_node? {d : Document} {n : Node} (h : node? d = some n) :
    ∃ fields, setAside? nodeFields d = some fields ∧
      (fieldNamed? fields "ports").bind (withDefault? (list? port?) []) = some n.ports := by
  obtain ⟨fields, hFields, h⟩ := Option.bind_eq_some_iff.1 h
  refine ⟨fields, hFields, ?_⟩
  repeat replace ⟨_, _, h⟩ := Option.bind_eq_some_iff.1 h
  cases h
  exact Option.bind_eq_some_iff.2 ⟨_, ‹fieldNamed? fields "ports" = some _›, ‹_›⟩

/-- The data of a node that has been read stand in its field `data`, as data of some kind. -/
theorem data_of_node? {d : Document} {n : Node} (h : node? d = some n) :
    ∃ fields kind, setAside? nodeFields d = some fields ∧
      (fieldNamed? fields "data").bind (required? (payloadData? .setAside · kind)) =
        some n.data := by
  obtain ⟨fields, hFields, h⟩ := Option.bind_eq_some_iff.1 h
  repeat replace ⟨_, _, h⟩ := Option.bind_eq_some_iff.1 h
  cases h
  exact ⟨fields, _, hFields,
    Option.bind_eq_some_iff.2 ⟨_, ‹fieldNamed? fields "data" = some _›, ‹_›⟩⟩

/-- The record of a group that has been read has been read from a field, or is empty. -/
theorem hidden_of_group? {d : Document} {group : Group} (h : group? d = some group) :
    ∃ part, withDefault? hidden? {} part = some group.hidden := by
  obtain ⟨parts, -, h⟩ := Option.bind_eq_some_iff.1 h
  split at h
  · repeat replace ⟨_, _, h⟩ := Option.bind_eq_some_iff.1 h
    cases h
    exact ⟨_, ‹_›⟩
  · cases h

/-! ## Ports and nodes -/

/-- The document of an item id that may be missing is legible. -/
@[simp] theorem isLegible_ofOptionalItem (o : Option ItemId) : (ofOptionalItem o).IsLegible := by
  refine isLegible_ofOption (fun i => ?_) o
  exact isLegible_string i.text

/-- The documents of roles are legible. -/
@[simp] theorem isLegible_ofRoles (roles : List Role) :
    (ofList (fun r => .string r.text) roles).IsLegible := by
  refine isLegible_ofList fun r _ => ?_
  exact isLegible_string r.text

/-- The document of a port is legible. -/
theorem isLegible_ofPort (p : Port) : (ofPort p).IsLegible := by
  simp [ofPort, portSpecFields, isLegible_object]

/-- A port is read back, with what its key is read as. -/
theorem port?_ofPort {p : Port} {id : PortId} (hId : PortId.parse p.id.text = .ok id)
    (hDirection : p.spec.direction.receives = true ∨ p.spec.direction.sends = true) :
    port? (ofPort p) = some ⟨id, p.spec⟩ := by
  have hLegible := isLegible_object.1 (isLegible_ofPort p)
  have hKey : portId? (.string p.id.text) = some id := by
    unfold portId?
    rw [text?_string, Option.bind_some, hId]
    rfl
  have hName : Direction.ofName? p.spec.direction.name = some p.spec.direction :=
    Direction.ofName?_name hDirection
  unfold port? ofPort
  rw [setAside?_object hLegible]
  simp [portSpecFields, fieldNamed?, fieldsNamed, hKey, hName]

/-- The document of a legible node is legible. -/
theorem isLegible_ofNode {n : Node} (h : n.IsLegible) : (ofNode n).IsLegible := by
  have hPorts : (ofList ofPort n.ports).IsLegible := isLegible_ofList fun p _ => isLegible_ofPort p
  simp [ofNode, payloadFields, isLegible_object, isLegible_ofPoint h.position,
    isLegible_ofPoint h.size, isLegible_ofPayloadData h.data, hPorts]

/-- The fields of the document of a node. -/
def documentFields (n : Node) : List (String × Document) :=
  [("id", .string n.id.text), ("node_name", .string n.name), ("position", ofPoint n.position),
    ("size", ofPoint n.size), ("color", ofOption .string n.color),
    ("icon", ofOption .string n.icon), ("parentId", ofOptionalItem n.parent),
    ("ports", ofList ofPort n.ports), ("input_map", ofTextMap n.inputMap),
    ("output_variable_path", ofOption .string n.outputPath)] ++ payloadFields n.data

/-- The fields of the document of a node are found by their names. -/
theorem fieldNamed?_documentFields (n : Node) (name : String) (d : Document)
    (h : (name, d) ∈ documentFields n) :
    fieldNamed? (documentFields n) name = some (some d) := by
  have hNames : ((documentFields n).map (·.1)).Nodup := by
    show (nodeFields ++ ["type", "data"]).Nodup
    decide
  exact fieldNamed?_of_mem hNames h

/-- The ports of a node are read back up to their keys. -/
theorem list?_ofPorts {ports : List Port} (h : ∀ p ∈ ports, p.IsReadable) (node : ItemId) :
    ∃ read, list? port? (ofList ofPort ports) = some read ∧
      read.map (·.boundTo node) = ports.map (·.boundTo node) := by
  induction ports with
  | nil => exact ⟨[], rfl, rfl⟩
  | cons p rest ih =>
    obtain ⟨read, hRead, hBound⟩ := ih fun q hq => h q (List.mem_cons_of_mem _ hq)
    have hPort := h p List.mem_cons_self
    obtain ⟨id, hId⟩ := hPort.isOk_parse
    rw [list?_ofList_eq_some_iff] at hRead
    refine ⟨⟨id, p.spec⟩ :: read, ?_, ?_⟩
    · exact list?_ofList_eq_some_iff.2 (.cons (port?_ofPort hId hPort.direction) hRead)
    · rw [List.map_cons, List.map_cons, hBound]
      rfl

/-- A node is read back up to the keys of its ports. -/
theorem node?_ofNode {n : Node} (h : n.IsLegible) (hPorts : ∀ p ∈ n.ports, p.IsReadable) :
    (node? (ofNode n)).map Node.rebindPorts = some n.rebindPorts := by
  obtain ⟨ports, hRead, hBound⟩ := list?_ofPorts hPorts n.id
  have hLegible : ∀ field ∈ documentFields n, field.2.IsLegible :=
    isLegible_object.1 (isLegible_ofNode h)
  have hGet := fieldNamed?_documentFields n
  have hType := hGet "type" (.string n.data.kind.name) (by simp [documentFields, payloadFields])
  have hData := hGet "data" (ofPayloadData n.data) (by simp [documentFields, payloadFields])
  have hId := hGet "id" (.string n.id.text) (by simp [documentFields])
  have hName := hGet "node_name" (.string n.name) (by simp [documentFields])
  have hPosition := hGet "position" (ofPoint n.position) (by simp [documentFields])
  have hSize := hGet "size" (ofPoint n.size) (by simp [documentFields])
  have hColor := hGet "color" (ofOption .string n.color) (by simp [documentFields])
  have hIcon := hGet "icon" (ofOption .string n.icon) (by simp [documentFields])
  have hParent := hGet "parentId" (ofOptionalItem n.parent) (by simp [documentFields])
  have hPortList := hGet "ports" (ofList ofPort n.ports) (by simp [documentFields])
  have hInputs := hGet "input_map" (ofTextMap n.inputMap) (by simp [documentFields])
  have hOutput := hGet "output_variable_path" (ofOption .string n.outputPath)
    (by simp [documentFields])
  show (node? (.object (documentFields n))).map _ = _
  unfold node?
  rw [setAside?_object hLegible]
  -- all fields are looked up first, since what is read of one comes before the next
  dsimp only [Option.bind_eq_bind, Option.bind_some]
  rw [hType, hId, hName, hPosition, hSize, hColor, hIcon, hParent, hPortList, hInputs, hOutput,
    hData]
  dsimp only [Option.bind_eq_bind, Option.bind_some, required?_some, withDefault?_some,
    name?_string, itemId?_string, text?_string]
  rw [NodeKind.ofName?_name, point?_ofPoint h.position, point?_ofPoint h.size,
    optional?_text n.color, optional?_text n.icon, optional?_item, hRead, textMap?_ofTextMap,
    optional?_text n.outputPath]
  dsimp only [Option.bind_some]
  rw [payloadData?_ofPayloadData _ h.data]
  show some (Node.rebindPorts { n with ports }) = _
  unfold Node.rebindPorts
  rw [← hBound]

/-! ## Connections -/

/-- What is read of a connection follows from its flat texts. -/
theorem connection?_ofConnection (c : Connection) :
    connection? (ofConnection c) = (Connection.ofFlat c.toFlat).toOption := by
  have hFlat : flatConnection? (ofFlatConnection c.toFlat) = some c.toFlat := by
    simp [flatConnection?, ofFlatConnection]
  unfold connection? ofConnection
  rw [hFlat, Option.bind_some]

/-! ## Groups -/

end Wire

/-- What is read from the text of a key; the key itself where that is nothing. -/
def ConnectionId.reread (id : ConnectionId) : ConnectionId :=
  (ConnectionId.parse id.text).toOption.getD id

namespace Wire

/-- The key of a connection is read from a text that can be parsed as one. -/
theorem connectionId?_string {s : String} {id : ConnectionId} :
    connectionId? (.string s) = some id ↔ ConnectionId.parse s = .ok id := by
  unfold connectionId?
  rw [text?_string, Option.bind_some]
  cases ConnectionId.parse s <;> simp [Except.toOption]

/-- A list of keys is read if each of them can be read. -/
theorem list?_ofConnectionIds {ids : List ConnectionId}
    (h : ∀ id ∈ ids, ∃ read, ConnectionId.parse id.text = .ok read) :
    list? connectionId? (ofConnectionIds ids) = some (ids.map ConnectionId.reread) := by
  refine list?_ofList_eq_some_iff.2 (List.forall₂_map_right_iff.2 (List.forall₂_same.2 ?_))
  intro id hId
  obtain ⟨read, hRead⟩ := h id hId
  rw [connectionId?_string, ConnectionId.reread, hRead]
  rfl

/-- Keys of connections are read back only if their texts can be parsed. -/
theorem isOk_of_list?_ofConnectionIds {ids read : List ConnectionId}
    (h : list? connectionId? (ofConnectionIds ids) = some read) :
    ∀ id ∈ ids, ∃ d, ConnectionId.parse id.text = .ok d := by
  intro id hId
  obtain ⟨d, hd⟩ := Lists.exists_of_forall₂ (list?_ofList_eq_some_iff.1 h) hId
  exact ⟨d, connectionId?_string.1 hd⟩

/-- The record of a group is read if each of the recorded keys can be read. -/
theorem hidden?_ofHidden {h : HiddenConnections}
    (hRead : ∀ id ∈ h.ids, ∃ d, ConnectionId.parse id.text = .ok d) :
    hidden? (ofHidden h) = some (h.map ConnectionId.reread) := by
  unfold HiddenConnections.ids at hRead
  simp only [List.mem_append] at hRead
  have hInputs := list?_ofConnectionIds fun id hId => hRead id (.inl (.inl hId))
  have hOutputs := list?_ofConnectionIds fun id hId => hRead id (.inl (.inr hId))
  have hInternal := list?_ofConnectionIds fun id hId => hRead id (.inr hId)
  simp [hidden?, ofHidden, hInputs, hOutputs, hInternal, HiddenConnections.map]

/-- A record is read back only if the texts of its keys can be parsed. -/
theorem isOk_of_hidden?_ofHidden {h read : HiddenConnections}
    (hRead : hidden? (ofHidden h) = some read) :
    ∀ id ∈ h.ids, ∃ d, ConnectionId.parse id.text = .ok d := by
  unfold hidden? ofHidden at hRead
  rw [record?_object (by rfl) (by decide)] at hRead
  simp only [List.map_cons, List.map_nil, Option.bind_eq_bind, Option.bind_some,
    withDefault?_some, Option.bind_eq_some_iff] at hRead
  obtain ⟨inputs, hInputs, outputs, hOutputs, internal, hInternal, -⟩ := hRead
  intro id hId
  unfold HiddenConnections.ids at hId
  rw [List.mem_append, List.mem_append] at hId
  rcases hId with (hId | hId) | hId
  · exact isOk_of_list?_ofConnectionIds hInputs id hId
  · exact isOk_of_list?_ofConnectionIds hOutputs id hId
  · exact isOk_of_list?_ofConnectionIds hInternal id hId

/-- A group is read back but for its record. -/
theorem group?_ofGroup {g : Group} (h : g.IsLegible) :
    group? (ofGroup g) = (hidden? (ofHidden g.hidden)).map fun hidden => { g with hidden } := by
  unfold group? ofGroup
  rw [record?_object (by rfl) (by decide)]
  simp only [List.map_cons, List.map_nil, Option.bind_eq_bind, Option.bind_some, required?_some,
    withDefault?_some, itemId?_string, optional?_item, bool?_bool, text?_string, optional?_text,
    point?_ofPoint h.position, point?_ofPoint h.size]
  cases hidden? (ofHidden g.hidden) <;> rfl

/-! ## Flows -/

/-- A flow is read part by part. -/
theorem flow?_ofFlow_eq_some_iff {f f' : Flow} :
    flow? (ofFlow f) = some f' ↔
      List.Forall₂ (fun n n' => node? (ofNode n) = some n') f.nodes f'.nodes ∧
        List.Forall₂ (fun c c' => connection? (ofConnection c) = some c') f.connections
          f'.connections ∧
        List.Forall₂ (fun g g' => group? (ofGroup g) = some g') f.groups f'.groups := by
  unfold flow? ofFlow
  rw [record?_object (by rfl) (by decide)]
  simp only [List.map_cons, List.map_nil, Option.bind_eq_bind, Option.bind_some,
    withDefault?_some, Option.bind_eq_some_iff, list?_ofList_eq_some_iff]
  constructor
  · rintro ⟨nodes, hNodes, connections, hConnections, groups, hGroups, hFlow⟩
    cases hFlow
    exact ⟨hNodes, hConnections, hGroups⟩
  · rintro ⟨hNodes, hConnections, hGroups⟩
    exact ⟨_, hNodes, _, hConnections, _, hGroups, rfl⟩

/-- The document of a record is legible. -/
theorem isLegible_ofHidden (h : HiddenConnections) : (ofHidden h).IsLegible := by
  have hIds : ∀ ids : List ConnectionId, (ofConnectionIds ids).IsLegible := by
    intro ids
    refine isLegible_ofList fun id _ => ?_
    exact isLegible_string id.text
  simp [ofHidden, isLegible_object, hIds]

/-- The document of a legible group is legible. -/
theorem isLegible_ofGroup {g : Group} (h : g.IsLegible) : (ofGroup g).IsLegible := by
  simp [ofGroup, isLegible_object, isLegible_ofPoint h.position, isLegible_ofPoint h.size,
    isLegible_ofHidden]

/-- The document of a legible flow is legible. -/
theorem isLegible_ofFlow {f : Flow} (h : f.IsLegible) : (ofFlow f).IsLegible := by
  have hNodes : (ofList ofNode f.nodes).IsLegible :=
    isLegible_ofList fun n hn => isLegible_ofNode (h.nodes n hn)
  have hConnections : (ofList ofConnection f.connections).IsLegible := by
    refine isLegible_ofList fun c _ => ?_
    simp [ofConnection, ofFlatConnection, isLegible_object]
  have hGroups : (ofList ofGroup f.groups).IsLegible :=
    isLegible_ofList fun g hg => isLegible_ofGroup (h.groups g hg)
  simp [ofFlow, isLegible_object, hNodes, hConnections, hGroups]

end Wire

/-- What is read from the text of a flow is what is read from its document, in every layout. -/
theorem Flow.parse?_print {f : Flow} (h : f.IsLegible) {layout : PageLayout}
    (hLayout : layout.IsBlank) :
    Flow.parse? (f.print layout) = (Wire.flow? (Wire.ofFlow f)).map relink := by
  unfold Flow.parse? print
  rw [Document.parse?_print hLayout (Wire.isLegible_ofFlow h) h.depth_le, Option.bind_some]

end FlowCanvas
