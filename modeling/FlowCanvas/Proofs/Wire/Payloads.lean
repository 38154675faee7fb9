import FlowCanvas.Proofs.Wire.Records
import Mathlib

/-!
# Documents of node data

The data of a node is read back from its document, as long as the free JSON values in it are legible
(`payloadData?_ofPayloadData`), and its document is legible then.
-/

set_option autoImplicit false

namespace FlowCanvas

open FlowCanvas.Json

/-! ## Names -/

/-- A kind of nodes is read back from its name. -/
@[simp] theorem NodeKind.ofName?_name (k : NodeKind) : NodeKind.ofName? k.name = some k := by
  cases k <;> decide

/-- A kind of groups is read back from its name. -/
@[simp] theorem GroupKind.ofName?_name (k : GroupKind) : GroupKind.ofName? k.name = some k := by
  cases k <;> rfl

/-- Whether the free values in the data of a node can be read back. -/
def Payload.IsLegible : Payload → Prop
  | .start state => state.IsLegible
  | .tool t => t.config.IsLegible
  | _ => True

namespace Wire

/-- A name is read from its text. -/
@[simp] theorem name?_string {α : Type} (reading : Reading) (ofName? : String → Option α)
    (s : String) : name? reading ofName? (.string s) = ofName? s := rfl

/-! ## Reading -/

/-- Code is read back. -/
@[simp] theorem pythonCode?_ofPythonCode (c : PythonCode) :
    pythonCode? (ofPythonCode c) = some c := by
  simp [pythonCode?, ofPythonCode]

/-- Conditions are read back. -/
@[simp] theorem list?_condition (items : List Condition) :
    list? condition? (ofList ofCondition items) = some items :=
  list?_ofList fun c _ => by simp [condition?, ofCondition]

/-- Groups of conditions are read back. -/
@[simp] theorem list?_conditionGroup (reading : Reading) (items : List ConditionGroup) :
    list? (conditionGroup? reading) (ofList ofConditionGroup items) = some items :=
  list?_ofList fun g _ => by simp [conditionGroup?, ofConditionGroup]

/-- A decision table is read back. -/
@[simp] theorem decisionTable?_ofDecisionTable (reading : Reading) (t : DecisionTable) :
    decisionTable? reading (ofDecisionTable t) = some t := by
  simp [decisionTable?, ofDecisionTable]

/-- Signed integers are read back. -/
@[simp] theorem list?_int64 (items : List Int64) :
    list? int64? (ofList (fun c => ofInt c.toInt) items) = some items :=
  list?_ofList fun n _ => int64?_ofInt n

/-- The data of a node is read back from its document. -/
theorem payloadData?_ofPayloadData (reading : Reading) {data : Payload} (h : data.IsLegible) :
    payloadData? reading (ofPayloadData data) data.kind = some data := by
  cases data with
  | start state =>
    have hState : Value.ofDocument? state.toDocument = some state :=
      Value.ofDocument?_toDocument state h
    simp [payloadData?, ofPayloadData, Payload.kind, hState]
  | tool t =>
    have hConfig : Value.ofDocument? t.config.toDocument = some t.config :=
      Value.ofDocument?_toDocument t.config h
    simp [payloadData?, ofPayloadData, Payload.kind, hConfig]
  | _ => simp [payloadData?, ofPayloadData, Payload.kind]

/-! ## Legibility -/

/-- The document of a text is legible. -/
@[simp] theorem isLegible_string (s : String) : (Document.string s).IsLegible := trivial

/-- The document of a truth value is legible. -/
@[simp] theorem isLegible_bool (b : Bool) : (Document.bool b).IsLegible := trivial

/-- An object is legible if the values of its fields are. -/
theorem isLegible_object {fields : List (String × Document)} :
    (Document.object fields).IsLegible ↔ ∀ field ∈ fields, field.2.IsLegible := by
  show Document.AreLegibleFields fields ↔ _
  induction fields with
  | nil => simp [Document.AreLegibleFields]
  | cons field fields ih => simp [Document.AreLegibleFields, ih]

/-- An array is legible if its items are. -/
theorem isLegible_array {items : List Document} :
    (Document.array items).IsLegible ↔ ∀ item ∈ items, item.IsLegible := by
  show Document.AreLegible items ↔ _
  induction items with
  | nil => simp [Document.AreLegible]
  | cons item items ih => simp [Document.AreLegible, ih]

/-- The document of a list is legible if those of its items are. -/
theorem isLegible_ofList {α : Type} {write : α → Document} {items : List α}
    (h : ∀ a ∈ items, (write a).IsLegible) : (ofList write items).IsLegible := by
  refine isLegible_array.2 fun d hd => ?_
  obtain ⟨a, ha, rfl⟩ := List.mem_map.1 hd
  exact h a ha

/-- The documents of texts are legible. -/
@[simp] theorem isLegible_ofTexts (items : List String) : (ofList .string items).IsLegible :=
  isLegible_ofList fun _ _ => trivial

/-- The document of what may be missing is legible if what is written for it is. -/
theorem isLegible_ofOption {α : Type} {write : α → Document} (h : ∀ a, (write a).IsLegible)
    (o : Option α) : (ofOption write o).IsLegible := by
  cases o with
  | none => trivial
  | some a => exact h a

/-- The document of a text that may be missing is legible. -/
@[simp] theorem isLegible_ofOptionalText (o : Option String) :
    (ofOption .string o).IsLegible :=
  isLegible_ofOption isLegible_string o

/-- The document of a map of texts is legible. -/
@[simp] theorem isLegible_ofTextMap (m : TextMap) : (ofTextMap m).IsLegible := by
  refine isLegible_object.2 fun field hField => ?_
  obtain ⟨entry, -, rfl⟩ := List.mem_map.1 hField
  trivial

/-- The document of an integer of 64 bits is legible. -/
theorem isLegible_ofInt {i : Int} (hLow : -2 ^ 63 ≤ i) (hHigh : i < 2 ^ 64) :
    (ofInt i).IsLegible :=
  ⟨Numeral.isLegible_ofInt i, by rw [Number.ofNumeral?_ofInt hLow hHigh]; rfl⟩

/-- The document of an unsigned integer of 64 bits is legible. -/
@[simp] theorem isLegible_ofUInt64 (n : UInt64) : (ofNat n.toNat).IsLegible := by
  have hBound : n.toNat < 2 ^ 64 := n.toNat_lt
  exact isLegible_ofInt (by omega) (by omega)

/-- The document of an unsigned integer of 32 bits is legible. -/
@[simp] theorem isLegible_ofUInt32 (n : UInt32) : (ofNat n.toNat).IsLegible := by
  have hBound : n.toNat < 2 ^ 32 := n.toNat_lt
  exact isLegible_ofInt (by omega) (by omega)

/-- The document of a number that may be missing is legible. -/
@[simp] theorem isLegible_ofOptionalId (o : Option UInt64) : (ofOptionalId o).IsLegible :=
  isLegible_ofOption isLegible_ofUInt64 o

/-- The documents of signed integers are legible. -/
@[simp] theorem isLegible_ofChats (chats : List Int64) :
    (ofList (fun c => ofInt c.toInt) chats).IsLegible := by
  refine isLegible_ofList fun n _ => ?_
  have hLow : -2 ^ 63 ≤ n.toInt := n.le_toInt
  have hHigh : n.toInt < 2 ^ 63 := n.toInt_lt
  exact isLegible_ofInt hLow (by omega)

/-- The document of code is legible. -/
@[simp] theorem isLegible_ofPythonCode (c : PythonCode) : (ofPythonCode c).IsLegible := by
  simp [ofPythonCode, isLegible_object]

/-- The document of a decision table is legible. -/
theorem isLegible_ofDecisionTable (t : DecisionTable) : (ofDecisionTable t).IsLegible := by
  have hConditions : ∀ items : List Condition, (ofList ofCondition items).IsLegible := by
    intro items
    refine isLegible_ofList fun c _ => ?_
    simp [ofCondition, isLegible_object]
  have hGroups : (ofList ofConditionGroup t.groups).IsLegible := by
    refine isLegible_ofList fun g _ => ?_
    simp [ofConditionGroup, isLegible_object, hConditions]
  simp [ofDecisionTable, isLegible_object, hGroups]

/-- The document of the data of a node is legible. -/
theorem isLegible_ofPayloadData {data : Payload} (h : data.IsLegible) :
    (ofPayloadData data).IsLegible := by
  cases data with
  | start state =>
    have hState := Value.isLegible_toDocument state h
    simpa [ofPayloadData, isLegible_object] using hState
  | tool t =>
    have hConfig := Value.isLegible_toDocument t.config h
    simpa [ofPayloadData, isLegible_object] using hConfig
  | python code => exact isLegible_ofPythonCode code
  | decisionTable t => exact isLegible_ofDecisionTable t
  | _ => simp [ofPayloadData, isLegible_object]

end Wire

end FlowCanvas
