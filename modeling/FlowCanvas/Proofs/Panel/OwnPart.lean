import FlowCanvas.Proofs.Panel.Editing
import FlowCanvas.Proofs.Panel.Reading
import Mathlib

/-!
# The part of a node that a panel writes

A panel writes the name of a node, the path of its output, its inputs and its data, and the ports of
a decision table. Everything else is in the saved node what it is in the node that is saved over
(`Panel.save_writes_own_part`), whatever the panel has been filled from and whatever has been done
to it since. In the data a panel keeps the kind and the name of a piece of code, neither of which is
in the form.
-/

set_option autoImplicit false

namespace FlowCanvas

/-- The name of the piece of code in the data of a node, if there is one. -/
def Payload.codeName? : Payload → Option String
  | python code => some code.name
  | conditionalEdge e => some e.code.name
  | webhookTrigger w => some w.code.name
  | _ => none

/-- What is in no panel is in both nodes the same. The ports are those that the node has, unless it
is a decision table. -/
structure Node.KeepsRest (n u : Node) : Prop where
  id : u.id = n.id
  position : u.position = n.position
  size : u.size = n.size
  color : u.color = n.color
  icon : u.icon = n.icon
  parent : u.parent = n.parent
  kind : u.kind = n.kind
  codeName : u.data.codeName? = n.data.codeName?
  ports : n.kind ≠ .decisionTable → u.ports = n.ports

/-- A node keeps the rest of itself. -/
theorem Node.KeepsRest.refl (n : Node) : n.KeepsRest n :=
  ⟨rfl, rfl, rfl, rfl, rfl, rfl, rfl, rfl, fun _ => rfl⟩

namespace Panel

variable {p : Panel} {n u : Node} {form : Form} {content : Content} {stored data : Payload}

/-! ## The data -/

/-- Data is read for data of the kind that the panel is for only. -/
theorem Content.Reads.kind_stored (h : content.Reads form stored data) :
    stored.kind = content.node := by
  cases h <;> rfl

/-- The data that is read is of the kind that the panel is for. -/
theorem Content.Reads.kind_data (h : content.Reads form stored data) :
    data.kind = content.node := by
  cases h <;> rfl

/-- The name of a piece of code is not edited. -/
theorem Content.Reads.codeName? (h : content.Reads form stored data) :
    data.codeName? = stored.codeName? := by
  cases h with
  | python hCode => exact congrArg some hCode.name
  | conditionalEdge hSource hNext hCode => exact congrArg some hCode.name
  | webhookTrigger hPath hCode => exact congrArg some hCode.name
  | _ => rfl

/-- A form cannot be read for a node of another kind. -/
theorem FormKind.read_of_kind_ne {kind : FormKind} (h : kind.node ≠ stored.kind) :
    kind.read form stored = .error (.wrongKind kind.node stored.kind) := by
  unfold FormKind.read
  split
  any_goals exact absurd rfl h
  rfl

/-- A panel reads nothing for data of another kind, and says so before it looks at its form. -/
theorem Content.read_of_kind_ne (h : content.node ≠ stored.kind) :
    content.read form stored = .error (.wrongKind content.node stored.kind) := by
  unfold Content.read
  split
  any_goals exact absurd rfl h
  · exact FormKind.read_of_kind_ne h
  · rfl

/-! ## The node -/

/-- A panel does not apply to a node of another kind. -/
theorem apply_of_kind_ne (h : p.kind ≠ n.kind) :
    p.apply n = .error (.wrongKind p.kind n.kind) := by
  have hRead : p.content.read p.form n.data = .error (.wrongKind p.kind n.kind) :=
    Content.read_of_kind_ne h
  unfold apply
  rw [hRead]
  rfl

/-- What is read for a node is written into it and leaves the rest. -/
theorem keepsRest_written (h : p.content.Reads p.form n.data data) (name : String)
    (outputPath : Option String) : n.KeepsRest (p.written n data name outputPath) := by
  have hKind : data.kind = n.kind := h.kind_data.trans h.kind_stored.symm
  unfold written
  simp only
  split
  · rename_i hTable
    refine ⟨rfl, rfl, rfl, rfl, rfl, rfl, hKind, h.codeName?, fun hOther => ?_⟩
    rw [h.table?_eq_none (h.kind_stored ▸ hOther)] at hTable
    cases hTable
  · exact ⟨rfl, rfl, rfl, rfl, rfl, rfl, hKind, h.codeName?, fun _ => rfl⟩

/-- A decision table that is written gets the ports of its groups. -/
theorem ports_written {t : DecisionTable} (name : String) (outputPath : Option String) :
    (p.written n (.decisionTable t) name outputPath).ports = t.ports n.id :=
  rfl

/-- A save of a panel, whatever has been done to it, leaves in the node what is in no panel. It
leaves the whole node as it is if the panel is for another kind, has complaints or does not apply;
else it takes over what the panel makes of the node, and a decision table gets the ports of its new
groups. -/
theorem save_writes_own_part (p : Panel) (n : Node) :
    n.KeepsRest (p.save n) ∧
      (p.kind ≠ n.kind → p.apply n = .error (.wrongKind p.kind n.kind)) ∧
      (p.kind ≠ n.kind ∨ p.form.isValid = false ∨ (∃ e, p.apply n = .error e) → p.save n = n) ∧
      (p.form.isValid = true → ∀ u, p.apply n = .ok u → p.save n = u ∧
        ∀ t, u.data = .decisionTable t → u.ports = t.ports n.id) := by
  refine ⟨?_, apply_of_kind_ne, ?_, fun hValid u hApply => ⟨save_of_apply hValid hApply, ?_⟩⟩
  · obtain hSame | ⟨data, name, outputPath, hRead, hWritten⟩ := p.save_cases n
    · rw [hSame]
      exact .refl n
    · rw [hWritten]
      exact keepsRest_written (Content.read_eq_ok_iff.1 hRead) name outputPath
  · have hFails : ∀ e, p.apply n = .error e → p.save n = n := by
      intro e hError
      refine save_of_forall_ne fun u hApply => ?_
      rw [hError] at hApply
      cases hApply
    rintro (hKind | hInvalid | ⟨e, hError⟩)
    · exact hFails _ (apply_of_kind_ne hKind)
    · exact save_of_isValid_eq_false hInvalid n
    · exact hFails e hError
  · obtain ⟨data, name, outputPath, -, -, -, rfl⟩ := apply_eq_ok_iff.1 hApply
    intro t hTable
    rw [data_written] at hTable
    rw [hTable, ports_written]

/-- A branch in a group, with a piece of code that has a name. -/
def namedBranch : Node :=
  { Node.new ⟨"e"⟩ "branch" (.conditionalEdge { code := { name := "score", code := "old" } }) with
    color := some "red", parent := some ⟨"g"⟩, ports := [] }

/-- The panel of another branch, into which a piece of code has been typed. -/
def branchPanel : Panel :=
  (ofContent (.form .conditionalEdge) (Node.new ⟨"f"⟩ "other" (.conditionalEdge {}))).editAll
    [.setField "code" (.string "new")]

/-- The panel is saved over a branch, where the code keeps its name, and not over a piece of
code. -/
theorem save_writes_own_part_branchPanel :
    let saved : Payload.ConditionalEdge :=
      { code := { name := "score", code := "new", entrypoint := "main" } }
    let code := Node.new ⟨"p"⟩ "code" (.python {})
    (branchPanel.save namedBranch ==
      { namedBranch with name := "other", data := .conditionalEdge saved }) = true ∧
      namedBranch.KeepsRest (branchPanel.save namedBranch) ∧ branchPanel.save code = code :=
  ⟨by decide, (save_writes_own_part branchPanel namedBranch).1,
    (save_writes_own_part branchPanel _).2.2.1 (.inl (by decide))⟩

end Panel

end FlowCanvas
