import FlowCanvas.Panel.Basic
import Mathlib

/-!
# Mapping a panel onto a node

What a panel makes of a node follows from three reads of its form (`Panel.apply_eq_ok_iff`), and a
save either leaves the node as it is or takes over what has been read (`Panel.save_cases`).
-/

set_option autoImplicit false

namespace FlowCanvas

namespace Panel

variable {p : Panel} {n u : Node}

/-- The node with what a panel describes, given what has been read off its form: the data, the name
and the path of the output. -/
def written (p : Panel) (n : Node) (data : Payload) (name : String) (outputPath : Option String) :
    Node :=
  let updated := { n with name := Text.trim name, outputPath, inputMap := p.inputs.toMap, data }
  if data.table?.isSome then updated.withDefaultPorts else updated

/-- What a panel writes keeps the id of its node. -/
theorem id_written (p : Panel) (n : Node) (data : Payload) (name : String)
    (outputPath : Option String) : (p.written n data name outputPath).id = n.id := by
  unfold written
  split
  · rfl
  · rfl

/-- What a panel writes has the data that it has read. -/
theorem data_written (p : Panel) (n : Node) (data : Payload) (name : String)
    (outputPath : Option String) : (p.written n data name outputPath).data = data := by
  unfold written
  split
  · rfl
  · rfl

/-- A panel applies to a node exactly if all three reads succeed. -/
theorem apply_eq_ok_iff :
    p.apply n = .ok u ↔ ∃ data name outputPath, p.content.read p.form n.data = .ok data ∧
      p.form.text "node_name" = .ok name ∧
      p.form.optionalText "output_variable_path" = .ok outputPath ∧
      p.written n data name outputPath = u := by
  unfold apply
  cases hData : p.content.read p.form n.data with
  | error e => simp [bind, Except.bind]
  | ok data =>
    cases hName : p.form.text "node_name" with
    | error e => simp [bind, Except.bind]
    | ok name =>
      cases hPath : p.form.optionalText "output_variable_path" with
      | error e => simp [bind, Except.bind]
      | ok outputPath => simp [bind, Except.bind, pure, Except.pure, written]

/-- A save of a panel with complaints leaves the node as it is. -/
theorem save_of_isValid_eq_false (h : p.form.isValid = false) (n : Node) : p.save n = n := by
  unfold save
  rw [h]
  rfl

/-- A save of a panel without complaints gives the node that the panel makes. -/
theorem save_of_apply (hValid : p.form.isValid = true) (hApply : p.apply n = .ok u) :
    p.save n = u := by
  unfold save
  rw [if_pos hValid, hApply]

/-- A panel without complaints that applies to a node makes the node that it saves. -/
theorem apply_eq_ok_save (hValid : p.form.isValid = true) (h : (p.apply n).isOk = true) :
    p.apply n = .ok (p.save n) := by
  cases hApply : p.apply n with
  | error e =>
    rw [hApply] at h
    cases h
  | ok u => rw [save_of_apply hValid hApply]

/-- A panel that does not apply leaves the node as it is. -/
theorem save_of_forall_ne (h : ∀ u, p.apply n ≠ .ok u) : p.save n = n := by
  unfold save
  cases hApply : p.apply n with
  | ok u => exact absurd hApply (h u)
  | error e =>
    split
    · rfl
    · rfl

/-- A save leaves a node as it is or makes of it what has been read off the form. -/
theorem save_cases (p : Panel) (n : Node) :
    p.save n = n ∨ ∃ data name outputPath, p.content.read p.form n.data = .ok data ∧
      p.save n = p.written n data name outputPath := by
  cases hValid : p.form.isValid with
  | false => exact .inl (save_of_isValid_eq_false hValid n)
  | true =>
    cases hApply : p.apply n with
    | error e =>
      left
      exact save_of_forall_ne fun u => by simp [hApply]
    | ok u =>
      right
      obtain ⟨data, name, outputPath, hData, -, -, rfl⟩ := apply_eq_ok_iff.1 hApply
      exact ⟨data, name, outputPath, hData, save_of_apply hValid hApply⟩

/-- A panel does not change the id of its node. -/
theorem id_save (p : Panel) (n : Node) : (p.save n).id = n.id := by
  obtain hSame | ⟨data, name, outputPath, -, hWritten⟩ := p.save_cases n
  · rw [hSame]
  · rw [hWritten, id_written]

/-- The name of a table is read off the form, and the rest of it is the working copy, merged into
the stored table. -/
theorem read_table_iff {e : TableEditor} {form : Form} {stored : DecisionTable} {data : Payload} :
    (Content.decisionTable e).read form (.decisionTable stored) = .ok data ↔
      ∃ name, form.text "table_name" = .ok name ∧
        data = .decisionTable { e.merge stored with name } := by
  unfold Content.read
  cases hName : form.text "table_name" with
  | error e => simp [bind, Except.bind]
  | ok name => simp [bind, Except.bind, pure, Except.pure, eq_comm]

end Panel

end FlowCanvas
