import FlowCanvas.Proofs.Form.Rows
import FlowCanvas.Proofs.Panel.Filling
import FlowCanvas.Proofs.Panel.Saving
import Mathlib

/-!
# Panels that are being edited

Whatever is typed into a panel, it stays a panel for the same kind of nodes
(`Panel.IsFor.editAll`). What holds of all values in the form after it has been filled, and of the
values that are typed, holds of all values that it ever has (`Form.AllValues.editAll`).
-/

set_option autoImplicit false

namespace FlowCanvas

open FlowCanvas.Json (Value)

/-- What is done to an open panel. Rows for outputs and the working copy of a table are there in
some panels only; in the others nothing happens. -/
inductive PanelEdit where
  | setField (id : String) (value : Value)
  | editInputs (x : RowEdit)
  | editOutputs (x : RowEdit)
  | editTable (x : TableEdit)

/-- What an edit puts into the form, if anything, has a property. -/
def PanelEdit.Gives (P : String → Value → Prop) : PanelEdit → Prop
  | setField id value => P id value
  | _ => True

namespace Panel

variable {p : Panel} {n : Node} {kind : NodeKind}

/-- The panel after an edit of the rows for the outputs. -/
def editOutputs (p : Panel) (x : RowEdit) : Panel :=
  match p.content with
  | .finish outputs => { p with content := .finish (outputs.edit x) }
  | _ => p

/-- The panel after an edit. -/
def edit (p : Panel) : PanelEdit → Panel
  | .setField id value => p.setField id value
  | .editInputs x => p.setInputs (p.inputs.edit x)
  | .editOutputs x => p.editOutputs x
  | .editTable x => p.editTable x

/-- The panel after edits, made one after the other. -/
def editAll (p : Panel) (edits : List PanelEdit) : Panel := edits.foldl edit p

/-- Editing the rows for the outputs leaves the form alone. -/
theorem form_editOutputs (p : Panel) (x : RowEdit) : (p.editOutputs x).form = p.form := by
  unfold editOutputs
  split
  · rfl
  · rfl

/-- Editing the working copy of a table leaves the form alone. -/
theorem form_editTable (p : Panel) (x : TableEdit) : (p.editTable x).form = p.form := by
  unfold editTable
  split
  · rfl
  · rfl

/-- The form after an edit: with one more value, or as it was. -/
theorem form_edit (p : Panel) (x : PanelEdit) :
    (p.edit x).form =
      match x with
      | .setField id value => p.form.set id value
      | _ => p.form := by
  cases x with
  | setField id value => rfl
  | editInputs x => rfl
  | editOutputs x => exact p.form_editOutputs x
  | editTable x => exact p.form_editTable x

/-- Whatever is edited, a panel stays one for the same kind of nodes. -/
theorem node_edit (p : Panel) (x : PanelEdit) : (p.edit x).content.node = p.content.node := by
  cases x with
  | setField id value => rfl
  | editInputs x => rfl
  | editOutputs x =>
    show (p.editOutputs x).content.node = _
    unfold editOutputs
    split
    · rename_i hContent
      rw [hContent]
      rfl
    · rfl
  | editTable x =>
    show (p.editTable x).content.node = _
    unfold editTable
    split
    · rename_i hContent
      rw [hContent]
      rfl
    · rfl

namespace IsFor

/-- A panel stays one for a kind of nodes when it is edited. -/
theorem edit (h : p.IsFor kind) (x : PanelEdit) : (p.edit x).IsFor kind where
  node := (p.node_edit x).trans h.node
  fields := by
    rw [form_edit, Content.fields_eq_of_node_eq (p.node_edit x), ← h.fields]
    split
    · exact Form.fields_set _ _ _
    · rfl
  isChecked := by
    rw [form_edit]
    split
    · exact h.isChecked.set _ _
    · exact h.isChecked
  filled := by
    rw [form_edit]
    split
    · intro field hField
      rw [Form.fields_set] at hField
      rw [Form.lookup_set]
      split
      · exact ⟨_, rfl⟩
      · exact h.filled field hField
    · exact h.filled

/-- A panel stays one for a kind of nodes through any number of edits. -/
theorem editAll (h : p.IsFor kind) (edits : List PanelEdit) : (p.editAll edits).IsFor kind := by
  induction edits generalizing p with
  | nil => exact h
  | cons x rest ih => exact ih (h.edit x)

end IsFor

end Panel

/-- What holds of all values before some edits and of the values that are typed holds of all values
afterwards. -/
theorem Form.AllValues.editAll {P : String → Value → Prop} {p : Panel} {edits : List PanelEdit}
    (h : p.form.AllValues P) (hEdits : ∀ x ∈ edits, x.Gives P) :
    (p.editAll edits).form.AllValues P := by
  induction edits generalizing p with
  | nil => exact h
  | cons x rest ih =>
    refine ih ?_ fun y hy => hEdits y (List.mem_cons_of_mem _ hy)
    have hGives := hEdits x List.mem_cons_self
    rw [Panel.form_edit]
    split
    · exact h.set hGives
    · exact h

end FlowCanvas
