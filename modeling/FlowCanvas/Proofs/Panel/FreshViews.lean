import FlowCanvas.Panel.Sidebar
import FlowCanvas.Proofs.Canvas.Undoing
import Mathlib

/-!
# Fresh views

A canvas remembers the views that have been derived from its graph until a call forgets them, and
each call does so or not for itself. An editor works on a canvas with all of the calls, with the
history and with the sidebar, and looks at views in between. Whatever it has done, what it sees is
what the graph of that moment gives (`Editor.look_run`).
-/

set_option autoImplicit false

namespace FlowCanvas

/-! ## Views -/

/-- What can be looked at on a canvas. -/
inductive View where
  | nodes
  | groups
  | connections
  /-- The ports that every port could be joined with. -/
  | partners

namespace View

/-- What there is to be seen. -/
def Shown : View → Type
  | nodes => List Node
  | groups => List Group
  | connections => List Connection
  | partners => Eligibility

/-- What is to be seen of a graph, computed afresh. -/
def of (g : Graph) : (v : View) → v.Shown
  | nodes => g.visible.nodes
  | groups => g.visible.groups
  | connections => g.visible.connections
  | partners => g.eligibility

end View

namespace Canvas

variable {c : Canvas}

/-- Looks at a view, by way of what the canvas remembers. -/
def look (c : Canvas) : (v : View) → Canvas × v.Shown
  | .nodes => (c.visible.1, c.visible.2.nodes)
  | .groups => (c.visible.1, c.visible.2.groups)
  | .connections => (c.visible.1, c.visible.2.connections)
  | .partners => c.eligibility

/-- A look at an up-to-date canvas shows what its graph shows. -/
theorem IsUpToDate.look_eq (h : c.IsUpToDate) (v : View) : (c.look v).2 = v.of c.graph := by
  cases v with
  | nodes => exact congrArg Visible.nodes h.visible_eq
  | groups => exact congrArg Visible.groups h.visible_eq
  | connections => exact congrArg Visible.connections h.visible_eq
  | partners => exact h.eligibility_eq

/-- A look leaves the graph alone. -/
theorem graph_look (c : Canvas) (v : View) : (c.look v).1.graph = c.graph := by
  cases v with
  | nodes => exact graph_visible c
  | groups => exact graph_visible c
  | connections => exact graph_visible c
  | partners => exact graph_eligibility c

namespace Reached

/-- What can be reached can be looked at. -/
theorem look_view (hc : Reached c) (v : View) : Reached (c.look v).1 := by
  cases v with
  | nodes => exact hc.look
  | groups => exact hc.look
  | connections => exact hc.look
  | partners => exact hc.ask

/-- What undoing brings back can be reached. -/
theorem undo? {h h' : History} {c' : Canvas} (hc : Reached c) (hUndo : h.undo? c = some (h', c')) :
    Reached c' := by
  unfold History.undo? at hUndo
  split at hUndo
  · cases hUndo
  · cases hUndo
    exact hc.edit (.load _)

/-- What redoing brings back can be reached. -/
theorem redo? {h h' : History} {c' : Canvas} (hc : Reached c) (hRedo : h.redo? c = some (h', c')) :
    Reached c' := by
  unfold History.redo? at hRedo
  split at hRedo
  · cases hRedo
  · cases hRedo
    exact hc.edit (.load _)

/-- Saving a panel updates the node or does nothing. -/
theorem save (hc : Reached c) (s : Sidebar) : Reached (s.save c).2.1 := by
  unfold Sidebar.save
  split
  · split
    · exact hc
    · simp only
      split
      · exact hc
      · exact hc.edit (.updateNode _ false)
  · exact hc

/-- What is there after a selection in the sidebar can be reached. -/
theorem select (hc : Reached c) (s : Sidebar) (id : Option ItemId) :
    Reached (s.select c id).2 := by
  unfold Sidebar.select
  split
  · exact hc
  · exact hc.save s

/-- What is there after the escape key can be reached. -/
theorem escape (hc : Reached c) (s : Sidebar) : Reached (s.escape c).2.1 := by
  unfold Sidebar.escape
  split
  · exact hc.save s
  · exact hc

end Reached

end Canvas

/-! ## Editors -/

/-- A session with a sidebar. -/
structure Editor extends Session where
  sidebar : Sidebar

namespace Editor

/-- What is done in an editor. -/
inductive Act where
  | edit (e : Edit)
  | look (v : View)
  /-- Records a state, whichever it is, in the history. -/
  | record (state : Flow)
  | undo
  | redo
  | clearHistory
  | limitHistory (limit : Nat)
  | select (node : Option ItemId)
  /-- Saves the open panel, on demand or when the time has come. -/
  | save
  | escape
  | close
  | editPanel (edit : Panel → Panel)

/-- The editor after an act. -/
def act (s : Editor) : Act → Editor
  | .edit e => { s with canvas := s.canvas.perform e }
  | .look v => { s with canvas := (s.canvas.look v).1 }
  | .record state => { s with history := s.history.record state }
  | .undo =>
    match s.history.undo? s.canvas with
    | none => s
    | some (history, canvas) => { s with history, canvas }
  | .redo =>
    match s.history.redo? s.canvas with
    | none => s
    | some (history, canvas) => { s with history, canvas }
  | .clearHistory => { s with history := s.history.clear }
  | .limitHistory limit => { s with history := { s.history with limit } }
  | .select node =>
    let (sidebar, canvas) := s.sidebar.select s.canvas node
    { s with sidebar, canvas }
  | .save =>
    let (sidebar, canvas, _) := s.sidebar.save s.canvas
    { s with sidebar, canvas }
  | .escape =>
    let (sidebar, canvas, _) := s.sidebar.escape s.canvas
    { s with sidebar, canvas }
  | .close => { s with sidebar := s.sidebar.close }
  | .editPanel edit => { s with sidebar := s.sidebar.editPanel edit }

/-- The editor after some acts. -/
def run (s : Editor) (acts : List Act) : Editor := acts.foldl act s

/-- An editor with an empty canvas, and with whatever history and sidebar. -/
def start (config : Config) (history : History) (sidebar : Sidebar) : Editor :=
  { canvas := { config }, history, sidebar }

variable {s : Editor}

/-- An act calls the canvas, looks at it, or leaves it alone. -/
theorem reached_act (hs : s.canvas.Reached) (a : Act) : (s.act a).canvas.Reached := by
  cases a with
  | edit e => exact hs.edit e
  | look v => exact hs.look_view v
  | undo =>
    unfold act
    simp only
    split
    · exact hs
    · exact hs.undo? ‹_›
  | redo =>
    unfold act
    simp only
    split
    · exact hs
    · exact hs.redo? ‹_›
  | select node => exact hs.select s.sidebar node
  | save => exact hs.save s.sidebar
  | escape => exact hs.escape s.sidebar
  | record state => exact hs
  | clearHistory => exact hs
  | limitHistory limit => exact hs
  | close => exact hs
  | editPanel edit => exact hs

/-- Whatever is done in an editor, its canvas can be reached. -/
theorem reached_run (hs : s.canvas.Reached) (acts : List Act) : (s.run acts).canvas.Reached := by
  induction acts generalizing s with
  | nil => exact hs
  | cons a rest ih => exact ih (reached_act hs a)

/-- Whatever an editor has done and looked at, looking at a view shows what the graph of that moment
gives, and does not change the graph. -/
theorem look_run (config : Config) (history : History) (sidebar : Sidebar) (acts : List Act)
    (v : View) :
    let c := ((start config history sidebar).run acts).canvas
    (c.look v).2 = v.of c.graph ∧ (c.look v).1.graph = c.graph := by
  intro c
  have hReached : c.Reached := reached_run (.start config) acts
  exact ⟨hReached.isUpToDate.look_eq v, c.graph_look v⟩

end Editor

end FlowCanvas
