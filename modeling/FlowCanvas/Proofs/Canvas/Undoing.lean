import FlowCanvas.Canvas.History
import FlowCanvas.Proofs.Canvas.Reach
import FlowCanvas.Proofs.Canvas.Soundness
import Mathlib

/-!
# Undo and redo

A session is a canvas together with the history of its states. Each of its acts records the state
and then edits the canvas, or goes back, or takes back having gone back. The reference is a list of
flows with a place in it (`Zipper`), in which going back and forth moves the place and loses
nothing.

Going back loads a recorded flow, which prepares its nodes and drops virtual connections. That
nothing is lost thereby is so because every recorded flow is that of a graph that can be stored
(`Session.IsSettled`). The history does not look at its limit when an undo is taken back; all the
same there are never more states in it than the limit allows, since each act other than recording
leaves their number as it is.
-/

set_option autoImplicit false

namespace FlowCanvas

/-! ## The reference -/

/-- A state with the states before it and after it, the nearest first. -/
structure Zipper (α : Type) where
  past : List α
  present : α
  future : List α

namespace Zipper

variable {α : Type} {z z' : Zipper α}

/-- Goes on to a new state. Of the states before it the nearest are kept, up to a number, and there
are none after it. -/
def change (limit : Nat) (z : Zipper α) (next : α) : Zipper α :=
  { past := (z.present :: z.past).take limit, present := next, future := [] }

/-- Goes to the state before. -/
def back? (z : Zipper α) : Option (Zipper α) :=
  match z.past with
  | [] => none
  | state :: past => some ⟨past, state, z.present :: z.future⟩

/-- Goes to the state after. -/
def forth? (z : Zipper α) : Option (Zipper α) :=
  match z.future with
  | [] => none
  | state :: future => some ⟨z.present :: z.past, state, future⟩

/-- Going back and then forth ends where it started. -/
theorem forth?_of_back? (h : z.back? = some z') : z'.forth? = some z := by
  obtain ⟨_ | ⟨state, past⟩, present, future⟩ := z
  · cases h
  · cases h
    rfl

/-- Going forth and then back ends where it started. -/
theorem back?_of_forth? (h : z.forth? = some z') : z'.back? = some z := by
  obtain ⟨past, present, _ | ⟨state, future⟩⟩ := z
  · cases h
  · cases h
    rfl

end Zipper

/-! ## Sessions -/

/-- A canvas with the history of its states. -/
structure Session where
  history : History
  canvas : Canvas

/-- What is done in a session. -/
inductive Session.Act where
  /-- Records the state and then edits the canvas. -/
  | change (edits : List Edit)
  | undo
  | redo

/-- What edits make of a flow, for a configuration. -/
def Flow.edited (config : Config) (edits : List Edit) (f : Flow) : Flow :=
  ((Canvas.load { config } f).performAll edits).flow

namespace Zipper

/-- What an act makes of the reference. -/
def act (config : Config) (limit : Nat) (z : Zipper Flow) : Session.Act → Zipper Flow
  | .change edits => z.change limit (z.present.edited config edits)
  | .undo => z.back?.getD z
  | .redo => z.forth?.getD z

/-- What acts make of the reference, one after the other. -/
def run (config : Config) (limit : Nat) (z : Zipper Flow) (acts : List Session.Act) :
    Zipper Flow :=
  acts.foldl (act config limit) z

end Zipper

namespace Session

/-- The session after an act, and what the act reports. -/
def act (s : Session) : Act → Session × Bool
  | .change edits => (⟨s.history.record s.canvas.flow, s.canvas.performAll edits⟩, true)
  | .undo =>
    match s.history.undo? s.canvas with
    | none => (s, false)
    | some (history, canvas) => (⟨history, canvas⟩, true)
  | .redo =>
    match s.history.redo? s.canvas with
    | none => (s, false)
    | some (history, canvas) => (⟨history, canvas⟩, true)

/-- The session after some acts. -/
def run (s : Session) (acts : List Act) : Session := acts.foldl (fun s a => (s.act a).1) s

/-- The recorded states around the state of the canvas. -/
def zipper (s : Session) : Zipper Flow := ⟨s.history.past, s.canvas.flow, s.history.future⟩

/-- How many states there are in the history. -/
def depth (s : Session) : Nat := s.history.past.length + s.history.future.length

end Session

/-! ## Loading recorded flows -/

/-- A flow of a graph that can be stored. -/
def Flow.IsStorable (f : Flow) : Prop := ∃ g : Graph, g.IsStorable ∧ g.toFlow = f

/-- A flow that is ready to be stored is the flow of the canvas that has loaded it. -/
theorem Flow.IsStorable.flow_load {f : Flow} (h : f.IsStorable) (c : Canvas) :
    (c.load f).flow = f := by
  obtain ⟨g, hg, rfl⟩ := h
  exact congrArg Graph.toFlow hg.ofFlow_toFlow

/-- Edits make the same flow of a canvas as of its flow. -/
theorem Canvas.flow_performAll {c : Canvas} (hc : c.graph.IsStorable) (edits : List Edit) :
    (c.performAll edits).flow = c.flow.edited c.config edits := by
  have hLoaded : (Canvas.load { config := c.config } c.flow).graph = c.graph :=
    hc.ofFlow_toFlow
  have hEdited : ((Canvas.load { config := c.config } c.flow).performAll edits).graph =
      (c.performAll edits).graph := by
    rw [graph_performAll, graph_performAll, hLoaded]
    rfl
  exact congrArg Graph.toFlow hEdited.symm

namespace Session

variable {s : Session}

/-- A session of which every state is loaded as it is, with no more states than its limit allows. -/
structure IsSettled (s : Session) : Prop where
  canvas : s.canvas.graph.IsStorable
  past : ∀ f ∈ s.history.past, f.IsStorable
  future : ∀ f ∈ s.history.future, f.IsStorable
  depth_le : s.depth ≤ s.history.limit

/-- The flow of a settled session is ready to be stored. -/
theorem IsSettled.flow (h : s.IsSettled) : s.canvas.flow.IsStorable := ⟨_, h.canvas, rfl⟩

/-! ## Acts -/

/-- Recording makes room for the recorded state. -/
theorem record_eq (h : s.IsSettled) :
    s.history.record s.canvas.flow =
      { s.history with
        past := (s.canvas.flow :: s.history.past).take s.history.limit, future := [] } := by
  have hDepth := h.depth_le
  obtain ⟨⟨limit, past, future⟩, canvas⟩ := s
  unfold depth at hDepth
  simp only at hDepth ⊢
  unfold History.record
  cases limit with
  | zero =>
    -- with no room for any state there is none to be dropped either
    have hPast : past = [] := List.length_eq_zero_iff.1 (by omega)
    have hFuture : future = [] := List.length_eq_zero_iff.1 (by omega)
    rw [hPast, hFuture]
    rfl
  | succ room => rfl

/-- Going back does nothing if there is no recorded state, and otherwise loads the last one. -/
theorem act_undo (s : Session) :
    s.history.past = [] ∧ s.act .undo = (s, false) ∨
      ∃ state past, s.history.past = state :: past ∧
        s.act .undo = (⟨{ s.history with past, future := s.canvas.flow :: s.history.future },
          s.canvas.load state⟩, true) := by
  unfold act History.undo?
  cases hPast : s.history.past with
  | nil => exact .inl ⟨rfl, rfl⟩
  | cons state past => exact .inr ⟨state, past, rfl, rfl⟩

/-- Taking back does nothing if nothing has been undone, and otherwise loads what was there. -/
theorem act_redo (s : Session) :
    s.history.future = [] ∧ s.act .redo = (s, false) ∨
      ∃ state future, s.history.future = state :: future ∧
        s.act .redo = (⟨{ s.history with past := s.canvas.flow :: s.history.past, future },
          s.canvas.load state⟩, true) := by
  unfold act History.redo?
  cases hFuture : s.history.future with
  | nil => exact .inl ⟨rfl, rfl⟩
  | cons state future => exact .inr ⟨state, future, rfl, rfl⟩

/-- The configuration and the limit stay what they are. -/
theorem config_act (s : Session) (a : Act) :
    (s.act a).1.canvas.config = s.canvas.config ∧
      (s.act a).1.history.limit = s.history.limit := by
  cases a with
  | change edits =>
    refine ⟨Canvas.config_performAll _ _, ?_⟩
    show (s.history.record s.canvas.flow).limit = _
    unfold History.record
    split <;> rfl
  | undo =>
    rcases act_undo s with ⟨-, hAct⟩ | ⟨state, past, -, hAct⟩
    · rw [hAct]
      exact ⟨rfl, rfl⟩
    · rw [hAct]
      exact ⟨rfl, rfl⟩
  | redo =>
    rcases act_redo s with ⟨-, hAct⟩ | ⟨state, future, -, hAct⟩
    · rw [hAct]
      exact ⟨rfl, rfl⟩
    · rw [hAct]
      exact ⟨rfl, rfl⟩

/-- Every act keeps a session settled. -/
theorem IsSettled.act (h : s.IsSettled) (a : Act) : (s.act a).1.IsSettled := by
  have hDepth := h.depth_le
  unfold depth at hDepth
  cases a with
  | change edits =>
    have hGraph : (s.canvas.performAll edits).graph.IsStorable :=
      List.foldlRecOn (motive := fun c : Canvas => c.graph.IsStorable) edits _ h.canvas
        fun _ hc e _ => hc.perform e
    show IsSettled ⟨s.history.record s.canvas.flow, s.canvas.performAll edits⟩
    rw [record_eq h]
    refine ⟨hGraph, ?_, by simp, ?_⟩
    · intro f hf
      rcases List.mem_cons.1 (List.mem_of_mem_take hf) with rfl | hOld
      · exact h.flow
      · exact h.past f hOld
    · unfold depth
      simp only [List.length_take, List.length_nil]
      omega
  | undo =>
    rcases act_undo s with ⟨-, hAct⟩ | ⟨state, past, hPast, hAct⟩
    · rw [hAct]
      exact h
    · rw [hAct]
      rw [hPast, List.length_cons] at hDepth
      refine ⟨Graph.isStorable_ofFlow state, ?_, ?_, ?_⟩
      · exact fun f hf => h.past f (hPast ▸ List.mem_cons_of_mem _ hf)
      · exact List.forall_mem_cons.2 ⟨h.flow, h.future⟩
      · unfold depth
        simp only [List.length_cons]
        omega
  | redo =>
    rcases act_redo s with ⟨-, hAct⟩ | ⟨state, future, hFuture, hAct⟩
    · rw [hAct]
      exact h
    · rw [hAct]
      rw [hFuture, List.length_cons] at hDepth
      refine ⟨Graph.isStorable_ofFlow state, ?_, ?_, ?_⟩
      · exact List.forall_mem_cons.2 ⟨h.flow, h.past⟩
      · exact fun f hf => h.future f (hFuture ▸ List.mem_cons_of_mem _ hf)
      · unfold depth
        simp only [List.length_cons]
        omega

/-- Going back shows the state before, if there is one. -/
theorem zipper_undo (h : s.IsSettled) :
    (s.act .undo).1.zipper = s.zipper.back?.getD s.zipper ∧
      (s.act .undo).2 = s.zipper.back?.isSome := by
  unfold zipper Zipper.back?
  rcases act_undo s with ⟨hPast, hAct⟩ | ⟨state, past, hPast, hAct⟩
  · rw [hAct]
    simp only [hPast]
    exact ⟨rfl, rfl⟩
  · rw [hAct]
    simp only [hPast]
    rw [(h.past state (hPast ▸ List.mem_cons_self)).flow_load]
    exact ⟨rfl, rfl⟩

/-- Going forth shows the state after, if there is one. -/
theorem zipper_redo (h : s.IsSettled) :
    (s.act .redo).1.zipper = s.zipper.forth?.getD s.zipper ∧
      (s.act .redo).2 = s.zipper.forth?.isSome := by
  unfold zipper Zipper.forth?
  rcases act_redo s with ⟨hFuture, hAct⟩ | ⟨state, future, hFuture, hAct⟩
  · rw [hAct]
    simp only [hFuture]
    exact ⟨rfl, rfl⟩
  · rw [hAct]
    simp only [hFuture]
    rw [(h.future state (hFuture ▸ List.mem_cons_self)).flow_load]
    exact ⟨rfl, rfl⟩

/-- Every act does to the states of a session what it does to the reference. -/
theorem zipper_act (h : s.IsSettled) (a : Act) :
    (s.act a).1.zipper = s.zipper.act s.canvas.config s.history.limit a := by
  cases a with
  | change edits =>
    unfold zipper Zipper.act Zipper.change act
    simp only
    rw [record_eq h, Canvas.flow_performAll h.canvas]
  | undo => exact (zipper_undo h).1
  | redo => exact (zipper_redo h).1

/-! ## Runs -/

/-- A settled session stays settled whatever is done. -/
theorem IsSettled.run (h : s.IsSettled) (acts : List Act) : (s.run acts).IsSettled :=
  List.foldlRecOn (motive := IsSettled) acts _ h fun _ hs a _ => hs.act a

/-- No act changes how far a session can be undone. -/
theorem limit_run (s : Session) (acts : List Act) :
    (s.run acts).history.limit = s.history.limit := by
  induction acts generalizing s with
  | nil => rfl
  | cons a rest ih => exact (ih (s.act a).1).trans (config_act s a).2

/-- The states of a session go as the reference does. -/
theorem zipper_run (h : s.IsSettled) (acts : List Act) :
    (s.run acts).zipper = s.zipper.run s.canvas.config s.history.limit acts := by
  induction acts generalizing s with
  | nil => rfl
  | cons a rest ih =>
    have hRest := ih (h.act a)
    rw [(config_act s a).1, (config_act s a).2, zipper_act h a] at hRest
    exact hRest

/-- Undoing and redoing report nothing to do exactly if there is nothing, change nothing then, and
take each other back otherwise. -/
structure IsReversible (s : Session) : Prop where
  undo_eq_false_iff : (s.act .undo).2 = false ↔ s.history.past = []
  undo_of_past_eq_nil : s.history.past = [] → (s.act .undo).1 = s
  redo_eq_false_iff : (s.act .redo).2 = false ↔ s.history.future = []
  redo_of_future_eq_nil : s.history.future = [] → (s.act .redo).1 = s
  redo_undo : (s.act .undo).2 = true → ((s.act .undo).1.act .redo).1.zipper = s.zipper
  undo_redo : (s.act .redo).2 = true → ((s.act .redo).1.act .undo).1.zipper = s.zipper

/-- A settled session is reversible: each step back can be taken forth again, and the other way
round. -/
theorem IsSettled.isReversible (h : s.IsSettled) : s.IsReversible where
  undo_eq_false_iff := by
    rcases act_undo s with ⟨hPast, hAct⟩ | ⟨state, past, hPast, hAct⟩ <;> simp [hPast, hAct]
  undo_of_past_eq_nil := by
    rcases act_undo s with ⟨hPast, hAct⟩ | ⟨state, past, hPast, hAct⟩ <;> simp [hPast, hAct]
  redo_eq_false_iff := by
    rcases act_redo s with ⟨hFuture, hAct⟩ | ⟨state, future, hFuture, hAct⟩ <;>
      simp [hFuture, hAct]
  redo_of_future_eq_nil := by
    rcases act_redo s with ⟨hFuture, hAct⟩ | ⟨state, future, hFuture, hAct⟩ <;>
      simp [hFuture, hAct]
  redo_undo := by
    obtain ⟨hZipper, hReport⟩ := zipper_undo h
    intro hDone
    rw [hDone] at hReport
    obtain ⟨z, hBack⟩ := Option.isSome_iff_exists.1 hReport.symm
    rw [hBack, Option.getD_some] at hZipper
    rw [(zipper_redo (h.act .undo)).1, hZipper, Zipper.forth?_of_back? hBack, Option.getD_some]
  undo_redo := by
    obtain ⟨hZipper, hReport⟩ := zipper_redo h
    intro hDone
    rw [hDone] at hReport
    obtain ⟨z, hForth⟩ := Option.isSome_iff_exists.1 hReport.symm
    rw [hForth, Option.getD_some] at hZipper
    rw [(zipper_undo (h.act .redo)).1, hZipper, Zipper.back?_of_forth? hForth, Option.getD_some]

end Session

/-- The session that starts with a canvas and an empty history for at most some states. -/
def Session.start (limit : Nat) (c : Canvas) : Session := ⟨{ limit }, c⟩

/-- Whatever is changed, undone and redone, from whatever canvas on, the recorded states and the
state of the canvas are those of the reference, undo and redo take each other back, and there are
never more recorded states than there may be. -/
theorem Canvas.Reached.undoes_exactly {c : Canvas} (hc : Reached c) (limit : Nat)
    (acts : List Session.Act) :
    ((Session.start limit c).run acts).zipper = Zipper.run c.config limit ⟨[], c.flow, []⟩ acts ∧
      ((Session.start limit c).run acts).IsReversible ∧
      ((Session.start limit c).run acts).depth ≤ limit := by
  have hStart : (Session.start limit c).IsSettled :=
    ⟨hc.isStorable, by simp [Session.start], by simp [Session.start], Nat.zero_le limit⟩
  have hRun := hStart.run acts
  refine ⟨Session.zipper_run hStart acts, hRun.isReversible, ?_⟩
  have hDepth := hRun.depth_le
  rw [Session.limit_run] at hDepth
  exact hDepth

/-- Boxing some code in and collapsing the box, deleting the code, and going back once. -/
def Session.boxAndDelete : List Session.Act :=
  [.change [.createGroup ⟨"box"⟩ "box" .origin [⟨"p"⟩], .toggle ⟨"box"⟩],
    .change [.delete { nodes := [⟨"p"⟩] }], .undo]

/-- With a limit of one state, the deletion is undone and the box is not. -/
theorem Canvas.Reached.undoes_exactly_boxAndDelete :
    let s := (Session.start 1 (Canvas.performAll {} Canvas.tableToCode)).run Session.boxAndDelete
    s.zipper.past.length = 0 ∧ s.canvas.flow.groups.length = 1 ∧
      s.zipper = Zipper.run {} 1 ⟨[], (Canvas.performAll {} Canvas.tableToCode).flow, []⟩
        Session.boxAndDelete ∧
      s.IsReversible ∧ s.depth ≤ 1 := by
  have hReached : Reached (Canvas.performAll {} Canvas.tableToCode) :=
    (Reached.start {}).performAll Canvas.tableToCode
  exact ⟨by decide, by decide, hReached.undoes_exactly 1 Session.boxAndDelete⟩

end FlowCanvas
