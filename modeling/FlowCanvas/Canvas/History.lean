import FlowCanvas.Canvas.Basic

/-!
# History

Undo and redo over states of the whole flow. A state is recorded before it is changed; undoing goes
back to the state recorded last, and redoing takes back an undo. Recording a state drops what could
be redone, and when there is no room for it, the earliest states.
-/

set_option autoImplicit false

namespace FlowCanvas

/-- The states that can be gone back to. -/
structure History where
  /-- How many states can be undone at most. -/
  limit : Nat := 50
  /-- The states to undo to, the next one first. -/
  past : List Flow := []
  /-- The states to redo to, the next one first. -/
  future : List Flow := []
  deriving Inhabited

namespace History

/-- The history without states, for a configuration. -/
def ofConfig (c : Config) : History := { limit := c.maxHistory.toNat }

/-- Whether there is a state to undo to. -/
def canUndo (h : History) : Bool := !h.past.isEmpty

/-- Whether there is a state to redo to. -/
def canRedo (h : History) : Bool := !h.future.isEmpty

/-- Records a state that is about to be changed. Without room for any state nothing happens. -/
def record (h : History) (state : Flow) : History :=
  if h.limit = 0 then h
  else { h with past := state :: h.past.take (h.limit - 1), future := [] }

/-- Goes back to the state recorded last. Nothing if there is none. -/
def undo? (h : History) (c : Canvas) : Option (History × Canvas) :=
  match h.past with
  | [] => none
  | state :: past => some ({ h with past, future := c.flow :: h.future }, c.load state)

/-- Takes back the last undo. Nothing if there is none. -/
def redo? (h : History) (c : Canvas) : Option (History × Canvas) :=
  match h.future with
  | [] => none
  | state :: future => some ({ h with past := c.flow :: h.past, future }, c.load state)

/-- Forgets all states. -/
def clear (h : History) : History := { h with past := [], future := [] }

end History

end FlowCanvas
