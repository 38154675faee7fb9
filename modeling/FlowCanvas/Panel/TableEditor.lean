import FlowCanvas.Flow.DecisionTable

/-!
# Editing decision tables

The working copy of a decision table in a panel. The flags of the groups are kept fresh while
groups are edited, so that bad rows show at once.

Routes can change on the canvas while the panel is open. The editor therefore remembers for each
group what role it was loaded with, and which routes have been set here; only those are written
back (`TableEditor.merge`).
-/

set_option autoImplicit false

namespace FlowCanvas

/-- What the editor knows about the route of a group. -/
structure RouteMark where
  /-- The role that the group was loaded with; none if it has been added here. -/
  loadedRole : Option Role
  /-- Whether the route has been set here. -/
  edited : Bool
  deriving DecidableEq, Inhabited

/-- The working copy of a decision table. -/
structure TableEditor where
  table : DecisionTable
  /-- What is known about the routes of the groups, in the order of the groups. -/
  marks : List RouteMark
  defaultEdited : Bool := false
  errorEdited : Bool := false
  deriving DecidableEq, Inhabited

namespace TableEditor

/-- The working copy of a table. -/
def ofTable (table : DecisionTable) : TableEditor :=
  let table := table.revalidate
  { table, marks := table.groups.map fun g => ⟨some g.role, false⟩ }

/-- The editor with other groups, whose flags are taken afresh. -/
def withGroups (e : TableEditor) (groups : List ConditionGroup) : TableEditor :=
  { e with table := { e.table with groups }.revalidate }

/-- The place in the order behind all groups. -/
def nextOrder (groups : List ConditionGroup) : UInt32 :=
  groups.foldl (fun order g => max order (g.order + 1)) 0

/-- Adds a group behind all others, and returns its index with the editor. -/
def addGroup (e : TableEditor) (name : String) : TableEditor × Nat :=
  let group : ConditionGroup := { name, order := nextOrder e.table.groups }
  ({ e.withGroups (e.table.groups ++ [group]) with marks := e.marks ++ [⟨none, true⟩] },
    e.table.groups.length)

/-- Removes the group at an index. Nothing if there is none. -/
def removeGroup? (e : TableEditor) (index : Nat) : Option TableEditor :=
  if index < e.table.groups.length then
    some { e.withGroups (e.table.groups.eraseIdx index) with marks := e.marks.eraseIdx index }
  else none

/-- Edits the group at an index. Nothing if there is none. -/
def editGroup? (e : TableEditor) (index : Nat) (edit : ConditionGroup → ConditionGroup) :
    Option TableEditor :=
  if index < e.table.groups.length then some (e.withGroups (e.table.groups.modify index edit))
  else none

/-- Sets where the group at an index leads to. Nothing if there is none. -/
def setNext? (e : TableEditor) (index : Nat) (next : Option String) : Option TableEditor :=
  (e.editGroup? index fun g => { g with next }).map fun e =>
    { e with marks := e.marks.modify index fun m => { m with edited := true } }

/-- Adds a condition to the group at an index. Nothing if there is none. -/
def addCondition? (e : TableEditor) (index : Nat) (condition : Condition) : Option TableEditor :=
  e.editGroup? index fun g => { g with conditions := g.conditions ++ [condition] }

/-- Removes a condition from the group at an index. Nothing if there is no such group or
condition. -/
def removeCondition? (e : TableEditor) (index condition : Nat) : Option TableEditor :=
  match e.table.groups[index]? with
  | none => none
  | some group =>
    if condition < group.conditions.length then
      let group := { group with conditions := group.conditions.eraseIdx condition }
      some { e with table := { e.table with groups := e.table.groups.set index group } }
    else none

/-- Sets where the table leads to when no group applies. -/
def setDefault (e : TableEditor) (next : Option String) : TableEditor :=
  { e with table := { e.table with defaultNext := next }, defaultEdited := true }

/-- Sets where the table leads to on an error. -/
def setError (e : TableEditor) (next : Option String) : TableEditor :=
  { e with table := { e.table with errorNext := next }, errorEdited := true }

/-- A group of the editor, with the stored route of the group that it was loaded from unless the
route has been set here. -/
def mergeGroup (stored : List ConditionGroup) (g : ConditionGroup) (mark : RouteMark) :
    ConditionGroup :=
  if mark.edited then g
  else
    match mark.loadedRole.bind fun role => stored.find? (·.role == role) with
    | some current => { g with next := current.next }
    | none => g

/-- The groups of the editor with the stored routes where they have not been set here. -/
def mergeGroups (stored : List ConditionGroup) :
    List ConditionGroup → List RouteMark → List ConditionGroup
  | g :: groups, mark :: marks => mergeGroup stored g mark :: mergeGroups stored groups marks
  | groups, _ => groups

/-- The table of the editor with the stored routes where they have not been set here. -/
def merge (e : TableEditor) (stored : DecisionTable) : DecisionTable :=
  { e.table with
    groups := mergeGroups stored.groups e.table.groups e.marks
    defaultNext := if e.defaultEdited then e.table.defaultNext else stored.defaultNext
    errorNext := if e.errorEdited then e.table.errorNext else stored.errorNext }

end TableEditor

end FlowCanvas
