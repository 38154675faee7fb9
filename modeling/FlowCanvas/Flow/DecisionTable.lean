import FlowCanvas.Flow.Port
import FlowCanvas.Text.Blank
import FlowCanvas.Text.Letters

/-!
# Decision tables

A decision table is a list of condition groups, each of which sends the flow on to a node, and two
further routes, one for the case that no group applies and one for errors. Routes name their
target; they do not know its id.

Each valid group has an output of its own, whose role is made from the name of the group. Names
are free text, so roles are compared in a normal form: lower case, with each run of white space
replaced by a hyphen. A group is valid if it has a name and an expression and no other group makes
the same role.
-/

set_option autoImplicit false

namespace FlowCanvas

namespace Role

/-- Characters in lower case, each run of white space replaced by a hyphen. The flag tells whether
the character before was white space. -/
def normalChars : Bool → List Char → List Char
  | _, [] => []
  | afterBlank, c :: cs =>
    if Text.isBlankChar c then
      (if afterBlank then [] else ['-']) ++ normalChars true cs
    else Text.lowerChar c ++ normalChars false cs

/-- The normal form in which the roles of decision outputs are compared. -/
def normalize (r : Role) : Role := ⟨String.ofList (normalChars false r.text.toList)⟩

/-- The role of the output of the group with a given name. -/
def ofGroupName (name : String) : Role := normalize ⟨decisionOutFront ++ name⟩

end Role

/-- How the conditions of a group are edited. -/
inductive GroupKind where
  | simple
  | complex
  deriving DecidableEq, Inhabited

namespace GroupKind

/-- The name of a kind of groups. -/
def name : GroupKind → String
  | simple => "simple"
  | complex => "complex"

/-- The kind of groups with a given name. -/
def ofName? : String → Option GroupKind
  | "simple" => some simple
  | "complex" => some complex
  | _ => none

end GroupKind

/-- A named condition of a group. -/
structure Condition where
  name : String := ""
  condition : String := ""
  deriving DecidableEq, Inhabited

/-- A row of a decision table. -/
structure ConditionGroup where
  name : String := ""
  kind : GroupKind := .simple
  expression : String := ""
  conditions : List Condition := []
  /-- What the group does to the state of the flow, if anything. -/
  manipulation : Option String := none
  /-- The name of the node that the group leads to, if any. -/
  next : Option String := none
  /-- Whether the group has an output. `DecisionTable.revalidate` decides it. -/
  valid : Bool := false
  order : UInt32 := 0
  deriving DecidableEq, Inhabited

/-- The role of the group's output. -/
def ConditionGroup.role (g : ConditionGroup) : Role := Role.ofGroupName g.name

/-- A decision table. -/
structure DecisionTable where
  name : String := ""
  /-- The groups, in the order in which they were written. -/
  groups : List ConditionGroup := []
  /-- The name of the node that follows when no group applies, if any. -/
  defaultNext : Option String := none
  /-- The name of the node that follows on an error, if any. -/
  errorNext : Option String := none
  deriving DecidableEq, Inhabited

namespace DecisionTable

/-- Whether a group among others is valid. -/
def isValidAmong (groups : List ConditionGroup) (g : ConditionGroup) : Bool :=
  !Text.isBlank g.name && !Text.isBlank g.expression &&
    groups.countP (fun other => other.role == g.role) == 1

/-- The groups with fresh flags. -/
def revalidateGroups (groups : List ConditionGroup) : List ConditionGroup :=
  groups.map fun g => { g with valid := isValidAmong groups g }

/-- The table with fresh flags. -/
def revalidate (t : DecisionTable) : DecisionTable :=
  { t with groups := revalidateGroups t.groups }

/-- Puts a group before the first one that does not come earlier. -/
def insertByOrder (g : ConditionGroup) : List ConditionGroup → List ConditionGroup
  | [] => [g]
  | h :: rest => if g.order ≤ h.order then g :: h :: rest else h :: insertByOrder g rest

/-- The groups by their order; groups of the same order stay as they are. -/
def sortByOrder (groups : List ConditionGroup) : List ConditionGroup :=
  groups.foldr insertByOrder []

/-- Sorting a group in adds it and loses none. -/
theorem insertByOrder_perm (g : ConditionGroup) (groups : List ConditionGroup) :
    (insertByOrder g groups).Perm (g :: groups) := by
  induction groups with
  | nil => exact List.Perm.refl _
  | cons h rest ih =>
    unfold insertByOrder
    split
    · exact List.Perm.refl _
    · exact (ih.cons h).trans (List.Perm.swap g h rest)

/-- Sorting only moves groups. -/
theorem sortByOrder_perm (groups : List ConditionGroup) : (sortByOrder groups).Perm groups := by
  induction groups with
  | nil => exact List.Perm.refl _
  | cons g groups ih => exact (insertByOrder_perm g _).trans (ih.cons g)

/-- The groups that are flagged valid, by their order. -/
def validGroups (t : DecisionTable) : List ConditionGroup :=
  sortByOrder (t.groups.filter (·.valid))

/-- The outputs of the table, each with the name that it leads to. -/
def bindings (t : DecisionTable) : List (Role × Option String) :=
  t.validGroups.map (fun g => (g.role, g.next)) ++
    [(Role.decisionDefault, t.defaultNext), (Role.decisionError, t.errorNext)]

/-- Lets the first group with a role lead to a name; nothing if there is no such group. -/
def bindGroup? (role : Role) (target : Option String) :
    List ConditionGroup → Option (List ConditionGroup)
  | [] => none
  | g :: rest =>
    if g.role = role then some ({ g with next := target } :: rest)
    else (bindGroup? role target rest).map (g :: ·)

/-- Lets the output with a role, or one that normalizes to it, lead to a name or nowhere; nothing
if there is no such output. -/
def bind? (t : DecisionTable) (role : Role) (target : Option String) : Option DecisionTable :=
  let role := role.normalize
  if role = Role.decisionDefault then some { t with defaultNext := target }
  else if role = Role.decisionError then some { t with errorNext := target }
  else (bindGroup? role target t.groups).map fun groups => { t with groups }

end DecisionTable

end FlowCanvas
