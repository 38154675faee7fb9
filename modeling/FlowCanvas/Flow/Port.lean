import FlowCanvas.Flow.Id

/-!
# Ports

What a port lets through, how many connections it takes, and which roles it accepts at the other
end. Two ports can be joined when one can send what the other can receive and each accepts the
role of the other.

The outputs that a decision table has for its groups carry the group in their role. For the
question of who accepts whom they count as one family, `decision-out`. A description lists families
only (`PortSpec.allows`); a port that is on a node may also list a single role of a family
(`Port.allows`).
-/

set_option autoImplicit false

namespace FlowCanvas

/-- Which way a port works; it may work both ways. -/
structure Direction where
  /-- Whether connections may end at the port. -/
  receives : Bool
  /-- Whether connections may start at the port. -/
  sends : Bool
  deriving DecidableEq, Inhabited

namespace Direction

/-- A port at which connections end. -/
def input : Direction := ⟨true, false⟩

/-- A port at which connections start. -/
def output : Direction := ⟨false, true⟩

/-- A port that works both ways. -/
def both : Direction := ⟨true, true⟩

/-- The direction with the given bits: the lowest for receiving, the next for sending. -/
def ofBits (bits : Nat) : Direction := ⟨bits % 2 == 1, bits / 2 % 2 == 1⟩

/-- The name of a direction. A port that works neither way goes by the name of an input. -/
def name (d : Direction) : String :=
  if d = both then "input-output" else if d = output then "output" else "input"

/-- The direction with a given name. -/
def ofName? : String → Option Direction
  | "input" => some input
  | "output" => some output
  | "input-output" => some both
  | _ => none

/-- Whether two ports differ in their direction and one can send to the other. -/
def pairsWith (a b : Direction) : Bool :=
  a != b && ((a.sends && b.receives) || (a.receives && b.sends))

end Direction

/-- The side of its node on which a port is drawn. -/
inductive Side where
  | left
  | right
  | top
  | bottom
  deriving DecidableEq, Inhabited

namespace Side

/-- The name of a side. -/
def name : Side → String
  | left => "left"
  | right => "right"
  | top => "top"
  | bottom => "bottom"

/-- The side with a given name. -/
def ofName? : String → Option Side
  | "left" => some left
  | "right" => some right
  | "top" => some top
  | "bottom" => some bottom
  | _ => none

end Side

namespace Role

/-- What the role of every output of a decision table's group starts with. -/
def decisionOutFront : String := "decision-out-"

/-- The family of the outputs of decision tables' groups. -/
def decisionOut : Role := ⟨"decision-out"⟩

/-- The output of a decision table that is taken when no group applies. -/
def decisionDefault : Role := ⟨"decision-default"⟩

/-- The output of a decision table that is taken on an error. -/
def decisionError : Role := ⟨"decision-error"⟩

/-- The input of a decision table. -/
def tableIn : Role := ⟨"table-in"⟩

/-- The role under which others accept this one. -/
def family (r : Role) : Role :=
  if Text.startsWith r.text decisionOutFront then decisionOut else r

/-- Whether the role is that of an output of a decision table. -/
def isDecisionOutput (r : Role) : Bool :=
  Text.startsWith r.text decisionOutFront || r == decisionDefault || r == decisionError

end Role

/-- What all ports of one role have in common. -/
structure PortSpec where
  role : Role
  direction : Direction
  /-- Whether the port takes more than one connection. -/
  multiple : Bool
  /-- The roles that the port accepts at the other end. -/
  allowed : List Role
  side : Side
  color : String
  deriving DecidableEq, Inhabited

/-- Whether a list of accepted roles accepts a role, itself or by its family. -/
def acceptedBy (allowed : List Role) (role : Role) : Bool :=
  allowed.any (fun a => a == role.family || a == role)

namespace PortSpec

/-- Whether the description lists the family of a role among those that are accepted. -/
def allows (spec : PortSpec) (role : Role) : Bool := spec.allowed.any (· == role.family)

end PortSpec

/-- A port of a node. -/
structure Port where
  id : PortId
  /-- What the port has in common with others of its role. -/
  spec : PortSpec
  deriving DecidableEq, Inhabited

namespace PortSpec

/-- The port that a node has by this description. -/
def on (spec : PortSpec) (node : ItemId) : Port := ⟨⟨node, spec.role⟩, spec⟩

end PortSpec

namespace Port

/-- The role of a port. -/
def role (p : Port) : Role := p.spec.role

/-- Whether the port accepts a role at the other end, itself or by its family. -/
def allows (p : Port) (role : Role) : Bool := acceptedBy p.spec.allowed role

/-- The port with the key that belongs to it on a given node. -/
def boundTo (p : Port) (node : ItemId) : Port := { p with id := ⟨node, p.role⟩ }

/-- Whether the directions and the roles of two ports let them be joined. -/
def fits (a b : Port) : Bool :=
  a.spec.direction.pairsWith b.spec.direction && a.allows b.role && b.allows a.role

end Port

end FlowCanvas
