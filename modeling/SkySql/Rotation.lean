import SkySql.Decimal.Layout
import SkySql.Frame
import SkySql.Sphere

set_option autoImplicit false

/-!
Rotations between frames as SQL text put after a geometry. Every frame is related to ICRS, and a
rotation between two other frames goes through it.
-/

namespace SkySql

/-- Euler angles in radians, about the axes z, x, z in turn. -/
structure EulerAngles where
  phi : Float
  theta : Float
  psi : Float

def EulerAngles.ofDegrees (phi theta psi : Float) : EulerAngles :=
  ⟨phi * radiansPerDegree, theta * radiansPerDegree, psi * radiansPerDegree⟩

namespace Frame

/-- The angles of a frame against ICRS; none for a frame that needs no rotation. B1950 positions
need more than a rotation, so FK4 has no entry, nor has any frame without fixed axes. -/
def angles : Frame → Except Error (Option EulerAngles)
  | .icrs | .fk5 => .ok none
  | .galactic => .ok (some (.ofDegrees 282.85948 62.87175 32.93192))
  | .ecliptic => .ok (some (.ofDegrees 0.0 23.4392911 0.0))
  | frame => .error (.unknownFrame frame.name)

def transformation (sign : String) (angles : EulerAngles) : String :=
  " " ++ sign ++ " strans(" ++ Decimal.text angles.phi ++ ", " ++ Decimal.text angles.theta ++ ", " ++
    Decimal.text angles.psi ++ ")"

/-- The rotation out of ICRS. It takes the angles of the frame it starts from, which is ICRS, and so
is always empty. -/
def fromIcrs : Except Error (Option String) := do
  return (← angles .icrs).map (transformation "+")

def toIcrs (frame : Frame) : Except Error (Option String) := do
  return (← angles frame).map (transformation "-")

/-- The text that turns positions of one frame into positions of another, if any is needed. -/
def rotation (source target : Frame) : Except Error (Option String) := do
  if source.isUniversal ∨ target.isUniversal ∨ source = target then return none
  else if source = .icrs then fromIcrs
  else if target = .icrs then source.toIcrs
  else
    match ← source.toIcrs, ← fromIcrs with
    | none, none => return none
    | first, second => return some (first.getD "" ++ second.getD "")

def rotationByName (source target : String) : Except Error (Option String) := do
  rotation (← ofName source) (← ofName target)

/-- A geometry's text, rotated from one named frame into another if needed. -/
def conform (sql source target : String) : Except Error String := do
  match ← rotationByName source target with
  | some text => return "(" ++ sql ++ text ++ ")"
  | none => return sql

end Frame

end SkySql
