import SkySql.Sphere

set_option autoImplicit false

/-!
Region values: a concrete geometry, or a complement, union or intersection of regions that is left
for a later stage to resolve. Their printed form is the STC-S notation, with angles in degrees.
-/

namespace SkySql.Stcs

inductive RegionOp where
  | not
  | union
  | intersection
  deriving Repr, DecidableEq

def RegionOp.name : RegionOp → String
  | .not => "NOT"
  | .union => "UNION"
  | .intersection => "INTERSECTION"

mutual

inductive Value where
  | concrete (geometry : Geometry)
  | unresolved (region : Region)

/-- Region algebra; `frame` is the one declared on a union or intersection. -/
structure Region where
  op : RegionOp
  frame : Option String
  operands : List Value

end

def degreesPerRadian : Float := 57.2957795130823208767981548141051703

/-- An angle in degrees, rounded to nine places. -/
def degrees (radians : Float) : Float :=
  Decimal.roundHalfAway (radians * degreesPerRadian * 1e9) / 1e9

def angle (radians : Float) : String := " " ++ Decimal.text (degrees radians)

def pointAngles (p : Sphere.Point) : String := angle p.lon ++ angle p.lat

def geometryText : Geometry → String
  | .point p => "Position" ++ pointAngles p
  | .circle c => "Circle" ++ pointAngles c.center ++ angle c.radius
  | .polygon p => "Polygon" ++ String.join (p.vertices.map pointAngles)

mutual

def Value.text : Value → String
  | .concrete geometry => geometryText geometry
  | .unresolved region => region.text

def Region.text : Region → String
  | { op, frame, operands } =>
      op.name ++ (match frame with | some frame => " " ++ frame | none => "") ++
        "(" ++ Text.separated " " (operandTexts operands) ++ ")"

def operandTexts : List Value → List String
  | [] => []
  | operand :: rest => operand.text :: operandTexts rest

end

end SkySql.Stcs
