set_option autoImplicit false

/-!
The operators, functions and connectives of statements, and how each is spelled.
-/

namespace SkySql

inductive BinaryOp where
  | add | sub | mul | div | concat | and | or
  deriving Repr, DecidableEq

def BinaryOp.symbol : BinaryOp → String
  | .add => "+"
  | .sub => "-"
  | .mul => "*"
  | .div => "/"
  | .concat => "||"
  | .and => "AND"
  | .or => "OR"

inductive CompareOp where
  | eq | ne | lt | le | gt | ge
  deriving Repr, DecidableEq

def CompareOp.symbol : CompareOp → String
  | .eq => "="
  | .ne => "<>"
  | .lt => "<"
  | .le => "<="
  | .gt => ">"
  | .ge => ">="

inductive UnaryOp where
  | neg | not
  deriving Repr, DecidableEq

inductive SetOp where
  | union | intersect | except
  deriving Repr, DecidableEq

def SetOp.name : SetOp → String
  | .union => "UNION"
  | .intersect => "INTERSECT"
  | .except => "EXCEPT"

inductive JoinKind where
  | inner | left | right | full | cross
  deriving Repr, DecidableEq

def JoinKind.name : JoinKind → String
  | .inner => "JOIN"
  | .left => "LEFT OUTER JOIN"
  | .right => "RIGHT OUTER JOIN"
  | .full => "FULL OUTER JOIN"
  | .cross => "CROSS JOIN"

inductive Shape where
  | point | circle | box | polygon
  deriving Repr, DecidableEq

def Shape.name : Shape → String
  | .point => "POINT"
  | .circle => "CIRCLE"
  | .box => "BOX"
  | .polygon => "POLYGON"

/-- Tests between two geometries. A query compares their outcome with 0 or 1. -/
inductive GeometryTest where
  | contains | intersects
  deriving Repr, DecidableEq

def GeometryTest.name : GeometryTest → String
  | .contains => "CONTAINS"
  | .intersects => "INTERSECTS"

inductive PointAccessor where
  | coord1 | coord2 | coordSystem
  deriving Repr, DecidableEq

def PointAccessor.name : PointAccessor → String
  | .coord1 => "COORD1"
  | .coord2 => "COORD2"
  | .coordSystem => "COORDSYS"

inductive GeometryFunction where
  | area | distance | centroid | region
  deriving Repr, DecidableEq

def GeometryFunction.name : GeometryFunction → String
  | .area => "AREA"
  | .distance => "DISTANCE"
  | .centroid => "CENTROID"
  | .region => "REGION"

end SkySql
