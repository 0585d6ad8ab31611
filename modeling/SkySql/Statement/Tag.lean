import SkySql.Statement.Operator
import SkySql.Stcs.Basic

set_option autoImplicit false

/-!
The names that stand for operators and kinds in the JSON form of a statement.
-/

namespace SkySql

namespace BinaryOp

def tag : BinaryOp → String
  | .add => "Add"
  | .sub => "Sub"
  | .mul => "Mul"
  | .div => "Div"
  | .concat => "Concat"
  | .and => "And"
  | .or => "Or"

def all : List BinaryOp := [.add, .sub, .mul, .div, .concat, .and, .or]

end BinaryOp

namespace CompareOp

def tag : CompareOp → String
  | .eq => "Eq"
  | .ne => "Ne"
  | .lt => "Lt"
  | .le => "Le"
  | .gt => "Gt"
  | .ge => "Ge"

def all : List CompareOp := [.eq, .ne, .lt, .le, .gt, .ge]

end CompareOp

namespace UnaryOp

def tag : UnaryOp → String
  | .neg => "Neg"
  | .not => "Not"

def all : List UnaryOp := [.neg, .not]

end UnaryOp

namespace SetOp

def tag : SetOp → String
  | .union => "Union"
  | .intersect => "Intersect"
  | .except => "Except"

def all : List SetOp := [.union, .intersect, .except]

end SetOp

namespace JoinKind

def tag : JoinKind → String
  | .inner => "Inner"
  | .left => "Left"
  | .right => "Right"
  | .full => "Full"
  | .cross => "Cross"

def all : List JoinKind := [.inner, .left, .right, .full, .cross]

end JoinKind

namespace Shape

def tag : Shape → String
  | .point => "Point"
  | .circle => "Circle"
  | .box => "Box"
  | .polygon => "Polygon"

def all : List Shape := [.point, .circle, .box, .polygon]

end Shape

namespace GeometryTest

def tag : GeometryTest → String
  | .contains => "Contains"
  | .intersects => "Intersects"

def all : List GeometryTest := [.contains, .intersects]

end GeometryTest

namespace PointAccessor

def tag : PointAccessor → String
  | .coord1 => "Coord1"
  | .coord2 => "Coord2"
  | .coordSystem => "Coordsys"

def all : List PointAccessor := [.coord1, .coord2, .coordSystem]

end PointAccessor

namespace GeometryFunction

def tag : GeometryFunction → String
  | .area => "Area"
  | .distance => "Distance"
  | .centroid => "Centroid"
  | .region => "Region"

def all : List GeometryFunction := [.area, .distance, .centroid, .region]

end GeometryFunction

namespace Stcs.RegionOp

def tag : RegionOp → String
  | .not => "Not"
  | .union => "Union"
  | .intersection => "Intersection"

def all : List RegionOp := [.not, .union, .intersection]

end Stcs.RegionOp

end SkySql
