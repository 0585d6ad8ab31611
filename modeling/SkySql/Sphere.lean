import SkySql.Decimal.Layout
import SkySql.Text.Listing

set_option autoImplicit false

/-!
Points, circles and polygons on the sphere. Angles are held in radians and come from degrees.
-/

namespace SkySql

def radiansPerDegree : Float := 3.14159265358979323846 / 180.0

namespace Sphere

structure Point where
  lon : Float
  lat : Float

namespace Point

def ofDegrees (lon lat : Float) : Point := ⟨lon * radiansPerDegree, lat * radiansPerDegree⟩

def toDegrees (p : Point) : Float × Float := (p.lon / radiansPerDegree, p.lat / radiansPerDegree)

def text (p : Point) : String :=
  "(" ++ Decimal.text p.lon ++ ", " ++ Decimal.text p.lat ++ ")"

end Point

structure Circle where
  center : Point
  radius : Float

/-- The edge from the last vertex back to the first is implied. -/
structure Polygon where
  vertices : List Point

end Sphere

inductive Geometry where
  | point (point : Sphere.Point)
  | circle (circle : Sphere.Circle)
  | polygon (polygon : Sphere.Polygon)

namespace Geometry

def kind : Geometry → String
  | .point _ => "point"
  | .circle _ => "circle"
  | .polygon _ => "polygon"

def points : Geometry → List Sphere.Point
  | .point p => [p]
  | .circle c => [c.center]
  | .polygon p => p.vertices

def literal : Geometry → String
  | .point p => "'" ++ p.text ++ "'::spoint"
  | .circle c => "'<" ++ c.center.text ++ ", " ++ Decimal.text c.radius ++ ">'::scircle"
  | .polygon p => "'\x7b" ++ Text.commaList (p.vertices.map (·.text)) ++ "\x7d'::spoly"

end Geometry

end SkySql
