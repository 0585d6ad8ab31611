import SkySql.Json.Decoder

set_option autoImplicit false

/-!
The names of the database functions that rules write, and whether the spherical index is used.
-/

namespace SkySql

structure DialectConfig where
  spatialIndex : Bool := true
  /-- Distance between two points. -/
  distanceFunction : String := "celDistPP"
  /-- Distance between two pairs of coordinates in degrees. -/
  distanceFunctionDeg : String := "celDistDD"
  centroidFunction : String := "center"
  /-- Index search in a circle: coordinates, center and radius. -/
  indexJoinFunction : String := "q3c_join"
  /-- Index search in a polygon: coordinates and an array of vertices. -/
  indexPolyFunction : String := "q3c_poly_query"
  deriving Repr, DecidableEq

namespace DialectConfig

def toJson (config : DialectConfig) : Json :=
  .object [("spatial_index", .bool config.spatialIndex),
    ("distance_function", .string config.distanceFunction),
    ("distance_function_deg", .string config.distanceFunctionDeg),
    ("centroid_function", .string config.centroidFunction),
    ("index_join_function", .string config.indexJoinFunction),
    ("index_poly_function", .string config.indexPolyFunction)]

open Json (fields? defaulted? bool? string?) in
def ofJson? (json : Json) : Option DialectConfig := do
  let fields ← fields? json
  let base : DialectConfig := {}
  let spatialIndex ← defaulted? fields "spatial_index" base.spatialIndex bool?
  let distanceFunction ← defaulted? fields "distance_function" base.distanceFunction string?
  let distanceFunctionDeg ←
    defaulted? fields "distance_function_deg" base.distanceFunctionDeg string?
  let centroidFunction ← defaulted? fields "centroid_function" base.centroidFunction string?
  let indexJoinFunction ← defaulted? fields "index_join_function" base.indexJoinFunction string?
  let indexPolyFunction ← defaulted? fields "index_poly_function" base.indexPolyFunction string?
  return { spatialIndex, distanceFunction, distanceFunctionDeg, centroidFunction,
           indexJoinFunction, indexPolyFunction }

end DialectConfig

end SkySql
