import SkySql.Dialect.Config
import SkySql.Pass.Comparison
import SkySql.Rotation
import SkySql.Statement.Select
import SkySql.Statement.Shape
import SkySql.Text.Alphanumeric

set_option autoImplicit false

/-!
The dialect pass: geometry constructors and tests, point accessors, functions under other names, and
the text of queries.
-/

namespace SkySql

def planarAreaWarning : String :=
  "AREA is evaluated with a planar approximation; results are inexact for large regions"

def vertexTexts : List String → List String
  | x :: y :: rest => ("(" ++ x ++ ", " ++ y ++ ")") :: vertexTexts rest
  | _ => []

def polygonCoordinates : List Expr → Except Error (List String)
  | [] => .ok []
  | arg :: rest => do
      let text ← arg.render
      if arg.asNumber?.isNone then throw (.nonLiteralPolygon text)
      return text :: (← polygonCoordinates rest)

def geometryText (shape : Shape) (args : List Expr) : Except Error String := do
  let wrongArity := Error.arity shape.name shape.expected args.length
  if !shape.takes args.length then throw wrongArity
  match shape, args with
  | .point, x :: y :: _ => return "POINT(" ++ (← x.render) ++ ", " ++ (← y.render) ++ ")"
  | .circle, x :: y :: radius :: _ =>
      return "CIRCLE(POINT(" ++ (← x.render) ++ ", " ++ (← y.render) ++ "), " ++
        (← radius.render) ++ ")"
  | .box, args =>
      match Shape.box.corners? args with
      | some corners =>
          return "POLYGON(BOX(POINT(" ++ (← corners.x0.render) ++ ", " ++ (← corners.y0.render) ++
            "), POINT(" ++ (← corners.x1.render) ++ ", " ++ (← corners.y1.render) ++ ")))"
      | none => throw wrongArity
  | .polygon, args =>
      return "'(" ++ Text.commaList (vertexTexts (← polygonCoordinates args)) ++ ")'::polygon"
  | _, _ => throw wrongArity

def GeometryTest.operator : GeometryTest → String
  | .contains => "~"
  | .intersects => "?#"

/-- A geometry test as an operator between two geometries, the left one rotated into the frame of the
right one if both frames are known. -/
def testText (test : GeometryTest) (lhs rhs : Expr) : Except Error String := do
  let left ← lhs.render
  let right ← rhs.render
  let left ← match lhs.coordSystem?, rhs.coordSystem? with
    | some source, some target => Frame.conform left source target
    | _, _ => pure left
  return "(" ++ left ++ ") " ++ test.operator ++ " (" ++ right ++ ")"

def cleaned (system : String) : String :=
  String.ofList (system.toList.filter fun c => Text.isAlphanumeric c || c == '_')

/-- A coordinate of a point, or the name of its coordinate system. The latter does not look at the
text of the point. -/
def accessorText (accessor : PointAccessor) (arg : Expr) : Except Error String :=
  match accessor with
  | .coord1 => do return "(" ++ (← arg.render) ++ ")[0]"
  | .coord2 => do return "(" ++ (← arg.render) ++ ")[1]"
  | .coordSystem => .ok (Text.quote (cleaned (arg.coordSystem?.getD "unknown")))

def renamed? : String → Option String
  | "LOG" => some "LN"
  | "LOG10" => some "LOG"
  | "TRUNCATE" => some "TRUNC"
  | _ => none

def functionRewrite (name : String) (args : List Expr) : Except Error (Rewrite Expr) :=
  let capitals := Text.upperAscii name
  match renamed? capitals with
  | some other => .ok (.keep (.function other args))
  | none =>
      if capitals = "RAND" then
        match args with
        | [] => .ok (.text "random()")
        | [seed] => do
            let seed ← seed.render
            return .text ("setseed(" ++ seed ++ ")-setseed(" ++ seed ++ ")+random()")
        | _ => .error (.arity "RAND" "0 or 1" args.length)
      else if capitals = "SQUARE" then
        match args with
        | [arg] => do return .text ("(" ++ (← arg.render) ++ ")^2")
        | _ => .error (.arity "SQUARE" "1" args.length)
      else .ok (.keep (.function name args))

def distanceText (config : DialectConfig) (args : List Expr) : Except Error String :=
  match args.length with
  | 2 => do return callText config.distanceFunction (← renderExprs args)
  | 4 => do return callText config.distanceFunctionDeg (← renderExprs args)
  | count => .error (.arity "DISTANCE" "2 or 4" count)

def centroidText (config : DialectConfig) : List Expr → Except Error String
  | [arg] => do return callText config.centroidFunction [← arg.render]
  | args => .error (.arity "CENTROID" "1" args.length)

def geometryFunctionRule (config : DialectConfig) (function : GeometryFunction)
    (args : List Expr) : Rule (Rewrite Expr) :=
  match function with
  | .area => do
      Rule.warn planarAreaWarning
      return .keep (.geometryFunction .area args)
  | .distance => do return .text (← distanceText config args)
  | .centroid => do return .text (← centroidText config args)
  | .region => throw (.unsupported "REGION")

def dialectPass (config : DialectConfig) : Pass :=
  { name := "dialect-morph"
    geometry := fun shape _ args => do return .text (← geometryText shape args)
    predicate := fun test lhs rhs => do
      let text ← testText test lhs rhs
      Rule.raiseDiscard
      return .text text
    accessor := fun accessor arg => do return .text (← accessorText accessor arg)
    function := fun name args => do functionRewrite name args
    geometryFunction := geometryFunctionRule config
    comparison := dropComparison
    query := fun query => do return .text (← query.renderSelect)
    derived := fun statement name => do return .text (← renderDerived statement name) }

end SkySql
