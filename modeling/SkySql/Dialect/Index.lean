import SkySql.Dialect.Config
import SkySql.Pass.Comparison
import SkySql.Rotation
import SkySql.Statement.Shape

set_option autoImplicit false

/-!
The pass for the spherical index. A test for a point inside a circle, box or polygon, all given by
constructors, becomes a call of the index; everything else is left to the dialect pass.
-/

namespace SkySql

/-- Whether two constructors can be compared without a rotation. -/
def sameFrame : Option String → Option String → Bool
  | some source, some target =>
      match Frame.rotationByName source target with
      | .ok none => true
      | _ => false
  | _, _ => true

/-- The coordinates of a point, and the shape it is looked for in. -/
structure Search where
  x : Expr
  y : Expr
  shape : Shape
  args : List Expr

/-- The search that a geometry test asks for: whether a point lies in a shape of valid arity, in
frames that need no rotation. -/
def search? : GeometryTest → Expr → Expr → Option Search
  | .contains, .geometry .point pointFrame [x, y], .geometry shape shapeFrame args =>
      if shape.takes args.length && sameFrame pointFrame shapeFrame then some ⟨x, y, shape, args⟩
      else none
  | _, _, _ => none

/-- The index call for a search. There is none for a point; the coordinates of the point that is
looked for are rendered all the same. -/
def Search.call? (config : DialectConfig) (search : Search) : Except Error (Option String) := do
  let x ← search.x.render
  let y ← search.y.render
  match search.shape, search.args with
  | .circle, centerX :: centerY :: radius :: _ =>
      return some (callText config.indexJoinFunction
        [x, y, ← centerX.render, ← centerY.render, ← radius.render])
  | .box, args =>
      match Shape.box.corners? args with
      | none => return none
      | some corners =>
          let x0 ← corners.x0.render
          let y0 ← corners.y0.render
          let x1 ← corners.x1.render
          let y1 ← corners.y1.render
          return some (callText config.indexPolyFunction
            [x, y, "ARRAY[" ++ Text.commaList [x0, y0, x0, y1, x1, y1, x1, y0] ++ "]"])
  | .polygon, args =>
      return some (callText config.indexPolyFunction
        [x, y, "ARRAY[" ++ (← renderList args) ++ "]"])
  | _, _ => return none

def indexPredicate (config : DialectConfig) (test : GeometryTest) (lhs rhs : Expr) :
    Rule (Rewrite Expr) := do
  match search? test lhs rhs with
  | none => return .keep (.predicate test lhs rhs)
  | some search =>
      match ← search.call? config with
      | none => return .keep (.predicate test lhs rhs)
      | some call =>
          Rule.raiseDiscard
          return .text call

def indexPass (config : DialectConfig) : Pass :=
  { name := "spatial-index"
    predicate := indexPredicate config
    comparison := dropComparison }

end SkySql
