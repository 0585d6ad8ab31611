import SkySql.Pass.Basic
import SkySql.Statement.Render

set_option autoImplicit false

/-!
The comparison rule of every pass that rewrites geometry tests. A query writes `1 = CONTAINS(..)`;
once the test is a condition of its own, the comparison with an integer goes, and what remains is the
condition or its negation.
-/

namespace SkySql

/-- Whether a comparison with `truth` asks for the condition or for its negation. -/
def CompareOp.polarity? (op : CompareOp) (truth : Float) : Option Bool :=
  match op with
  | .eq => if truth == 1.0 then some true else if truth == 0.0 then some false else none
  | .ne => if truth == 0.0 then some true else if truth == 1.0 then some false else none
  | _ => none

/-- The fault of a comparison, which shows the comparison as far as it can be rendered. -/
def badComparison (lhs : Expr) (op : CompareOp) (rhs : Expr) : Error :=
  match (Expr.comparison lhs op rhs).render with
  | .ok text => .predicateComparison text
  | .error e => .predicateComparison e.message

/-- The condition for a geometry test compared with a number on the other side. -/
def testCondition (lhs : Expr) (op : CompareOp) (rhs : Expr) : Except Error String :=
  let condition (test : Expr) (truth : Float) : Except Error String := do
    let text ← test.render
    match op.polarity? truth with
    | some true => return text
    | some false => return "NOT (" ++ text ++ ")"
    | none => throw (badComparison lhs op rhs)
  match lhs.asNumber?, rhs.asNumber? with
  | some truth, none =>
      if rhs.isPredicateText then condition rhs truth else .error (badComparison lhs op rhs)
  | none, some truth =>
      if lhs.isPredicateText then condition lhs truth else .error (badComparison lhs op rhs)
  | _, _ => .error (badComparison lhs op rhs)

def dropComparison (lhs : Expr) (op : CompareOp) (rhs : Expr) : Rule (Rewrite Expr) := do
  if ← Rule.takeDiscard then
    return .text (← testCondition lhs op rhs)
  else return .keep (.comparison lhs op rhs)

end SkySql
