import SkySql.Pass.Comparison

set_option autoImplicit false

/-!
Steps on one shared state: single rules applied to single nodes, without a walk, and direct changes
of the state. A step that fails leaves its cause as its outcome, and the next step goes on with the
state as it is.
-/

namespace SkySql

/-- A node that a rule can be applied to. -/
inductive Node where
  | geometry (shape : Shape) (frame : Option String) (args : List Expr)
  | predicate (test : GeometryTest) (lhs rhs : Expr)
  | accessor (accessor : PointAccessor) (arg : Expr)
  | function (name : String) (args : List Expr)
  | geometryFunction (function : GeometryFunction) (args : List Expr)
  | comparison (lhs : Expr) (op : CompareOp) (rhs : Expr)
  | query (query : Query)
  | derived (statement : Statement) (name : String)

inductive NodeRewrite where
  | expr (rewrite : Rewrite Expr)
  | statement (rewrite : Rewrite Statement)
  | table (rewrite : Rewrite TableRef)

def Pass.rule (pass : Pass) : Node → Rule NodeRewrite
  | .geometry shape frame args => .expr <$> pass.geometry shape frame args
  | .predicate test lhs rhs => .expr <$> pass.predicate test lhs rhs
  | .accessor accessor arg => .expr <$> pass.accessor accessor arg
  | .function name args => .expr <$> pass.function name args
  | .geometryFunction function args => .expr <$> pass.geometryFunction function args
  | .comparison lhs op rhs => .expr <$> pass.comparison lhs op rhs
  | .query query => .statement <$> pass.query query
  | .derived statement name => .table <$> pass.derived statement name

inductive Step where
  | raiseDiscard
  | takeDiscard
  | warn (message : String)
  | dropComparison (lhs : Expr) (op : CompareOp) (rhs : Expr)
  | rule (pass : Pass) (node : Node)

inductive StepOutcome where
  | done
  | flag (discard : Bool)
  | rewrite (rewrite : NodeRewrite)

def Step.perform : Step → Rule StepOutcome
  | .raiseDiscard => (fun _ => .done) <$> Rule.raiseDiscard
  | .takeDiscard => .flag <$> Rule.takeDiscard
  | .warn message => (fun _ => .done) <$> Rule.warn message
  | .dropComparison lhs op rhs => (.rewrite ∘ .expr) <$> SkySql.dropComparison lhs op rhs
  | .rule pass node => .rewrite <$> pass.rule node

def performAll : List Step → PassState → List (Except Error StepOutcome × PassState)
  | [], _ => []
  | step :: rest, state =>
      let result := step.perform.apply state
      result :: performAll rest result.2

end SkySql
