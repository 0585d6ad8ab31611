import SkySql.Pass.Basic

set_option autoImplicit false

/-!
One walk over a statement. Children come before their parents, from left to right, so a rule sees its
node with rewritten children; text that a rule has put in is not entered again. The request to drop a
comparison travels on the text of the geometry test itself and never past the node.
-/

namespace SkySql

/-- The coordinate system that the text for a geometry function keeps: a centroid lies in the system
of its argument. -/
def GeometryFunction.system? : GeometryFunction → List Expr → Option String
  | .centroid, arg :: _ => arg.coordSystem?
  | _, _ => none

namespace Pass

mutual

def walkExpr (pass : Pass) : Expr → Rule Expr
  | .literal value => pure (.literal value)
  | .column column => pure (.column column)
  | .geometry shape frame args => do
      let args ← pass.walkExprs args
      let rewrite ← pass.geometry shape frame args
      return rewrite.settle fun text => .sql { text, coordSystem := frame }
  | .predicate test lhs rhs => do
      let lhs ← pass.walkExpr lhs
      let rhs ← pass.walkExpr rhs
      let rewrite ← pass.predicate test lhs rhs
      let predicate ← Rule.takeDiscard
      return rewrite.settle fun text => .sql { text, predicate }
  | .accessor kind arg => do
      let arg ← pass.walkExpr arg
      let rewrite ← pass.accessor kind arg
      return rewrite.settle .verbatim
  | .function name args => do
      let args ← pass.walkExprs args
      let rewrite ← pass.function name args
      return rewrite.settle .verbatim
  | .geometryFunction kind args => do
      let args ← pass.walkExprs args
      let rewrite ← pass.geometryFunction kind args
      return rewrite.settle fun text => .sql { text, coordSystem := kind.system? args }
  | .comparison lhs op rhs => do
      let lhs ← pass.walkExpr lhs
      let rhs ← pass.walkExpr rhs
      if lhs.isPredicateText || rhs.isPredicateText then Rule.raiseDiscard
      let rewrite ← pass.comparison lhs op rhs
      let _ ← Rule.takeDiscard
      return rewrite.settle .verbatim
  | .binary lhs op rhs => do
      let lhs ← pass.walkExpr lhs
      let rhs ← pass.walkExpr rhs
      return .binary lhs op rhs
  | .unary op operand => do return .unary op (← pass.walkExpr operand)
  | .subquery statement => do return .subquery (← pass.walkStatement statement)
  | .sql fragment => pure (.sql fragment)
  | .region region => pure (.region region)

def walkExprs (pass : Pass) : List Expr → Rule (List Expr)
  | [] => pure []
  | expr :: rest => do
      let expr ← pass.walkExpr expr
      let rest ← pass.walkExprs rest
      return expr :: rest

def walkOption (pass : Pass) : Option Expr → Rule (Option Expr)
  | none => pure none
  | some expr => do return some (← pass.walkExpr expr)

def walkStatement (pass : Pass) : Statement → Rule Statement
  | .select query => do
      let query ← pass.walkQuery query
      let rewrite ← pass.query query
      return rewrite.settle .sql
  | .setOperation op all lhs rhs => do
      let lhs ← pass.walkStatement lhs
      let rhs ← pass.walkStatement rhs
      return .setOperation op all lhs rhs
  | .sql text => pure (.sql text)

def walkQuery (pass : Pass) : Query → Rule Query
  | { quantifier, top, items, tables, condition, groupBy, having, orderBy, limit, offset } => do
      let items ← pass.walkItems items
      let tables ← pass.walkTables tables
      let condition ← pass.walkOption condition
      let groupBy ← pass.walkExprs groupBy
      let having ← pass.walkOption having
      let orderBy ← pass.walkOrder orderBy
      return { quantifier, top, items, tables, condition, groupBy, having, orderBy, limit, offset }

def walkItem (pass : Pass) : SelectItem → Rule SelectItem
  | .star table => pure (.star table)
  | .expr expr label => do return .expr (← pass.walkExpr expr) label

def walkItems (pass : Pass) : List SelectItem → Rule (List SelectItem)
  | [] => pure []
  | item :: rest => do
      let item ← pass.walkItem item
      let rest ← pass.walkItems rest
      return item :: rest

def walkOrder (pass : Pass) : List OrderItem → Rule (List OrderItem)
  | [] => pure []
  | { expr, descending } :: rest => do
      let expr ← pass.walkExpr expr
      let rest ← pass.walkOrder rest
      return { expr, descending } :: rest

def walkTable (pass : Pass) : TableRef → Rule TableRef
  | .table name label => pure (.table name label)
  | .derived statement name => do
      let statement ← pass.walkStatement statement
      let rewrite ← pass.derived statement name
      return rewrite.settle .sql
  | .join left kind right spec => do
      let left ← pass.walkTable left
      let right ← pass.walkTable right
      let spec ← pass.walkSpec spec
      return .join left kind right spec
  | .sql text => pure (.sql text)

def walkTables (pass : Pass) : List TableRef → Rule (List TableRef)
  | [] => pure []
  | table :: rest => do
      let table ← pass.walkTable table
      let rest ← pass.walkTables rest
      return table :: rest

def walkSpec (pass : Pass) : JoinSpec → Rule JoinSpec
  | .on condition => do return .on (← pass.walkExpr condition)
  | .using columns => pure (.using columns)
  | .natural => pure .natural
  | .none => pure .none

end

end Pass

end SkySql
