import SkySql.Statement.Basic

set_option autoImplicit false

/-!
What can be said of a statement before it is rewritten: which of its expressions are geometry tests,
which coordinate system each is in, and what occurs in it. A reading says what to note down of each
part; it is carried out in the order of a walk, the parts of a node before the node. One reading notes
all expressions, others only some of them, or their texts.
-/

namespace SkySql

namespace Expr

/-- A geometry test, still to be rewritten or already text. -/
def isTest : Expr → Bool
  | .predicate .. => true
  | .sql fragment => fragment.predicate
  | _ => false

/-- A number as it is written: a spelling behind any number of minus signs. -/
def isNumeral : Expr → Bool
  | .literal (.number _) => true
  | .unary .neg operand => operand.isNumeral
  | _ => false

/-- A number of value 0 or 1. -/
def isTruthValue (expr : Expr) : Bool := expr.asNumber?.any fun x => x == 0.0 || x == 1.0

def isRegion : Expr → Bool
  | .region _ => true
  | _ => false

end Expr

mutual

/-- The coordinate system that an expression is in; a centroid is in that of its argument. -/
def Expr.system? : Expr → Option String
  | .geometryFunction .centroid args => firstSystem? args
  | expr => expr.coordSystem?

def firstSystem? : List Expr → Option String
  | [] => none
  | arg :: _ => arg.system?

end

/-- What to note down of an expression, a query or a derived table, given what was noted of its parts,
and of a statement or a table that is only text. -/
structure Reading (τ : Type) where
  expr : Expr → List τ → List τ
  query : Query → List τ → List τ := fun _ inside => inside
  derived : Statement → String → List τ → List τ := fun _ _ inside => inside
  text : String → List τ := fun _ => []

variable {τ : Type}

-- One function for each kind of part, in the order in which a walk comes to them.
mutual

def Expr.read (reading : Reading τ) : Expr → List τ
  | .geometry shape frame args => reading.expr (.geometry shape frame args) (readExprs reading args)
  | .predicate test lhs rhs =>
      reading.expr (.predicate test lhs rhs) (lhs.read reading ++ rhs.read reading)
  | .accessor kind arg => reading.expr (.accessor kind arg) (arg.read reading)
  | .function name args => reading.expr (.function name args) (readExprs reading args)
  | .geometryFunction kind args =>
      reading.expr (.geometryFunction kind args) (readExprs reading args)
  | .comparison lhs op rhs =>
      reading.expr (.comparison lhs op rhs) (lhs.read reading ++ rhs.read reading)
  | .binary lhs op rhs => reading.expr (.binary lhs op rhs) (lhs.read reading ++ rhs.read reading)
  | .unary op operand => reading.expr (.unary op operand) (operand.read reading)
  | .subquery statement => reading.expr (.subquery statement) (statement.read reading)
  | expr => reading.expr expr []

def readExprs (reading : Reading τ) : List Expr → List τ
  | [] => []
  | expr :: rest => expr.read reading ++ readExprs reading rest

def readOption (reading : Reading τ) : Option Expr → List τ
  | none => []
  | some expr => expr.read reading

def Statement.read (reading : Reading τ) : Statement → List τ
  | .select query => reading.query query (query.read reading)
  | .setOperation _ _ lhs rhs => lhs.read reading ++ rhs.read reading
  | .sql text => reading.text text

/-- The clauses of a query: select list, FROM, WHERE, GROUP BY, HAVING, ORDER BY. -/
def Query.read (reading : Reading τ) : Query → List τ
  | { items, tables, condition, groupBy, having, orderBy, .. } =>
      readItems reading items ++ (readTables reading tables ++ (readOption reading condition ++
        (readExprs reading groupBy ++ (readOption reading having ++ readOrder reading orderBy))))

def SelectItem.read (reading : Reading τ) : SelectItem → List τ
  | .star _ => []
  | .expr expr _ => expr.read reading

def readItems (reading : Reading τ) : List SelectItem → List τ
  | [] => []
  | item :: rest => item.read reading ++ readItems reading rest

def readOrder (reading : Reading τ) : List OrderItem → List τ
  | [] => []
  | { expr, .. } :: rest => expr.read reading ++ readOrder reading rest

def TableRef.read (reading : Reading τ) : TableRef → List τ
  | .table _ _ => []
  | .derived statement name => reading.derived statement name (statement.read reading)
  | .join left _ right spec => left.read reading ++ (right.read reading ++ spec.read reading)
  | .sql text => reading.text text

def readTables (reading : Reading τ) : List TableRef → List τ
  | [] => []
  | table :: rest => table.read reading ++ readTables reading rest

def JoinSpec.read (reading : Reading τ) : JoinSpec → List τ
  | .on condition => condition.read reading
  | _ => []

end

/-- All expressions, each after its operands, so the whole comes last. -/
def everywhere : Reading Expr where
  expr expr inside := inside ++ [expr]

@[simp] theorem everywhere_expr (expr : Expr) (inside : List Expr) :
    everywhere.expr expr inside = inside ++ [expr] := rfl

/-- The expressions in an expression, those of its sub-queries included. -/
abbrev Expr.nodes (expr : Expr) : List Expr := expr.read everywhere

abbrev exprNodes (exprs : List Expr) : List Expr := readExprs everywhere exprs

abbrev Statement.nodes (statement : Statement) : List Expr := statement.read everywhere

abbrev Query.nodes (query : Query) : List Expr := query.read everywhere

abbrev TableRef.nodes (table : TableRef) : List Expr := table.read everywhere

/-- All expressions but the operands of those that are shut. -/
def outsideOf (shut : Expr → Bool) : Reading Expr where
  expr expr inside := (if shut expr then [] else inside) ++ [expr]

theorem outsideOf_expr (shut : Expr → Bool) (expr : Expr) (inside : List Expr) :
    (outsideOf shut).expr expr inside = (if shut expr then [] else inside) ++ [expr] := rfl

end SkySql
