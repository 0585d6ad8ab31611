import SkySql.Error
import SkySql.Statement.Basic
import SkySql.Text.Listing
import SkySql.Text.Quoted
import SkySql.Text.Uppercase

set_option autoImplicit false

/-!
Statements as text. Nodes that no rule has touched keep their query spelling, and text put in by a
rule stands as it is. The one node without text is an unresolved region. Parts are rendered from left
to right, a query's clauses in the order select list, FROM, WHERE, GROUP BY, HAVING, ORDER BY.
-/

namespace SkySql

def Literal.text : Literal → String
  | .number spelling => spelling
  | .string value => Text.quote value
  | .null => "NULL"

def Column.text (column : Column) : String :=
  match column.qualifier with
  | some qualifier => qualifier ++ "." ++ column.name
  | none => column.name

/-- Operator expressions, which stand in parentheses when they are operands. -/
def Expr.isOperation : Expr → Bool
  | .binary .. | .comparison .. => true
  | _ => false

/-- The text of an operand: that of the expression, in parentheses if it is an operation. -/
def operandText (expr : Expr) (text : String) : String :=
  if expr.isOperation then "(" ++ text ++ ")" else text

/-- A minus sign in front of a text. Two in a row would begin a comment, so a text that starts with
one is put in parentheses. -/
def negated (text : String) : String :=
  match text.toList with
  | '-' :: _ => "-(" ++ text ++ ")"
  | _ => "-" ++ text

def labelled (text : String) : Option String → String
  | some label => text ++ " AS " ++ label
  | none => text

def derivedText (statement name : String) : String := "(" ++ statement ++ ") AS " ++ name

def callText (name : String) (args : List String) : String :=
  name ++ "(" ++ Text.commaList args ++ ")"

structure Clauses where
  items : List String
  tables : List String
  condition : Option String
  groupBy : List String
  having : Option String
  orderBy : List String

def listClause (keyword : String) (texts : List String) : String :=
  if texts.isEmpty then "" else " " ++ keyword ++ " " ++ Text.commaList texts

def optionClause (keyword : String) : Option String → String
  | some text => " " ++ keyword ++ " " ++ text
  | none => ""

def Clauses.body (clauses : Clauses) : String :=
  listClause "FROM" clauses.tables ++ optionClause "WHERE" clauses.condition ++
    listClause "GROUP BY" clauses.groupBy ++ optionClause "HAVING" clauses.having ++
      listClause "ORDER BY" clauses.orderBy

/-- The query spelling, with the row limit at the front. -/
def queryText (quantifier : Option String) (limit offset : Option Nat) (clauses : Clauses) :
    String :=
  "SELECT" ++ (match quantifier with | some word => " " ++ Text.upper word | none => "") ++
    optionClause "TOP" (limit.map toString) ++ " " ++ Text.commaList clauses.items ++
      clauses.body ++ optionClause "OFFSET" (offset.map toString)

mutual

def Expr.render : Expr → Except Error String
  | .literal value => .ok value.text
  | .column referred => .ok referred.text
  | .geometry shape frame args => do
      return callText shape.name ((frame.map Text.quote).toList ++ (← renderExprs args))
  | .predicate test lhs rhs => do
      return callText test.name [← lhs.render, ← rhs.render]
  | .accessor kind arg => do return callText kind.name [← arg.render]
  | .function name args => do return callText name (← renderExprs args)
  | .geometryFunction kind args => do return callText kind.name (← renderExprs args)
  | .comparison lhs op rhs => do
      return operandText lhs (← lhs.render) ++ " " ++ op.symbol ++ " " ++
        operandText rhs (← rhs.render)
  | .binary lhs op rhs => do
      return operandText lhs (← lhs.render) ++ " " ++ op.symbol ++ " " ++
        operandText rhs (← rhs.render)
  | .unary .neg operand => do return negated (operandText operand (← operand.render))
  | .unary .not operand => do return "NOT " ++ operandText operand (← operand.render)
  | .subquery statement => do return "(" ++ (← statement.render) ++ ")"
  | .sql fragment => .ok fragment.text
  | .region unresolved => .error (.unresolvedRegion unresolved.text)

def renderExprs : List Expr → Except Error (List String)
  | [] => .ok []
  | expr :: rest => do return (← expr.render) :: (← renderExprs rest)

def renderOption : Option Expr → Except Error (Option String)
  | none => .ok none
  | some expr => do return some (← expr.render)

def Statement.render : Statement → Except Error String
  | .select query => do
      return queryText query.quantifier query.rowLimit query.offset (← query.clauses)
  | .setOperation op all lhs rhs => do
      return "(" ++ (← lhs.render) ++ ") " ++ op.name ++ (if all then " ALL" else "") ++
        " (" ++ (← rhs.render) ++ ")"
  | .sql text => .ok text

def Query.clauses : Query → Except Error Clauses
  | { items, tables, condition, groupBy, having, orderBy, .. } => do
      return ⟨← renderItems items, ← renderTables tables, ← renderOption condition,
        ← renderExprs groupBy, ← renderOption having, ← renderOrder orderBy⟩

def SelectItem.render : SelectItem → Except Error String
  | .star (some table) => .ok (table ++ ".*")
  | .star none => .ok "*"
  | .expr expr label => do return labelled (← expr.render) label

def renderItems : List SelectItem → Except Error (List String)
  | [] => .ok []
  | item :: rest => do return (← item.render) :: (← renderItems rest)

def renderOrder : List OrderItem → Except Error (List String)
  | [] => .ok []
  | { expr, descending } :: rest => do
      return ((← expr.render) ++ if descending then " DESC" else " ASC") :: (← renderOrder rest)

def TableRef.render : TableRef → Except Error String
  | .table name label => .ok (labelled name label)
  | .derived statement name => do return derivedText (← statement.render) name
  | .join left kind right spec => do
      return (← left.render) ++ " " ++ (match spec with | .natural => "NATURAL " | _ => "") ++
        kind.name ++ " " ++ (← right.render) ++ (← spec.render)
  | .sql text => .ok text

def JoinSpec.render : JoinSpec → Except Error String
  | .on condition => do return " ON " ++ (← condition.render)
  | .using columns => .ok (" USING (" ++ Text.commaList columns ++ ")")
  | .natural => .ok ""
  | .none => .ok ""

def renderTables : List TableRef → Except Error (List String)
  | [] => .ok []
  | table :: rest => do return (← table.render) :: (← renderTables rest)

end

def renderList (exprs : List Expr) : Except Error String := do
  return Text.commaList (← renderExprs exprs)

def Query.render (query : Query) : Except Error String := do
  return queryText query.quantifier query.rowLimit query.offset (← query.clauses)

def renderDerived (statement : Statement) (name : String) : Except Error String := do
  return derivedText (← statement.render) name

end SkySql
