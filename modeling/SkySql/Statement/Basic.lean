import SkySql.Decimal.Spelling
import SkySql.Statement.Operator
import SkySql.Stcs.Basic

set_option autoImplicit false

/-!
Annotated query statements. Each kind of geometry node has a constructor of its own, so that a pass
can have one rule for it. The constructors named `sql` hold text that a rule has put in the place of
a node; such text is final.
-/

namespace SkySql

inductive Literal where
  /-- A number in the spelling of the source. -/
  | number (spelling : String)
  | string (value : String)
  | null
  deriving Repr, DecidableEq

structure FieldInfo where
  name : String := ""
  /-- The coordinate system, perhaps with a reference position after the frame. -/
  coordSystem : Option String := none
  unit : Option String := none
  /-- The extended type, such as `point`. -/
  xtype : Option String := none
  deriving Repr, DecidableEq

structure Column where
  qualifier : Option String := none
  name : String
  field : Option FieldInfo := none
  deriving Repr, DecidableEq

/-- SQL text in the place of a node, with the coordinate system of that node. `predicate` marks a
complete condition that stands for a geometry test. -/
structure Fragment where
  text : String
  coordSystem : Option String := none
  predicate : Bool := false
  deriving Repr, DecidableEq

mutual

inductive Expr where
  | literal (value : Literal)
  | column (column : Column)
  /-- A geometry with its coordinates: center and radius of a circle, center and full extents of a
  box, vertices of a polygon. -/
  | geometry (shape : Shape) (frame : Option String) (args : List Expr)
  | predicate (test : GeometryTest) (lhs rhs : Expr)
  | accessor (accessor : PointAccessor) (arg : Expr)
  | function (name : String) (args : List Expr)
  | geometryFunction (function : GeometryFunction) (args : List Expr)
  | comparison (lhs : Expr) (op : CompareOp) (rhs : Expr)
  | binary (lhs : Expr) (op : BinaryOp) (rhs : Expr)
  | unary (op : UnaryOp) (operand : Expr)
  | subquery (statement : Statement)
  | sql (fragment : Fragment)
  | region (region : Stcs.Region)

inductive Statement where
  | select (query : Query)
  | setOperation (op : SetOp) (all : Bool) (lhs rhs : Statement)
  | sql (text : String)

structure Query where
  /-- `DISTINCT` or `ALL` as written. -/
  quantifier : Option String := none
  top : Option Nat := none
  items : List SelectItem := []
  tables : List TableRef := []
  condition : Option Expr := none
  groupBy : List Expr := []
  having : Option Expr := none
  orderBy : List OrderItem := []
  limit : Option Nat := none
  offset : Option Nat := none

inductive SelectItem where
  | star (table : Option String)
  | expr (expr : Expr) (label : Option String)

structure OrderItem where
  expr : Expr
  descending : Bool := false

inductive TableRef where
  | table (name : String) (label : Option String)
  | derived (statement : Statement) (name : String)
  | join (left : TableRef) (kind : JoinKind) (right : TableRef) (spec : JoinSpec)
  | sql (text : String)

inductive JoinSpec where
  | on (condition : Expr)
  | using (columns : List String)
  | natural
  | none

end

namespace Expr

def number (spelling : String) : Expr := .literal (.number spelling)

def string (value : String) : Expr := .literal (.string value)

def named (name : String) : Expr := .column { name }

def verbatim (text : String) : Expr := .sql { text }

/-- A region literal as an operand: a geometry is final text, an unresolved region stays a node. -/
def ofRegionValue : Stcs.Value → Expr
  | .concrete shape => .verbatim shape.literal
  | .unresolved algebra => .region algebra

/-- The value of a number, possibly negated. -/
def asNumber? : Expr → Option Float
  | .literal (.number spelling) => Decimal.ofText? spelling
  | .unary .neg operand => operand.asNumber?.map (- ·)
  | _ => none

def coordSystem? : Expr → Option String
  | .geometry _ frame _ => frame
  | .column referred => referred.field.bind (·.coordSystem)
  | .sql fragment => fragment.coordSystem
  | _ => none

def isPredicateText : Expr → Bool
  | .sql fragment => fragment.predicate
  | _ => false

end Expr

/-- The smaller of `TOP` and `LIMIT`, or the one that is given. -/
def Query.rowLimit (query : Query) : Option Nat :=
  match query.top, query.limit with
  | some top, some limit => some (min top limit)
  | top, limit => top.or limit

end SkySql
