import SkySql.Json.Basic
import SkySql.Statement.Basic
import SkySql.Statement.Tag

set_option autoImplicit false

/-!
Statements and regions as JSON. A node is an object with one field, named for its kind; every part
of a record is written, also where it has its default.
-/

namespace SkySql

namespace Json

def tagged (tag : String) (payload : Json) : Json := .object [(tag, payload)]

def ofOption : Option String → Json
  | some text => .string text
  | none => .null

def ofNatural : Option Nat → Json
  | some value => .number (.natural value)
  | none => .null

def ofStrings (texts : List String) : Json := .array (texts.map .string)

/-- A finite double; JSON has no spelling for any other, and `null` stands in its place. -/
def ofFloat (value : Float) : Json :=
  if Decimal.isFinite value then .number (.double value) else .null

end Json

open Json (tagged ofOption ofNatural ofStrings ofFloat)

def Sphere.Point.toJson (p : Sphere.Point) : Json :=
  .object [("lon", ofFloat p.lon), ("lat", ofFloat p.lat)]

def Geometry.toJson : Geometry → Json
  | .point p => tagged "Point" p.toJson
  | .circle c => tagged "Circle" (.object [("center", c.center.toJson), ("radius", ofFloat c.radius)])
  | .polygon p => tagged "Polygon" (.object [("vertices", .array (p.vertices.map (·.toJson)))])

namespace Stcs

mutual

def Value.toJson : Value → Json
  | .concrete geometry => tagged "Concrete" geometry.toJson
  | .unresolved region => tagged "UnresolvedRegion" region.toJson

def Region.toJson : Region → Json
  | { op, frame, operands } =>
      .object [("op", .string op.tag), ("frame", ofOption frame),
        ("operands", .array (valuesToJson operands))]

def valuesToJson : List Value → List Json
  | [] => []
  | value :: rest => value.toJson :: valuesToJson rest

end

end Stcs

def Literal.toJson : Literal → Json
  | .number spelling => tagged "Number" (.string spelling)
  | .string value => tagged "String" (.string value)
  | .null => .string "Null"

def FieldInfo.toJson (field : FieldInfo) : Json :=
  .object [("name", .string field.name), ("coord_system", ofOption field.coordSystem),
    ("unit", ofOption field.unit), ("xtype", ofOption field.xtype)]

def Column.toJson (column : Column) : Json :=
  .object [("qualifier", ofOption column.qualifier), ("name", .string column.name),
    ("field", match column.field with | some field => field.toJson | none => .null)]

def Fragment.toJson (fragment : Fragment) : Json :=
  .object [("text", .string fragment.text), ("coord_system", ofOption fragment.coordSystem),
    ("predicate", .bool fragment.predicate)]

mutual

def Expr.toJson : Expr → Json
  | .literal value => tagged "Literal" value.toJson
  | .column referred => tagged "Column" referred.toJson
  | .geometry shape frame args => tagged "Geometry" (.object [("shape", .string shape.tag),
      ("frame", ofOption frame), ("args", .array (exprsToJson args))])
  | .predicate test lhs rhs => tagged "Predicate" (.object [("kind", .string test.tag),
      ("lhs", lhs.toJson), ("rhs", rhs.toJson)])
  | .accessor kind arg => tagged "Accessor" (.object [("kind", .string kind.tag),
      ("arg", arg.toJson)])
  | .function name args => tagged "Function" (.object [("name", .string name),
      ("args", .array (exprsToJson args))])
  | .geometryFunction kind args => tagged "GeometryFunction" (.object [("kind", .string kind.tag),
      ("args", .array (exprsToJson args))])
  | .comparison lhs op rhs => tagged "Comparison" (.object [("lhs", lhs.toJson),
      ("op", .string op.tag), ("rhs", rhs.toJson)])
  | .binary lhs op rhs => tagged "Binary" (.array [lhs.toJson, .string op.tag, rhs.toJson])
  | .unary op operand => tagged "Unary" (.array [.string op.tag, operand.toJson])
  | .subquery statement => tagged "Subquery" statement.toJson
  | .sql fragment => tagged "Sql" fragment.toJson
  | .region unresolved => tagged "Region" unresolved.toJson

def exprsToJson : List Expr → List Json
  | [] => []
  | expr :: rest => expr.toJson :: exprsToJson rest

def optionToJson : Option Expr → Json
  | none => .null
  | some expr => expr.toJson

def Statement.toJson : Statement → Json
  | .select query => tagged "Select" query.toJson
  | .setOperation op all lhs rhs => tagged "SetOperation" (.object [("op", .string op.tag),
      ("all", .bool all), ("lhs", lhs.toJson), ("rhs", rhs.toJson)])
  | .sql text => tagged "Sql" (.string text)

def Query.toJson : Query → Json
  | { quantifier, top, items, tables, condition, groupBy, having, orderBy, limit, offset } =>
      .object [("quantifier", ofOption quantifier), ("top", ofNatural top),
        ("select_list", .array (itemsToJson items)), ("from", .array (tablesToJson tables)),
        ("where_clause", optionToJson condition), ("group_by", .array (exprsToJson groupBy)),
        ("having", optionToJson having), ("order_by", .array (orderToJson orderBy)),
        ("limit", ofNatural limit), ("offset", ofNatural offset)]

def SelectItem.toJson : SelectItem → Json
  | .star table => tagged "Star" (ofOption table)
  | .expr value label => tagged "Expr" (.object [("expr", value.toJson), ("alias", ofOption label)])

def itemsToJson : List SelectItem → List Json
  | [] => []
  | item :: rest => item.toJson :: itemsToJson rest

def orderToJson : List OrderItem → List Json
  | [] => []
  | { expr, descending } :: rest =>
      .object [("expr", expr.toJson), ("descending", .bool descending)] :: orderToJson rest

def TableRef.toJson : TableRef → Json
  | .table name label => tagged "Table" (.object [("name", .string name), ("alias", ofOption label)])
  | .derived statement name => tagged "Derived" (.object [("statement", statement.toJson),
      ("name", .string name)])
  | .join left kind right spec => tagged "Join" (.object [("left", left.toJson),
      ("kind", .string kind.tag), ("right", right.toJson), ("spec", spec.toJson)])
  | .sql text => tagged "Sql" (.string text)

def tablesToJson : List TableRef → List Json
  | [] => []
  | table :: rest => table.toJson :: tablesToJson rest

def JoinSpec.toJson : JoinSpec → Json
  | .on condition => tagged "On" condition.toJson
  | .using columns => tagged "Using" (ofStrings columns)
  | .natural => .string "Natural"
  | .none => .string "None"

end

end SkySql
