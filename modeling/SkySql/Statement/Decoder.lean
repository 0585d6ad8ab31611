import SkySql.Json.Decoder
import SkySql.Statement.Basic
import SkySql.Statement.Tag

set_option autoImplicit false

/-!
Statements and regions from JSON. The number of levels that the readers take bounds the depth of the
document, so it is the depth itself that is given to them. As for records and choices in general, only
the spellings that statements are written in are read: no array stands for a record, and `null`,
`Natural` and `None` are bare names, never objects.
-/

namespace SkySql

open Json (fields? string? bool? natural? float? list? option? required? optional? defaulted?
  choice? tagged?)

def Sphere.Point.ofJson? (json : Json) : Option Sphere.Point := do
  let fields ← fields? json
  return ⟨← required? fields "lon" float?, ← required? fields "lat" float?⟩

def Geometry.ofJson? (json : Json) : Option Geometry := do
  let (tag, payload) ← tagged? json
  match tag with
  | "Point" => return .point (← Sphere.Point.ofJson? payload)
  | "Circle" =>
      let fields ← fields? payload
      return .circle ⟨← required? fields "center" Sphere.Point.ofJson?,
        ← required? fields "radius" float?⟩
  | "Polygon" =>
      let fields ← fields? payload
      return .polygon ⟨← required? fields "vertices" (list? Sphere.Point.ofJson?)⟩
  | _ => none

namespace Stcs

mutual

def valueAt? : Nat → Json → Option Value
  | 0, _ => none
  | levels + 1, json => do
      let (tag, payload) ← tagged? json
      match tag with
      | "Concrete" => return .concrete (← Geometry.ofJson? payload)
      | "UnresolvedRegion" => return .unresolved (← regionAt? levels payload)
      | _ => none

def regionAt? : Nat → Json → Option Region
  | 0, _ => none
  | levels + 1, json => do
      let fields ← fields? json
      let op ← required? fields "op" (choice? RegionOp.all (·.tag))
      let frame ← optional? fields "frame" string?
      let operands ← required? fields "operands" (list? (valueAt? levels))
      return ⟨op, frame, operands⟩

end

end Stcs

def Literal.ofJson? : Json → Option Literal
  | .string "Null" => some .null
  | json => do
      match ← tagged? json with
      | ("Number", payload) => return .number (← string? payload)
      | ("String", payload) => return .string (← string? payload)
      | _ => none

def FieldInfo.ofJson? (json : Json) : Option FieldInfo := do
  let fields ← fields? json
  let name ← defaulted? fields "name" "" string?
  let coordSystem ← optional? fields "coord_system" string?
  let unit ← optional? fields "unit" string?
  let xtype ← optional? fields "xtype" string?
  return { name, coordSystem, unit, xtype }

def Column.ofJson? (json : Json) : Option Column := do
  let fields ← fields? json
  let qualifier ← optional? fields "qualifier" string?
  let name ← required? fields "name" string?
  let field ← optional? fields "field" FieldInfo.ofJson?
  return { qualifier, name, field }

def Fragment.ofJson? (json : Json) : Option Fragment := do
  let fields ← fields? json
  let text ← required? fields "text" string?
  let coordSystem ← optional? fields "coord_system" string?
  let predicate ← defaulted? fields "predicate" false bool?
  return { text, coordSystem, predicate }

mutual

def exprAt? : Nat → Json → Option Expr
  | 0, _ => none
  | levels + 1, json => do
      let (tag, payload) ← tagged? json
      match tag with
      | "Literal" => return .literal (← Literal.ofJson? payload)
      | "Column" => return .column (← Column.ofJson? payload)
      | "Geometry" =>
          let fields ← fields? payload
          return .geometry (← required? fields "shape" (choice? Shape.all (·.tag)))
            (← optional? fields "frame" string?) (← required? fields "args" (list? (exprAt? levels)))
      | "Predicate" =>
          let fields ← fields? payload
          return .predicate (← required? fields "kind" (choice? GeometryTest.all (·.tag)))
            (← required? fields "lhs" (exprAt? levels)) (← required? fields "rhs" (exprAt? levels))
      | "Accessor" =>
          let fields ← fields? payload
          return .accessor (← required? fields "kind" (choice? PointAccessor.all (·.tag)))
            (← required? fields "arg" (exprAt? levels))
      | "Function" =>
          let fields ← fields? payload
          return .function (← required? fields "name" string?)
            (← required? fields "args" (list? (exprAt? levels)))
      | "GeometryFunction" =>
          let fields ← fields? payload
          return .geometryFunction (← required? fields "kind" (choice? GeometryFunction.all (·.tag)))
            (← required? fields "args" (list? (exprAt? levels)))
      | "Comparison" =>
          let fields ← fields? payload
          return .comparison (← required? fields "lhs" (exprAt? levels))
            (← required? fields "op" (choice? CompareOp.all (·.tag)))
            (← required? fields "rhs" (exprAt? levels))
      | "Binary" =>
          match payload with
          | .array [lhs, op, rhs] =>
              return .binary (← exprAt? levels lhs) (← choice? BinaryOp.all (·.tag) op)
                (← exprAt? levels rhs)
          | _ => none
      | "Unary" =>
          match payload with
          | .array [op, operand] =>
              return .unary (← choice? UnaryOp.all (·.tag) op) (← exprAt? levels operand)
          | _ => none
      | "Subquery" => return .subquery (← statementAt? levels payload)
      | "Sql" => return .sql (← Fragment.ofJson? payload)
      | "Region" => return .region (← Stcs.regionAt? levels payload)
      | _ => none

def statementAt? : Nat → Json → Option Statement
  | 0, _ => none
  | levels + 1, json => do
      let (tag, payload) ← tagged? json
      match tag with
      | "Select" => return .select (← queryAt? levels payload)
      | "SetOperation" =>
          let fields ← fields? payload
          return .setOperation (← required? fields "op" (choice? SetOp.all (·.tag)))
            (← required? fields "all" bool?) (← required? fields "lhs" (statementAt? levels))
            (← required? fields "rhs" (statementAt? levels))
      | "Sql" => return .sql (← string? payload)
      | _ => none

def queryAt? : Nat → Json → Option Query
  | 0, _ => none
  | levels + 1, json => do
      let fields ← fields? json
      let quantifier ← optional? fields "quantifier" string?
      let top ← optional? fields "top" natural?
      let items ← defaulted? fields "select_list" [] (list? (itemAt? levels))
      let tables ← defaulted? fields "from" [] (list? (tableAt? levels))
      let condition ← optional? fields "where_clause" (exprAt? levels)
      let groupBy ← defaulted? fields "group_by" [] (list? (exprAt? levels))
      let having ← optional? fields "having" (exprAt? levels)
      let orderBy ← defaulted? fields "order_by" [] (list? (orderAt? levels))
      let limit ← optional? fields "limit" natural?
      let offset ← optional? fields "offset" natural?
      return { quantifier, top, items, tables, condition, groupBy, having, orderBy, limit, offset }

def itemAt? : Nat → Json → Option SelectItem
  | 0, _ => none
  | levels + 1, json => do
      let (tag, payload) ← tagged? json
      match tag with
      | "Star" => return .star (← option? string? payload)
      | "Expr" =>
          let fields ← fields? payload
          return .expr (← required? fields "expr" (exprAt? levels))
            (← optional? fields "alias" string?)
      | _ => none

def orderAt? : Nat → Json → Option OrderItem
  | 0, _ => none
  | levels + 1, json => do
      let fields ← fields? json
      return ⟨← required? fields "expr" (exprAt? levels),
        ← defaulted? fields "descending" false bool?⟩

def tableAt? : Nat → Json → Option TableRef
  | 0, _ => none
  | levels + 1, json => do
      let (tag, payload) ← tagged? json
      match tag with
      | "Table" =>
          let fields ← fields? payload
          return .table (← required? fields "name" string?) (← optional? fields "alias" string?)
      | "Derived" =>
          let fields ← fields? payload
          return .derived (← required? fields "statement" (statementAt? levels))
            (← required? fields "name" string?)
      | "Join" =>
          let fields ← fields? payload
          return .join (← required? fields "left" (tableAt? levels))
            (← required? fields "kind" (choice? JoinKind.all (·.tag)))
            (← required? fields "right" (tableAt? levels))
            (← required? fields "spec" (joinSpecAt? levels))
      | "Sql" => return .sql (← string? payload)
      | _ => none

def joinSpecAt? : Nat → Json → Option JoinSpec
  | 0, _ => none
  | levels + 1, json =>
      match json with
      | .string "Natural" => some .natural
      | .string "None" => some .none
      | _ => do
          match ← tagged? json with
          | ("On", payload) => return .on (← exprAt? levels payload)
          | ("Using", payload) => return .using (← list? string? payload)
          | _ => none

end

def Expr.ofJson? (json : Json) : Option Expr := exprAt? json.depth json

def Statement.ofJson? (json : Json) : Option Statement := statementAt? json.depth json

def Query.ofJson? (json : Json) : Option Query := queryAt? json.depth json

def TableRef.ofJson? (json : Json) : Option TableRef := tableAt? json.depth json

end SkySql
