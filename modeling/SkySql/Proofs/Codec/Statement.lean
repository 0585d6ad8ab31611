import SkySql.Proofs.Codec.Region
import SkySql.Proofs.Walk

set_option autoImplicit false

/-!
The JSON form of a statement is lossless. What is written is read back as it was, if the coordinates
in its regions are finite. A document may leave out what has a default and may say more than is
asked for; what is read of it is a statement that is written and read back in the same way.
-/

namespace SkySql

open Json (string? list? option? required? optional? defaulted? choice? field? tagged tagged?
  ofStrings)

@[simp]
theorem Shape.choice?_tag (shape : Shape) :
    choice? Shape.all (·.tag) (.string shape.tag) = some shape := by
  cases shape <;> rfl

@[simp]
theorem GeometryTest.choice?_tag (test : GeometryTest) :
    choice? GeometryTest.all (·.tag) (.string test.tag) = some test := by
  cases test <;> rfl

@[simp]
theorem PointAccessor.choice?_tag (kind : PointAccessor) :
    choice? PointAccessor.all (·.tag) (.string kind.tag) = some kind := by
  cases kind <;> rfl

@[simp]
theorem GeometryFunction.choice?_tag (kind : GeometryFunction) :
    choice? GeometryFunction.all (·.tag) (.string kind.tag) = some kind := by
  cases kind <;> rfl

@[simp]
theorem CompareOp.choice?_tag (op : CompareOp) :
    choice? CompareOp.all (·.tag) (.string op.tag) = some op := by
  cases op <;> rfl

@[simp]
theorem BinaryOp.choice?_tag (op : BinaryOp) :
    choice? BinaryOp.all (·.tag) (.string op.tag) = some op := by
  cases op <;> rfl

@[simp]
theorem UnaryOp.choice?_tag (op : UnaryOp) :
    choice? UnaryOp.all (·.tag) (.string op.tag) = some op := by
  cases op <;> rfl

@[simp]
theorem SetOp.choice?_tag (op : SetOp) :
    choice? SetOp.all (·.tag) (.string op.tag) = some op := by
  cases op <;> rfl

@[simp]
theorem JoinKind.choice?_tag (kind : JoinKind) :
    choice? JoinKind.all (·.tag) (.string kind.tag) = some kind := by
  cases kind <;> rfl

@[simp]
theorem Literal.ofJson?_toJson (literal : Literal) : ofJson? literal.toJson = some literal := by
  cases literal <;> rfl

theorem FieldInfo.ofJson?_toJson (field : FieldInfo) : ofJson? field.toJson = some field := by
  simp [ofJson?, toJson, defaulted?, optional?, field?]

@[simp]
theorem Column.ofJson?_toJson (column : Column) : ofJson? column.toJson = some column := by
  rcases column with ⟨qualifier, name, field⟩
  cases field with
  | none => simp [ofJson?, toJson, required?, optional?, field?]
  | some field =>
      have nested : 0 < field.toJson.depth := by simp [FieldInfo.toJson]
      simp [ofJson?, toJson, required?, optional?, field?, Json.option?_of_depth nested,
        FieldInfo.ofJson?_toJson]

@[simp]
theorem Fragment.ofJson?_toJson (fragment : Fragment) :
    ofJson? fragment.toJson = some fragment := by
  simp [ofJson?, toJson, required?, optional?, defaulted?, field?]

/-- The coordinates of the regions among expressions are finite. -/
def FiniteRegions (nodes : List Expr) : Prop :=
  ∀ region, .region region ∈ nodes → AreFinite (Stcs.Value.unresolved region).angles

@[simp]
theorem finiteRegions_append {first second : List Expr} :
    FiniteRegions (first ++ second) ↔ FiniteRegions first ∧ FiniteRegions second := by
  simp only [FiniteRegions, List.mem_append, or_imp, forall_and]

section Nested

/-! Every part of a statement but a join condition is written as an array or object. -/

theorem Expr.depth_pos (expr : Expr) : 0 < expr.toJson.depth := by
  cases expr <;> simp [Expr.toJson]

theorem Statement.depth_pos (statement : Statement) : 0 < statement.toJson.depth := by
  cases statement <;> simp [Statement.toJson]

theorem Query.depth_pos (query : Query) : 0 < query.toJson.depth := by
  cases query
  simp [Query.toJson]

theorem SelectItem.depth_pos (item : SelectItem) : 0 < item.toJson.depth := by
  cases item <;> simp [SelectItem.toJson]

theorem TableRef.depth_pos (table : TableRef) : 0 < table.toJson.depth := by
  cases table <;> simp [TableRef.toJson]

end Nested

section Statements

-- The payload of the tag at hand is found before its fields are looked up.
mutual

theorem exprAt?_toJson (expr : Expr) {levels : Nat} (finite : FiniteRegions expr.nodes)
    (deep : expr.toJson.depth ≤ levels) : exprAt? levels expr.toJson = some expr := by
  obtain ⟨levels, rfl⟩ := Nat.exists_eq_add_one.mpr (expr.depth_pos.trans_le deep)
  simp only [exprAt?, Option.bind_eq_bind]
  match expr with
  | .literal value => simp [Expr.toJson]
  | .column referred => simp [Expr.toJson]
  | .geometry shape frame args =>
      have inside := Json.depth_record_le deep
      simp only [List.forall_mem_cons] at inside
      have read := exprsAt?_toJson args (finiteRegions_append.mp finite).1
        (Json.depth_items_le inside.2.2.1)
      simp only [Expr.toJson, Json.tagged?_tagged, Option.bind_some]
      simp [required?, optional?, field?, list?, read]
  | .predicate test lhs rhs =>
      have inside := Json.depth_record_le deep
      simp only [List.forall_mem_cons] at inside
      obtain ⟨left, right⟩ := finiteRegions_append.mp (finiteRegions_append.mp finite).1
      have readLhs := exprAt?_toJson lhs left inside.2.1
      have readRhs := exprAt?_toJson rhs right inside.2.2.1
      simp only [Expr.toJson, Json.tagged?_tagged, Option.bind_some]
      simp [required?, field?, readLhs, readRhs]
  | .accessor kind arg =>
      have inside := Json.depth_record_le deep
      simp only [List.forall_mem_cons] at inside
      have read := exprAt?_toJson arg (finiteRegions_append.mp finite).1 inside.2.1
      simp only [Expr.toJson, Json.tagged?_tagged, Option.bind_some]
      simp [required?, field?, read]
  | .function name args =>
      have inside := Json.depth_record_le deep
      simp only [List.forall_mem_cons] at inside
      have read := exprsAt?_toJson args (finiteRegions_append.mp finite).1
        (Json.depth_items_le inside.2.1)
      simp only [Expr.toJson, Json.tagged?_tagged, Option.bind_some]
      simp [required?, field?, list?, read]
  | .geometryFunction kind args =>
      have inside := Json.depth_record_le deep
      simp only [List.forall_mem_cons] at inside
      have read := exprsAt?_toJson args (finiteRegions_append.mp finite).1
        (Json.depth_items_le inside.2.1)
      simp only [Expr.toJson, Json.tagged?_tagged, Option.bind_some]
      simp [required?, field?, list?, read]
  | .comparison lhs op rhs =>
      have inside := Json.depth_record_le deep
      simp only [List.forall_mem_cons] at inside
      obtain ⟨left, right⟩ := finiteRegions_append.mp (finiteRegions_append.mp finite).1
      have readLhs := exprAt?_toJson lhs left inside.1
      have readRhs := exprAt?_toJson rhs right inside.2.2.1
      simp only [Expr.toJson, Json.tagged?_tagged, Option.bind_some]
      simp [required?, field?, readLhs, readRhs]
  | .binary lhs op rhs =>
      have inside := Json.depth_items_le (Json.depth_payload_le deep)
      simp only [List.forall_mem_cons] at inside
      obtain ⟨left, right⟩ := finiteRegions_append.mp (finiteRegions_append.mp finite).1
      have readLhs := exprAt?_toJson lhs left inside.1
      have readRhs := exprAt?_toJson rhs right inside.2.2.1
      simp [Expr.toJson, readLhs, readRhs]
  | .unary op operand =>
      have inside := Json.depth_items_le (Json.depth_payload_le deep)
      simp only [List.forall_mem_cons] at inside
      have read := exprAt?_toJson operand (finiteRegions_append.mp finite).1 inside.2.1
      simp [Expr.toJson, read]
  | .subquery statement =>
      have read := statementAt?_toJson statement (finiteRegions_append.mp finite).1
        (Json.depth_payload_le deep)
      simp [Expr.toJson, read]
  | .sql fragment => simp [Expr.toJson]
  | .region region =>
      have read := Stcs.regionAt?_toJson region (finite region List.mem_cons_self)
        (Json.depth_payload_le deep)
      simp [Expr.toJson, read]

theorem exprsAt?_toJson (exprs : List Expr) {levels : Nat}
    (finite : FiniteRegions (exprNodes exprs))
    (deep : ∀ item ∈ exprsToJson exprs, item.depth ≤ levels) :
    (exprsToJson exprs).mapM (exprAt? levels) = some exprs := by
  match exprs with
  | [] => rfl
  | expr :: exprs =>
      obtain ⟨first, others⟩ := finiteRegions_append.mp finite
      obtain ⟨deep, deeper⟩ := List.forall_mem_cons.mp deep
      simp [exprsToJson, exprAt?_toJson expr first deep, exprsAt?_toJson exprs others deeper]

theorem optionAt?_toJson (option : Option Expr) {levels : Nat}
    (finite : FiniteRegions (readOption everywhere option))
    (deep : (optionToJson option).depth ≤ levels) :
    option? (exprAt? levels) (optionToJson option) = some option := by
  match option with
  | none => rfl
  | some expr =>
      have read := exprAt?_toJson expr finite deep
      rw [optionToJson, Json.option?_of_depth expr.depth_pos, read]
      rfl

theorem statementAt?_toJson (statement : Statement) {levels : Nat}
    (finite : FiniteRegions statement.nodes) (deep : statement.toJson.depth ≤ levels) :
    statementAt? levels statement.toJson = some statement := by
  obtain ⟨levels, rfl⟩ := Nat.exists_eq_add_one.mpr (statement.depth_pos.trans_le deep)
  simp only [statementAt?, Option.bind_eq_bind]
  match statement with
  | .select query =>
      have read := queryAt?_toJson query finite (Json.depth_payload_le deep)
      simp [Statement.toJson, read]
  | .setOperation op all lhs rhs =>
      have inside := Json.depth_record_le deep
      simp only [List.forall_mem_cons] at inside
      obtain ⟨left, right⟩ := finiteRegions_append.mp finite
      have readLhs := statementAt?_toJson lhs left inside.2.2.1
      have readRhs := statementAt?_toJson rhs right inside.2.2.2.1
      simp only [Statement.toJson, Json.tagged?_tagged, Option.bind_some]
      simp [required?, field?, readLhs, readRhs]
  | .sql text => simp [Statement.toJson]

theorem queryAt?_toJson (query : Query) {levels : Nat} (finite : FiniteRegions query.nodes)
    (deep : query.toJson.depth ≤ levels) : queryAt? levels query.toJson = some query := by
  obtain ⟨levels, rfl⟩ := Nat.exists_eq_add_one.mpr (query.depth_pos.trans_le deep)
  match query with
  | { items, tables, condition, groupBy, having, orderBy, .. } =>
      simp only [Query.nodes, Query.read, finiteRegions_append] at finite
      obtain ⟨inItems, inTables, inCondition, inGroups, inHaving, inOrder⟩ := finite
      have inside := Json.depth_fields_le deep
      simp only [List.forall_mem_cons] at inside
      obtain ⟨-, -, items, tables, condition, groups, having, order, -⟩ := inside
      have readItems := itemsAt?_toJson _ inItems (Json.depth_items_le items)
      have readTables := tablesAt?_toJson _ inTables (Json.depth_items_le tables)
      have readCondition := optionAt?_toJson _ inCondition condition
      have readGroups := exprsAt?_toJson _ inGroups (Json.depth_items_le groups)
      have readHaving := optionAt?_toJson _ inHaving having
      have readOrder := orderAt?_toJson _ inOrder (Json.depth_items_le order)
      simp [queryAt?, Query.toJson, optional?, defaulted?, field?, list?, readItems, readTables,
        readCondition, readGroups, readHaving, readOrder]

theorem itemAt?_toJson (item : SelectItem) {levels : Nat}
    (finite : FiniteRegions (item.read everywhere)) (deep : item.toJson.depth ≤ levels) :
    itemAt? levels item.toJson = some item := by
  obtain ⟨levels, rfl⟩ := Nat.exists_eq_add_one.mpr (item.depth_pos.trans_le deep)
  match item with
  | .star table => simp [itemAt?, SelectItem.toJson]
  | .expr expr label =>
      have inside := Json.depth_record_le deep
      simp only [List.forall_mem_cons] at inside
      have read := exprAt?_toJson expr finite inside.1
      simp [itemAt?, SelectItem.toJson, required?, optional?, field?, read]

theorem itemsAt?_toJson (items : List SelectItem) {levels : Nat}
    (finite : FiniteRegions (readItems everywhere items))
    (deep : ∀ item ∈ itemsToJson items, item.depth ≤ levels) :
    (itemsToJson items).mapM (itemAt? levels) = some items := by
  match items with
  | [] => rfl
  | item :: items =>
      obtain ⟨first, others⟩ := finiteRegions_append.mp finite
      obtain ⟨deep, deeper⟩ := List.forall_mem_cons.mp deep
      simp [itemsToJson, itemAt?_toJson item first deep, itemsAt?_toJson items others deeper]

theorem orderAt?_toJson (items : List OrderItem) {levels : Nat}
    (finite : FiniteRegions (readOrder everywhere items))
    (deep : ∀ item ∈ orderToJson items, item.depth ≤ levels) :
    (orderToJson items).mapM (orderAt? levels) = some items := by
  match items with
  | [] => rfl
  | { expr, descending } :: items =>
      obtain ⟨first, others⟩ := finiteRegions_append.mp finite
      obtain ⟨deep, deeper⟩ := List.forall_mem_cons.mp deep
      have readOthers := orderAt?_toJson items others deeper
      obtain ⟨levels, rfl⟩ := Nat.exists_eq_add_one.mpr ((Json.depth_object_pos _).trans_le deep)
      have inside := Json.depth_fields_le deep
      simp only [List.forall_mem_cons] at inside
      have read := exprAt?_toJson expr first inside.1
      have readItem : orderAt? (levels + 1)
          (.object [("expr", expr.toJson), ("descending", .bool descending)]) =
            some { expr, descending } := by
        simp [orderAt?, required?, defaulted?, field?, read]
      simp [orderToJson, readItem, readOthers]

theorem tableAt?_toJson (table : TableRef) {levels : Nat} (finite : FiniteRegions table.nodes)
    (deep : table.toJson.depth ≤ levels) : tableAt? levels table.toJson = some table := by
  obtain ⟨levels, rfl⟩ := Nat.exists_eq_add_one.mpr (table.depth_pos.trans_le deep)
  simp only [tableAt?, Option.bind_eq_bind]
  match table with
  | .table name label => simp [TableRef.toJson, required?, optional?, field?]
  | .derived statement name =>
      have inside := Json.depth_record_le deep
      simp only [List.forall_mem_cons] at inside
      have read := statementAt?_toJson statement finite inside.1
      simp only [TableRef.toJson, Json.tagged?_tagged, Option.bind_some]
      simp [required?, field?, read]
  | .join left kind right spec =>
      simp only [TableRef.nodes, TableRef.read, finiteRegions_append] at finite
      obtain ⟨inLeft, inRight, inSpec⟩ := finite
      have nested : 0 < levels :=
        (Json.depth_object_pos _).trans_le (Json.depth_payload_le deep)
      have inside := Json.depth_record_le deep
      simp only [List.forall_mem_cons] at inside
      have readLeft := tableAt?_toJson left inLeft inside.1
      have readRight := tableAt?_toJson right inRight inside.2.2.1
      have readSpec := joinSpecAt?_toJson spec inSpec nested inside.2.2.2.1
      simp only [TableRef.toJson, Json.tagged?_tagged, Option.bind_some]
      simp [required?, field?, readLeft, readRight, readSpec]
  | .sql text => simp [TableRef.toJson]

theorem tablesAt?_toJson (tables : List TableRef) {levels : Nat}
    (finite : FiniteRegions (readTables everywhere tables))
    (deep : ∀ item ∈ tablesToJson tables, item.depth ≤ levels) :
    (tablesToJson tables).mapM (tableAt? levels) = some tables := by
  match tables with
  | [] => rfl
  | table :: tables =>
      obtain ⟨first, others⟩ := finiteRegions_append.mp finite
      obtain ⟨deep, deeper⟩ := List.forall_mem_cons.mp deep
      simp [tablesToJson, tableAt?_toJson table first deep, tablesAt?_toJson tables others deeper]

theorem joinSpecAt?_toJson (spec : JoinSpec) {levels : Nat}
    (finite : FiniteRegions (spec.read everywhere)) (nested : 0 < levels)
    (deep : spec.toJson.depth ≤ levels) : joinSpecAt? levels spec.toJson = some spec := by
  obtain ⟨levels, rfl⟩ := Nat.exists_eq_add_one.mpr nested
  match spec with
  | .on condition =>
      have read := exprAt?_toJson condition finite (Json.depth_payload_le deep)
      simp [joinSpecAt?, JoinSpec.toJson, tagged, tagged?, read]
  | .using columns => simp [joinSpecAt?, JoinSpec.toJson, tagged, tagged?]
  | .natural => rfl
  | .none => rfl

end

end Statements

section Decoded

theorem finiteRegions_flatMap {α : Type} {read : α → List Expr} {values : List α}
    (finite : ∀ value ∈ values, FiniteRegions (read value)) :
    FiniteRegions (values.flatMap read) := by
  intro region membership
  obtain ⟨value, listed, membership⟩ := List.mem_flatMap.mp membership
  exact finite value listed region membership

theorem finiteRegions_exprs {exprs : List Expr}
    (finite : ∀ expr ∈ exprs, FiniteRegions expr.nodes) : FiniteRegions (exprNodes exprs) := by
  rw [exprNodes, readExprs_eq_flatMap]
  exact finiteRegions_flatMap finite

theorem finiteRegions_option {option : Option Expr}
    (finite : ∀ expr ∈ option, FiniteRegions expr.nodes) :
    FiniteRegions (option.elim [] Expr.nodes) := by
  cases option with
  | none => simp [FiniteRegions]
  | some expr => exact finite expr rfl

theorem finiteRegions_leaf {expr : Expr} (ordinary : expr.isRegion = false) :
    FiniteRegions [expr] := by
  intro region membership
  cases List.mem_singleton.mp membership
  cases ordinary

/-- A node that is no region adds none to those of its parts. -/
theorem finiteRegions_node {nodes : List Expr} {expr : Expr} (ordinary : expr.isRegion = false)
    (finite : FiniteRegions nodes) : FiniteRegions (nodes ++ [expr]) :=
  finiteRegions_append.mpr ⟨finite, finiteRegions_leaf ordinary⟩

mutual

theorem exprAt?_yields : ∀ levels, Json.Yields (exprAt? levels) (FiniteRegions ·.nodes)
  | 0 => nofun
  | levels + 1 => by
      intro json expr decoded
      have operand := exprAt?_yields levels
      obtain ⟨⟨tag, payload⟩, -, decoded⟩ := Option.bind_eq_some_iff.mp decoded
      dsimp only at decoded
      split at decoded <;>
        simp only [Option.bind_eq_bind, Option.bind_eq_some_iff, Option.pure_def, Option.some.injEq,
          reduceCtorEq] at decoded
      · obtain ⟨literal, -, rfl⟩ := decoded
        exact finiteRegions_leaf rfl
      · obtain ⟨column, -, rfl⟩ := decoded
        exact finiteRegions_leaf rfl
      · obtain ⟨fields, -, shape, -, frame, -, args, read, rfl⟩ := decoded
        exact finiteRegions_node rfl (finiteRegions_exprs (operand.list.required read))
      · obtain ⟨fields, -, test, -, lhs, readLhs, rhs, readRhs, rfl⟩ := decoded
        exact finiteRegions_node rfl
          (finiteRegions_append.mpr ⟨operand.required readLhs, operand.required readRhs⟩)
      · obtain ⟨fields, -, kind, -, arg, read, rfl⟩ := decoded
        exact finiteRegions_node rfl (operand.required read)
      · obtain ⟨fields, -, name, -, args, read, rfl⟩ := decoded
        exact finiteRegions_node rfl (finiteRegions_exprs (operand.list.required read))
      · obtain ⟨fields, -, kind, -, args, read, rfl⟩ := decoded
        exact finiteRegions_node rfl (finiteRegions_exprs (operand.list.required read))
      · obtain ⟨fields, -, lhs, readLhs, op, -, rhs, readRhs, rfl⟩ := decoded
        exact finiteRegions_node rfl
          (finiteRegions_append.mpr ⟨operand.required readLhs, operand.required readRhs⟩)
      · split at decoded
        · simp only [Option.bind_eq_some_iff, Option.some.injEq] at decoded
          obtain ⟨left, readLhs, op, -, right, readRhs, rfl⟩ := decoded
          exact finiteRegions_node rfl
            (finiteRegions_append.mpr ⟨operand _ left readLhs, operand _ right readRhs⟩)
        · cases decoded
      · split at decoded
        · simp only [Option.bind_eq_some_iff, Option.some.injEq] at decoded
          obtain ⟨op, -, inner, read, rfl⟩ := decoded
          exact finiteRegions_node rfl (operand _ inner read)
        · cases decoded
      · obtain ⟨statement, read, rfl⟩ := decoded
        exact finiteRegions_node rfl (statementAt?_yields levels payload statement read)
      · obtain ⟨fragment, -, rfl⟩ := decoded
        exact finiteRegions_leaf rfl
      · obtain ⟨region, read, rfl⟩ := decoded
        intro other membership
        cases List.mem_singleton.mp membership
        exact Stcs.regionAt?_yields levels payload region read

theorem statementAt?_yields : ∀ levels, Json.Yields (statementAt? levels) (FiniteRegions ·.nodes)
  | 0 => nofun
  | levels + 1 => by
      intro json statement decoded
      have side := statementAt?_yields levels
      obtain ⟨⟨tag, payload⟩, -, decoded⟩ := Option.bind_eq_some_iff.mp decoded
      dsimp only at decoded
      split at decoded <;>
        simp only [Option.bind_eq_bind, Option.bind_eq_some_iff, Option.pure_def, Option.some.injEq,
          reduceCtorEq] at decoded
      · obtain ⟨query, read, rfl⟩ := decoded
        exact queryAt?_yields levels payload query read
      · obtain ⟨fields, -, op, -, all, -, lhs, readLhs, rhs, readRhs, rfl⟩ := decoded
        exact finiteRegions_append.mpr ⟨side.required readLhs, side.required readRhs⟩
      · obtain ⟨text, -, rfl⟩ := decoded
        nofun

theorem queryAt?_yields : ∀ levels, Json.Yields (queryAt? levels) (FiniteRegions ·.nodes)
  | 0 => nofun
  | levels + 1 => by
      intro json query decoded
      have operand := exprAt?_yields levels
      obtain ⟨fields, -, decoded⟩ := Option.bind_eq_some_iff.mp decoded
      simp only [Option.bind_eq_bind, Option.bind_eq_some_iff, Option.pure_def, Option.some.injEq]
        at decoded
      obtain ⟨quantifier, -, top, -, items, readItems, tables, readTables, condition, readCondition,
        groupBy, readGroups, having, readHaving, orderBy, readOrder, limit, -, offset, -, rfl⟩ :=
        decoded
      simp only [Query.nodes, Query.read_eq_append, finiteRegions_append]
      exact ⟨finiteRegions_flatMap ((itemAt?_yields levels).listed readItems),
        finiteRegions_flatMap ((tableAt?_yields levels).listed readTables),
        finiteRegions_option (operand.optional readCondition),
        finiteRegions_flatMap (operand.listed readGroups),
        finiteRegions_option (operand.optional readHaving),
        finiteRegions_flatMap ((orderAt?_yields levels).listed readOrder)⟩

theorem itemAt?_yields :
    ∀ levels, Json.Yields (itemAt? levels) fun item => FiniteRegions (item.read everywhere)
  | 0 => nofun
  | levels + 1 => by
      intro json item decoded
      obtain ⟨⟨tag, payload⟩, -, decoded⟩ := Option.bind_eq_some_iff.mp decoded
      dsimp only at decoded
      split at decoded <;>
        simp only [Option.bind_eq_bind, Option.bind_eq_some_iff, Option.pure_def, Option.some.injEq,
          reduceCtorEq] at decoded
      · obtain ⟨table, -, rfl⟩ := decoded
        nofun
      · obtain ⟨fields, -, expr, read, label, -, rfl⟩ := decoded
        exact (exprAt?_yields levels).required read

theorem orderAt?_yields : ∀ levels, Json.Yields (orderAt? levels) (FiniteRegions ·.expr.nodes)
  | 0 => nofun
  | levels + 1 => by
      intro json item decoded
      obtain ⟨fields, -, decoded⟩ := Option.bind_eq_some_iff.mp decoded
      obtain ⟨expr, read, decoded⟩ := Option.bind_eq_some_iff.mp decoded
      obtain ⟨descending, -, decoded⟩ := Option.bind_eq_some_iff.mp decoded
      cases decoded
      exact (exprAt?_yields levels).required read

theorem tableAt?_yields : ∀ levels, Json.Yields (tableAt? levels) (FiniteRegions ·.nodes)
  | 0 => nofun
  | levels + 1 => by
      intro json table decoded
      have side := tableAt?_yields levels
      obtain ⟨⟨tag, payload⟩, -, decoded⟩ := Option.bind_eq_some_iff.mp decoded
      dsimp only at decoded
      split at decoded <;>
        simp only [Option.bind_eq_bind, Option.bind_eq_some_iff, Option.pure_def, Option.some.injEq,
          reduceCtorEq] at decoded
      · obtain ⟨fields, -, name, -, label, -, rfl⟩ := decoded
        nofun
      · obtain ⟨fields, -, statement, read, name, -, rfl⟩ := decoded
        exact (statementAt?_yields levels).required read
      · obtain ⟨fields, -, left, readLeft, kind, -, right, readRight, spec, readSpec, rfl⟩ :=
          decoded
        exact finiteRegions_append.mpr ⟨side.required readLeft, finiteRegions_append.mpr
          ⟨side.required readRight, (joinSpecAt?_yields levels).required readSpec⟩⟩
      · obtain ⟨text, -, rfl⟩ := decoded
        nofun

theorem joinSpecAt?_yields :
    ∀ levels, Json.Yields (joinSpecAt? levels) fun spec => FiniteRegions (spec.read everywhere)
  | 0 => nofun
  | levels + 1 => by
      intro json spec decoded
      unfold joinSpecAt? at decoded
      split at decoded
      · cases decoded
        nofun
      · cases decoded
        nofun
      · obtain ⟨choice, -, decoded⟩ := Option.bind_eq_some_iff.mp decoded
        split at decoded
        · obtain ⟨condition, read, decoded⟩ := Option.bind_eq_some_iff.mp decoded
          cases decoded
          exact exprAt?_yields levels _ condition read
        · obtain ⟨columns, -, decoded⟩ := Option.bind_eq_some_iff.mp decoded
          cases decoded
          nofun
        · cases decoded

end

end Decoded

/-- A statement with finite coordinates is read back from its JSON form as it was, and so is every
statement that some document stands for. -/
theorem statement_json_lossless :
    (∀ statement : Statement, FiniteRegions statement.nodes →
      Statement.ofJson? statement.toJson = some statement) ∧
    ∀ (json : Json) (statement : Statement), Statement.ofJson? json = some statement →
      Statement.ofJson? statement.toJson = some statement := by
  have written (statement : Statement) (finite : FiniteRegions statement.nodes) :
      Statement.ofJson? statement.toJson = some statement :=
    statementAt?_toJson statement finite le_rfl
  refine ⟨written, fun json statement decoded => ?_⟩
  exact written statement (statementAt?_yields json.depth json statement decoded)

def unresolvedUnion : Stcs.Region :=
  ⟨.union, some "ICRS", [.concrete (.circle ⟨⟨0.5, -0.25⟩, 0.125⟩),
    .unresolved ⟨.not, none, [.concrete (.point ⟨1.5, 0.0⟩)]⟩]⟩

/-- A query whose names are those of choices without payload, for as many rows as can be asked for. -/
def unresolvedSearch : Statement := .select {
  top := some 18446744073709551615
  items := [.star none, .expr (.literal .null) (some "null")]
  tables := [.join (.table "None" none) .cross (.derived (.sql "SELECT 1") "Natural") .none]
  condition := some (.region unresolvedUnion) }

theorem statement_json_lossless_unresolved :
    FiniteRegions unresolvedSearch.nodes ∧
      Statement.ofJson? unresolvedSearch.toJson = some unresolvedSearch ∧
      Statement.ofJson? (.object [("Select", .object [("comment", .null), ("limit", .null)])]) =
        some (.select {}) ∧
      Statement.ofJson? (Statement.select {}).toJson = some (.select {}) := by
  have finite : FiniteRegions unresolvedSearch.nodes := by
    intro region membership
    have nodes : unresolvedSearch.nodes = [.literal .null, .region unresolvedUnion] := rfl
    simp only [nodes, List.mem_cons, reduceCtorEq, List.not_mem_nil, Expr.region.injEq, false_or,
      or_false] at membership
    subst membership
    have finite : [0.5, -0.25, 0.125, 1.5, 0.0].all Decimal.isFinite = true := rfl
    exact List.all_eq_true.mp finite
  have sparse : Statement.ofJson?
      (.object [("Select", .object [("comment", .null), ("limit", .null)])]) =
        some (.select {}) := rfl
  exact ⟨finite, statement_json_lossless.1 _ finite, sparse, statement_json_lossless.2 _ _ sparse⟩

end SkySql
