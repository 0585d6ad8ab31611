import SkySql.Dialect.Index
import SkySql.Proofs.Acceptance

set_option autoImplicit false

/-!
Rendering stops at unresolved regions and at nothing else: a statement has text if and only if there
is no region in it, and otherwise the error is that of the first region. What a rule writes down it
has rendered, so whatever has gone into a text is free of regions.
-/

namespace SkySql

/-- Expressions of which none is an unresolved region. -/
abbrev RegionFree (nodes : List Expr) : Prop := ∀ node ∈ nodes, node.isRegion = false

/-- The error of rendering an unresolved region. -/
def Expr.regionFault? : Expr → Option Error
  | .region unresolved => some (.unresolvedRegion unresolved.text)
  | _ => none

def regionFaults (nodes : List Expr) : List Error := nodes.filterMap Expr.regionFault?

@[simp] theorem regionFaults_append (left right : List Expr) :
    regionFaults (left ++ right) = regionFaults left ++ regionFaults right :=
  List.filterMap_append

theorem regionFaults_eq_nil_iff {nodes : List Expr} : regionFaults nodes = [] ↔ RegionFree nodes := by
  have own (node : Expr) : node.regionFault? = none ↔ node.isRegion = false := by
    cases node <;> simp [Expr.regionFault?, Expr.isRegion]
  simp only [regionFaults, List.filterMap_eq_nil_iff, own]

/-- The first error is that of the first region. -/
theorem exists_first_region {nodes : List Expr} {e : Error} {rest : List Error}
    (faults : regionFaults nodes = e :: rest) :
    ∃ before unresolved after, nodes = before ++ .region unresolved :: after ∧
      RegionFree before ∧ e = .unresolvedRegion unresolved.text := by
  obtain ⟨before, node, after, rfl, clear, fault, -⟩ := List.filterMap_eq_cons_iff.mp faults
  have free : RegionFree before := regionFaults_eq_nil_iff.mp (List.filterMap_eq_nil_iff.mpr clear)
  cases node with
  | region unresolved =>
      cases fault
      exact ⟨before, unresolved, after, rfl, free, rfl⟩
  | _ => cases fault

theorem regionFaults_eq_cons {nodes : List Expr} {e : Error} {rest : List Error}
    (faults : regionFaults nodes = e :: rest) : ∃ text, e = .unresolvedRegion text := by
  obtain ⟨_, unresolved, _, -, -, same⟩ := exists_first_region faults
  exact ⟨unresolved.text, same⟩

namespace Verdict

variable {α β : Type} {good : α → Prop} {found : Except Error α} {first second : List Error}

theorem bind {better : β → Prop} {next : α → Except Error β} (verdict : Verdict good found first)
    (further : ∀ a, Verdict better (next a) second) :
    Verdict better (found >>= next) (first ++ second) := by
  cases first with
  | nil =>
      obtain ⟨a, made, -⟩ := verdict
      rw [made]
      exact further a
  | cons e rest =>
      cases verdict
      rfl

theorem made {a : α} (holds : good a) : Verdict good (pure a) [] := ⟨a, rfl, holds⟩

theorem bind_pure {f : α → β} (verdict : Verdict good found first) :
    Verdict (fun _ => True) (found >>= fun a => pure (f a)) first := by
  rw [← List.append_nil first]
  exact verdict.bind fun _ => made trivial

theorem ok_iff {found : Except Error α} (verdict : Verdict good found first) :
    (∃ a, found = .ok a) ↔ first = [] := by
  cases first with
  | nil =>
      obtain ⟨a, made, -⟩ := verdict
      simp [made]
  | cons e rest =>
      cases verdict
      simp

theorem error_iff {e : Error} (verdict : Verdict good found first) :
    found = .error e ↔ ∃ rest, first = e :: rest := by
  cases first with
  | nil =>
      obtain ⟨a, made, -⟩ := verdict
      simp [made]
  | cons other rest =>
      cases verdict
      simp

theorem holds {a : α} (verdict : Verdict good found first) (made : found = .ok a) : good a := by
  subst made
  cases first with
  | nil =>
      obtain ⟨_, made, isGood⟩ := verdict
      cases made
      exact isGood
  | cons e rest => cases verdict

end Verdict

mutual

theorem Expr.render_verdict (expr : Expr) :
    Verdict (fun _ => True) expr.render (regionFaults expr.nodes) := by
  match expr with
  | .literal _ | .column _ | .sql _ => exact .made trivial
  | .region _ => rfl
  | .geometry _ _ args | .function _ args | .geometryFunction _ args =>
      rw [Expr.render, Expr.nodes, Expr.read, everywhere_expr, regionFaults_append]
      exact (renderExprs_verdict args).bind fun _ => .made trivial
  | .accessor _ arg =>
      rw [Expr.render, Expr.nodes, Expr.read, everywhere_expr, regionFaults_append]
      exact (Expr.render_verdict arg).bind fun _ => .made trivial
  | .predicate _ lhs rhs | .comparison lhs _ rhs | .binary lhs _ rhs =>
      rw [Expr.render, Expr.nodes, Expr.read, everywhere_expr, List.append_assoc,
        regionFaults_append, regionFaults_append]
      exact (Expr.render_verdict lhs).bind fun _ => (Expr.render_verdict rhs).bind fun _ =>
        .made trivial
  | .unary op operand =>
      rw [Expr.nodes, Expr.read, everywhere_expr, regionFaults_append]
      cases op with
      | neg => exact (Expr.render_verdict operand).bind fun _ => .made trivial
      | not => exact (Expr.render_verdict operand).bind fun _ => .made trivial
  | .subquery statement =>
      rw [Expr.render, Expr.nodes, Expr.read, everywhere_expr, regionFaults_append]
      exact (Statement.render_verdict statement).bind fun _ => .made trivial

theorem renderExprs_verdict (exprs : List Expr) :
    Verdict (fun _ => True) (renderExprs exprs) (regionFaults (exprNodes exprs)) := by
  match exprs with
  | [] => exact .made trivial
  | expr :: rest =>
      rw [renderExprs, exprNodes, readExprs, regionFaults_append]
      exact (Expr.render_verdict expr).bind fun _ => (renderExprs_verdict rest).bind_pure

theorem renderOption_verdict (option : Option Expr) :
    Verdict (fun _ => True) (renderOption option) (regionFaults (readOption everywhere option)) := by
  match option with
  | none => exact .made trivial
  | some expr => exact (Expr.render_verdict expr).bind_pure

theorem Statement.render_verdict (statement : Statement) :
    Verdict (fun _ => True) statement.render (regionFaults statement.nodes) := by
  match statement with
  | .select query =>
      rw [Statement.render]
      exact (Query.clauses_verdict query).bind_pure
  | .setOperation _ _ lhs rhs =>
      rw [Statement.render, Statement.nodes, Statement.read, regionFaults_append]
      exact (Statement.render_verdict lhs).bind fun _ => (Statement.render_verdict rhs).bind_pure
  | .sql _ => exact .made trivial

theorem Query.clauses_verdict (query : Query) :
    Verdict (fun _ => True) query.clauses (regionFaults query.nodes) := by
  match query with
  | { items, tables, condition, groupBy, having, orderBy, .. } =>
      simp only [Query.clauses, Query.nodes, Query.read, regionFaults_append]
      exact (renderItems_verdict items).bind fun _ => (renderTables_verdict tables).bind fun _ =>
        (renderOption_verdict condition).bind fun _ => (renderExprs_verdict groupBy).bind fun _ =>
          (renderOption_verdict having).bind fun _ => (renderOrder_verdict orderBy).bind_pure

theorem SelectItem.render_verdict (item : SelectItem) :
    Verdict (fun _ => True) item.render (regionFaults (item.read everywhere)) := by
  match item with
  | .star table => cases table <;> exact .made trivial
  | .expr operand _ =>
      rw [SelectItem.render]
      exact (Expr.render_verdict operand).bind_pure

theorem renderItems_verdict (items : List SelectItem) :
    Verdict (fun _ => True) (renderItems items) (regionFaults (readItems everywhere items)) := by
  match items with
  | [] => exact .made trivial
  | item :: rest =>
      rw [renderItems, readItems, regionFaults_append]
      exact (SelectItem.render_verdict item).bind fun _ => (renderItems_verdict rest).bind_pure

theorem renderOrder_verdict (order : List OrderItem) :
    Verdict (fun _ => True) (renderOrder order) (regionFaults (readOrder everywhere order)) := by
  match order with
  | [] => exact .made trivial
  | { expr, .. } :: rest =>
      rw [renderOrder, readOrder, regionFaults_append]
      exact (Expr.render_verdict expr).bind fun _ => (renderOrder_verdict rest).bind_pure

theorem TableRef.render_verdict (table : TableRef) :
    Verdict (fun _ => True) table.render (regionFaults table.nodes) := by
  match table with
  | .table _ _ | .sql _ => exact .made trivial
  | .derived statement _ =>
      rw [TableRef.render]
      exact (Statement.render_verdict statement).bind_pure
  | .join left _ right spec =>
      unfold TableRef.render
      rw [TableRef.nodes, TableRef.read, regionFaults_append, regionFaults_append]
      exact (TableRef.render_verdict left).bind fun _ => (TableRef.render_verdict right).bind fun _ =>
        (JoinSpec.render_verdict spec).bind_pure

theorem renderTables_verdict (tables : List TableRef) :
    Verdict (fun _ => True) (renderTables tables) (regionFaults (readTables everywhere tables)) := by
  match tables with
  | [] => exact .made trivial
  | table :: rest =>
      rw [renderTables, readTables, regionFaults_append]
      exact (TableRef.render_verdict table).bind fun _ => (renderTables_verdict rest).bind_pure

theorem JoinSpec.render_verdict (spec : JoinSpec) :
    Verdict (fun _ => True) spec.render (regionFaults (spec.read everywhere)) := by
  match spec with
  | .on condition =>
      rw [JoinSpec.render]
      exact (Expr.render_verdict condition).bind_pure
  | .using _ | .natural | .none => exact .made trivial

end

theorem Expr.render_ok_iff {expr : Expr} :
    (∃ text, expr.render = .ok text) ↔ RegionFree expr.nodes :=
  expr.render_verdict.ok_iff.trans regionFaults_eq_nil_iff

theorem Expr.regionFree_of_render {expr : Expr} {text : String} (rendered : expr.render = .ok text) :
    RegionFree expr.nodes :=
  Expr.render_ok_iff.mp ⟨text, rendered⟩

theorem regionFree_of_renderExprs {exprs : List Expr} {texts : List String}
    (rendered : renderExprs exprs = .ok texts) : RegionFree (exprNodes exprs) :=
  regionFaults_eq_nil_iff.mp ((renderExprs_verdict exprs).ok_iff.mp ⟨texts, rendered⟩)

theorem Statement.regionFree_of_render {statement : Statement} {text : String}
    (rendered : statement.render = .ok text) : RegionFree statement.nodes :=
  regionFaults_eq_nil_iff.mp (statement.render_verdict.ok_iff.mp ⟨text, rendered⟩)

/-- What rendering makes of expressions: it fails exactly if there is an unresolved region among them,
and the error shows the first one. -/
structure StopsAtRegion (found : Except Error String) (nodes : List Expr) : Prop where
  fails_iff : (∃ e, found = .error e) ↔ ∃ unresolved, .region unresolved ∈ nodes
  first : ∀ e, found = .error e → ∃ before unresolved after,
    nodes = before ++ .region unresolved :: after ∧ RegionFree before ∧
      e = .unresolvedRegion unresolved.text

theorem Verdict.stopsAtRegion {good : String → Prop} {found : Except Error String}
    {nodes : List Expr} (verdict : Verdict good found (regionFaults nodes)) :
    StopsAtRegion found nodes where
  fails_iff := by
    constructor
    · rintro ⟨e, failed⟩
      obtain ⟨rest, faults⟩ := verdict.error_iff.mp failed
      obtain ⟨before, unresolved, after, rfl, -, -⟩ := exists_first_region faults
      exact ⟨unresolved, List.mem_append_right _ List.mem_cons_self⟩
    · rintro ⟨unresolved, membership⟩
      cases faults : regionFaults nodes with
      | nil => cases regionFaults_eq_nil_iff.mp faults _ membership
      | cons e rest => exact ⟨e, verdict.error_iff.mpr ⟨rest, faults⟩⟩
  first e failed := by
    obtain ⟨rest, faults⟩ := verdict.error_iff.mp failed
    exact exists_first_region faults

theorem Query.render_verdict (query : Query) :
    Verdict (fun _ => True) query.render (regionFaults query.nodes) :=
  query.clauses_verdict.bind_pure

theorem Query.renderSelect_verdict (query : Query) :
    Verdict (fun _ => True) query.renderSelect (regionFaults query.nodes) :=
  query.clauses_verdict.bind_pure

/-- A statement has no text exactly if there is an unresolved region anywhere in it, and the error is
that of the first one in the order in which the parts are written. So it is for queries in either
spelling, which therefore fail together and with the same error. -/
theorem rendering_stops_at_first_region :
    (∀ statement : Statement, StopsAtRegion statement.render statement.nodes) ∧
    ∀ query : Query,
      StopsAtRegion query.render query.nodes ∧ StopsAtRegion query.renderSelect query.nodes ∧
        ∀ e, query.render = .error e ↔ query.renderSelect = .error e := by
  constructor
  · intro statement
    exact statement.render_verdict.stopsAtRegion
  · intro query
    refine ⟨query.render_verdict.stopsAtRegion, query.renderSelect_verdict.stopsAtRegion, ?_⟩
    intro e
    rw [query.render_verdict.error_iff, query.renderSelect_verdict.error_iff]

section Text

theorem bind_eq_ok_iff {α β : Type} {found : Except Error α} {next : α → Except Error β} {b : β} :
    (found >>= next) = .ok b ↔ ∃ a, found = .ok a ∧ next a = .ok b := by
  cases found with
  | error e => simp [bind, Except.bind]
  | ok a => simp [bind, Except.bind]

theorem Expr.regionFree_of_asNumber? (expr : Expr) {value : Float}
    (number : expr.asNumber? = some value) : RegionFree expr.nodes := by
  match expr with
  | .literal _ => exact List.forall_mem_singleton.mpr rfl
  | .unary .neg operand =>
      rw [Expr.asNumber?, Option.map_eq_some_iff] at number
      obtain ⟨inner, number, -⟩ := number
      have inside := operand.regionFree_of_asNumber? number
      exact List.forall_mem_append.mpr ⟨inside, List.forall_mem_singleton.mpr rfl⟩

theorem corner_verdict (center extent : Expr) :
    Verdict (fun _ => True) (below center extent).render
        (regionFaults (center.nodes ++ extent.nodes)) ∧
      Verdict (fun _ => True) (above center extent).render
        (regionFaults (center.nodes ++ extent.nodes)) := by
  have symbolic (op : BinaryOp) :
      Verdict (fun _ => True)
        (Expr.binary center op (.binary extent .div (.number "2"))).render
        (regionFaults (center.nodes ++ extent.nodes)) := by
    have half : Verdict (fun _ => True) (Expr.binary extent .div (.number "2")).render
        (regionFaults extent.nodes) := by
      rw [Expr.render, ← List.append_nil (regionFaults extent.nodes)]
      exact extent.render_verdict.bind fun _ => .made trivial
    rw [Expr.render, regionFaults_append]
    exact center.render_verdict.bind fun _ => half.bind_pure
  unfold below above
  cases first : center.asNumber? with
  | none => exact ⟨symbolic .sub, symbolic .add⟩
  | some c =>
      cases second : extent.asNumber? with
      | none => exact ⟨symbolic .sub, symbolic .add⟩
      | some e =>
          have plain : RegionFree (center.nodes ++ extent.nodes) :=
            List.forall_mem_append.mpr
              ⟨center.regionFree_of_asNumber? first, extent.regionFree_of_asNumber? second⟩
          rw [regionFaults_eq_nil_iff.mpr plain]
          exact ⟨.made trivial, .made trivial⟩

theorem regionFree_singleton {arg : Expr} (inside : RegionFree arg.nodes) :
    RegionFree (exprNodes [arg]) := by
  rw [exprNodes, readExprs, readExprs, List.append_nil]
  exact inside

theorem exists_box_args {args : List Expr} (valid : Shape.box.takes args.length = true) :
    ∃ x y width height, args = [x, y, width, height] := by
  match args with
  | [] | [_] | [_, _] | [_, _, _] | _ :: _ :: _ :: _ :: _ :: _ => simp [Shape.takes] at valid
  | [x, y, width, height] => exact ⟨x, y, width, height, rfl⟩

/-- The lower left corner of a box takes all its arguments. -/
theorem regionFree_of_corners {args : List Expr} {corners : Corners} {x0 y0 : String}
    (valid : Shape.box.takes args.length = true) (known : Shape.box.corners? args = some corners)
    (first : corners.x0.render = .ok x0) (second : corners.y0.render = .ok y0) :
    RegionFree (exprNodes args) := by
  obtain ⟨x, y, width, height, rfl⟩ := exists_box_args valid
  cases known
  have across := regionFaults_eq_nil_iff.mp ((corner_verdict x width).1.ok_iff.mp ⟨x0, first⟩)
  have along := regionFaults_eq_nil_iff.mp ((corner_verdict y height).1.ok_iff.mp ⟨y0, second⟩)
  obtain ⟨inX, inWidth⟩ := List.forall_mem_append.mp across
  obtain ⟨inY, inHeight⟩ := List.forall_mem_append.mp along
  simp only [exprNodes, readExprs, List.forall_mem_append]
  exact ⟨inX, inY, inWidth, inHeight, List.forall_mem_nil _⟩

theorem regionFree_of_polygonCoordinates {args : List Expr} {texts : List String}
    (made : polygonCoordinates args = .ok texts) : RegionFree (exprNodes args) := by
  induction args generalizing texts with
  | nil => exact List.forall_mem_nil _
  | cons arg rest inductionHypothesis =>
      obtain ⟨text, first, made⟩ := bind_eq_ok_iff.mp made
      split at made
      · cases made
      · obtain ⟨others, second, -⟩ := bind_eq_ok_iff.mp made
        have inside := arg.regionFree_of_render first
        exact List.forall_mem_append.mpr ⟨inside, inductionHypothesis second⟩

theorem regionFree_of_geometryText {shape : Shape} {args : List Expr} {text : String}
    (made : geometryText shape args = .ok text) : RegionFree (exprNodes args) := by
  unfold geometryText at made
  cases valid : shape.takes args.length with
  | false => simp only [valid] at made; cases made
  | true =>
      simp only [valid, Bool.not_true, Bool.false_eq_true, if_false] at made
      cases shape with
      | point =>
          obtain ⟨x, y, rfl⟩ := List.length_eq_two.mp (by simpa [Shape.takes] using valid)
          simp only [bind_eq_ok_iff] at made
          obtain ⟨_, first, _, second, -⟩ := made
          simp only [exprNodes, readExprs, List.forall_mem_append]
          exact ⟨x.regionFree_of_render first, y.regionFree_of_render second,
            List.forall_mem_nil _⟩
      | circle =>
          obtain ⟨x, y, radius, rfl⟩ := List.length_eq_three.mp (by simpa [Shape.takes] using valid)
          simp only [bind_eq_ok_iff] at made
          obtain ⟨_, first, _, second, _, third, -⟩ := made
          simp only [exprNodes, readExprs, List.forall_mem_append]
          exact ⟨x.regionFree_of_render first, y.regionFree_of_render second,
            radius.regionFree_of_render third, List.forall_mem_nil _⟩
      | box =>
          cases known : Shape.box.corners? args with
          | none => simp only [known] at made; cases made
          | some corners =>
              simp only [known, bind_eq_ok_iff] at made
              obtain ⟨_, first, _, second, -⟩ := made
              exact regionFree_of_corners valid known first second
      | polygon =>
          obtain ⟨_, coordinates, -⟩ := bind_eq_ok_iff.mp made
          exact regionFree_of_polygonCoordinates coordinates

theorem regionFree_of_testText {test : GeometryTest} {lhs rhs : Expr} {text : String}
    (made : testText test lhs rhs = .ok text) : RegionFree lhs.nodes ∧ RegionFree rhs.nodes := by
  obtain ⟨_, first, made⟩ := bind_eq_ok_iff.mp made
  obtain ⟨_, second, -⟩ := bind_eq_ok_iff.mp made
  exact ⟨lhs.regionFree_of_render first, rhs.regionFree_of_render second⟩

/-- Of the accessors only the one for the coordinate system leaves its argument alone. -/
theorem regionFree_of_accessorText {kind : PointAccessor} {arg : Expr} {text : String}
    (made : accessorText kind arg = .ok text) (coordinate : kind ≠ .coordSystem) :
    RegionFree arg.nodes := by
  cases kind with
  | coord1 | coord2 =>
      obtain ⟨_, rendered, -⟩ := bind_eq_ok_iff.mp made
      exact arg.regionFree_of_render rendered
  | coordSystem => exact absurd rfl coordinate

/-- A function is kept under some name with its arguments, or its text takes all of them. -/
theorem functionRewrite_eq_ok {name : String} {args : List Expr} {rewrite : Rewrite Expr}
    (made : functionRewrite name args = .ok rewrite) :
    (∃ other, rewrite = .keep (.function other args)) ∨
      (∃ text, rewrite = .text text) ∧ RegionFree (exprNodes args) := by
  unfold functionRewrite at made
  cases known : renamed? (Text.upperAscii name) with
  | some other =>
      simp only [known] at made
      cases made
      exact .inl ⟨other, rfl⟩
  | none =>
      simp only [known] at made
      split at made
      · match args with
        | [] =>
            cases made
            exact .inr ⟨⟨_, rfl⟩, List.forall_mem_nil _⟩
        | [seed] =>
            obtain ⟨_, rendered, made⟩ := bind_eq_ok_iff.mp made
            cases made
            exact .inr ⟨⟨_, rfl⟩, regionFree_singleton (seed.regionFree_of_render rendered)⟩
        | _ :: _ :: _ => cases made
      · split at made
        · match args with
          | [arg] =>
              obtain ⟨_, rendered, made⟩ := bind_eq_ok_iff.mp made
              cases made
              exact .inr ⟨⟨_, rfl⟩, regionFree_singleton (arg.regionFree_of_render rendered)⟩
          | [] | _ :: _ :: _ => cases made
        · cases made
          exact .inl ⟨name, rfl⟩

theorem regionFree_of_distanceText {config : DialectConfig} {args : List Expr} {text : String}
    (made : distanceText config args = .ok text) : RegionFree (exprNodes args) := by
  unfold distanceText at made
  split at made
  · obtain ⟨_, rendered, -⟩ := bind_eq_ok_iff.mp made
    exact regionFree_of_renderExprs rendered
  · obtain ⟨_, rendered, -⟩ := bind_eq_ok_iff.mp made
    exact regionFree_of_renderExprs rendered
  · cases made

theorem regionFree_of_centroidText {config : DialectConfig} {args : List Expr} {text : String}
    (made : centroidText config args = .ok text) : RegionFree (exprNodes args) := by
  match args with
  | [arg] =>
      obtain ⟨_, rendered, -⟩ := bind_eq_ok_iff.mp made
      exact regionFree_singleton (arg.regionFree_of_render rendered)
  | [] | _ :: _ :: _ => cases made

/-- A condition is made of the text of a geometry test and a number. -/
theorem testCondition_sides {lhs rhs : Expr} {op : CompareOp} {text : String}
    (made : testCondition lhs op rhs = .ok text) :
    (∃ truth, lhs.asNumber? = some truth) ∧ rhs.isPredicateText = true ∨
      lhs.isPredicateText = true ∧ ∃ truth, rhs.asNumber? = some truth := by
  unfold testCondition at made
  split at made
  · next truth number _ =>
      split at made
      · next marked => exact .inl ⟨⟨truth, number⟩, marked⟩
      · cases made
  · next truth _ number =>
      split at made
      · next marked => exact .inr ⟨marked, truth, number⟩
      · cases made
  · cases made

theorem regionFree_of_testCondition {lhs rhs : Expr} {op : CompareOp} {text : String}
    (made : testCondition lhs op rhs = .ok text) :
    RegionFree lhs.nodes ∧ RegionFree rhs.nodes := by
  have ofText {expr : Expr} (marked : expr.isPredicateText = true) : RegionFree expr.nodes := by
    cases expr with
    | sql => exact List.forall_mem_singleton.mpr rfl
    | _ => cases marked
  rcases testCondition_sides made with ⟨⟨_, number⟩, marked⟩ | ⟨marked, _, number⟩
  · exact ⟨lhs.regionFree_of_asNumber? number, ofText marked⟩
  · exact ⟨ofText marked, rhs.regionFree_of_asNumber? number⟩

theorem regionFree_of_renderSelect {query : Query} {text : String}
    (made : query.renderSelect = .ok text) : RegionFree query.nodes :=
  regionFaults_eq_nil_iff.mp (query.renderSelect_verdict.ok_iff.mp ⟨text, made⟩)

theorem regionFree_of_renderDerived {statement : Statement} {name text : String}
    (made : renderDerived statement name = .ok text) : RegionFree statement.nodes := by
  obtain ⟨_, rendered, -⟩ := bind_eq_ok_iff.mp made
  exact statement.regionFree_of_render rendered

end Text

section Search

/-- A search is asked for by a test for a point in a shape, with the arity of both right. -/
theorem search?_eq_some_iff {test : GeometryTest} {lhs rhs : Expr} {search : Search} :
    search? test lhs rhs = some search ↔
      test = .contains ∧ ∃ source target, sameFrame source target = true ∧
        search.shape.takes search.args.length = true ∧
        lhs = .geometry .point source [search.x, search.y] ∧
        rhs = .geometry search.shape target search.args := by
  constructor
  · intro asked
    unfold search? at asked
    split at asked
    · next source x y shape target args =>
        split at asked
        · next accepted =>
            obtain ⟨valid, same⟩ := Bool.and_eq_true_iff.mp accepted
            cases asked
            exact ⟨rfl, source, target, same, valid, rfl, rfl⟩
        · cases asked
    · cases asked
  · intro ⟨contains, source, target, same, valid, left, right⟩
    subst contains left right
    simp only [search?, valid, same, Bool.and_self, if_true]

/-- The expressions that are rendered for a search. There is no call for a point; the coordinates of
the point that is looked for are rendered all the same. -/
def Search.operands (search : Search) : List Expr :=
  search.x :: search.y :: if search.shape = .point then [] else search.args

/-- The call for a search exists unless there is a region in what is rendered for it, and it is a
call of the index unless a point is searched. -/
theorem Search.call?_verdict (config : DialectConfig) (search : Search)
    (valid : search.shape.takes search.args.length = true) :
    ∃ nodes, (∀ node, node ∈ nodes ↔ node ∈ exprNodes search.operands) ∧
      Verdict (fun call => call.isSome = true ↔ search.shape ≠ .point) (search.call? config)
        (regionFaults nodes) := by
  obtain ⟨x, y, shape, args⟩ := search
  cases shape with
  | point =>
      refine ⟨x.nodes ++ y.nodes, by simp [Search.operands, readExprs], ?_⟩
      rw [regionFaults_append, ← List.append_nil (regionFaults y.nodes)]
      exact x.render_verdict.bind fun _ => y.render_verdict.bind fun _ => .made (by simp)
  | circle =>
      obtain ⟨centerX, centerY, radius, rfl⟩ :=
        List.length_eq_three.mp (by simpa [Shape.takes] using valid)
      refine ⟨x.nodes ++ (y.nodes ++ (centerX.nodes ++ (centerY.nodes ++ (radius.nodes ++ [])))),
        by simp [Search.operands, readExprs], ?_⟩
      simp only [regionFaults_append]
      exact x.render_verdict.bind fun _ => y.render_verdict.bind fun _ =>
        centerX.render_verdict.bind fun _ => centerY.render_verdict.bind fun _ =>
          radius.render_verdict.bind fun _ => .made (by simp)
  | box =>
      obtain ⟨centerX, centerY, width, height, rfl⟩ := exists_box_args valid
      -- Both corners render the center and the extents.
      have across := corner_verdict centerX width
      have along := corner_verdict centerY height
      refine ⟨x.nodes ++ (y.nodes ++ ((centerX.nodes ++ width.nodes) ++
        ((centerY.nodes ++ height.nodes) ++ ((centerX.nodes ++ width.nodes) ++
          ((centerY.nodes ++ height.nodes) ++ []))))), ?_, ?_⟩
      · intro node
        simp only [Search.operands, readExprs, List.mem_append, reduceCtorEq, if_false]
        grind
      · simp only [regionFaults_append] at across along ⊢
        exact x.render_verdict.bind fun _ => y.render_verdict.bind fun _ =>
          across.1.bind fun _ => along.1.bind fun _ => across.2.bind fun _ =>
            along.2.bind fun _ => .made (by simp)
  | polygon =>
      refine ⟨x.nodes ++ (y.nodes ++ (exprNodes args ++ [])), by simp [Search.operands, readExprs],
        ?_⟩
      have list : Verdict (fun _ => True) (renderList args) (regionFaults (exprNodes args)) :=
        (renderExprs_verdict args).bind_pure
      simp only [regionFaults_append]
      exact x.render_verdict.bind fun _ => y.render_verdict.bind fun _ =>
        list.bind fun _ => .made (by simp)

theorem Search.call?_ok_iff (config : DialectConfig) {search : Search}
    (valid : search.shape.takes search.args.length = true) :
    (∃ call, search.call? config = .ok call) ↔ RegionFree (exprNodes search.operands) := by
  obtain ⟨nodes, same, verdict⟩ := search.call?_verdict config valid
  simp only [verdict.ok_iff, regionFaults_eq_nil_iff, RegionFree, same]

theorem Search.call?_eq_error {config : DialectConfig} {search : Search} {e : Error}
    (valid : search.shape.takes search.args.length = true)
    (found : search.call? config = .error e) : ∃ text, e = .unresolvedRegion text := by
  obtain ⟨nodes, -, verdict⟩ := search.call?_verdict config valid
  cases faults : regionFaults nodes with
  | nil =>
      obtain ⟨call, made⟩ := verdict.ok_iff.mpr faults
      rw [found] at made
      cases made
  | cons first rest =>
      rw [faults, found] at verdict
      cases verdict
      exact regionFaults_eq_cons faults

theorem Search.regionFree_operands_iff {search : Search} :
    RegionFree (exprNodes search.operands) ↔ RegionFree (exprNodes [search.x, search.y]) ∧
      (search.shape ≠ .point → RegionFree (exprNodes search.args)) := by
  by_cases point : search.shape = .point
  · simp [Search.operands, readExprs, point]
  · simp only [Search.operands, readExprs, point, if_false, RegionFree, List.forall_mem_append,
      List.append_nil, and_assoc, ne_eq, not_false_eq_true, true_implies]

/-- The call of the index takes everything that the test is made of. -/
theorem Search.regionFree_of_call {config : DialectConfig} {search : Search} {call : String}
    (valid : search.shape.takes search.args.length = true)
    (found : search.call? config = .ok (some call)) :
    RegionFree (exprNodes [search.x, search.y]) ∧ RegionFree (exprNodes search.args) := by
  have taken := (Search.call?_ok_iff config valid).mp ⟨_, found⟩
  obtain ⟨inPoint, inShape⟩ := Search.regionFree_operands_iff.mp taken
  obtain ⟨_, -, verdict⟩ := search.call?_verdict config valid
  exact ⟨inPoint, inShape ((verdict.holds found).mp rfl)⟩

end Search

end SkySql
