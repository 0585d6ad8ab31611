import SkySql.Dialect.Compile
import SkySql.Proofs.Rendering
import SkySql.Proofs.Walk

set_option autoImplicit false

/-!
An unresolved region never reaches SQL. A walk passes over regions, and only rendering refuses them,
often in another pass and several levels above the region. But every rule that puts text in the place
of a node has rendered all its operands, with one exception: the name of a coordinate system is
written without looking at the point. So a region that is not inside such an argument stays in sight
of the rendering until the end.
-/

namespace SkySql

/-- All expressions in sight: what an accessor for the coordinate system is applied to is not. -/
abbrev inSight : Reading Expr := outsideOf fun
  | .accessor .coordSystem _ => true
  | _ => false

abbrev Expr.exposed (expr : Expr) : List Expr := expr.read inSight

abbrev Statement.exposed (statement : Statement) : List Expr := statement.read inSight

/-- All of `nodes` are in sight or inside the argument of an accessor for the coordinate system that
is itself in sight, and nothing else is in sight. -/
structure Sights (exposed nodes : List Expr) : Prop where
  subset : ∀ node ∈ exposed, node ∈ nodes
  cover : ∀ node ∈ nodes, node ∈ exposed ∨
    ∃ arg, .accessor .coordSystem arg ∈ exposed ∧ node ∈ arg.nodes

namespace Sights

theorem refl (nodes : List Expr) : Sights nodes nodes :=
  ⟨fun _ membership => membership, fun _ membership => .inl membership⟩

theorem append {before before' after after' : List Expr} (first : Sights before before')
    (second : Sights after after') : Sights (before ++ after) (before' ++ after') where
  subset node membership := by
    rcases List.mem_append.mp membership with inFirst | inSecond
    · exact List.mem_append_left _ (first.subset node inFirst)
    · exact List.mem_append_right _ (second.subset node inSecond)
  cover node membership := by
    rcases List.mem_append.mp membership with inFirst | inSecond
    · rcases first.cover node inFirst with seen | ⟨arg, accessor, inside⟩
      · exact .inl (List.mem_append_left _ seen)
      · exact .inr ⟨arg, List.mem_append_left _ accessor, inside⟩
    · rcases second.cover node inSecond with seen | ⟨arg, accessor, inside⟩
      · exact .inl (List.mem_append_right _ seen)
      · exact .inr ⟨arg, List.mem_append_right _ accessor, inside⟩

theorem coordSystem (arg : Expr) :
    Sights [.accessor .coordSystem arg] (arg.nodes ++ [.accessor .coordSystem arg]) where
  subset node membership := List.mem_append_right _ membership
  cover node membership := by
    rcases List.mem_append.mp membership with inside | whole
    · exact .inr ⟨arg, List.mem_singleton_self _, inside⟩
    · exact .inl whole

end Sights

mutual

theorem Expr.sights (expr : Expr) : Sights expr.exposed expr.nodes := by
  match expr with
  | .literal _ | .column _ | .sql _ | .region _ => exact .refl _
  | .geometry _ _ args | .function _ args | .geometryFunction _ args =>
      exact (exprs_sights args).append (.refl _)
  | .predicate _ lhs rhs | .comparison lhs _ rhs | .binary lhs _ rhs =>
      exact (lhs.sights.append rhs.sights).append (.refl _)
  | .accessor .coordSystem arg => exact .coordSystem arg
  | .accessor .coord1 arg | .accessor .coord2 arg => exact arg.sights.append (.refl _)
  | .unary _ operand => exact operand.sights.append (.refl _)
  | .subquery statement => exact statement.sights.append (.refl _)

theorem exprs_sights (exprs : List Expr) : Sights (readExprs inSight exprs) (exprNodes exprs) := by
  match exprs with
  | [] => exact .refl _
  | expr :: rest => exact expr.sights.append (exprs_sights rest)

theorem option_sights (option : Option Expr) :
    Sights (readOption inSight option) (readOption everywhere option) := by
  match option with
  | none => exact .refl _
  | some expr => exact expr.sights

theorem Statement.sights (statement : Statement) : Sights statement.exposed statement.nodes := by
  match statement with
  | .select query => exact query.sights
  | .setOperation _ _ lhs rhs => exact lhs.sights.append rhs.sights
  | .sql _ => exact .refl _

theorem Query.sights (query : Query) : Sights (query.read inSight) query.nodes := by
  match query with
  | { items, tables, condition, groupBy, having, orderBy, .. } =>
      exact (items_sights items).append ((tables_sights tables).append
        ((option_sights condition).append ((exprs_sights groupBy).append
          ((option_sights having).append (order_sights orderBy)))))

theorem items_sights (items : List SelectItem) :
    Sights (readItems inSight items) (readItems everywhere items) := by
  match items with
  | [] => exact .refl _
  | .star _ :: rest => exact (Sights.refl []).append (items_sights rest)
  | .expr expr _ :: rest => exact expr.sights.append (items_sights rest)

theorem order_sights (order : List OrderItem) :
    Sights (readOrder inSight order) (readOrder everywhere order) := by
  match order with
  | [] => exact .refl _
  | { expr, .. } :: rest => exact expr.sights.append (order_sights rest)

theorem TableRef.sights (table : TableRef) : Sights (table.read inSight) table.nodes := by
  match table with
  | .table _ _ | .sql _ => exact .refl _
  | .derived statement _ => exact statement.sights
  | .join left _ right spec => exact left.sights.append (right.sights.append spec.sights)

theorem tables_sights (tables : List TableRef) :
    Sights (readTables inSight tables) (readTables everywhere tables) := by
  match tables with
  | [] => exact .refl _
  | table :: rest => exact table.sights.append (tables_sights rest)

theorem JoinSpec.sights (spec : JoinSpec) :
    Sights (spec.read inSight) (spec.read everywhere) := by
  match spec with
  | .on condition => exact condition.sights
  | .using _ | .natural | .none => exact .refl _

end

/-- If there is a region among the expressions in sight before, there is one afterwards. -/
def Preserved (before after : List Expr) : Prop := RegionFree after → RegionFree before

theorem preserved_append {before before' after after' : List Expr} (first : Preserved before before')
    (second : Preserved after after') : Preserved (before ++ after) (before' ++ after') := by
  intro clear
  obtain ⟨inFirst, inSecond⟩ := List.forall_mem_append.mp clear
  exact List.forall_mem_append.mpr ⟨first inFirst, second inSecond⟩

theorem preserved_additive : Correspondence.Additive fun before after _ => Preserved before after :=
  ⟨id, preserved_append⟩

theorem regionFree_with {nodes : List Expr} {node : Expr} (clear : RegionFree nodes)
    (other : node.isRegion = false) : RegionFree (nodes ++ [node]) :=
  List.forall_mem_append.mpr ⟨clear, List.forall_mem_singleton.mpr other⟩

theorem regionFree_pair {lhs rhs : List Expr} {node : Expr} (inLeft : RegionFree lhs)
    (inRight : RegionFree rhs) (other : node.isRegion = false) :
    RegionFree ((lhs ++ rhs) ++ [node]) :=
  regionFree_with (List.forall_mem_append.mpr ⟨inLeft, inRight⟩) other

theorem preserved_kept {before after : List Expr} {node node' : Expr}
    (operands : Preserved before after) (other : node.isRegion = false) :
    Preserved (before ++ [node]) (after ++ [node']) :=
  preserved_append operands fun _ => List.forall_mem_singleton.mpr other

/-- No walk puts a region out of sight. -/
def exposure : Correspondence where
  expr source result _ := Preserved source.exposed result.exposed
  statement source result _ := Preserved source.exposed result.exposed
  table source result _ := Preserved (source.read inSight) (result.read inSight)

theorem Sights.regionFree {exposed nodes : List Expr} (sights : Sights exposed nodes)
    (rendered : RegionFree nodes) : RegionFree exposed :=
  fun node membership => rendered node (sights.subset node membership)

section Exposure

open Correspondence

variable {warnings first second added : List String}

theorem exposure_exprs {sources results : List Expr}
    (each : Each exposure.expr sources results warnings) :
    Preserved (readExprs inSight sources) (readExprs inSight results) :=
  each.read preserved_additive inSight fun _ _ _ inner => inner

theorem exposure_query {source result : Query} (query : exposure.OfQuery source result warnings) :
    Preserved (source.read inSight) (result.read inSight) :=
  query.read preserved_additive inSight (fun _ _ _ inner => inner) fun _ _ _ inner => inner

theorem exposure_spec {source result : JoinSpec} (spec : exposure.OfSpec source result warnings) :
    Preserved (source.read inSight) (result.read inSight) :=
  spec.read preserved_additive inSight fun _ _ _ inner => inner

theorem exposure_structural : exposure.Structural fun _ => True where
  leaf _ _ := id
  binary _ left right := preserved_kept (preserved_append left right) rfl
  unary _ inner := preserved_kept inner rfl
  subquery _ inner := preserved_kept inner rfl
  setOperation left right := preserved_append left right
  statementText _ := id
  table _ _ := id
  join left right spec := preserved_append left (preserved_append right (exposure_spec spec))
  tableText _ := id

theorem exposure_congruent : exposure.Congruent fun _ => True where
  toStructural := exposure_structural
  geometry _ each := preserved_kept (exposure_exprs each) rfl
  accessor {kind _ _ _} _ inner := by
    cases kind with
    | coord1 | coord2 => exact preserved_kept inner rfl
    | coordSystem => exact fun _ => List.forall_mem_singleton.mpr rfl
  function _ each := preserved_kept (exposure_exprs each) rfl
  geometryFunction _ each := preserved_kept (exposure_exprs each) rfl
  comparison _ left right _ := preserved_kept (preserved_append left right) rfl
  select inner := exposure_query inner
  derived _ inner := inner

/-- A comparison in the place of which there is text has been rendered. -/
theorem exposure_comparison {lhs rhs lhs' rhs' : Expr} {op : CompareOp} {text : String}
    (left : exposure.expr lhs lhs' first) (right : exposure.expr rhs rhs' second)
    (made : testCondition lhs' op rhs' = .ok text) :
    exposure.expr (.comparison lhs op rhs) (.verbatim text) added := by
  obtain ⟨inLeft, inRight⟩ := regionFree_of_testCondition made
  intro _
  exact regionFree_pair (left (lhs'.sights.regionFree inLeft))
    (right (rhs'.sights.regionFree inRight)) rfl

/-- A geometry test in the place of which there is text has been rendered. -/
theorem exposure_predicate {test : GeometryTest} {lhs rhs lhs' rhs' : Expr} {text : Fragment}
    (left : exposure.expr lhs lhs' first) (right : exposure.expr rhs rhs' second)
    (inLeft : RegionFree lhs'.nodes) (inRight : RegionFree rhs'.nodes) :
    exposure.expr (.predicate test lhs rhs) (.sql text) added := by
  intro _
  exact regionFree_pair (left (lhs'.sights.regionFree inLeft))
    (right (rhs'.sights.regionFree inRight)) rfl

theorem exposure_indexPass (config : DialectConfig) :
    exposure.Closed (indexPass config) (fun _ => True) fun _ => True := by
  apply exposure_congruent.closed_indexPass
  · intro test lhs rhs lhs' rhs' first second _ left right _
    exact preserved_kept (preserved_append left right) rfl
  · intro test lhs rhs lhs' rhs' search first second _ left right asked
    apply fitting_of_eq_ok fun _ => trivial
    intro call found
    cases call with
    | none => exact preserved_kept (preserved_append left right) rfl
    | some call =>
        obtain ⟨-, source, target, -, valid, rfl, rfl⟩ := search?_eq_some_iff.mp asked
        obtain ⟨inPoint, inShape⟩ := search.regionFree_of_call valid found
        exact exposure_predicate left right (regionFree_with inPoint rfl)
          (regionFree_with inShape rfl)
  · intro lhs op rhs lhs' rhs' first second _ left right _
    apply fitting_of_eq_ok fun _ => trivial
    intro text made
    exact exposure_comparison left right made

theorem exposure_dialectPass (config : DialectConfig) :
    exposure.Closed (dialectPass config) (fun _ => True) fun _ => True where
  toStructural := exposure_structural
  geometry {_ _ _ args' _} _ each := by
    apply Rule.Fits.text
    apply fitting_of_eq_ok fun _ => trivial
    intro text made _
    have rendered := (exprs_sights args').regionFree (regionFree_of_geometryText made)
    exact regionFree_with (exposure_exprs each rendered) rfl
  predicate _ left right := by
    apply Rule.Fits.test
    apply fitting_of_eq_ok fun _ => trivial
    intro text made
    obtain ⟨inLeft, inRight⟩ := regionFree_of_testText made
    exact exposure_predicate left right inLeft inRight
  accessor {kind _ arg' _} _ inner := by
    apply Rule.Fits.text
    apply fitting_of_eq_ok fun _ => trivial
    intro text made _
    cases kind with
    | coordSystem => exact List.forall_mem_singleton.mpr rfl
    | coord1 | coord2 =>
        have rendered := regionFree_of_accessorText made (by decide)
        exact regionFree_with (inner (arg'.sights.regionFree rendered)) rfl
  function {_ _ args' _} _ each := by
    apply Rule.Fits.lifted
    apply fitting_of_eq_ok fun _ => trivial
    intro rewrite made
    rcases functionRewrite_eq_ok made with ⟨other, rfl⟩ | ⟨⟨text, rfl⟩, rendered⟩
    · exact preserved_kept (exposure_exprs each) rfl
    · have clear := exposure_exprs each ((exprs_sights args').regionFree rendered)
      exact fun _ => regionFree_with clear rfl
  geometryFunction {kind _ args' _} _ each := by
    have settled (rendered : RegionFree (exprNodes args')) :=
      exposure_exprs each ((exprs_sights args').regionFree rendered)
    cases kind with
    | area =>
        apply Rule.Fits.warned
        exact preserved_kept (exposure_exprs each) rfl
    | distance =>
        apply Rule.Fits.text
        apply fitting_of_eq_ok fun _ => trivial
        intro text made _
        exact regionFree_with (settled (regionFree_of_distanceText made)) rfl
    | centroid =>
        apply Rule.Fits.text
        apply fitting_of_eq_ok fun _ => trivial
        intro text made _
        exact regionFree_with (settled (regionFree_of_centroidText made)) rfl
    | region => exact fun earlier => ⟨.error _, [], by rw [List.append_nil]; rfl, trivial⟩
  comparison _ left right := by
    apply Rule.Fits.comparison rfl
    · intro _
      apply fitting_of_eq_ok fun _ => trivial
      intro text made
      exact exposure_comparison left right made
    · intro _
      exact preserved_kept (preserved_append left right) rfl
  query {_ query' _} inner := by
    apply Rule.Fits.text
    apply fitting_of_eq_ok fun _ => trivial
    intro text made _
    exact exposure_query inner (query'.sights.regionFree (regionFree_of_renderSelect made))
  derived {_ statement' _} name inner := by
    apply Rule.Fits.text
    apply fitting_of_eq_ok fun _ => trivial
    intro text made _
    exact inner (statement'.sights.regionFree (regionFree_of_renderDerived made))

end Exposure

/-- A pipeline of passes none of which puts a region out of sight does not either. -/
theorem Pipeline.exposed_of_run {passes : Pipeline} {statement : Statement} {output : PassOutput}
    (closed : ∀ pass ∈ passes, exposure.Closed pass (fun _ => True) fun _ => True)
    (found : passes.run statement = .ok output) :
    Preserved statement.exposed output.statement.exposed :=
  exposure.run_pipeline (fun _ => id) (fun first second clear => first (second clear)) closed found

theorem exposure_pipeline (config : DialectConfig) :
    ∀ pass ∈ pipeline config, exposure.Closed pass (fun _ => True) fun _ => True :=
  forall_mem_pipeline (exposure_indexPass config) (exposure_dialectPass config)

/-- A statement can be compiled only if every unresolved region in it is inside the argument of an
accessor for the coordinate system. -/
theorem compile_shields_regions (config : DialectConfig) (statement : Statement)
    (compiled : Compiled) (found : compile config statement = .ok compiled) :
    (∀ node ∈ statement.exposed, node.isRegion = false) ∧
    ∀ node ∈ statement.nodes, node.isRegion = true →
      ∃ arg, .accessor .coordSystem arg ∈ statement.exposed ∧ node ∈ arg.nodes := by
  obtain ⟨output, ran, found⟩ := bind_eq_ok_iff.mp found
  obtain ⟨text, rendered, -⟩ := bind_eq_ok_iff.mp found
  have last := output.statement.sights.regionFree (output.statement.regionFree_of_render rendered)
  have clear := Pipeline.exposed_of_run (exposure_pipeline config) ran last
  refine ⟨clear, ?_⟩
  intro node membership region
  rcases statement.sights.cover node membership with seen | shielded
  · have other := clear node seen
    rw [region] at other
    cases other
  · exact shielded

/-- The coordinate system of a region can be asked for. -/
theorem compile_shields_regions_coordSystem :
    ∃ arg, .accessor .coordSystem arg ∈
        (Statement.select { items :=
          [.expr (.accessor .coordSystem (.region ⟨.not, none, []⟩)) none] }).exposed ∧
      .region ⟨.not, none, []⟩ ∈ arg.nodes :=
  (compile_shields_regions {} _ ⟨"SELECT 'unknown'", []⟩ rfl).2 _ (.head _) rfl

end SkySql
