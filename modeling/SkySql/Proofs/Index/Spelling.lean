import SkySql.Proofs.Exposure
import SkySql.Proofs.Index.Eligibility
import SkySql.Proofs.Index.Refinement
import SkySql.Proofs.Outcome

set_option autoImplicit false

/-!
How the coordinates of a search are spelled. The index pass makes text of them before the dialect pass
has seen them, so they are spelled as in the query, and not as in the database: a logarithm stays
`LOG`, and an unresolved region that the dialect pass would have had no use for stops the search. For
coordinates that are spelled alike in both, this makes no difference.
-/

namespace SkySql

/-- What the index pass leaves in the place of expressions: no warning, and no region is lost. -/
structure Retained (before after : List Expr) (warnings : List String) : Prop where
  silent : warnings = []
  regions : Preserved before after

namespace Retained

variable {before before' after after' : List Expr} {warnings first second : List String}

theorem append (start : Retained before before' first) (rest : Retained after after' second) :
    Retained (before ++ after) (before' ++ after') (first ++ second) where
  silent := by rw [start.silent, rest.silent, List.append_nil]
  regions := preserved_append start.regions rest.regions

theorem additive : Correspondence.Additive Retained := ⟨⟨rfl, id⟩, append⟩

theorem kept {node node' : Expr} (operands : Retained before after warnings)
    (other : node.isRegion = false) : Retained (before ++ [node]) (after ++ [node']) warnings :=
  ⟨operands.silent, preserved_kept operands.regions other⟩

end Retained

/-- No walk of the index pass warns or loses a region. -/
def retention : Correspondence where
  expr source result warnings := Retained source.nodes result.nodes warnings
  statement source result warnings := Retained source.nodes result.nodes warnings
  table source result warnings := Retained source.nodes result.nodes warnings

section Retention

open Correspondence

variable {warnings : List String}

theorem retention_exprs {sources results : List Expr}
    (each : Each retention.expr sources results warnings) :
    Retained (exprNodes sources) (exprNodes results) warnings :=
  each.read Retained.additive everywhere fun _ _ _ inner => inner

theorem retention_structural : retention.Structural fun _ => True where
  leaf _ _ := ⟨rfl, id⟩
  binary _ left right := Retained.kept (Retained.append left right) rfl
  unary _ inner := Retained.kept inner rfl
  subquery _ inner := Retained.kept inner rfl
  setOperation left right := Retained.append left right
  statementText _ := Retained.additive.nil
  table _ _ := Retained.additive.nil
  join left right spec := by
    refine Retained.append left (Retained.append right ?_)
    exact spec.read Retained.additive everywhere fun _ _ _ inner => inner
  tableText _ := Retained.additive.nil

theorem retention_congruent : retention.Congruent fun _ => True where
  toStructural := retention_structural
  geometry _ each := (retention_exprs each).kept rfl
  accessor _ inner := Retained.kept inner rfl
  function _ each := (retention_exprs each).kept rfl
  geometryFunction _ each := (retention_exprs each).kept rfl
  comparison _ left right _ := Retained.kept (Retained.append left right) rfl
  select inner :=
    inner.read Retained.additive everywhere (fun _ _ _ inner => inner) fun _ _ _ inner => inner
  derived _ inner := inner

theorem retention_indexPass (config : DialectConfig) :
    retention.Closed (indexPass config) (fun _ => True) fun _ => True := by
  apply retention_congruent.closed_indexPass
  · intro test lhs rhs lhs' rhs' first second _ left right _
    exact Retained.kept (Retained.append left right) rfl
  · intro test lhs rhs lhs' rhs' search first second _ left right asked
    apply fitting_of_eq_ok fun _ => trivial
    intro call found
    cases call with
    | none => exact Retained.kept (Retained.append left right) rfl
    | some call =>
        obtain ⟨-, source, target, -, valid, rfl, rfl⟩ := search?_eq_some_iff.mp asked
        obtain ⟨inPoint, inShape⟩ := search.regionFree_of_call valid found
        refine ⟨(Retained.append left right).silent, fun _ => ?_⟩
        exact regionFree_pair (left.regions (regionFree_with inPoint rfl))
          (right.regions (regionFree_with inShape rfl)) rfl
  · intro lhs op rhs lhs' rhs' first second _ left right _
    apply fitting_of_eq_ok fun _ => trivial
    intro text made
    obtain ⟨inLeft, inRight⟩ := regionFree_of_testCondition made
    refine ⟨(Retained.append left right).silent, fun _ => ?_⟩
    exact regionFree_pair (left.regions inLeft) (right.regions inRight) rfl

end Retention

/-- An expression that is spelled alike in a query and in the database, as far as its operands are. -/
def Expr.isNative : Expr → Bool
  | .literal _ | .column _ | .binary .. | .unary .. | .comparison ..
  | .geometryFunction .area _ => true
  | .function name _ =>
      (renamed? (Text.upperAscii name)).isNone && Text.upperAscii name != "RAND" &&
        Text.upperAscii name != "SQUARE"
  | .sql fragment => !fragment.predicate
  | _ => false

theorem functionRewrite_of_isNative {name : String} {args : List Expr} (other : List Expr)
    (native : (Expr.function name args).isNative = true) :
    functionRewrite name other = .ok (.keep (.function name other)) := by
  simp only [Expr.isNative, Bool.and_eq_true, Option.isNone_iff_eq_none, bne_iff_ne] at native
  obtain ⟨⟨same, notRand⟩, notSquare⟩ := native
  unfold functionRewrite
  simp only [same, notRand, notSquare, if_false]

/-- An expression in the place of another that leaves the texts around it as they are. -/
structure Alike (source result : Expr) : Prop where
  rendered : result.render = source.render
  operation : result.isOperation = source.isOperation
  unmarked : result.isPredicateText = false

theorem Alike.operand {source result : Expr} (alike : Alike source result) (text : String) :
    operandText result text = operandText source text := by
  rw [operandText, operandText, alike.operation]

/-- Native expressions have no statements and tables in them. -/
def spelling : Correspondence where
  expr source result _ := Alike source result
  statement _ _ _ := True
  table _ _ _ := True

section Spelling

open Correspondence

variable {warnings : List String}

theorem spelling_exprs {sources results : List Expr}
    (each : Each spelling.expr sources results warnings) :
    renderExprs results = renderExprs sources := by
  induction each with
  | nil => rfl
  | cons head _ inductionHypothesis =>
      rw [renderExprs, head.rendered, inductionHypothesis, renderExprs]

theorem spelling_structural : spelling.Structural (·.isNative = true) where
  leaf {expr} leaf native := by
    refine ⟨rfl, rfl, ?_⟩
    cases expr with
    | sql fragment => simpa [Expr.isNative, Expr.isPredicateText] using native
    | _ => rfl
  binary _ left right :=
    ⟨by simp only [Expr.render, left.rendered, right.rendered, left.operand, right.operand],
      rfl, rfl⟩
  unary {op _ _ _} _ inner := by
    refine ⟨?_, rfl, rfl⟩
    cases op <;> simp only [Expr.render, inner.rendered, inner.operand]
  subquery native _ := nomatch native
  setOperation _ _ := trivial
  statementText _ := trivial
  table _ _ := trivial
  join _ _ _ := trivial
  tableText _ := trivial

theorem spelling_dialectPass (config : DialectConfig) :
    spelling.Closed (dialectPass config) (·.isNative = true) fun _ => True where
  toStructural := spelling_structural
  geometry native _ := nomatch native
  predicate native _ _ := nomatch native
  accessor native _ := nomatch native
  function {_ _ args' _} native each := by
    apply Rule.Fits.lifted
    rw [functionRewrite_of_isNative args' native]
    exact ⟨by simp only [Rewrite.settle, Expr.render, spelling_exprs each], rfl, rfl⟩
  geometryFunction {kind _ _ _} native each := by
    cases kind with
    | area =>
        apply Rule.Fits.warned
        exact ⟨by simp only [Expr.render, spelling_exprs each], rfl, rfl⟩
    | _ => cases native
  comparison _ left right := by
    apply Rule.Fits.comparison rfl
    · intro marked
      rw [left.unmarked, right.unmarked] at marked
      cases marked
    · intro _
      exact ⟨by simp only [Expr.render, left.rendered, right.rendered, left.operand,
        right.operand], rfl, rfl⟩
  query _ := by
    apply Rule.Fits.text
    exact fitting_of_eq_ok (fun _ => trivial) fun _ _ => trivial
  derived _ _ := by
    apply Rule.Fits.text
    exact fitting_of_eq_ok (fun _ => trivial) fun _ _ => trivial

end Spelling

/-- The call of the index for the texts of a point and of a circle or polygon. -/
def Shape.searchText (config : DialectConfig) : Shape → List String → String
  | .polygon, x :: y :: vertices =>
      callText config.indexPolyFunction [x, y, "ARRAY[" ++ Text.commaList vertices ++ "]"]
  | _, texts => callText config.indexJoinFunction texts

theorem Search.call?_eq (config : DialectConfig) {search : Search}
    (known : search.shape = .circle ∨ search.shape = .polygon)
    (valid : search.shape.takes search.args.length = true) :
    search.call? config = do
      return some (search.shape.searchText config
        (← renderExprs (search.x :: search.y :: search.args))) := by
  obtain ⟨x, y, shape, args⟩ := search
  rcases known with rfl | rfl
  · obtain ⟨centerX, centerY, radius, rfl⟩ :=
      List.length_eq_three.mp (by simpa [Shape.takes] using valid)
    simp only [Search.call?, renderExprs, bind_assoc, pure_bind, Shape.searchText]
    rfl
  · simp only [Search.call?, renderExprs, renderList, bind_assoc, pure_bind, Shape.searchText]

def rowsWhere (table : String) (condition : Expr) : Statement :=
  .select {
    items := [.star none]
    tables := [.table table none]
    condition := some condition }

theorem indexPass_rowsWhere (config : DialectConfig) (table : String) (condition : Expr) :
    (indexPass config).run (rowsWhere table condition) = do
      return ⟨rowsWhere table (← ((indexPass config).walkExpr condition).outcome), []⟩ := by
  have walked : (indexPass config).walkStatement (rowsWhere table condition) =
      (indexPass config).walkExpr condition >>= fun result => pure (rowsWhere table result) := by
    simp only [rowsWhere, Pass.walkStatement, Pass.walkQuery, Pass.walkItems, Pass.walkItem,
      Pass.walkTables, Pass.walkTable, Pass.walkOption, Pass.walkExprs, Pass.walkOrder, pure_bind,
      bind_assoc]
    rfl
  have confined := walkExpr_confined (indexPass_disciplined config) condition
  have fits := (retention_indexPass config).walkExpr condition fun _ _ => trivial
  rw [Pass.run, walked, Rule.apply_bind, confined.apply_eq []]
  cases found : ((indexPass config).walkExpr condition).outcome with
  | error e => rfl
  | ok result =>
      have silent := (fits.holds found).silent
      rw [silent]
      rfl

theorem dialectPass_rowsWhere (config : DialectConfig) (table text : String) :
    Pipeline.compile [dialectPass config] (rowsWhere table (.verbatim text)) =
      .ok ⟨"SELECT * FROM " ++ table ++ " WHERE " ++ text, []⟩ := by
  have sql : "SELECT" ++ "" ++ " " ++ "*" ++ (" " ++ "FROM" ++ " " ++ table ++
      (" " ++ "WHERE" ++ " " ++ text) ++ "" ++ "" ++ "") ++ "" ++ "" =
        "SELECT * FROM " ++ table ++ " WHERE " ++ text := by
    simp only [String.append_empty, ← String.append_assoc, String.reduceAppend]
  rw [← sql]
  rfl

/-- A search in a circle or polygon of valid arity, in frames that need no rotation. -/
structure DirectSearch extends Search where
  source : Option String
  target : Option String
  known : shape = .circle ∨ shape = .polygon
  valid : shape.takes args.length = true
  unrotated : Unrotated source target

namespace DirectSearch

variable (config : DialectConfig) (search : DirectSearch)

def coordinates : List Expr := search.x :: search.y :: search.args

def test : Expr :=
  .predicate .contains (.geometry .point search.source [search.x, search.y])
    (.geometry search.shape search.target search.args)

def statement (table : String) : Statement :=
  rowsWhere table (.comparison (.number "1") .eq search.test)

/-- The query with a call of the index, in which the coordinates are spelled as given. -/
def indexed (table : String) (texts : List String) : Compiled :=
  ⟨"SELECT * FROM " ++ table ++ " WHERE " ++ search.shape.searchText config texts, []⟩

/-- The rule of the index pass for the search. -/
theorem outcome_indexPredicate :
    (indexPredicate config .contains (.geometry .point search.source [search.x, search.y])
        (.geometry search.shape search.target search.args)).outcome = do
      return .text (search.shape.searchText config (← renderExprs search.coordinates)) := by
  have asked : search? .contains (.geometry .point search.source [search.x, search.y])
      (.geometry search.shape search.target search.args) = some search.toSearch :=
    search?_eq_some_iff.mpr ⟨rfl, search.source, search.target,
      sameFrame_iff.mpr search.unrotated, search.valid, rfl, rfl⟩
  rw [indexPredicate_outcome, asked]
  dsimp only
  rw [Search.call?_eq config search.known search.valid, coordinates]
  cases renderExprs (search.x :: search.y :: search.args) <;> rfl

theorem outcome_walkExpr_test :
    ((indexPass config).walkExpr search.test).outcome = do
      let coordinates ← ((indexPass config).walkExprs search.coordinates).outcome
      let texts ← renderExprs coordinates
      return .sql { text := search.shape.searchText config texts, predicate := true } := by
  have disciplined := indexPass_disciplined config
  rw [test, outcome_walkExpr_predicate disciplined, outcome_walkExpr_geometry disciplined,
    outcome_walkExpr_geometry disciplined, coordinates]
  simp only [outcome_walkExprs_cons disciplined]
  rcases ((indexPass config).walkExpr search.x).outcome with e | x
  · rfl
  rcases ((indexPass config).walkExpr search.y).outcome with e | y
  · rfl
  cases walked : ((indexPass config).walkExprs search.args).outcome with
  | error e => rfl
  | ok args =>
      -- The walk keeps the number of arguments, so its result is a search of the same kind.
      have count := length_of_walkExprs disciplined walked
      let walkedSearch : DirectSearch :=
        { search with x, y, args, valid := by rw [count]; exact search.valid }
      have rule := walkedSearch.outcome_indexPredicate config
      change ((indexPredicate config .contains (.geometry .point search.source [x, y])
        (.geometry search.shape search.target args)).outcome >>= _) =
          (renderExprs (x :: y :: args) >>= _)
      rw [rule, coordinates]
      cases renderExprs (x :: y :: args) <;> rfl

/-- What the index pass leaves of the query: the call of the index, with the coordinates as they are
spelled after a walk over each of them. -/
theorem outcome_walkExpr_condition :
    ((indexPass config).walkExpr (.comparison (.number "1") .eq search.test)).outcome = do
      let coordinates ← ((indexPass config).walkExprs search.coordinates).outcome
      return .verbatim (search.shape.searchText config (← renderExprs coordinates)) := by
  rw [outcome_walkExpr_comparison (indexPass_disciplined config), search.outcome_walkExpr_test]
  rcases ((indexPass config).walkExprs search.coordinates).outcome with e | coordinates
  · rfl
  dsimp only [bind, Except.bind]
  cases renderExprs coordinates <;> rfl

/-- The search is compiled to a call of the index with the texts that the index pass alone leaves of
the coordinates. -/
theorem compile_eq (table : String) :
    compile { config with spatialIndex := true } (search.statement table) = do
      let coordinates ← ((indexPass config).walkExprs search.coordinates).outcome
      return search.indexed config table (← renderExprs coordinates) := by
  have ran := indexPass_rowsWhere config table (.comparison (.number "1") .eq search.test)
  rw [search.outcome_walkExpr_condition] at ran
  change Pipeline.compile [indexPass config, dialectPass config] (rowsWhere table _) = _
  rw [Pipeline.compile_cons_eq, ran]
  simp only [bind_assoc, pure_bind, dialectPass_rowsWhere]
  rfl

theorem compile_eq_ok_iff (table : String) {compiled : Compiled} :
    compile { config with spatialIndex := true } (search.statement table) = .ok compiled ↔
      ∃ spelled, (indexPass config).Spells search.coordinates spelled ∧
        compiled = search.indexed config table spelled := by
  simp only [search.compile_eq, spells_iff (indexPass_disciplined config), bind_eq_ok_iff]
  constructor
  · rintro ⟨coordinates, walked, spelled, rendered, same⟩
    cases same
    exact ⟨spelled, ⟨coordinates, walked, rendered⟩, rfl⟩
  · rintro ⟨spelled, ⟨coordinates, walked, rendered⟩, rfl⟩
    exact ⟨coordinates, walked, spelled, rendered, rfl⟩

end DirectSearch

def valueOf (expr : Expr) : Statement := .select { items := [.expr expr none] }

/-- The text that an expression has in the database, as the dialect pass alone compiles it. -/
def Translates (config : DialectConfig) (expr : Expr) (text : String) : Prop :=
  ∃ warnings, compile { config with spatialIndex := false } (valueOf expr) =
    .ok ⟨"SELECT " ++ text, warnings⟩

theorem nodes_valueOf (expr : Expr) : (valueOf expr).nodes = expr.nodes := by
  simp only [valueOf, Statement.nodes, Statement.read, Query.read, readItems, SelectItem.read,
    readTables, readOption, readExprs, readOrder, List.append_nil]
  rfl

theorem renderSelect_value (expr : Expr) :
    Query.renderSelect { items := [.expr expr none] } = do
      return "SELECT " ++ (← expr.render) := by
  have sql (text : String) :
      "SELECT" ++ "" ++ " " ++ text ++ ("" ++ "" ++ "" ++ "" ++ "") ++ "" ++ "" =
        "SELECT " ++ text := by
    simp only [String.append_empty, String.reduceAppend]
  rw [Query.renderSelect, Query.clauses]
  cases rendered : expr.render with
  | error e =>
      simp only [renderItems, SelectItem.render, rendered]
      rfl
  | ok text =>
      simp only [renderItems, SelectItem.render, rendered]
      exact congrArg Except.ok (sql text)

theorem dialectPass_valueOf (config : DialectConfig) (expr : Expr) :
    (dialectPass config).run (valueOf expr) = do
      return ⟨.sql ("SELECT " ++ (← (dialectPass config).text expr)),
        ((dialectPass config).walkExpr expr).warnings⟩ := by
  have walked : (dialectPass config).walkStatement (valueOf expr) =
      (dialectPass config).walkExpr expr >>= fun result =>
        Rule.settled ((dialectPass config).query { items := [.expr result none] }) .sql := by
    simp only [valueOf, Pass.walkStatement, Pass.walkQuery, Pass.walkItems, Pass.walkItem,
      Pass.walkTables, Pass.walkOption, Pass.walkExprs, Pass.walkOrder, pure_bind, bind_assoc]
  have settled (query : Query) (state : PassState) :
      (Rule.settled ((dialectPass config).query query) .sql).apply state =
        (query.renderSelect.map .sql, state) := by
    change Rule.apply
      (Rule.settled (do return .text (← query.renderSelect)) Statement.sql) state = _
    cases query.renderSelect <;> rfl
  have confined := walkExpr_confined (dialectPass_disciplined config) expr
  rw [Pass.run, walked, Rule.apply_bind, confined.apply_eq [], Pass.text]
  cases ((dialectPass config).walkExpr expr).outcome with
  | error e => rfl
  | ok result =>
      simp only [settled, renderSelect_value]
      dsimp only [bind, Except.bind]
      cases result.render <;> rfl

section Translation

variable {config : DialectConfig} {expr : Expr} {text : String}

theorem Translates.eq_ok (translates : Translates config expr text) :
    (dialectPass config).text expr = .ok text := by
  obtain ⟨warnings, found⟩ := translates
  change Pipeline.compile [dialectPass config] (valueOf expr) = _ at found
  rw [Pipeline.compile_cons_eq, dialectPass_valueOf] at found
  obtain ⟨output, ran, found⟩ := bind_eq_ok_iff.mp found
  obtain ⟨other, translated, ran⟩ := bind_eq_ok_iff.mp ran
  cases ran
  have sql : "SELECT " ++ other = "SELECT " ++ text :=
    congrArg Compiled.sql (Except.ok.inj found)
  rw [translated, (String.append_right_inj _).mp sql]

/-- The dialect pass accepts what it translates. -/
theorem Translates.sound (translates : Translates config expr text)
    (plain : RegionFree expr.nodes) : ∀ node ∈ expr.nodes, node.Sound := by
  obtain ⟨warnings, found⟩ := translates
  rw [← nodes_valueOf] at plain ⊢
  have direct := dialectPass_compile config (valueOf expr) plain
  replace found : Pipeline.compile [dialectPass config] (valueOf expr) = _ := found
  have accepted := (faults_eq_nil_iff config).mp (direct.ok_iff.mp ⟨_, found⟩)
  exact fun node membership => ⟨accepted node membership, plain node membership⟩

/-- The index pass has a text for every expression that can be translated, unless there is an
unresolved region in it. -/
theorem Translates.indexed_iff (translates : Translates config expr text) :
    (∃ spelled, (indexPass config).text expr = .ok spelled) ↔ RegionFree expr.nodes := by
  constructor
  · rintro ⟨spelled, found⟩
    obtain ⟨result, walked, rendered⟩ := bind_eq_ok_iff.mp found
    have retained : Retained expr.nodes result.nodes _ :=
      ((retention_indexPass config).walkExpr expr fun _ _ => trivial).holds walked
    exact retained.regions (result.regionFree_of_render rendered)
  · intro plain
    obtain ⟨result, walked, -, tamed⟩ :=
      ((refinement_indexPass config).walkExpr expr (translates.sound plain)).exists_ok
    obtain ⟨spelled, rendered⟩ := Expr.render_ok_iff.mpr tamed.regionFree
    exact ⟨spelled, bind_eq_ok_iff.mpr ⟨result, walked, rendered⟩⟩

/-- The index pass spells an expression as the query does, unless there is a search in it. -/
theorem Translates.indexed_eq_ok_iff (translates : Translates config expr text)
    (ordinary : ∀ node ∈ expr.nodes, ¬node.Eligible ∧ node.isPredicateText = false)
    {spelled : String} :
    (indexPass config).text expr = .ok spelled ↔ expr.render = .ok spelled := by
  have unchanged {spelled : String} (found : (indexPass config).text expr = .ok spelled) :
      expr.render = .ok spelled := by
    obtain ⟨result, walked, rendered⟩ := bind_eq_ok_iff.mp found
    have closed : identity.Closed (indexPass config) (Ineligible fun _ => True) fun _ => True :=
      identity_indexPass config
    have untouched : Untouched expr result _ :=
      (closed.walkExpr expr fun node membership =>
        ⟨(ordinary node membership).1, (ordinary node membership).2,
          .inr fun _ => trivial⟩).holds walked
    rw [← untouched.same]
    exact rendered
  refine ⟨unchanged, fun rendered => ?_⟩
  obtain ⟨other, found⟩ := translates.indexed_iff.mpr (expr.regionFree_of_render rendered)
  rw [unchanged found] at rendered
  cases rendered
  exact found

/-- The translation of a native expression is its text. -/
theorem Translates.render_of_native (translates : Translates config expr text)
    (native : ∀ node ∈ expr.nodes, node.isNative = true) : expr.render = .ok text := by
  obtain ⟨result, walked, rendered⟩ := bind_eq_ok_iff.mp translates.eq_ok
  have alike : Alike expr result :=
    ((spelling_dialectPass config).walkExpr expr native).holds walked
  rw [← alike.rendered]
  exact rendered

theorem ordinary_of_isNative (native : expr.isNative = true) :
    ¬expr.Eligible ∧ expr.isPredicateText = false := by
  constructor
  · rintro ⟨source, x, y, shape, target, args, rfl, -⟩
    cases native
  · cases expr with
    | sql fragment => simpa [Expr.isNative, Expr.isPredicateText] using native
    | _ => rfl

end Translation

section Coordinates

theorem renderExprs_eq_ok_iff {exprs : List Expr} {texts : List String} :
    renderExprs exprs = .ok texts ↔
      List.Forall₂ (fun expr text => expr.render = .ok text) exprs texts := by
  induction exprs generalizing texts with
  | nil =>
      constructor
      · rintro ⟨⟩
        exact .nil
      · rintro ⟨⟩
        rfl
  | cons expr rest inductionHypothesis =>
      constructor
      · intro rendered
        obtain ⟨text, own, rendered⟩ := bind_eq_ok_iff.mp rendered
        obtain ⟨others, later, rendered⟩ := bind_eq_ok_iff.mp rendered
        cases rendered
        exact .cons own (inductionHypothesis.mp later)
      · rintro (_ | ⟨own, others⟩)
        rw [renderExprs, own, inductionHypothesis.mpr others]
        rfl

variable {config : DialectConfig} {exprs : List Expr} {texts : List String}
  (translated : List.Forall₂ (Translates config) exprs texts)

include translated

theorem spells_iff_regionFree :
    (∃ spelled, (indexPass config).Spells exprs spelled) ↔ RegionFree (exprNodes exprs) := by
  induction translated with
  | nil => exact ⟨fun _ => List.forall_mem_nil _, fun _ => ⟨[], .nil⟩⟩
  | cons head _ inductionHypothesis =>
      constructor
      · rintro ⟨_, _ | ⟨own, others⟩⟩
        exact List.forall_mem_append.mpr
          ⟨head.indexed_iff.mp ⟨_, own⟩, inductionHypothesis.mp ⟨_, others⟩⟩
      · intro plain
        obtain ⟨inHead, inRest⟩ := List.forall_mem_append.mp plain
        obtain ⟨first, own⟩ := head.indexed_iff.mpr inHead
        obtain ⟨rest, others⟩ := inductionHypothesis.mpr inRest
        exact ⟨first :: rest, .cons own others⟩

theorem spells_iff_renderExprs
    (ordinary : ∀ node ∈ exprNodes exprs, ¬node.Eligible ∧ node.isPredicateText = false)
    {spelled : List String} :
    (indexPass config).Spells exprs spelled ↔ renderExprs exprs = .ok spelled := by
  rw [renderExprs_eq_ok_iff]
  induction translated generalizing spelled with
  | nil => exact List.forall₂_nil_left_iff.trans List.forall₂_nil_left_iff.symm
  | cons head _ inductionHypothesis =>
      obtain ⟨inHead, inRest⟩ := List.forall_mem_append.mp ordinary
      constructor
      · rintro (_ | ⟨own, others⟩)
        exact .cons ((head.indexed_eq_ok_iff inHead).mp own)
          ((inductionHypothesis inRest).mp others)
      · rintro (_ | ⟨own, others⟩)
        exact .cons ((head.indexed_eq_ok_iff inHead).mpr own)
          ((inductionHypothesis inRest).mpr others)

theorem renderExprs_of_native (native : ∀ node ∈ exprNodes exprs, node.isNative = true) :
    renderExprs exprs = .ok texts := by
  rw [renderExprs_eq_ok_iff]
  induction translated with
  | nil => exact .nil
  | cons head _ inductionHypothesis =>
      obtain ⟨inHead, inRest⟩ := List.forall_mem_append.mp native
      exact .cons (head.render_of_native inHead) (inductionHypothesis inRest)

end Coordinates

/-- A search whose coordinates can all be translated becomes a call of the index with the texts that
the index pass alone leaves of them. It can be compiled exactly if there is no unresolved region in
the coordinates. Their texts are those of the query, unless there is another search in them, and hence
their translations if they are native. -/
theorem compile_search_coordinates (config : DialectConfig) (table : String)
    (search : DirectSearch) (texts : List String)
    (translated : List.Forall₂ (Translates config) search.coordinates texts) :
    (∀ compiled,
      compile { config with spatialIndex := true } (search.statement table) = .ok compiled ↔
        ∃ spelled, (indexPass config).Spells search.coordinates spelled ∧
          compiled = search.indexed config table spelled) ∧
    ((∃ compiled,
        compile { config with spatialIndex := true } (search.statement table) = .ok compiled) ↔
      RegionFree (exprNodes search.coordinates)) ∧
    ((∀ node ∈ exprNodes search.coordinates, ¬node.Eligible ∧ node.isPredicateText = false) →
      ∀ spelled, (indexPass config).Spells search.coordinates spelled ↔
        renderExprs search.coordinates = .ok spelled) ∧
    ((∀ node ∈ exprNodes search.coordinates, node.isNative = true) →
      compile { config with spatialIndex := true } (search.statement table) =
        .ok (search.indexed config table texts)) := by
  refine ⟨fun compiled => search.compile_eq_ok_iff config table, ?_,
    fun ordinary spelled => spells_iff_renderExprs translated ordinary, fun native => ?_⟩
  · rw [← spells_iff_regionFree translated]
    constructor
    · rintro ⟨compiled, found⟩
      obtain ⟨spelled, spells, -⟩ := (search.compile_eq_ok_iff config table).mp found
      exact ⟨spelled, spells⟩
    · rintro ⟨spelled, spells⟩
      exact ⟨_, (search.compile_eq_ok_iff config table).mpr ⟨spelled, spells, rfl⟩⟩
  · have rendered := renderExprs_of_native translated native
    have spells := (spells_iff_renderExprs translated fun node membership =>
      ordinary_of_isNative (native node membership)).mpr rendered
    exact (search.compile_eq_ok_iff config table).mpr ⟨texts, spells, rfl⟩

/-- A search for points of which a logarithm is the first coordinate. -/
def logarithmSearch (logarithm : String) : DirectSearch where
  x := .function logarithm [.named "ra"]
  y := .named "dec"
  shape := .circle
  args := [.named "x", .named "y", .named "r"]
  source := none
  target := none
  known := .inl rfl
  valid := rfl
  unrotated := nofun

/-- A logarithm that is called alike in the query and in the database. -/
theorem compile_search_coordinates_logarithm :
    compile {} ((logarithmSearch "LN").statement "t") =
      .ok ⟨"SELECT * FROM t WHERE q3c_join(LN(ra), dec, x, y, r)", []⟩ :=
  (compile_search_coordinates {} "t" (logarithmSearch "LN") ["LN(ra)", "dec", "x", "y", "r"]
    (.cons ⟨[], rfl⟩ (.cons ⟨[], rfl⟩ (.cons ⟨[], rfl⟩ (.cons ⟨[], rfl⟩
      (.cons ⟨[], rfl⟩ .nil)))))).2.2.2 (by decide)

/-- A logarithm that is called differently has a translation, which the call of the index lacks. -/
theorem compile_search_keeps_logarithm :
    List.Forall₂ (Translates {}) (logarithmSearch "LOG").coordinates
      ["LN(ra)", "dec", "x", "y", "r"] ∧
    compile {} ((logarithmSearch "LOG").statement "t") =
      .ok ⟨"SELECT * FROM t WHERE q3c_join(LOG(ra), dec, x, y, r)", []⟩ ∧
    ((logarithmSearch "LOG").indexed {} "t" ["LN(ra)", "dec", "x", "y", "r"]).sql ≠
      "SELECT * FROM t WHERE q3c_join(LOG(ra), dec, x, y, r)" :=
  ⟨.cons ⟨[], rfl⟩ (.cons ⟨[], rfl⟩ (.cons ⟨[], rfl⟩ (.cons ⟨[], rfl⟩ (.cons ⟨[], rfl⟩ .nil)))),
    rfl, by decide⟩

end SkySql
