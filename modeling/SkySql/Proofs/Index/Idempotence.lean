import SkySql.Proofs.Index.Eligibility

set_option autoImplicit false

/-!
The index pass is through after one run. What it leaves is settled: no test is eligible, no
comparison has the text of a test on a side, and no test of a point against a point has a region in
the coordinates that are rendered for it, or the run would have failed. On settled expressions the
pass has nothing to do, so a second run leaves everything as it is.
-/

namespace SkySql

/-- A comparison that has the text of a geometry test on a side. -/
def Expr.comparesText : Expr → Bool
  | .comparison lhs _ rhs => lhs.isPredicateText || rhs.isPredicateText
  | _ => false

/-- An expression that the index pass has nothing to do with, apart from its operands. -/
structure Expr.Settled (expr : Expr) : Prop where
  ineligible : ¬expr.Eligible
  apart : expr.comparesText = false
  clear : expr.Clear

theorem Expr.settled_of_search?_none {expr : Expr} (unasked : expr.search? = none)
    (apart : expr.comparesText = false) : expr.Settled where
  ineligible eligible := by
    obtain ⟨search, asked, -⟩ := Expr.eligible_iff.mp eligible
    rw [unasked] at asked
    cases asked
  apart := apart
  clear := Expr.clear_of_search?_none unasked

/-- Settled expressions that were arrived at without a warning. -/
structure Done (nodes : List Expr) (warnings : List String) : Prop where
  silent : warnings = []
  settled : ∀ node ∈ nodes, node.Settled

namespace Done

variable {before after : List Expr} {warnings first second : List String} {node : Expr}

theorem append (start : Done before first) (rest : Done after second) :
    Done (before ++ after) (first ++ second) where
  silent := by rw [start.silent, rest.silent, List.append_nil]
  settled := List.forall_mem_append.mpr ⟨start.settled, rest.settled⟩

theorem nil : Done [] [] := ⟨rfl, List.forall_mem_nil _⟩

theorem additive : Correspondence.Additive fun _ after warnings => Done after warnings :=
  ⟨nil, append⟩

theorem kept (operands : Done before warnings) (settled : node.Settled) :
    Done (before ++ [node]) warnings :=
  ⟨operands.silent,
    List.forall_mem_append.mpr ⟨operands.settled, List.forall_mem_singleton.mpr settled⟩⟩

theorem ordinary (operands : Done before warnings) (unasked : node.search? = none)
    (apart : node.comparesText = false) : Done (before ++ [node]) warnings :=
  operands.kept (Expr.settled_of_search?_none unasked apart)

/-- Text in the place of a node whose operands came without a warning. -/
theorem text (start : Done before first) (rest : Done after second) (fragment : Fragment) :
    Done (Expr.sql fragment).nodes (first ++ second) where
  silent := (start.append rest).silent
  settled := List.forall_mem_singleton.mpr (Expr.settled_of_search?_none rfl rfl)

end Done

/-- What the index pass leaves is settled. What was settled `already` is left as it is. -/
def settling (already : Prop) : Correspondence where
  expr source result warnings := Done result.nodes warnings ∧ (already → result = source)
  statement source result warnings := Done result.nodes warnings ∧ (already → result = source)
  table source result warnings := Done result.nodes warnings ∧ (already → result = source)

section Settling

open Correspondence

variable {already : Prop} {warnings : List String}

theorem settling_same (settled : already) (source result : Expr) (warnings : List String)
    (inner : (settling already).expr source result warnings) : result = source :=
  inner.2 settled

theorem settling_done (source result : Expr) (warnings : List String)
    (inner : (settling already).expr source result warnings) : Done result.nodes warnings :=
  inner.1

theorem settling_exprs {sources results : List Expr}
    (each : Each (settling already).expr sources results warnings) :
    Done (exprNodes results) warnings ∧ (already → results = sources) := by
  refine ⟨?_, fun settled => each.eq_of (settling_same settled)⟩
  exact each.read Done.additive everywhere settling_done

theorem settling_query {source result : Query}
    (query : (settling already).OfQuery source result warnings) :
    Done result.nodes warnings ∧ (already → result = source) := by
  refine ⟨?_, fun settled => query.eq_of (settling_same settled) fun _ _ _ inner => inner.2 settled⟩
  exact query.read Done.additive everywhere settling_done fun _ _ _ inner => inner.1

theorem settling_spec {source result : JoinSpec}
    (spec : (settling already).OfSpec source result warnings) :
    Done (result.read everywhere) warnings ∧ (already → result = source) := by
  refine ⟨?_, fun settled => spec.eq_of (settling_same settled)⟩
  exact spec.read Done.additive everywhere settling_done

theorem settling_structural : (settling already).Structural fun expr => already → expr.Settled where
  leaf {expr} leaf _ := by
    refine ⟨⟨rfl, ?_⟩, fun _ => rfl⟩
    cases expr with
    | literal | column | sql | region =>
        exact List.forall_mem_singleton.mpr (Expr.settled_of_search?_none rfl rfl)
    | _ => cases leaf
  binary _ left right :=
    ⟨(left.1.append right.1).ordinary rfl rfl, fun settled => by
      rw [left.2 settled, right.2 settled]⟩
  unary _ inner := ⟨inner.1.ordinary rfl rfl, fun settled => by rw [inner.2 settled]⟩
  subquery _ inner := ⟨inner.1.ordinary rfl rfl, fun settled => by rw [inner.2 settled]⟩
  setOperation left right :=
    ⟨left.1.append right.1, fun settled => by rw [left.2 settled, right.2 settled]⟩
  statementText _ := ⟨.nil, fun _ => rfl⟩
  table _ _ := ⟨.nil, fun _ => rfl⟩
  join left right spec := by
    obtain ⟨done, same⟩ := settling_spec spec
    exact ⟨left.1.append (right.1.append done), fun settled => by
      rw [left.2 settled, right.2 settled, same settled]⟩
  tableText _ := ⟨.nil, fun _ => rfl⟩

theorem settling_congruent : (settling already).Congruent fun expr => already → expr.Settled where
  toStructural := settling_structural
  geometry _ each := by
    obtain ⟨done, same⟩ := settling_exprs each
    exact ⟨done.ordinary rfl rfl, fun settled => by rw [same settled]⟩
  accessor _ inner := ⟨inner.1.ordinary rfl rfl, fun settled => by rw [inner.2 settled]⟩
  function _ each := by
    obtain ⟨done, same⟩ := settling_exprs each
    exact ⟨done.ordinary rfl rfl, fun settled => by rw [same settled]⟩
  geometryFunction _ each := by
    obtain ⟨done, same⟩ := settling_exprs each
    exact ⟨done.ordinary rfl rfl, fun settled => by rw [same settled]⟩
  comparison _ left right apart :=
    ⟨(left.1.append right.1).ordinary rfl apart, fun settled => by
      rw [left.2 settled, right.2 settled]⟩
  select inner := by
    obtain ⟨done, same⟩ := settling_query inner
    exact ⟨done, fun settled => by rw [same settled]⟩
  derived _ inner := ⟨inner.1, fun settled => by rw [inner.2 settled]⟩

/-- A test that a search is asked for and that is kept all the same is one of a point against a
point, with no region in the coordinates. -/
theorem settled_of_call?_none {config : DialectConfig} {test : GeometryTest} {lhs rhs : Expr}
    {search : Search} (asked : search? test lhs rhs = some search)
    (found : search.call? config = .ok none) : (Expr.predicate test lhs rhs).Settled := by
  obtain ⟨-, _, _, -, valid, -, -⟩ := search?_eq_some_iff.mp asked
  obtain ⟨_, -, verdict⟩ := search.call?_verdict config valid
  have point : search.shape = .point := by
    by_contra other
    cases (verdict.holds found).mpr other
  have rendered := (Search.call?_ok_iff config valid).mp ⟨none, found⟩
  have only {other : Search} (same : (Expr.predicate test lhs rhs).search? = some other) :
      other = search := by
    cases asked.symm.trans same
    rfl
  refine ⟨?_, rfl, Expr.clear_iff.mpr ?_⟩
  · intro eligible
    obtain ⟨other, same, shape⟩ := Expr.eligible_iff.mp eligible
    rw [only same] at shape
    exact shape point
  · intro other same _
    rw [only same]
    exact (Search.regionFree_operands_iff.mp rendered).1

/-- The errors are those of a run on what is not settled yet. -/
theorem settling_indexPass (config : DialectConfig) :
    (settling already).Closed (indexPass config) (fun expr => already → expr.Settled)
      fun _ => ¬already := by
  apply settling_congruent.closed_indexPass
  · intro test lhs rhs lhs' rhs' first second _ left right unasked
    exact ⟨(left.1.append right.1).ordinary unasked rfl, fun settled => by
      rw [left.2 settled, right.2 settled]⟩
  · intro test lhs rhs lhs' rhs' search first second fits left right asked
    obtain ⟨-, _, _, -, valid, -, -⟩ := search?_eq_some_iff.mp asked
    -- Of a settled test there is a search only if it is one for a point, and then no call is made.
    have uncalled (settled : already) :
        Fitting (fun _ => False) (fun call => call = none) (search.call? config) := by
      rw [left.2 settled, right.2 settled] at asked
      have point : search.shape = .point := by
        by_contra other
        exact (fits settled).ineligible (Expr.eligible_iff.mpr ⟨search, asked, other⟩)
      have free := Expr.clear_iff.mp (fits settled).clear search asked point
      exact (Search.call?_of_point config valid point).mono (fun _ fault => fault.2 free)
        fun _ isNone => isNone.1
    cases found : search.call? config with
    | error e =>
        intro settled
        have none := uncalled settled
        rw [found] at none
        exact none
    | ok call =>
        cases call with
        | none =>
            exact ⟨(left.1.append right.1).kept (settled_of_call?_none asked found),
              fun settled => by rw [left.2 settled, right.2 settled]; rfl⟩
        | some call =>
            refine ⟨left.1.text right.1 _, fun settled => ?_⟩
            cases (uncalled settled).holds found
  · intro lhs op rhs lhs' rhs' first second fits left right marked
    have unsettled (settled : already) : False := by
      rw [left.2 settled, right.2 settled] at marked
      exact Bool.false_ne_true ((fits settled).apart.symm.trans marked)
    cases testCondition lhs' op rhs' with
    | error e => exact unsettled
    | ok text => exact ⟨left.1.text right.1 _, fun settled => (unsettled settled).elim⟩

end Settling

/-- A settled statement comes out of the index pass as it went in. -/
theorem indexPass_of_settled (config : DialectConfig) {statement : Statement}
    (settled : ∀ node ∈ statement.nodes, node.Settled) :
    (indexPass config).run statement = .ok ⟨statement, []⟩ := by
  have closed : (settling True).Closed (indexPass config) (fun expr => True → expr.Settled)
      fun _ => ¬True := settling_indexPass config
  have fitting := closed.run statement fun node membership _ => settled node membership
  cases ran : (indexPass config).run statement with
  | error e =>
      rw [ran] at fitting
      exact absurd trivial fitting
  | ok output =>
      rw [ran] at fitting
      obtain ⟨done, same⟩ := fitting
      rw [← same trivial, ← done.silent]

theorem settled_of_indexPass {config : DialectConfig} {statement : Statement} {output : PassOutput}
    (ran : (indexPass config).run statement = .ok output) :
    ∀ node ∈ output.statement.nodes, node.Settled := by
  have closed : (settling False).Closed (indexPass config) (fun expr => False → expr.Settled)
      fun _ => ¬False := settling_indexPass config
  exact ((closed.run statement fun _ _ => False.elim).holds ran).1.settled

/-- Where the index pass succeeds, it leaves no eligible test and no comparison with the text of a
test. A second run, of whatever configuration, leaves the statement as it is and has no warnings. -/
theorem indexPass_is_idempotent (config : DialectConfig) (statement : Statement)
    (output : PassOutput) (ran : (indexPass config).run statement = .ok output) :
    (∀ node ∈ output.statement.nodes, ¬node.Eligible) ∧
    (∀ lhs op rhs, .comparison lhs op rhs ∈ output.statement.nodes →
      lhs.isPredicateText = false ∧ rhs.isPredicateText = false) ∧
    ∀ other : DialectConfig,
      (indexPass other).run output.statement = .ok ⟨output.statement, []⟩ := by
  have settled := settled_of_indexPass ran
  refine ⟨fun node membership => (settled node membership).ineligible, ?_,
    fun other => indexPass_of_settled other settled⟩
  intro lhs op rhs membership
  have apart := (settled _ membership).apart
  exact Bool.or_eq_false_iff.mp apart

/-- A test of points next to a derived table with a condition. -/
def pointsBeside (condition : Expr) : Statement :=
  .select {
    items := [.expr (.predicate .contains (.geometry .point none [.named "ra", .named "dec"])
      (.geometry .point none [.number "0", .number "0"])) none]
    tables := [.derived (.select { items := [.star none], condition := some condition }) "d"] }

/-- A search in the derived table is made in the first run, and nothing in the second. -/
theorem indexPass_is_idempotent_derived :
    (indexPass {}).run (pointsBeside (.comparison (.number "1") .eq
        (.predicate .contains (.geometry .point none [.named "ra", .named "dec"])
          (.geometry .circle none [.named "x", .named "y", .named "r"])))) =
      .ok ⟨pointsBeside (.verbatim "q3c_join(ra, dec, x, y, r)"), []⟩ ∧
    (indexPass {}).run (pointsBeside (.verbatim "q3c_join(ra, dec, x, y, r)")) =
      .ok ⟨pointsBeside (.verbatim "q3c_join(ra, dec, x, y, r)"), []⟩ :=
  ⟨rfl, (indexPass_is_idempotent {} (pointsBeside (.comparison (.number "1") .eq
    (.predicate .contains (.geometry .point none [.named "ra", .named "dec"])
      (.geometry .circle none [.named "x", .named "y", .named "r"])))) _ rfl).2.2 {}⟩

end SkySql
