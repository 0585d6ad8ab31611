import SkySql.Pass.Session
import SkySql.Proofs.Walk

set_option autoImplicit false

/-!
What a walk visits. A pass that only looks at its nodes, keeps each of them and notes something down
for it in the warnings, shows where the walk has been: it comes by every node that there is a kind of
rule for, exactly once, its parts first, and gives the statement back as it was. A pass without rules
notes nothing down, so it can stand anywhere in a pipeline.
-/

namespace SkySql

namespace Rule

variable {α β : Type}

theorem apply_map (f : α → β) (rule : Rule α) (state : PassState) :
    (f <$> rule).apply state = ((rule.apply state).1.map f, (rule.apply state).2) := by
  rw [map_eq_pure_bind, apply_bind]
  rcases rule.apply state with ⟨e | a, after⟩ <;> rfl

theorem apply_of_map {f : α → β} {rule : Rule α} {state after : PassState} {a : α}
    (injective : Function.Injective f) (mapped : (f <$> rule).apply state = (.ok (f a), after)) :
    rule.apply state = (.ok a, after) := by
  rw [apply_map] at mapped
  rcases run : rule.apply state with ⟨e | b, later⟩
  · rw [run] at mapped
    cases mapped
  · rw [run] at mapped
    obtain ⟨found, same⟩ := Prod.mk.inj mapped
    have equal : f b = f a := Except.ok.inj found
    exact Prod.ext (congrArg Except.ok (injective equal)) same

/-- Whatever the state is, the rule gives `a` and adds `added` to the warnings. -/
def Adds (rule : Rule α) (a : α) (added : List String) : Prop :=
  ∀ state : PassState,
    rule.apply state = (.ok a, { state with warnings := state.warnings ++ added })

namespace Adds

variable {allowed : Error → Prop} {added : List String}

theorem settled {rule : Rule (Rewrite α)} {node : α} {wrap : String → α}
    {good : α → List String → Prop} (adds : rule.Adds (.keep node) added)
    (holds : good node added) : (rule.settled wrap).Fits allowed good := by
  intro earlier
  refine ⟨.ok node, added, ?_, holds⟩
  rw [apply_bind, adds]
  rfl

theorem settleTest {rule : Rule (Rewrite Expr)} {node : Expr} {good : Expr → List String → Prop}
    (adds : rule.Adds (.keep node) added) (holds : good node added) :
    rule.settleTest.Fits allowed good := by
  intro earlier
  refine ⟨.ok node, added, ?_, holds⟩
  rw [apply_bind, adds]
  rfl

/-- The request raised for a comparison is cleared when the rule is through. -/
theorem settleComparison {pass : Pass} {lhs rhs : Expr} {op : CompareOp}
    {good : Expr → List String → Prop}
    (adds : (pass.comparison lhs op rhs).Adds (.keep (.comparison lhs op rhs)) added)
    (holds : good (.comparison lhs op rhs) added) :
    (pass.settleComparison lhs op rhs).Fits allowed good := by
  intro earlier
  refine ⟨.ok (.comparison lhs op rhs), added, ?_, holds⟩
  rw [Pass.settleComparison]
  cases marked : (lhs.isPredicateText || rhs.isPredicateText) with
  | false =>
      rw [if_neg Bool.false_ne_true]
      dsimp only
      rw [apply_bind, adds]
      rfl
  | true =>
      rw [if_pos rfl, apply_bind, apply_raiseDiscard]
      dsimp only
      rw [apply_bind, adds]
      rfl

end Adds

end Rule

def Node.kept : Node → NodeRewrite
  | .geometry shape frame args => .expr (.keep (.geometry shape frame args))
  | .predicate test lhs rhs => .expr (.keep (.predicate test lhs rhs))
  | .accessor kind arg => .expr (.keep (.accessor kind arg))
  | .function name args => .expr (.keep (.function name args))
  | .geometryFunction kind args => .expr (.keep (.geometryFunction kind args))
  | .comparison lhs op rhs => .expr (.keep (.comparison lhs op rhs))
  | .query whole => .statement (.keep (.select whole))
  | .derived statement name => .table (.keep (.derived statement name))

/-- Every rule of the pass keeps the node it is given, leaves the request to drop a comparison as it
is, and adds what `report` says to the warnings. -/
def Pass.Observes (pass : Pass) (report : Node → List String) : Prop :=
  ∀ node, (pass.rule node).Adds node.kept (report node)

namespace Pass.Observes

variable {pass : Pass} {report : Node → List String} (observes : pass.Observes report)

include observes

theorem expr (node : Node) {rule : Rule (Rewrite Expr)} {expr : Expr}
    (isRule : pass.rule node = .expr <$> rule) (kept : node.kept = .expr (.keep expr)) :
    rule.Adds (.keep expr) (report node) := by
  intro state
  have run := observes node state
  rw [isRule, kept] at run
  exact Rule.apply_of_map (fun _ _ same => NodeRewrite.expr.inj same) run

theorem query (query : Query) :
    (pass.query query).Adds (.keep (.select query)) (report (.query query)) := by
  intro state
  exact Rule.apply_of_map (fun _ _ same => NodeRewrite.statement.inj same)
    (observes (.query query) state)

theorem derived (statement : Statement) (name : String) :
    (pass.derived statement name).Adds (.keep (.derived statement name))
      (report (.derived statement name)) := by
  intro state
  exact Rule.apply_of_map (fun _ _ same => NodeRewrite.table.inj same)
    (observes (.derived statement name) state)

end Pass.Observes

/-- The node that an expression is to the rules, if there is a kind of rule for it. -/
def Expr.node? : Expr → Option Node
  | .geometry shape frame args => some (.geometry shape frame args)
  | .predicate test lhs rhs => some (.predicate test lhs rhs)
  | .accessor kind arg => some (.accessor kind arg)
  | .function name args => some (.function name args)
  | .geometryFunction kind args => some (.geometryFunction kind args)
  | .comparison lhs op rhs => some (.comparison lhs op rhs)
  | _ => none

/-- The nodes that rules apply to. -/
def ruling : Reading Node where
  expr expr inside := inside ++ expr.node?.toList
  query query inside := inside ++ [.query query]
  derived statement name inside := inside ++ [.derived statement name]

section Observation

open Correspondence

variable (report : Node → List String) {warnings : List String}

/-- The warnings of a walk that leaves everything as it is are the reports on the nodes. -/
def observation : Correspondence where
  expr source result warnings :=
    result = source ∧ warnings = (source.read ruling).flatMap report
  statement source result warnings :=
    result = source ∧ warnings = (source.read ruling).flatMap report
  table source result warnings :=
    result = source ∧ warnings = (source.read ruling).flatMap report

variable {report}

theorem reports_append {before after : List Node} {first second : List String}
    (reported : first = before.flatMap report) (further : second = after.flatMap report) :
    first ++ second = (before ++ after).flatMap report := by
  rw [List.flatMap_append, reported, further]

theorem reports_additive :
    Additive fun before _ warnings => warnings = before.flatMap report :=
  ⟨rfl, reports_append⟩

/-- The report on a node comes after those on its parts. -/
theorem reports_with {before : List Node} {first : List String} (node : Node)
    (reported : first = before.flatMap report) :
    first ++ report node = (before ++ [node]).flatMap report :=
  reports_append reported (List.flatMap_singleton report node).symm

/-- There is nothing to report on a node without a kind of rule. -/
theorem reports_without {before : List Node} {first : List String}
    (reported : first = before.flatMap report) : first = (before ++ []).flatMap report := by
  rw [List.append_nil, reported]

theorem observation_same (source result : Expr) (warnings : List String)
    (inner : (observation report).expr source result warnings) : result = source :=
  inner.1

theorem observation_reports (source result : Expr) (warnings : List String)
    (inner : (observation report).expr source result warnings) :
    warnings = (source.read ruling).flatMap report :=
  inner.2

theorem observation_exprs {sources results : List Expr}
    (each : Each (observation report).expr sources results warnings) :
    results = sources ∧ warnings = (readExprs ruling sources).flatMap report := by
  refine ⟨each.eq_of observation_same, ?_⟩
  exact each.read reports_additive ruling observation_reports

theorem observation_query {source result : Query}
    (query : (observation report).OfQuery source result warnings) :
    result = source ∧ warnings = (source.read ruling).flatMap report := by
  refine ⟨query.eq_of observation_same fun _ _ _ inner => inner.1, ?_⟩
  exact query.read reports_additive ruling observation_reports fun _ _ _ inner => inner.2

theorem observation_spec {source result : JoinSpec}
    (spec : (observation report).OfSpec source result warnings) :
    result = source ∧ warnings = (source.read ruling).flatMap report := by
  refine ⟨spec.eq_of observation_same, ?_⟩
  exact spec.read reports_additive ruling observation_reports

theorem observation_structural : (observation report).Structural fun _ => True where
  leaf {expr} leaf _ := by
    refine ⟨rfl, ?_⟩
    cases expr with
    | literal | column | sql | region => rfl
    | _ => cases leaf
  binary _ left right := by
    rw [left.1, right.1]
    exact ⟨rfl, reports_without (reports_append left.2 right.2)⟩
  unary _ inner := by
    rw [inner.1]
    exact ⟨rfl, reports_without inner.2⟩
  subquery _ inner := by
    rw [inner.1]
    exact ⟨rfl, reports_without inner.2⟩
  setOperation left right := by
    rw [left.1, right.1]
    exact ⟨rfl, reports_append left.2 right.2⟩
  statementText _ := ⟨rfl, rfl⟩
  table _ _ := ⟨rfl, rfl⟩
  join left right spec := by
    obtain ⟨same, reported⟩ := observation_spec spec
    rw [left.1, right.1, same]
    exact ⟨rfl, reports_append left.2 (reports_append right.2 reported)⟩
  tableText _ := ⟨rfl, rfl⟩

theorem observation_closed {pass : Pass} (observes : pass.Observes report) :
    (observation report).Closed pass (fun _ => True) fun _ => False where
  toStructural := observation_structural
  geometry {shape frame _ _ _} _ each := by
    obtain ⟨same, reported⟩ := observation_exprs each
    rw [same]
    apply (observes.expr (.geometry shape frame _) rfl rfl).settled
    exact ⟨rfl, reports_with (.geometry shape frame _) reported⟩
  predicate {test lhs rhs _ _ _ _} _ left right := by
    rw [left.1, right.1]
    apply (observes.expr (.predicate test lhs rhs) rfl rfl).settleTest
    rw [← List.append_assoc]
    exact ⟨rfl, reports_with (.predicate test lhs rhs) (reports_append left.2 right.2)⟩
  accessor {kind arg _ _} _ inner := by
    rw [inner.1]
    apply (observes.expr (.accessor kind arg) rfl rfl).settled
    exact ⟨rfl, reports_with (.accessor kind arg) inner.2⟩
  function {name _ _ _} _ each := by
    obtain ⟨same, reported⟩ := observation_exprs each
    rw [same]
    apply (observes.expr (.function name _) rfl rfl).settled
    exact ⟨rfl, reports_with (.function name _) reported⟩
  geometryFunction {kind _ _ _} _ each := by
    obtain ⟨same, reported⟩ := observation_exprs each
    rw [same]
    apply (observes.expr (.geometryFunction kind _) rfl rfl).settled
    exact ⟨rfl, reports_with (.geometryFunction kind _) reported⟩
  comparison {lhs op rhs _ _ _ _} _ left right := by
    rw [left.1, right.1]
    apply (observes.expr (.comparison lhs op rhs) rfl rfl).settleComparison
    rw [← List.append_assoc]
    exact ⟨rfl, reports_with (.comparison lhs op rhs) (reports_append left.2 right.2)⟩
  query {query _ _} inner := by
    obtain ⟨same, reported⟩ := observation_query inner
    rw [same]
    apply (observes.query query).settled
    exact ⟨rfl, reports_with (.query query) reported⟩
  derived {statement _ _} name inner := by
    rw [inner.1]
    apply (observes.derived statement name).settled
    exact ⟨rfl, reports_with (.derived statement name) inner.2⟩

end Observation

theorem Pass.Observes.run {pass : Pass} {report : Node → List String}
    (observes : pass.Observes report) (statement : Statement) :
    pass.run statement = .ok ⟨statement, (statement.read ruling).flatMap report⟩ := by
  have fitting := (observation_closed observes).run statement fun _ _ => trivial
  cases ran : pass.run statement with
  | error e =>
      rw [ran] at fitting
      exact fitting.elim
  | ok output =>
      rw [ran] at fitting
      obtain ⟨same, reported⟩ := fitting
      rw [← reported, ← same]

/-- A pass without rules has nothing to report. -/
theorem observes_of_no_rules (name : String) : Pass.Observes { name } fun _ => [] := by
  intro node state
  rw [List.append_nil]
  cases node <;> rfl

theorem run_of_no_rules (name : String) (statement : Statement) :
    Pass.run { name } statement = .ok ⟨statement, []⟩ := by
  have nothing : (statement.read ruling).flatMap (fun _ => ([] : List String)) = [] :=
    List.flatMap_eq_nil_iff.mpr fun _ _ => rfl
  rw [(observes_of_no_rules name).run, nothing]

namespace Pipeline

/-- A pass that leaves every statement as it is makes no difference at the front. -/
theorem run_cons_of_idle {pass : Pass} (idle : ∀ statement, pass.run statement = .ok ⟨statement, []⟩)
    (rest : Pipeline) (statement : Statement) : run (pass :: rest) statement = run rest statement := by
  simp only [run, idle, bind, Except.bind]
  cases run rest statement <;> rfl

/-- Nor does it anywhere else. -/
theorem run_insert_of_idle {pass : Pass}
    (idle : ∀ statement, pass.run statement = .ok ⟨statement, []⟩) (before after : Pipeline)
    (statement : Statement) :
    run (before ++ pass :: after) statement = run (before ++ after) statement := by
  induction before generalizing statement with
  | nil => exact run_cons_of_idle idle after statement
  | cons first rest inductionHypothesis =>
      rw [List.cons_append, List.cons_append, run, run]
      simp only [inductionHypothesis]

end Pipeline

/-- A pass that keeps every node and reports on it leaves the statement as it is, and its warnings are
the reports on all nodes that there are rules for, each once and after its parts. A pass without rules
leaves the statement as it is without a warning, wherever in a pipeline it stands. -/
theorem walk_visits_each_node_once :
    (∀ (pass : Pass) (report : Node → List String), pass.Observes report →
      ∀ statement : Statement,
        pass.run statement = .ok ⟨statement, (statement.read ruling).flatMap report⟩) ∧
    ∀ (name : String) (statement : Statement),
      Pass.run { name } statement = .ok ⟨statement, []⟩ ∧
      ∀ before after : Pipeline,
        Pipeline.run (before ++ { name } :: after) statement =
          Pipeline.run (before ++ after) statement ∧
        Pipeline.compile (before ++ { name } :: after) statement =
          Pipeline.compile (before ++ after) statement := by
  constructor
  · intro pass report observes statement
    exact observes.run statement
  · intro name statement
    refine ⟨run_of_no_rules name statement, ?_⟩
    intro before after
    have inserted := Pipeline.run_insert_of_idle (run_of_no_rules name) before after statement
    exact ⟨inserted, by rw [Pipeline.compile, inserted, Pipeline.compile]⟩

/-- A pass that notes down the names of functions and derived tables, and the ends of queries. -/
def tracer : Pass where
  name := "tracer"
  function name args := do
    Rule.warn name
    return .keep (.function name args)
  query query := do
    Rule.warn "query"
    return .keep (.select query)
  derived statement name := do
    Rule.warn name
    return .keep (.derived statement name)

def tracerReport : Node → List String
  | .function name _ => [name]
  | .query _ => ["query"]
  | .derived _ name => [name]
  | _ => []

theorem tracer_observes : tracer.Observes tracerReport := by
  intro node state
  cases node with
  | function | query | derived => rfl
  | _ =>
      simp only [tracerReport, List.append_nil]
      rfl

/-- The functions of a select item before the derived table, and its query before the whole. -/
theorem walk_visits_each_node_once_tracer :
    tracer.run (.select {
        items := [.expr (.function "f" [.function "g" [.named "x"]]) none],
        tables := [.derived (.select { items := [.expr (.function "h" [.named "y"]) none] }) "d"] }) =
      .ok ⟨.select {
        items := [.expr (.function "f" [.function "g" [.named "x"]]) none],
        tables := [.derived (.select { items := [.expr (.function "h" [.named "y"]) none] }) "d"] },
        ["g", "f", "h", "query", "d", "query"]⟩ :=
  walk_visits_each_node_once.1 tracer tracerReport tracer_observes _

end SkySql
