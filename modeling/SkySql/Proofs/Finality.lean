import SkySql.Dialect.Compile
import SkySql.Proofs.Warnings

set_option autoImplicit false

/-!
The dialect pass leaves nothing to do. Every query at the top of a statement becomes text, and text is
not entered again; only the set operations around the queries stay. So no pass that comes later finds
a node to rewrite, whatever its rules are, and in particular no function is renamed a second time.
-/

namespace SkySql

theorem Rule.apply_bind_eq_ok {α β : Type} {rule : Rule α} {next : α → Rule β}
    {state after : PassState} {b : β} (found : (rule >>= next).apply state = (.ok b, after)) :
    ∃ a between, rule.apply state = (.ok a, between) ∧ (next a).apply between = (.ok b, after) := by
  rw [apply_bind] at found
  rcases run : rule.apply state with ⟨e | a, between⟩
  · rw [run] at found
    cases found
  · rw [run] at found
    exact ⟨a, between, rfl, found⟩

/-- A statement with text in the place of each query, under the same set operations. -/
inductive Flattened : Statement → Statement → Prop
  | select (query : Query) (text : String) : Flattened (.select query) (.sql text)
  | setOperation {lhs rhs lhs' rhs' : Statement} (op : SetOp) (all : Bool) :
      Flattened lhs lhs' → Flattened rhs rhs' →
        Flattened (.setOperation op all lhs rhs) (.setOperation op all lhs' rhs')
  | text (text : String) : Flattened (.sql text) (.sql text)

theorem flattened_of_walk (config : DialectConfig) (statement : Statement) {result : Statement}
    {state after : PassState}
    (walked : ((dialectPass config).walkStatement statement).apply state = (.ok result, after)) :
    Flattened statement result := by
  match statement with
  | .sql text =>
      cases walked
      exact .text text
  | .setOperation op all lhs rhs =>
      obtain ⟨lhs', between, left, walked⟩ := Rule.apply_bind_eq_ok walked
      obtain ⟨rhs', last, right, walked⟩ := Rule.apply_bind_eq_ok walked
      cases walked
      exact .setOperation op all (flattened_of_walk config lhs left)
        (flattened_of_walk config rhs right)
  | .select query =>
      obtain ⟨query', between, -, walked⟩ := Rule.apply_bind_eq_ok walked
      obtain ⟨rewrite, last, rule, walked⟩ := Rule.apply_bind_eq_ok walked
      obtain ⟨text, _, -, rule⟩ := Rule.apply_bind_eq_ok rule
      cases rule
      cases walked
      exact .select query text

namespace Flattened

variable {source result : Statement} (flattened : Flattened source result)

include flattened

/-- No rule is called on a walk over text. -/
theorem walkStatement (pass : Pass) : pass.walkStatement result = pure result := by
  induction flattened with
  | select _ text => rfl
  | text text => rfl
  | setOperation op all _ _ left right =>
      rw [Pass.walkStatement, left, pure_bind, right, pure_bind]

theorem run (pass : Pass) : pass.run result = .ok ⟨result, []⟩ := by
  rw [Pass.run, flattened.walkStatement]
  rfl

theorem run_pipeline (passes : Pipeline) : passes.run result = .ok ⟨result, []⟩ := by
  induction passes with
  | nil => rfl
  | cons pass rest inductionHypothesis =>
      rw [Pipeline.run, flattened.run]
      change (Pipeline.run rest result >>= _) = _
      rw [inductionHypothesis]
      rfl

theorem render : ∃ text, result.render = .ok text := by
  induction flattened with
  | select _ text => exact ⟨text, rfl⟩
  | text text => exact ⟨text, rfl⟩
  | setOperation op all _ _ left right =>
      obtain ⟨leftText, leftRendered⟩ := left
      obtain ⟨rightText, rightRendered⟩ := right
      exact ⟨_, by rw [Statement.render, leftRendered, rightRendered]; rfl⟩

end Flattened

theorem dialectPass_flattens {config : DialectConfig} {statement : Statement} {output : PassOutput}
    (ran : (dialectPass config).run statement = .ok output) :
    Flattened statement output.statement := by
  rw [Pass.run] at ran
  rcases walked : ((dialectPass config).walkStatement statement).apply {} with ⟨e | result, after⟩
  · rw [walked] at ran
    cases ran
  · rw [walked] at ran
    cases ran
    exact flattened_of_walk config statement walked

/-- Where the dialect pass succeeds, it leaves text under the set operations that were at the top of
the statement, and this can be rendered. Any passes run after it make no difference to the outcome. -/
theorem dialectPass_is_final (config : DialectConfig) (statement : Statement) :
    (∀ output, (dialectPass config).run statement = .ok output →
      Flattened statement output.statement ∧
      ∃ sql, output.statement.render = .ok sql ∧
        Pipeline.compile [dialectPass config] statement = .ok ⟨sql, output.warnings⟩) ∧
    ∀ further : Pipeline,
      Pipeline.compile (dialectPass config :: further) statement =
        Pipeline.compile [dialectPass config] statement := by
  constructor
  · intro output ran
    have flattened := dialectPass_flattens ran
    obtain ⟨sql, rendered⟩ := flattened.render
    refine ⟨flattened, sql, rendered, ?_⟩
    rw [Pipeline.compile_cons ran, Pipeline.compile, Pipeline.run]
    change Except.map _ (output.statement.render >>= _) = _
    rw [rendered]
    simp [bind, Except.bind, Except.map, pure, Except.pure]
  · intro further
    cases ran : (dialectPass config).run statement with
    | error e => simp only [Pipeline.compile, Pipeline.run, ran, bind, Except.bind]
    | ok output =>
        have flattened := dialectPass_flattens ran
        rw [Pipeline.compile_cons ran, Pipeline.compile_cons ran, Pipeline.compile,
          flattened.run_pipeline, Pipeline.compile, Pipeline.run]

/-- A logarithm that could be renamed twice, next to text. -/
def logarithmUnion : Statement :=
  .setOperation .union true (.select { items := [.expr (.function "LOG10" [.named "x"]) none] })
    (.sql "TABLE t")

/-- It is renamed once, whatever passes follow. -/
theorem dialectPass_is_final_logarithm :
    Flattened logarithmUnion (.setOperation .union true (.sql "SELECT LOG(x)") (.sql "TABLE t")) ∧
    Pipeline.compile [dialectPass {}, indexPass {}, dialectPass {}, Pass.noop] logarithmUnion =
      .ok ⟨"(SELECT LOG(x)) UNION ALL (TABLE t)", []⟩ :=
  ⟨((dialectPass_is_final {} logarithmUnion).1 ⟨_, []⟩ rfl).1,
    ((dialectPass_is_final {} logarithmUnion).2 [indexPass {}, dialectPass {}, Pass.noop]).trans rfl⟩

end SkySql
