import SkySql.Proofs.Rendering
import SkySql.Proofs.Walk

set_option autoImplicit false

/-!
The outcomes of walks as equations. A walk that nothing before it disturbs has an outcome of its own,
and that of a node is put together from those of its operands and of its rule, without a state. What a
pass leaves of an expression then has a text, or does not.
-/

namespace SkySql

section Outcomes

variable {α : Type} {allowed : Error → Prop} {rule : Rule α} {good : α → List String → Prop}

theorem Rule.Fits.fitting (fits : rule.Fits allowed good) :
    Fitting allowed (good · rule.warnings) rule.outcome := by
  obtain ⟨result, added, run, fitting⟩ := fits []
  have fresh : rule.apply {} = (result, ⟨false, added⟩) := run
  rw [Rule.outcome, Rule.warnings, fresh]
  exact fitting

theorem Rule.Fits.holds {a : α} (fits : rule.Fits allowed good) (found : rule.outcome = .ok a) :
    good a rule.warnings := by
  have fitting := fits.fitting
  rw [found] at fitting
  exact fitting

/-- A rule without errors that may occur succeeds. -/
theorem Rule.Fits.exists_ok (fits : rule.Fits (fun _ => False) good) :
    ∃ a, rule.outcome = .ok a ∧ good a rule.warnings := by
  cases found : rule.outcome with
  | ok a => exact ⟨a, rfl, fits.holds found⟩
  | error e =>
      have fitting := fits.fitting
      rw [found] at fitting
      exact fitting.elim

end Outcomes

section Walk

variable {pass : Pass} (disciplined : pass.Disciplined)

include disciplined

theorem outcome_walkExprs_cons (expr : Expr) (exprs : List Expr) :
    (pass.walkExprs (expr :: exprs)).outcome = do
      return (← (pass.walkExpr expr).outcome) :: (← (pass.walkExprs exprs).outcome) := by
  have first := walkExpr_confined disciplined expr
  have later := walkExprs_confined disciplined exprs
  rw [Pass.walkExprs, Rule.outcome_bind first fun _ => later.map _]
  simp only [Rule.outcome_bind later fun _ => Rule.confined_pure _]
  rfl

theorem length_of_walkExprs {exprs results : List Expr}
    (found : (pass.walkExprs exprs).outcome = .ok results) : results.length = exprs.length := by
  induction exprs generalizing results with
  | nil =>
      cases found
      rfl
  | cons expr rest inductionHypothesis =>
      rw [outcome_walkExprs_cons disciplined] at found
      obtain ⟨result, -, found⟩ := bind_eq_ok_iff.mp found
      obtain ⟨others, walked, found⟩ := bind_eq_ok_iff.mp found
      cases found
      rw [List.length_cons, inductionHypothesis walked, List.length_cons]

theorem outcome_walkExpr_geometry (shape : Shape) (frame : Option String) (args : List Expr) :
    (pass.walkExpr (.geometry shape frame args)).outcome = do
      let args ← (pass.walkExprs args).outcome
      let rewrite ← (pass.geometry shape frame args).outcome
      return rewrite.settle fun text => .sql { text, coordSystem := frame } := by
  have inside := walkExprs_confined disciplined args
  have last (args : List Expr) := disciplined.geometry shape frame args
  rw [Pass.walkExpr, Rule.outcome_bind inside fun args => (last args).map _]
  simp only [Rule.outcome_bind (last _) fun _ => Rule.confined_pure _]
  rfl

theorem outcome_walkExpr_predicate (test : GeometryTest) (lhs rhs : Expr) :
    (pass.walkExpr (.predicate test lhs rhs)).outcome = do
      let lhs ← (pass.walkExpr lhs).outcome
      let rhs ← (pass.walkExpr rhs).outcome
      let rewrite ← (pass.predicate test lhs rhs).outcome
      return rewrite.settle fun text => .sql { text, predicate := true } := by
  have first := walkExpr_confined disciplined lhs
  have second := walkExpr_confined disciplined rhs
  have last (lhs rhs : Expr) := disciplined.predicate test lhs rhs
  have settled (lhs rhs : Expr) : (pass.predicate test lhs rhs).settleTest.outcome = do
      let rewrite ← (pass.predicate test lhs rhs).outcome
      return rewrite.settle fun text => .sql { text, predicate := true } := by
    rw [Rule.outcome, (last lhs rhs).apply_settleTest]
    cases (pass.predicate test lhs rhs).outcome <;> rfl
  rw [Pass.walkExpr,
    Rule.outcome_bind first fun lhs => second.bind fun rhs => (last lhs rhs).confined]
  simp only [Rule.outcome_bind second fun rhs => (last _ rhs).confined, settled]

theorem outcome_walkExpr_comparison (lhs : Expr) (op : CompareOp) (rhs : Expr) :
    (pass.walkExpr (.comparison lhs op rhs)).outcome = do
      let lhs ← (pass.walkExpr lhs).outcome
      let rhs ← (pass.walkExpr rhs).outcome
      if lhs.isPredicateText || rhs.isPredicateText then
        return .verbatim (← testCondition lhs op rhs)
      else return .comparison lhs op rhs := by
  have first := walkExpr_confined disciplined lhs
  have second := walkExpr_confined disciplined rhs
  have last (lhs rhs : Expr) :=
    (settleComparison_agrees disciplined dropComparison lhs op rhs).confined
  have settled (lhs rhs : Expr) : (pass.settleComparison lhs op rhs).outcome = do
      if lhs.isPredicateText || rhs.isPredicateText then
        return .verbatim (← testCondition lhs op rhs)
      else return .comparison lhs op rhs := by
    rw [Rule.outcome, apply_settleComparison disciplined.comparison]
    cases testCondition lhs op rhs <;> rfl
  rw [Pass.walkExpr, Rule.outcome_bind first fun lhs => second.bind fun rhs => last lhs rhs]
  simp only [Rule.outcome_bind second fun rhs => last _ rhs, settled]

end Walk

/-- The text that a pass alone leaves of an expression. -/
def Pass.text (pass : Pass) (expr : Expr) : Except Error String := do
  (← (pass.walkExpr expr).outcome).render

/-- The texts that a pass alone leaves of expressions. -/
abbrev Pass.Spells (pass : Pass) : List Expr → List String → Prop :=
  List.Forall₂ fun expr text => pass.text expr = .ok text

/-- A list has texts exactly if each of its members has one. -/
theorem spells_iff {pass : Pass} (disciplined : pass.Disciplined) {exprs : List Expr}
    {texts : List String} :
    pass.Spells exprs texts ↔
      ∃ results, (pass.walkExprs exprs).outcome = .ok results ∧ renderExprs results = .ok texts := by
  induction exprs generalizing texts with
  | nil =>
      constructor
      · rintro ⟨⟩
        exact ⟨[], rfl, rfl⟩
      · rintro ⟨results, walked, rendered⟩
        cases walked
        cases rendered
        exact .nil
  | cons expr rest inductionHypothesis =>
      rw [outcome_walkExprs_cons disciplined]
      constructor
      · rintro (_ | ⟨own, others⟩)
        obtain ⟨result, walked, rendered⟩ := bind_eq_ok_iff.mp own
        obtain ⟨results, laterWalked, laterRendered⟩ := inductionHypothesis.mp others
        refine ⟨result :: results, ?_, ?_⟩
        · rw [walked, laterWalked]
          rfl
        · rw [renderExprs, rendered, laterRendered]
          rfl
      · rintro ⟨all, walked, rendered⟩
        obtain ⟨result, own, walked⟩ := bind_eq_ok_iff.mp walked
        obtain ⟨results, others, walked⟩ := bind_eq_ok_iff.mp walked
        cases walked
        obtain ⟨text, first, rendered⟩ := bind_eq_ok_iff.mp rendered
        obtain ⟨laterTexts, later, rendered⟩ := bind_eq_ok_iff.mp rendered
        cases rendered
        refine .cons ?_ (inductionHypothesis.mpr ⟨results, others, later⟩)
        rw [Pass.text, own]
        exact first

end SkySql
