import SkySql.Dialect.Compile
import SkySql.Proofs.Rendering
import SkySql.Proofs.Walk

set_option autoImplicit false

/-!
The warnings of the dialect pass: one for each area in the statement, wherever it stands, and no
others. With them, the outcome of compiling a statement by the dialect pass alone is known from the
statement up to its text.
-/

namespace SkySql

/-- An area, which is evaluated in the plane. -/
def Expr.isArea : Expr → Bool
  | .geometryFunction .area _ => true
  | _ => false

def areaWarnings (nodes : List Expr) : List String :=
  List.replicate (nodes.countP Expr.isArea) planarAreaWarning

theorem reported_append {before after : List Expr} {first second : List String}
    (reported : first = areaWarnings before) (further : second = areaWarnings after) :
    first ++ second = areaWarnings (before ++ after) := by
  simp only [reported, further, areaWarnings, List.countP_append, List.replicate_append_replicate]

theorem reported_additive :
    Correspondence.Additive fun before _ warnings => warnings = areaWarnings before :=
  ⟨rfl, reported_append⟩

theorem reported_with {before : List Expr} {node : Expr} {warnings : List String}
    (reported : warnings = areaWarnings before) (other : node.isArea = false) :
    warnings = areaWarnings (before ++ [node]) := by
  have own : [] = areaWarnings [node] := by simp [areaWarnings, other]
  rw [← List.append_nil warnings]
  exact reported_append reported own

/-- The warnings of a walk are those for the areas in what is walked over. -/
def areaReport : Correspondence where
  expr source _ warnings := warnings = areaWarnings source.nodes
  statement source _ warnings := warnings = areaWarnings source.nodes
  table source _ warnings := warnings = areaWarnings source.nodes

section Report

open Correspondence

variable {warnings : List String}

theorem areaReport_exprs {sources results : List Expr}
    (each : Each areaReport.expr sources results warnings) :
    warnings = areaWarnings (exprNodes sources) :=
  each.read reported_additive everywhere fun _ _ _ inner => inner

theorem areaReport_query {source result : Query}
    (query : areaReport.OfQuery source result warnings) : warnings = areaWarnings source.nodes :=
  query.read reported_additive everywhere (fun _ _ _ inner => inner) fun _ _ _ inner => inner

theorem areaReport_spec {source result : JoinSpec}
    (spec : areaReport.OfSpec source result warnings) :
    warnings = areaWarnings (source.read everywhere) :=
  spec.read reported_additive everywhere fun _ _ _ inner => inner

theorem areaReport_structural : areaReport.Structural fun _ => True where
  leaf {expr} leaf _ := by
    cases expr with
    | literal | column | sql | region => rfl
    | _ => cases leaf
  binary _ left right := reported_with (reported_append left right) rfl
  unary _ inner := reported_with inner rfl
  subquery _ inner := reported_with inner rfl
  setOperation left right := reported_append left right
  statementText _ := rfl
  table _ _ := rfl
  join left right spec := reported_append left (reported_append right (areaReport_spec spec))
  tableText _ := rfl

theorem areaReport_dialectPass (config : DialectConfig) :
    areaReport.Closed (dialectPass config) (fun _ => True) fun _ => True where
  toStructural := areaReport_structural
  geometry _ each := by
    apply Rule.Fits.text
    apply fitting_of_eq_ok fun _ => trivial
    intro text _
    rw [List.append_nil]
    exact reported_with (areaReport_exprs each) rfl
  predicate _ left right := by
    apply Rule.Fits.test
    apply fitting_of_eq_ok fun _ => trivial
    intro text _
    rw [List.append_nil]
    exact reported_with (reported_append left right) rfl
  accessor _ inner := by
    apply Rule.Fits.text
    apply fitting_of_eq_ok fun _ => trivial
    intro text _
    rw [List.append_nil]
    exact reported_with inner rfl
  function _ each := by
    apply Rule.Fits.lifted
    apply fitting_of_eq_ok fun _ => trivial
    intro rewrite _
    rw [List.append_nil]
    exact reported_with (areaReport_exprs each) rfl
  geometryFunction {kind _ _ _} _ each := by
    have reported := areaReport_exprs each
    cases kind with
    | area =>
        apply Rule.Fits.warned
        exact reported_append reported rfl
    | distance | centroid =>
        apply Rule.Fits.text
        apply fitting_of_eq_ok fun _ => trivial
        intro text _
        rw [List.append_nil]
        exact reported_with reported rfl
    | region => exact fun earlier => ⟨.error _, [], by rw [List.append_nil]; rfl, trivial⟩
  comparison _ left right := by
    apply Rule.Fits.comparison rfl
    · intro _
      apply fitting_of_eq_ok fun _ => trivial
      intro text _
      rw [List.append_nil]
      exact reported_with (reported_append left right) rfl
    · intro _
      rw [List.append_nil]
      exact reported_with (reported_append left right) rfl
  query inner := by
    apply Rule.Fits.text
    apply fitting_of_eq_ok fun _ => trivial
    intro text _
    rw [List.append_nil]
    exact areaReport_query inner
  derived _ inner := by
    apply Rule.Fits.text
    apply fitting_of_eq_ok fun _ => trivial
    intro text _
    rw [List.append_nil]
    exact inner

end Report

theorem Pipeline.compile_cons_eq (pass : Pass) (rest : Pipeline) (statement : Statement) :
    Pipeline.compile (pass :: rest) statement = do
      let first ← pass.run statement
      let last ← Pipeline.compile rest first.statement
      return { last with warnings := first.warnings ++ last.warnings } := by
  simp only [Pipeline.compile, Pipeline.run, bind_assoc, pure_bind]

/-- What is left to do after the first pass of a pipeline. -/
theorem Pipeline.compile_cons {pass : Pass} {rest : Pipeline} {statement statement' : Statement}
    {first : List String} (ran : pass.run statement = .ok ⟨statement', first⟩) :
    Pipeline.compile (pass :: rest) statement =
      (Pipeline.compile rest statement').map fun compiled =>
        { compiled with warnings := first ++ compiled.warnings } := by
  rw [Pipeline.compile_cons_eq, ran]
  change (Pipeline.compile rest statement' >>= _) = _
  cases Pipeline.compile rest statement' <;> rfl

/-- The dialect pass alone compiles a statement without regions exactly if it accepts every
expression, and it warns of every area. -/
theorem dialectPass_compile (config : DialectConfig) (statement : Statement)
    (plain : RegionFree statement.nodes) :
    Verdict (fun compiled => compiled.warnings = areaWarnings statement.nodes)
      (Pipeline.compile [dialectPass config] statement) (faults config statement.nodes) := by
  obtain ⟨result, later, walked, verdict⟩ := walkStatement_meets config statement plain []
  have report := (areaReport_dialectPass config).run statement fun _ _ => trivial
  have ran : (dialectPass config).run statement = result.map (⟨·, later⟩) := by
    rw [Pass.run, walked]
    cases result <;> rfl
  rw [ran] at report
  cases found : faults config statement.nodes with
  | nil =>
      rw [found] at verdict
      obtain ⟨statement', made, text, rendered⟩ := verdict
      rw [made] at ran report
      rw [Pipeline.compile_cons ran, Pipeline.compile, Pipeline.run]
      refine ⟨⟨text, later ++ []⟩, ?_, by rw [List.append_nil]; exact report⟩
      change ((statement'.render >>= fun sql => pure _).map _ : Except Error Compiled) = _
      rw [rendered]
      rfl
  | cons e rest =>
      rw [found] at verdict
      cases verdict
      simp only [Pipeline.compile, Pipeline.run, ran]
      rfl

end SkySql
