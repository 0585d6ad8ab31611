import SkySql.Proofs.Finality
import SkySql.Proofs.Index.Spelling
import SkySql.Proofs.Observation

set_option autoImplicit false

/-!
What a pipeline reports. Its warnings are those of its passes, one pass after the other, each run on
what the one before has left. Of the passes there are only the dialect pass warns, once for each area
that it comes by, wherever the area stands. It leaves nothing but text, so no area is reported twice,
however many dialect passes there are.
-/

namespace SkySql

/-- The passes that a pipeline can be made of. -/
inductive Stage where
  | index (config : DialectConfig)
  | dialect (config : DialectConfig)
  | noop

namespace Stage

def pass : Stage → Pass
  | .index config => indexPass config
  | .dialect config => dialectPass config
  | .noop => .noop

def isDialect : Stage → Bool
  | .dialect _ => true
  | _ => false

end Stage

/-- The outputs of passes, each run on what the one before has left, and what the last one leaves. -/
inductive RunInTurn : Pipeline → Statement → List PassOutput → Statement → Prop
  | nil (statement : Statement) : RunInTurn [] statement [] statement
  | cons {pass : Pass} {rest : Pipeline} {statement last : Statement} {output : PassOutput}
      {outputs : List PassOutput} :
      pass.run statement = .ok output → RunInTurn rest output.statement outputs last →
        RunInTurn (pass :: rest) statement (output :: outputs) last

namespace Pipeline

/-- A pipeline succeeds exactly if its passes do one after the other, and it has the warnings of all of
them. -/
theorem run_eq_ok_iff {passes : Pipeline} {statement : Statement} {output : PassOutput} :
    passes.run statement = .ok output ↔
      ∃ outputs, RunInTurn passes statement outputs output.statement ∧
        output.warnings = outputs.flatMap PassOutput.warnings := by
  induction passes generalizing statement output with
  | nil =>
      constructor
      · intro found
        cases found
        exact ⟨[], .nil statement, rfl⟩
      · rintro ⟨outputs, inTurn, warnings⟩
        obtain ⟨last, added⟩ := output
        cases inTurn
        cases warnings
        rfl
  | cons pass rest inductionHypothesis =>
      rw [run_cons_eq_ok_iff]
      constructor
      · rintro ⟨first, last, ran, others, rfl⟩
        obtain ⟨outputs, inTurn, warnings⟩ := inductionHypothesis.mp others
        refine ⟨first :: outputs, .cons ran inTurn, ?_⟩
        rw [List.flatMap_cons, ← warnings]
      · rintro ⟨outputs, inTurn, warnings⟩
        obtain ⟨last, added⟩ := output
        cases inTurn with
        | @cons _ _ _ _ first outputs ran inTurn =>
            have others : run rest first.statement =
                .ok ⟨last, outputs.flatMap PassOutput.warnings⟩ :=
              inductionHypothesis.mpr ⟨outputs, inTurn, rfl⟩
            refine ⟨first, _, ran, others, ?_⟩
            rw [← List.flatMap_cons, ← warnings]

end Pipeline

section Reports

variable {config : DialectConfig} {statement : Statement} {output : PassOutput}

theorem warnings_dialectPass (ran : (dialectPass config).run statement = .ok output) :
    output.warnings = areaWarnings statement.nodes :=
  ((areaReport_dialectPass config).run statement fun _ _ => trivial).holds ran

theorem warnings_indexPass (ran : (indexPass config).run statement = .ok output) :
    output.warnings = [] :=
  (((retention_indexPass config).run statement fun _ _ => trivial).holds ran).silent

theorem Stage.warnings_eq_nil {stage : Stage} (other : stage.isDialect = false)
    (ran : stage.pass.run statement = .ok output) : output.warnings = [] := by
  cases stage with
  | index config => exact warnings_indexPass ran
  | dialect config => cases other
  | noop =>
      have idle : Pass.noop.run statement = .ok ⟨statement, []⟩ := run_of_no_rules "noop" statement
      cases idle.symm.trans ran
      rfl

/-- What comes after a dialect pass finds nothing to report. -/
theorem warnings_of_dialect_first {after : Pipeline}
    (found : Pipeline.run (dialectPass config :: after) statement = .ok output) :
    output.warnings = areaWarnings statement.nodes := by
  obtain ⟨first, last, ran, others, rfl⟩ := Pipeline.run_cons_eq_ok_iff.mp found
  rw [(dialectPass_flattens ran).run_pipeline] at others
  cases others
  rw [List.append_nil, warnings_dialectPass ran]

/-- Nor does what comes before the first dialect pass. -/
theorem exists_reported {before : List Stage} {after : Pipeline}
    (quiet : ∀ stage ∈ before, stage.isDialect = false)
    (found : Pipeline.run (before.map Stage.pass ++ dialectPass config :: after) statement =
      .ok output) :
    ∃ first, Pipeline.run (before.map Stage.pass) statement = .ok first ∧
      output.warnings = areaWarnings first.statement.nodes := by
  induction before generalizing statement output with
  | nil => exact ⟨⟨statement, []⟩, rfl, warnings_of_dialect_first found⟩
  | cons stage rest inductionHypothesis =>
      obtain ⟨own, later⟩ := List.forall_mem_cons.mp quiet
      obtain ⟨first, last, ran, others, rfl⟩ := Pipeline.run_cons_eq_ok_iff.mp found
      obtain ⟨reached, before, warnings⟩ := inductionHypothesis later others
      have silent := Stage.warnings_eq_nil own ran
      refine ⟨_, Pipeline.run_cons_eq_ok_iff.mpr ⟨first, reached, ran, before, rfl⟩, ?_⟩
      rw [silent, List.nil_append, warnings]

end Reports

/-- The dialect pass warns of every area in the statement, wherever it stands, and of nothing else. The
warnings of a pipeline are those of its passes in turn, each run on what the one before has left. They
are those for the areas that are in the statement when it reaches the first dialect pass. -/
theorem pipeline_reports_each_area_once :
    (∀ (config : DialectConfig) (statement : Statement) (output : PassOutput),
      (dialectPass config).run statement = .ok output →
        output.warnings =
          List.replicate (statement.nodes.countP Expr.isArea) planarAreaWarning) ∧
    ∀ (stages : List Stage) (statement : Statement) (output : PassOutput),
      (Pipeline.run (stages.map Stage.pass) statement = .ok output ↔
        ∃ outputs, RunInTurn (stages.map Stage.pass) statement outputs output.statement ∧
          output.warnings = outputs.flatMap PassOutput.warnings) ∧
      ∀ (before after : List Stage) (config : DialectConfig),
        stages = before ++ .dialect config :: after →
        (∀ stage ∈ before, stage.isDialect = false) →
        Pipeline.run (stages.map Stage.pass) statement = .ok output →
          ∃ first, Pipeline.run (before.map Stage.pass) statement = .ok first ∧
            output.warnings = areaWarnings first.statement.nodes := by
  constructor
  · intro config statement output ran
    exact warnings_dialectPass ran
  · intro stages statement output
    refine ⟨Pipeline.run_eq_ok_iff, ?_⟩
    rintro before after config rfl quiet found
    rw [List.map_append, List.map_cons] at found
    exact exists_reported quiet found

/-- A query with an area under the accessor for the coordinate system, where nothing of it is written,
and another one in the condition of a join with a derived table. -/
def areaQuery : Statement :=
  let area := Expr.geometryFunction .area [.named "footprint"]
  let derived := Statement.select { items := [.star none] }
  .select {
    items := [.expr (.accessor .coordSystem (.geometry .point none [area, .number "0"])) none]
    tables := [.join (.table "t" none) .inner (.derived derived "d")
      (.on (.comparison area .lt (.number "1")))] }

def areaQueryText : Statement :=
  .sql "SELECT 'unknown' FROM t JOIN (SELECT *) AS d ON AREA(footprint) < 1"

/-- Both are reported, and a second dialect pass reports neither again. -/
theorem pipeline_reports_each_area_once_join :
    (dialectPass {}).run areaQuery =
        .ok ⟨areaQueryText, [planarAreaWarning, planarAreaWarning]⟩ ∧
      [planarAreaWarning, planarAreaWarning] =
        List.replicate (areaQuery.nodes.countP Expr.isArea) planarAreaWarning ∧
      ∃ first, Pipeline.run [indexPass {}] areaQuery = .ok first ∧
        [planarAreaWarning, planarAreaWarning] = areaWarnings first.statement.nodes := by
  have ran : (dialectPass {}).run areaQuery =
      .ok ⟨areaQueryText, [planarAreaWarning, planarAreaWarning]⟩ := rfl
  have found : Pipeline.run ([Stage.index {}, .dialect {}, .noop, .dialect {}].map Stage.pass)
      areaQuery = .ok ⟨areaQueryText, [planarAreaWarning, planarAreaWarning]⟩ := rfl
  refine ⟨ran, pipeline_reports_each_area_once.1 {} areaQuery _ ran, ?_⟩
  exact (pipeline_reports_each_area_once.2 _ areaQuery _).2 [.index {}] [.noop, .dialect {}] {} rfl
    (List.forall_mem_singleton.mpr rfl) found

end SkySql
