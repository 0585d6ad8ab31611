import SkySql.Dialect.Index
import SkySql.Dialect.Rules
import SkySql.Pass.Pipeline

set_option autoImplicit false

/-!
From a statement to PostgreSQL. The index pass has to come first: the dialect pass would turn the
same tests into operators.
-/

namespace SkySql

def pipeline (config : DialectConfig) : Pipeline :=
  (if config.spatialIndex then [indexPass config] else []) ++ [dialectPass config]

/-- What both passes have in common, every pass of the pipeline has. -/
theorem forall_mem_pipeline {property : Pass → Prop} {config : DialectConfig}
    (index : property (indexPass config)) (dialect : property (dialectPass config)) :
    ∀ pass ∈ pipeline config, property pass := by
  unfold pipeline
  split
  · exact List.forall_mem_cons.mpr ⟨index, List.forall_mem_singleton.mpr dialect⟩
  · exact List.forall_mem_singleton.mpr dialect

def compile (config : DialectConfig) (statement : Statement) : Except Error Compiled :=
  (pipeline config).compile statement

end SkySql
