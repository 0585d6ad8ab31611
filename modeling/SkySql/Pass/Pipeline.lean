import SkySql.Pass.Walk
import SkySql.Statement.Render

set_option autoImplicit false

/-!
Running passes one after another, each on the outcome of the one before and each with a state of its
own.
-/

namespace SkySql

structure PassOutput where
  statement : Statement
  warnings : List String

structure Compiled where
  sql : String
  warnings : List String
  deriving Repr, DecidableEq

def Pass.run (pass : Pass) (statement : Statement) : Except Error PassOutput :=
  match (pass.walkStatement statement).apply {} with
  | (.ok statement, state) => .ok ⟨statement, state.warnings⟩
  | (.error e, _) => .error e

/-- Passes in the order in which they are run. -/
abbrev Pipeline := List Pass

namespace Pipeline

def names (passes : Pipeline) : List String := passes.map Pass.name

def run : Pipeline → Statement → Except Error PassOutput
  | [], statement => .ok ⟨statement, []⟩
  | pass :: rest, statement => do
      let first ← pass.run statement
      let last ← run rest first.statement
      return ⟨last.statement, first.warnings ++ last.warnings⟩

def compile (passes : Pipeline) (statement : Statement) : Except Error Compiled := do
  let output ← run passes statement
  return ⟨← output.statement.render, output.warnings⟩

end Pipeline

end SkySql
