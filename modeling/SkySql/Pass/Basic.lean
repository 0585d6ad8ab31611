import SkySql.Error
import SkySql.Statement.Basic

set_option autoImplicit false

/-!
Rules and passes. A rule looks at one node whose children are already rewritten and either keeps a
node or gives final text for it. A pass has one rule for each kind of node that can be rewritten.
-/

namespace SkySql

inductive Rewrite (α : Type) where
  | keep (node : α)
  | text (sql : String)

/-- The node that a rewrite leaves, with its text turned into a node by `wrap`. -/
def Rewrite.settle {α : Type} (wrap : String → α) : Rewrite α → α
  | .keep node => node
  | .text sql => wrap sql

/-- What the rules of one run share. `discard` says that the comparison around a rewritten geometry
test has to go. -/
structure PassState where
  discard : Bool := false
  warnings : List String := []
  deriving Repr, DecidableEq

/-- A step that reads and changes the shared state and may fail. The state outlives a failure. -/
abbrev Rule (α : Type) := ExceptT Error (StateM PassState) α

namespace Rule

def apply {α : Type} (rule : Rule α) (state : PassState) : Except Error α × PassState :=
  StateT.run (ExceptT.run rule) state

def raiseDiscard : Rule Unit := modify fun state => { state with discard := true }

def takeDiscard : Rule Bool :=
  modifyGet fun state => (state.discard, { state with discard := false })

def warn (message : String) : Rule Unit :=
  modify fun state => { state with warnings := state.warnings ++ [message] }

@[simp] theorem apply_pure {α : Type} (a : α) (state : PassState) :
    apply (pure a) state = (.ok a, state) := rfl

@[simp] theorem apply_throw {α : Type} (e : Error) (state : PassState) :
    apply (throw e : Rule α) state = (.error e, state) := rfl

@[simp] theorem apply_lift {α : Type} (outcome : Except Error α) (state : PassState) :
    apply (liftM outcome) state = (outcome, state) := rfl

theorem apply_bind {α β : Type} (rule : Rule α) (next : α → Rule β) (state : PassState) :
    apply (rule >>= next) state =
      match apply rule state with
      | (.ok a, after) => apply (next a) after
      | (.error e, after) => (.error e, after) := by
  simp only [apply, bind, ExceptT.bind, ExceptT.run, ExceptT.mk, StateT.bind, StateT.run]
  rcases rule state with ⟨outcome, after⟩
  cases outcome <;> rfl

@[simp] theorem apply_raiseDiscard (state : PassState) :
    apply raiseDiscard state = (.ok (), { state with discard := true }) := rfl

@[simp] theorem apply_takeDiscard (state : PassState) :
    apply takeDiscard state = (.ok state.discard, { state with discard := false }) := rfl

@[simp] theorem apply_warn (message : String) (state : PassState) :
    apply (warn message) state =
      (.ok (), { state with warnings := state.warnings ++ [message] }) := rfl

end Rule

/-- A table of rules. A kind of node without a rule is kept. -/
structure Pass where
  name : String
  geometry : Shape → Option String → List Expr → Rule (Rewrite Expr) :=
    fun shape frame args => pure (.keep (.geometry shape frame args))
  predicate : GeometryTest → Expr → Expr → Rule (Rewrite Expr) :=
    fun test lhs rhs => pure (.keep (.predicate test lhs rhs))
  accessor : PointAccessor → Expr → Rule (Rewrite Expr) :=
    fun accessor arg => pure (.keep (.accessor accessor arg))
  function : String → List Expr → Rule (Rewrite Expr) :=
    fun name args => pure (.keep (.function name args))
  geometryFunction : GeometryFunction → List Expr → Rule (Rewrite Expr) :=
    fun function args => pure (.keep (.geometryFunction function args))
  comparison : Expr → CompareOp → Expr → Rule (Rewrite Expr) :=
    fun lhs op rhs => pure (.keep (.comparison lhs op rhs))
  query : Query → Rule (Rewrite Statement) := fun query => pure (.keep (.select query))
  derived : Statement → String → Rule (Rewrite TableRef) :=
    fun statement name => pure (.keep (.derived statement name))

def Pass.noop : Pass := { name := "noop" }

end SkySql
