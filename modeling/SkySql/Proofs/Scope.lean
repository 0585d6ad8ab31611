import SkySql.Dialect.Index
import SkySql.Dialect.Rules
import SkySql.Pass.Walk

set_option autoImplicit false
set_option linter.unusedSectionVars false

/-!
The request to drop a comparison stays where it is made. A walk that starts without such a request
ends without one, and neither its outcome nor its warnings depend on the warnings before it. Hence
the part of a statement that has been walked never changes how the rest is rewritten.
-/

namespace SkySql

namespace Rule

variable {α β : Type}

/-- The outcome from a fresh state. -/
def outcome (rule : Rule α) : Except Error α := (rule.apply {}).1

/-- The warnings that are added to a fresh state. -/
def warnings (rule : Rule α) : List String := (rule.apply {}).2.warnings

/-- From a state without a request, the rule ends without one, and it does what it does from a fresh
state. -/
def Confined (rule : Rule α) : Prop :=
  ∀ state : PassState, state.discard = false →
    rule.apply state = (rule.outcome, ⟨false, state.warnings ++ rule.warnings⟩)

/-- A rule whose runs from states without a request differ by the earlier warnings only. -/
theorem confined_of_apply {rule : Rule α} (found : Except Error α) (added : List String)
    (run : ∀ earlier, rule.apply ⟨false, earlier⟩ = (found, ⟨false, earlier ++ added⟩)) :
    rule.Confined := by
  rintro ⟨discard, earlier⟩ rfl
  have fresh : rule.apply {} = (found, ⟨false, added⟩) := run []
  simp only [outcome, warnings, fresh, run]

theorem Confined.apply_eq {rule : Rule α} (confined : rule.Confined) (earlier : List String) :
    rule.apply ⟨false, earlier⟩ = (rule.outcome, ⟨false, earlier ++ rule.warnings⟩) :=
  confined ⟨false, earlier⟩ rfl

theorem confined_pure (a : α) : (pure a : Rule α).Confined :=
  confined_of_apply (.ok a) [] (by simp)

theorem confined_throw (e : Error) : (throw e : Rule α).Confined :=
  confined_of_apply (.error e) [] (by simp)

theorem confined_lift (found : Except Error α) : (liftM found : Rule α).Confined :=
  confined_of_apply found [] (by simp)

theorem confined_warn (message : String) : (warn message).Confined :=
  confined_of_apply (.ok ()) [message] (by simp)

theorem Confined.bind {rule : Rule α} {next : α → Rule β} (first : rule.Confined)
    (second : ∀ a, (next a).Confined) : (rule >>= next).Confined := by
  cases found : rule.outcome with
  | error e =>
      apply confined_of_apply (.error e) rule.warnings
      intro earlier
      rw [apply_bind, first.apply_eq, found]
  | ok a =>
      apply confined_of_apply (next a).outcome (rule.warnings ++ (next a).warnings)
      intro earlier
      rw [apply_bind, first.apply_eq, found]
      simp only [(second a).apply_eq, List.append_assoc]

theorem Confined.map {rule : Rule α} (confined : rule.Confined) (f : α → β) :
    (rule >>= fun a => pure (f a)).Confined :=
  confined.bind fun a => confined_pure (f a)

/-- The outcomes of confined rules compose without the state between them. -/
theorem outcome_bind {rule : Rule α} {next : α → Rule β} (first : rule.Confined)
    (second : ∀ a, (next a).Confined) :
    (rule >>= next).outcome = rule.outcome >>= fun a => (next a).outcome := by
  rw [outcome, apply_bind, first.apply_eq []]
  cases rule.outcome with
  | error e => rfl
  | ok a =>
      simp only [(second a).apply_eq]
      rfl

/-- Both parts of a sequence that gives a result give one. -/
theorem Confined.bind_eq_ok {rule : Rule α} {next : α → Rule β} {b : β} (first : rule.Confined)
    (second : ∀ a, (next a).Confined) (found : (rule >>= next).outcome = .ok b) :
    ∃ a, rule.outcome = .ok a ∧ (next a).outcome = .ok b := by
  rw [outcome_bind first second] at found
  cases result : rule.outcome with
  | error e => rw [result] at found; cases found
  | ok a => rw [result] at found; exact ⟨a, rfl, found⟩

/-- Two rules that do the same from every state without a request; the second is confined. -/
structure Agrees (left right : Rule α) : Prop where
  confined : right.Confined
  same : ∀ state : PassState, state.discard = false → left.apply state = right.apply state

theorem Agrees.refl {rule : Rule α} (confined : rule.Confined) : rule.Agrees rule :=
  ⟨confined, fun _ _ => rfl⟩

theorem Agrees.bind {left right : Rule α} {leftNext rightNext : α → Rule β}
    (first : left.Agrees right) (second : ∀ a, (leftNext a).Agrees (rightNext a)) :
    (left >>= leftNext).Agrees (right >>= rightNext) := by
  refine ⟨first.confined.bind fun a => (second a).confined, ?_⟩
  intro state clear
  simp only [apply_bind, first.same state clear, first.confined state clear]
  cases found : right.outcome with
  | error e => rfl
  | ok a => exact (second a).same _ rfl

theorem Agrees.map {left right : Rule α} (agrees : left.Agrees right) (f : α → β) :
    (left >>= fun a => pure (f a)).Agrees (right >>= fun a => pure (f a)) :=
  agrees.bind fun a => .refl (confined_pure (f a))

/-- A rule that asks for the enclosing comparison to be dropped exactly when it gives text. -/
def Raises (rule : Rule (Rewrite Expr)) : Prop :=
  ∀ earlier, rule.apply ⟨false, earlier⟩ =
    (rule.outcome, ⟨rule.outcome matches .ok (.text _), earlier⟩)

theorem raises_text (found : Except Error String) :
    (do let text ← found; raiseDiscard; return .text text : Rule (Rewrite Expr)).Raises := by
  intro earlier
  cases found <;> rfl

/-- The end of a walk over a geometry test: the request is read off the state and put on the text. -/
abbrev settleTest (rule : Rule (Rewrite Expr)) : Rule Expr := do
  let rewrite ← rule
  let predicate ← takeDiscard
  return rewrite.settle fun text => .sql { text, predicate }

theorem Raises.apply_settleTest {rule : Rule (Rewrite Expr)} (raises : rule.Raises)
    (earlier : List String) :
    rule.settleTest.apply ⟨false, earlier⟩ =
      (rule.outcome.map fun rewrite => rewrite.settle fun text => .sql { text, predicate := true },
        ⟨false, earlier⟩) := by
  rw [apply_bind, raises earlier]
  rcases rule.outcome with e | node | text <;> rfl

theorem Raises.confined {rule : Rule (Rewrite Expr)} (raises : rule.Raises) :
    rule.settleTest.Confined :=
  confined_of_apply _ [] (by simpa using raises.apply_settleTest)

end Rule

/-- The end of a walk over a comparison: the request is raised if a side is the text of a geometry
test, and cleared when the rule is through. -/
abbrev Pass.settleComparison (pass : Pass) (lhs : Expr) (op : CompareOp) (rhs : Expr) :
    Rule Expr := do
  if lhs.isPredicateText || rhs.isPredicateText then Rule.raiseDiscard
  let rewrite ← pass.comparison lhs op rhs
  let _ ← Rule.takeDiscard
  return rewrite.settle .verbatim

theorem apply_settleComparison {pass : Pass} (rule : pass.comparison = dropComparison) (lhs : Expr)
    (op : CompareOp) (rhs : Expr) (earlier : List String) :
    (pass.settleComparison lhs op rhs).apply ⟨false, earlier⟩ =
      (if lhs.isPredicateText || rhs.isPredicateText then
        (testCondition lhs op rhs).map .verbatim else .ok (.comparison lhs op rhs),
      ⟨false, earlier⟩) := by
  rw [Pass.settleComparison, rule]
  cases marked : (lhs.isPredicateText || rhs.isPredicateText) with
  | false => rfl
  | true =>
      cases found : testCondition lhs op rhs with
      | error e => simp [Rule.apply_bind, dropComparison, found, Except.map]
      | ok text =>
          simp only [Rule.apply_bind, dropComparison, found, if_true, Except.map,
            Rule.apply_raiseDiscard, Rule.apply_takeDiscard, Rule.apply_lift, Rule.apply_pure,
            Rewrite.settle]

/-- A pass in which only geometry tests and comparisons have to do with the request to drop a
comparison. -/
structure Pass.Disciplined (pass : Pass) : Prop where
  geometry : ∀ shape frame args, (pass.geometry shape frame args).Confined
  predicate : ∀ test lhs rhs, (pass.predicate test lhs rhs).Raises
  accessor : ∀ kind arg, (pass.accessor kind arg).Confined
  function : ∀ name args, (pass.function name args).Confined
  geometryFunction : ∀ kind args, (pass.geometryFunction kind args).Confined
  comparison : pass.comparison = dropComparison
  query : ∀ query, (pass.query query).Confined
  derived : ∀ statement name, (pass.derived statement name).Confined

theorem indexPredicate_raises (config : DialectConfig) (test : GeometryTest) (lhs rhs : Expr) :
    (indexPredicate config test lhs rhs).Raises := by
  intro earlier
  unfold indexPredicate
  cases asked : search? test lhs rhs with
  | none => rfl
  | some search =>
      cases found : search.call? config with
      | error e => simp only [found]; rfl
      | ok call => cases call <;> simp only [found] <;> rfl

theorem indexPass_disciplined (config : DialectConfig) : (indexPass config).Disciplined where
  geometry _ _ _ := Rule.confined_pure _
  predicate := indexPredicate_raises config
  accessor _ _ := Rule.confined_pure _
  function _ _ := Rule.confined_pure _
  geometryFunction _ _ := Rule.confined_pure _
  comparison := rfl
  query _ := Rule.confined_pure _
  derived _ _ := Rule.confined_pure _

theorem geometryFunctionRule_confined (config : DialectConfig) (kind : GeometryFunction)
    (args : List Expr) : (geometryFunctionRule config kind args).Confined := by
  cases kind with
  | area => exact (Rule.confined_warn _).bind fun _ => Rule.confined_pure _
  | distance => exact (Rule.confined_lift _).map _
  | centroid => exact (Rule.confined_lift _).map _
  | region => exact Rule.confined_throw _

theorem dialectPass_disciplined (config : DialectConfig) : (dialectPass config).Disciplined where
  geometry _ _ _ := (Rule.confined_lift _).map _
  predicate _ _ _ := Rule.raises_text _
  accessor _ _ := (Rule.confined_lift _).map _
  function _ _ := Rule.confined_lift _
  geometryFunction := geometryFunctionRule_confined config
  comparison := rfl
  query _ := (Rule.confined_lift _).map _
  derived _ _ := (Rule.confined_lift _).map _

/-- The pass with `other` in the place of its comparison rule wherever the request to drop the
comparison is not what the sides of the comparison call for. -/
def Pass.watched (pass : Pass) (other : Expr → CompareOp → Expr → Rule (Rewrite Expr)) : Pass :=
  { pass with
    comparison := fun lhs op rhs => do
      if (← get).discard = (lhs.isPredicateText || rhs.isPredicateText) then
        pass.comparison lhs op rhs
      else other lhs op rhs }

section Walk

variable {pass : Pass} (disciplined : pass.Disciplined)
  (other : Expr → CompareOp → Expr → Rule (Rewrite Expr))

include disciplined

/-- At a comparison the request is what its sides call for, so the rule is not replaced there. -/
theorem settleComparison_agrees (lhs : Expr) (op : CompareOp) (rhs : Expr) :
    ((pass.watched other).settleComparison lhs op rhs).Agrees
      (pass.settleComparison lhs op rhs) := by
  have run := apply_settleComparison disciplined.comparison lhs op rhs
  refine ⟨Rule.confined_of_apply _ [] (by simpa using run), ?_⟩
  rintro ⟨discard, earlier⟩ rfl
  simp only [Pass.settleComparison, Pass.watched, disciplined.comparison]
  cases marked : (lhs.isPredicateText || rhs.isPredicateText) with
  | false => rfl
  | true => rfl

mutual

theorem walkExpr_agrees (expr : Expr) :
    ((pass.watched other).walkExpr expr).Agrees (pass.walkExpr expr) := by
  match expr with
  | .literal _ | .column _ | .sql _ | .region _ => exact .refl (Rule.confined_pure _)
  | .geometry shape frame args =>
      refine (walkExprs_agrees args).bind fun args => ?_
      exact (Rule.Agrees.refl (disciplined.geometry shape frame args)).map _
  | .predicate test lhs rhs =>
      refine (walkExpr_agrees lhs).bind fun lhs => (walkExpr_agrees rhs).bind fun rhs => ?_
      exact .refl (disciplined.predicate test lhs rhs).confined
  | .accessor kind arg =>
      refine (walkExpr_agrees arg).bind fun arg => ?_
      exact (Rule.Agrees.refl (disciplined.accessor kind arg)).map _
  | .function name args =>
      refine (walkExprs_agrees args).bind fun args => ?_
      exact (Rule.Agrees.refl (disciplined.function name args)).map _
  | .geometryFunction kind args =>
      refine (walkExprs_agrees args).bind fun args => ?_
      exact (Rule.Agrees.refl (disciplined.geometryFunction kind args)).map _
  | .comparison lhs op rhs =>
      refine (walkExpr_agrees lhs).bind fun lhs => (walkExpr_agrees rhs).bind fun rhs => ?_
      exact settleComparison_agrees disciplined other lhs op rhs
  | .binary lhs op rhs =>
      exact (walkExpr_agrees lhs).bind fun lhs => (walkExpr_agrees rhs).map _
  | .unary op operand => exact (walkExpr_agrees operand).map _
  | .subquery statement => exact (walkStatement_agrees statement).map _

theorem walkExprs_agrees (exprs : List Expr) :
    ((pass.watched other).walkExprs exprs).Agrees (pass.walkExprs exprs) := by
  match exprs with
  | [] => exact .refl (Rule.confined_pure _)
  | expr :: rest => exact (walkExpr_agrees expr).bind fun expr => (walkExprs_agrees rest).map _

theorem walkOption_agrees (option : Option Expr) :
    ((pass.watched other).walkOption option).Agrees (pass.walkOption option) := by
  match option with
  | none => exact .refl (Rule.confined_pure _)
  | some expr => exact (walkExpr_agrees expr).map _

theorem walkStatement_agrees (statement : Statement) :
    ((pass.watched other).walkStatement statement).Agrees (pass.walkStatement statement) := by
  match statement with
  | .select query =>
      refine (walkQuery_agrees query).bind fun query => ?_
      exact (Rule.Agrees.refl (disciplined.query query)).map _
  | .setOperation op all lhs rhs =>
      exact (walkStatement_agrees lhs).bind fun lhs => (walkStatement_agrees rhs).map _
  | .sql _ => exact .refl (Rule.confined_pure _)

theorem walkQuery_agrees (query : Query) :
    ((pass.watched other).walkQuery query).Agrees (pass.walkQuery query) := by
  match query with
  | { items, tables, condition, groupBy, having, orderBy, .. } =>
      exact (walkItems_agrees items).bind fun items => (walkTables_agrees tables).bind fun tables =>
        (walkOption_agrees condition).bind fun condition =>
          (walkExprs_agrees groupBy).bind fun groupBy =>
            (walkOption_agrees having).bind fun having => (walkOrder_agrees orderBy).map _

theorem walkItem_agrees (item : SelectItem) :
    ((pass.watched other).walkItem item).Agrees (pass.walkItem item) := by
  match item with
  | .star _ => exact .refl (Rule.confined_pure _)
  | .expr expr label => exact (walkExpr_agrees expr).map _

theorem walkItems_agrees (items : List SelectItem) :
    ((pass.watched other).walkItems items).Agrees (pass.walkItems items) := by
  match items with
  | [] => exact .refl (Rule.confined_pure _)
  | item :: rest => exact (walkItem_agrees item).bind fun item => (walkItems_agrees rest).map _

theorem walkOrder_agrees (order : List OrderItem) :
    ((pass.watched other).walkOrder order).Agrees (pass.walkOrder order) := by
  match order with
  | [] => exact .refl (Rule.confined_pure _)
  | { expr, descending } :: rest =>
      exact (walkExpr_agrees expr).bind fun expr => (walkOrder_agrees rest).map _

theorem walkTable_agrees (table : TableRef) :
    ((pass.watched other).walkTable table).Agrees (pass.walkTable table) := by
  match table with
  | .table _ _ | .sql _ => exact .refl (Rule.confined_pure _)
  | .derived statement name =>
      refine (walkStatement_agrees statement).bind fun statement => ?_
      exact (Rule.Agrees.refl (disciplined.derived statement name)).map _
  | .join left kind right spec =>
      exact (walkTable_agrees left).bind fun left => (walkTable_agrees right).bind fun right =>
        (walkSpec_agrees spec).map _

theorem walkTables_agrees (tables : List TableRef) :
    ((pass.watched other).walkTables tables).Agrees (pass.walkTables tables) := by
  match tables with
  | [] => exact .refl (Rule.confined_pure _)
  | table :: rest => exact (walkTable_agrees table).bind fun table => (walkTables_agrees rest).map _

theorem walkSpec_agrees (spec : JoinSpec) :
    ((pass.watched other).walkSpec spec).Agrees (pass.walkSpec spec) := by
  match spec with
  | .on condition => exact (walkExpr_agrees condition).map _
  | .using _ | .natural | .none => exact .refl (Rule.confined_pure _)

end

theorem walkExpr_confined (expr : Expr) : (pass.walkExpr expr).Confined :=
  (walkExpr_agrees disciplined dropComparison expr).confined

theorem walkStatement_confined (statement : Statement) : (pass.walkStatement statement).Confined :=
  (walkStatement_agrees disciplined dropComparison statement).confined

theorem walkExprs_confined (exprs : List Expr) : (pass.walkExprs exprs).Confined :=
  (walkExprs_agrees disciplined dropComparison exprs).confined

theorem walkExpr_binary_eq_ok {lhs rhs result : Expr} {op : BinaryOp}
    (found : (pass.walkExpr (.binary lhs op rhs)).outcome = .ok result) :
    ∃ lhs' rhs', (pass.walkExpr lhs).outcome = .ok lhs' ∧
      (pass.walkExpr rhs).outcome = .ok rhs' ∧ result = .binary lhs' op rhs' := by
  have first := walkExpr_confined disciplined lhs
  have second := walkExpr_confined disciplined rhs
  obtain ⟨lhs', left, found⟩ := first.bind_eq_ok (fun _ => second.map _) found
  obtain ⟨rhs', right, found⟩ := second.bind_eq_ok (fun _ => Rule.confined_pure _) found
  cases found
  exact ⟨lhs', rhs', left, right, rfl⟩

theorem walkExpr_unary_eq_ok {operand result : Expr} {op : UnaryOp}
    (found : (pass.walkExpr (.unary op operand)).outcome = .ok result) :
    ∃ operand', (pass.walkExpr operand).outcome = .ok operand' ∧ result = .unary op operand' := by
  obtain ⟨operand', inner, found⟩ :=
    (walkExpr_confined disciplined operand).bind_eq_ok (fun _ => Rule.confined_pure _) found
  cases found
  exact ⟨operand', inner, rfl⟩

theorem walkExpr_predicate_eq_ok {test : GeometryTest} {lhs rhs result : Expr}
    (found : (pass.walkExpr (.predicate test lhs rhs)).outcome = .ok result) :
    ∃ lhs' rhs' rewrite, (pass.walkExpr lhs).outcome = .ok lhs' ∧
      (pass.walkExpr rhs).outcome = .ok rhs' ∧
      (pass.predicate test lhs' rhs').outcome = .ok rewrite ∧
      result = rewrite.settle fun text => .sql { text, predicate := true } := by
  have first := walkExpr_confined disciplined lhs
  have second := walkExpr_confined disciplined rhs
  have last (lhs' rhs' : Expr) := disciplined.predicate test lhs' rhs'
  obtain ⟨lhs', left, found⟩ :=
    first.bind_eq_ok (fun lhs' => second.bind fun rhs' => (last lhs' rhs').confined) found
  obtain ⟨rhs', right, found⟩ := second.bind_eq_ok (fun rhs' => (last lhs' rhs').confined) found
  rw [Rule.outcome, (last lhs' rhs').apply_settleTest] at found
  cases rewritten : (pass.predicate test lhs' rhs').outcome with
  | error e => rw [rewritten] at found; cases found
  | ok rewrite =>
      rw [rewritten] at found
      cases found
      exact ⟨lhs', rhs', rewrite, left, right, rewritten, rfl⟩

theorem walkExpr_comparison_eq_ok {lhs rhs result : Expr} {op : CompareOp}
    (found : (pass.walkExpr (.comparison lhs op rhs)).outcome = .ok result) :
    ∃ lhs' rhs', (pass.walkExpr lhs).outcome = .ok lhs' ∧ (pass.walkExpr rhs).outcome = .ok rhs' ∧
      if lhs'.isPredicateText || rhs'.isPredicateText then
        ∃ text, testCondition lhs' op rhs' = .ok text ∧ result = .verbatim text
      else result = .comparison lhs' op rhs' := by
  have first := walkExpr_confined disciplined lhs
  have second := walkExpr_confined disciplined rhs
  have last (lhs' rhs' : Expr) :=
    (settleComparison_agrees disciplined dropComparison lhs' op rhs').confined
  obtain ⟨lhs', left, found⟩ :=
    first.bind_eq_ok (fun lhs' => second.bind fun rhs' => last lhs' rhs') found
  obtain ⟨rhs', right, found⟩ := second.bind_eq_ok (fun rhs' => last lhs' rhs') found
  refine ⟨lhs', rhs', left, right, ?_⟩
  rw [Rule.outcome, apply_settleComparison disciplined.comparison] at found
  split at found
  · next marked =>
      rw [if_pos marked]
      cases condition : testCondition lhs' op rhs' with
      | error e => rw [condition] at found; cases found
      | ok text => rw [condition] at found; cases found; exact ⟨text, rfl, rfl⟩
  · next unmarked =>
      rw [if_neg unmarked]
      cases found
      rfl

end Walk

/-- A walk that what came before it does not touch. -/
structure Pass.Undisturbed {α : Type} (pass : Pass) (walk : Pass → Rule α) (state : PassState) :
    Prop where
  outcome : ((walk pass).apply state).1 = ((walk pass).apply {}).1
  /-- No request is left behind, and the earlier warnings stay in front. -/
  after : ((walk pass).apply state).2 =
    ⟨false, state.warnings ++ ((walk pass).apply {}).2.warnings⟩
  /-- Whatever the comparison rule might do when the request is not what the sides of its comparison
  call for, it makes no difference: the rule is never called like that. -/
  comparisons : ∀ other, (walk (pass.watched other)).apply state = (walk pass).apply state

theorem undisturbed_of_agrees {α : Type} {pass : Pass} {walk : Pass → Rule α}
    (agrees : ∀ other, (walk (pass.watched other)).Agrees (walk pass)) {state : PassState}
    (clear : state.discard = false) : pass.Undisturbed walk state where
  outcome := by rw [(agrees dropComparison).confined state clear]; rfl
  after := by rw [(agrees dropComparison).confined state clear]; rfl
  comparisons other := (agrees other).same state clear

/-- Both passes walk every part of a statement as if nothing had come before it: with the outcome and
the warnings of a fresh run, without a request left at the end, and with every call of the comparison
rule seeing a request exactly when a side of the comparison is the text of a geometry test. -/
theorem walk_undisturbed (config : DialectConfig) (pass : Pass)
    (known : pass = indexPass config ∨ pass = dialectPass config)
    (state : PassState) (clear : state.discard = false) :
    (∀ expr : Expr, pass.Undisturbed (·.walkExpr expr) state) ∧
    (∀ table : TableRef, pass.Undisturbed (·.walkTable table) state) ∧
    (∀ statement : Statement, pass.Undisturbed (·.walkStatement statement) state) := by
  have disciplined : pass.Disciplined := by
    rcases known with rfl | rfl
    · exact indexPass_disciplined config
    · exact dialectPass_disciplined config
  refine ⟨fun expr => ?_, fun table => ?_, fun statement => ?_⟩
  · exact undisturbed_of_agrees (fun other => walkExpr_agrees disciplined other expr) clear
  · exact undisturbed_of_agrees (fun other => walkTable_agrees disciplined other table) clear
  · exact undisturbed_of_agrees (fun other => walkStatement_agrees disciplined other statement)
      clear

/-- A comparison of a column with 1, walked after a warning. -/
theorem walk_undisturbed_after_warning :
    (dialectPass {}).Undisturbed
      (·.walkExpr (.comparison (.named "flag") .eq (.number "1"))) ⟨false, [planarAreaWarning]⟩ :=
  (walk_undisturbed {} (dialectPass {}) (.inr rfl) ⟨false, [planarAreaWarning]⟩ rfl).1 _

end SkySql
