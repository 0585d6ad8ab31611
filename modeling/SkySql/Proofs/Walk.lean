import Mathlib.Data.List.Forall2
import SkySql.Pass.Pipeline
import SkySql.Proofs.Scope
import SkySql.Proofs.Tree

set_option autoImplicit false
set_option linter.unusedSectionVars false

/-!
Induction over a walk. A correspondence relates an expression, a statement or a table to what a walk
leaves of it and to the warnings on the way. It holds of every walk of a pass if each rule of the pass
carries it from the operands of a node to the node. Errors are part of it: a set of errors that may
occur goes along, all errors for a correspondence of successful walks, none for a walk that always
succeeds.
-/

namespace SkySql

section Fitting

variable {α β : Type} {allowed : Error → Prop}

/-- A good result, or an error that may occur. -/
def Fitting (allowed : Error → Prop) (good : α → Prop) : Except Error α → Prop
  | .ok a => good a
  | .error e => allowed e

theorem Fitting.map {good : α → Prop} {better : β → Prop} {found : Except Error α} (f : α → β)
    (fitting : Fitting allowed good found) (holds : ∀ a, good a → better (f a)) :
    Fitting allowed better (found.map f) := by
  cases found with
  | error e => exact fitting
  | ok a => exact holds a fitting

theorem Fitting.bind {good : α → Prop} {better : β → Prop} {found : Except Error α}
    {next : α → Except Error β} (fitting : Fitting allowed good found)
    (further : ∀ a, good a → Fitting allowed better (next a)) :
    Fitting allowed better (found >>= next) := by
  cases found with
  | error e => exact fitting
  | ok a => exact further a fitting

theorem Fitting.mono {allowed' : Error → Prop} {good better : α → Prop} {found : Except Error α}
    (fitting : Fitting allowed good found) (errors : ∀ e, allowed e → allowed' e)
    (results : ∀ a, good a → better a) : Fitting allowed' better found := by
  cases found with
  | error e => exact errors e fitting
  | ok a => exact results a fitting

theorem Fitting.holds {good : α → Prop} {found : Except Error α} {a : α}
    (fitting : Fitting allowed good found) (made : found = .ok a) : good a := by
  rw [made] at fitting
  exact fitting

/-- If every error may occur, only results have to be looked at. -/
theorem fitting_of_eq_ok {good : α → Prop} {found : Except Error α}
    (any : ∀ e, allowed e) (holds : ∀ a, found = .ok a → good a) : Fitting allowed good found := by
  cases found with
  | error e => exact any e
  | ok a => exact holds a rfl

/-- From a state without a request to drop a comparison, the rule ends without one, and either with a
good result and good warnings or with an error that may occur. -/
def Rule.Fits (rule : Rule α) (allowed : Error → Prop) (good : α → List String → Prop) : Prop :=
  ∀ earlier, ∃ result added,
    rule.apply ⟨false, earlier⟩ = (result, ⟨false, earlier ++ added⟩) ∧
      Fitting allowed (good · added) result

namespace Rule

/-- A rule's rewrite as a node, with `wrap` around final text. -/
abbrev settled (rule : Rule (Rewrite α)) (wrap : String → α) : Rule α := do
  let rewrite ← rule
  return rewrite.settle wrap

namespace Fits

variable {rule : Rule α} {good : α → List String → Prop} {better : β → List String → Prop}

theorem pure {a : α} (holds : good a []) : (Pure.pure a : Rule α).Fits allowed good := by
  intro earlier
  exact ⟨.ok a, [], by rw [apply_pure, List.append_nil], holds⟩

theorem bind {next : α → Rule β} (fits : rule.Fits allowed good)
    (further : ∀ a added, good a added →
      (next a).Fits allowed fun b more => better b (added ++ more)) :
    (rule >>= next).Fits allowed better := by
  intro earlier
  obtain ⟨result, added, run, fitting⟩ := fits earlier
  rw [apply_bind, run]
  cases result with
  | error e => exact ⟨.error e, added, rfl, fitting⟩
  | ok a =>
      obtain ⟨last, more, rerun, fitting⟩ := further a added fitting (earlier ++ added)
      exact ⟨last, added ++ more, by simp only [rerun, List.append_assoc], fitting⟩

theorem map (f : α → β) (fits : rule.Fits allowed good)
    (holds : ∀ a added, good a added → better (f a) added) :
    (rule >>= fun a => Pure.pure (f a)).Fits allowed better := by
  apply fits.bind
  intro a added isGood
  apply pure
  rw [List.append_nil]
  exact holds a added isGood

theorem lifted {found : Except Error (Rewrite α)} {wrap : String → α}
    (fitting : Fitting allowed (fun rewrite => good (rewrite.settle wrap) []) found) :
    (settled (liftM found) wrap).Fits allowed good := by
  intro earlier
  refine ⟨found.map _, [], ?_, fitting.map _ fun _ isGood => isGood⟩
  rw [List.append_nil]
  cases found <;> rfl

theorem text {found : Except Error String} {wrap : String → α}
    (fitting : Fitting allowed (fun text => good (wrap text) []) found) :
    (settled (do return .text (← found)) wrap).Fits allowed good := by
  intro earlier
  refine ⟨found.map wrap, [], ?_, fitting.map wrap fun _ isGood => isGood⟩
  rw [List.append_nil]
  cases found <;> rfl

theorem kept {node : α} {wrap : String → α} (holds : good node []) :
    (settled (Pure.pure (.keep node)) wrap).Fits allowed good := by
  intro earlier
  exact ⟨.ok node, [], by rw [List.append_nil]; rfl, holds⟩

theorem warned {node : α} {wrap : String → α} {message : String} (holds : good node [message]) :
    (settled (do warn message; return .keep node) wrap).Fits allowed good := by
  intro earlier
  exact ⟨.ok node, [message], rfl, holds⟩

theorem test {found : Except Error String} {good : Expr → List String → Prop}
    (fitting : Fitting allowed (fun text => good (.sql { text, predicate := true }) []) found) :
    (settleTest do let text ← found; raiseDiscard; return .text text).Fits allowed good := by
  intro earlier
  refine ⟨found.map _, [], ?_, fitting.map _ fun _ isGood => isGood⟩
  rw [List.append_nil]
  cases found <;> rfl

theorem raised {rule : Rule (Rewrite Expr)} {good : Expr → List String → Prop}
    (raises : rule.Raises)
    (fitting : Fitting allowed
      (fun rewrite => good (rewrite.settle fun text => .sql { text, predicate := true }) [])
      rule.outcome) :
    rule.settleTest.Fits allowed good := by
  intro earlier
  refine ⟨_, [], ?_, fitting.map _ fun _ isGood => isGood⟩
  rw [raises.apply_settleTest, List.append_nil]

/-- A comparison that is dropped if a side is the text of a geometry test. -/
theorem comparison {pass : Pass} (rule : pass.comparison = dropComparison) {lhs rhs : Expr}
    {op : CompareOp} {good : Expr → List String → Prop}
    (dropped : (lhs.isPredicateText || rhs.isPredicateText) = true →
      Fitting allowed (fun text => good (.verbatim text) []) (testCondition lhs op rhs))
    (kept : (lhs.isPredicateText || rhs.isPredicateText) = false →
      good (.comparison lhs op rhs) []) :
    (pass.settleComparison lhs op rhs).Fits allowed good := by
  intro earlier
  refine ⟨_, [], by rw [apply_settleComparison rule, List.append_nil], ?_⟩
  cases marked : (lhs.isPredicateText || rhs.isPredicateText) with
  | true => exact (dropped marked).map _ fun _ isGood => isGood
  | false => exact kept marked

end Fits

end Rule

end Fitting

/-- A geometry test becomes text exactly if there is an index call for the search that it asks for. -/
theorem indexPredicate_outcome (config : DialectConfig) (test : GeometryTest) (lhs rhs : Expr) :
    (indexPredicate config test lhs rhs).outcome =
      match search? test lhs rhs with
      | none => .ok (.keep (.predicate test lhs rhs))
      | some search => (search.call? config).map fun
          | none => .keep (.predicate test lhs rhs)
          | some call => .text call := by
  rw [Rule.outcome, indexPredicate]
  cases asked : search? test lhs rhs with
  | none => rfl
  | some search =>
      cases found : search.call? config with
      | error e => simp only [found]; rfl
      | ok call => cases call <;> simp only [found] <;> rfl

theorem Pipeline.run_cons_eq_ok_iff {pass : Pass} {rest : Pipeline} {statement : Statement}
    {output : PassOutput} :
    Pipeline.run (pass :: rest) statement = .ok output ↔
      ∃ first last, pass.run statement = .ok first ∧
        Pipeline.run rest first.statement = .ok last ∧
          output = ⟨last.statement, first.warnings ++ last.warnings⟩ := by
  rw [Pipeline.run]
  cases pass.run statement with
  | error e => simp [bind, Except.bind]
  | ok first =>
      cases others : Pipeline.run rest first.statement with
      | error e => simp [bind, Except.bind, others]
      | ok last => simp [bind, Except.bind, pure, Except.pure, others, eq_comm]

/-- Expressions without parts, which every walk leaves as they are. -/
def Expr.isLeaf : Expr → Bool
  | .literal _ | .column _ | .sql _ | .region _ => true
  | _ => false

/-- A list that is read member by member. -/
theorem eq_flatMap {α τ : Type} (readAll : List α → List τ) (read : α → List τ)
    (nil : readAll [] = []) (cons : ∀ a rest, readAll (a :: rest) = read a ++ readAll rest)
    (list : List α) : readAll list = list.flatMap read := by
  induction list with
  | nil => exact nil
  | cons a rest inductionHypothesis => rw [cons, inductionHypothesis, List.flatMap_cons]

section Read

variable {τ : Type} (reading : Reading τ)

theorem readExprs_eq_flatMap (exprs : List Expr) :
    readExprs reading exprs = exprs.flatMap (·.read reading) :=
  eq_flatMap (readExprs reading) (·.read reading) rfl (fun _ _ => rfl) exprs

/-- What is read off a query, clause by clause. -/
theorem Query.read_eq_append (query : Query) :
    query.read reading =
      query.items.flatMap (·.read reading) ++ (query.tables.flatMap (·.read reading) ++
        (query.condition.elim [] (·.read reading) ++ (query.groupBy.flatMap (·.read reading) ++
          (query.having.elim [] (·.read reading) ++
            query.orderBy.flatMap (·.expr.read reading))))) := by
  have items := eq_flatMap (readItems reading) (·.read reading) rfl fun _ _ => rfl
  have tables := eq_flatMap (readTables reading) (·.read reading) rfl fun _ _ => rfl
  have order := eq_flatMap (readOrder reading) (·.expr.read reading) rfl fun item _ => by
    cases item; rfl
  have option (option : Option Expr) :
      readOption reading option = option.elim [] (·.read reading) := by
    cases option <;> rfl
  cases query with
  | mk => simp only [Query.read, items, tables, order, option, readExprs_eq_flatMap]

end Read

/-- What is to be shown of every walk: how an expression, a statement or a table, what the walk leaves
of it, and the warnings on the way belong together. -/
structure Correspondence where
  expr : Expr → Expr → List String → Prop
  statement : Statement → Statement → List String → Prop
  table : TableRef → TableRef → List String → Prop

namespace Correspondence

/-- Lists whose members correspond in turn, with the warnings of each. -/
inductive Each {α : Type} (related : α → α → List String → Prop) :
    List α → List α → List String → Prop
  | nil : Each related [] [] []
  | cons {source result : α} {sources results : List α} {first rest : List String} :
      related source result first → Each related sources results rest →
        Each related (source :: sources) (result :: results) (first ++ rest)

theorem Each.forall₂ {α : Type} {related : α → α → List String → Prop} {bare : α → α → Prop}
    {sources results : List α} {warnings : List String}
    (weaker : ∀ source result warnings, related source result warnings → bare source result)
    (each : Each related sources results warnings) : List.Forall₂ bare sources results := by
  induction each with
  | nil => exact .nil
  | cons head _ inductionHypothesis => exact .cons (weaker _ _ _ head) inductionHypothesis

section Parts

variable (c : Correspondence)

inductive OfOption : Option Expr → Option Expr → List String → Prop
  | none : OfOption none none []
  | some {source result : Expr} {warnings : List String} :
      c.expr source result warnings → OfOption (some source) (some result) warnings

inductive OfItem : SelectItem → SelectItem → List String → Prop
  | star (table : Option String) : OfItem (.star table) (.star table) []
  | expr {source result : Expr} {warnings : List String} (label : Option String) :
      c.expr source result warnings → OfItem (.expr source label) (.expr result label) warnings

inductive OfOrder : OrderItem → OrderItem → List String → Prop
  | expr {source result : Expr} {warnings : List String} (descending : Bool) :
      c.expr source result warnings →
        OfOrder { expr := source, descending } { expr := result, descending } warnings

inductive OfSpec : JoinSpec → JoinSpec → List String → Prop
  | on {source result : Expr} {warnings : List String} :
      c.expr source result warnings → OfSpec (.on source) (.on result) warnings
  | using (columns : List String) : OfSpec (.using columns) (.using columns) []
  | natural : OfSpec .natural .natural []
  | none : OfSpec .none .none []

/-- Queries whose clauses correspond; the rest of them is the same. -/
inductive OfQuery : Query → Query → List String → Prop
  | clauses {items items' : List SelectItem} {tables tables' : List TableRef}
      {condition condition' having having' : Option Expr} {groupBy groupBy' : List Expr}
      {orderBy orderBy' : List OrderItem} {first second third fourth fifth sixth : List String}
      (quantifier : Option String) (top limit offset : Option Nat) :
      Each c.OfItem items items' first → Each c.table tables tables' second →
      c.OfOption condition condition' third → Each c.expr groupBy groupBy' fourth →
      c.OfOption having having' fifth → Each c.OfOrder orderBy orderBy' sixth →
        OfQuery
          { quantifier, top, items, tables, condition, groupBy, having, orderBy, limit, offset }
          { quantifier, top, limit, offset, items := items', tables := tables',
            condition := condition', groupBy := groupBy', having := having',
            orderBy := orderBy' }
          (first ++ (second ++ (third ++ (fourth ++ (fifth ++ sixth)))))

end Parts

/-- The correspondence on the nodes that passes have no rules for. A condition on expressions goes
along, which a node meets apart from its operands. -/
structure Structural (c : Correspondence) (fit : Expr → Prop) : Prop where
  leaf : ∀ {expr}, expr.isLeaf = true → fit expr → c.expr expr expr []
  binary : ∀ {lhs op rhs lhs' rhs' first second}, fit (.binary lhs op rhs) →
    c.expr lhs lhs' first → c.expr rhs rhs' second →
      c.expr (.binary lhs op rhs) (.binary lhs' op rhs') (first ++ second)
  unary : ∀ {op operand operand' first}, fit (.unary op operand) →
    c.expr operand operand' first → c.expr (.unary op operand) (.unary op operand') first
  subquery : ∀ {statement statement' first}, fit (.subquery statement) →
    c.statement statement statement' first →
      c.expr (.subquery statement) (.subquery statement') first
  setOperation : ∀ {op all lhs rhs lhs' rhs' first second}, c.statement lhs lhs' first →
    c.statement rhs rhs' second →
      c.statement (.setOperation op all lhs rhs) (.setOperation op all lhs' rhs') (first ++ second)
  statementText : ∀ text, c.statement (.sql text) (.sql text) []
  table : ∀ name label, c.table (.table name label) (.table name label) []
  join : ∀ {left kind right spec left' right' spec' first second third}, c.table left left' first →
    c.table right right' second → c.OfSpec spec spec' third →
      c.table (.join left kind right spec) (.join left' kind right' spec')
        (first ++ (second ++ third))
  tableText : ∀ text, c.table (.sql text) (.sql text) []

/-- Each rule of a pass carries the correspondence from the operands of a node to the node. -/
structure Closed (c : Correspondence) (pass : Pass) (fit : Expr → Prop) (allowed : Error → Prop) :
    Prop extends c.Structural fit where
  geometry : ∀ {shape frame args args' first}, fit (.geometry shape frame args) →
    Each c.expr args args' first →
      ((pass.geometry shape frame args').settled fun text =>
        .sql { text, coordSystem := frame }).Fits allowed fun result added =>
          c.expr (.geometry shape frame args) result (first ++ added)
  predicate : ∀ {test lhs rhs lhs' rhs' first second}, fit (.predicate test lhs rhs) →
    c.expr lhs lhs' first → c.expr rhs rhs' second →
      (pass.predicate test lhs' rhs').settleTest.Fits allowed fun result added =>
        c.expr (.predicate test lhs rhs) result (first ++ (second ++ added))
  accessor : ∀ {kind arg arg' first}, fit (.accessor kind arg) → c.expr arg arg' first →
    ((pass.accessor kind arg').settled .verbatim).Fits allowed fun result added =>
      c.expr (.accessor kind arg) result (first ++ added)
  function : ∀ {name args args' first}, fit (.function name args) → Each c.expr args args' first →
    ((pass.function name args').settled .verbatim).Fits allowed fun result added =>
      c.expr (.function name args) result (first ++ added)
  geometryFunction : ∀ {kind args args' first}, fit (.geometryFunction kind args) →
    Each c.expr args args' first →
      ((pass.geometryFunction kind args').settled fun text =>
        .sql { text, coordSystem := kind.system? args' }).Fits allowed fun result added =>
          c.expr (.geometryFunction kind args) result (first ++ added)
  comparison : ∀ {lhs op rhs lhs' rhs' first second}, fit (.comparison lhs op rhs) →
    c.expr lhs lhs' first → c.expr rhs rhs' second →
      (pass.settleComparison lhs' op rhs').Fits allowed fun result added =>
        c.expr (.comparison lhs op rhs) result (first ++ (second ++ added))
  query : ∀ {query query' first}, c.OfQuery query query' first →
    ((pass.query query').settled .sql).Fits allowed fun result added =>
      c.statement (.select query) result (first ++ added)
  derived : ∀ {statement statement' first} name, c.statement statement statement' first →
    ((pass.derived statement' name).settled .sql).Fits allowed fun result added =>
      c.table (.derived statement name) result (first ++ added)

namespace Closed

variable {c : Correspondence} {pass : Pass} {fit : Expr → Prop} {allowed : Error → Prop}
  (closed : c.Closed pass fit allowed)

include closed

-- One theorem for each function of the walk; the operands of a node come first, then its rule.
mutual

theorem walkExpr (expr : Expr) (fits : ∀ node ∈ expr.nodes, fit node) :
    (pass.walkExpr expr).Fits allowed (c.expr expr) := by
  match expr with
  | .literal _ | .column _ | .sql _ | .region _ =>
      exact .pure (closed.leaf rfl (fits _ (List.mem_singleton_self _)))
  | .geometry shape frame args =>
      obtain ⟨inArgs, own⟩ := List.forall_mem_append.mp fits
      apply (walkExprs args inArgs).bind
      intro args' first each
      exact closed.geometry (List.forall_mem_singleton.mp own) each
  | .predicate test lhs rhs =>
      obtain ⟨inOperands, own⟩ := List.forall_mem_append.mp fits
      obtain ⟨inLeft, inRight⟩ := List.forall_mem_append.mp inOperands
      apply (walkExpr lhs inLeft).bind
      intro lhs' first left
      apply (walkExpr rhs inRight).bind
      intro rhs' second right
      exact closed.predicate (List.forall_mem_singleton.mp own) left right
  | .accessor kind arg =>
      obtain ⟨inArg, own⟩ := List.forall_mem_append.mp fits
      apply (walkExpr arg inArg).bind
      intro arg' first inner
      exact closed.accessor (List.forall_mem_singleton.mp own) inner
  | .function name args =>
      obtain ⟨inArgs, own⟩ := List.forall_mem_append.mp fits
      apply (walkExprs args inArgs).bind
      intro args' first each
      exact closed.function (List.forall_mem_singleton.mp own) each
  | .geometryFunction kind args =>
      obtain ⟨inArgs, own⟩ := List.forall_mem_append.mp fits
      apply (walkExprs args inArgs).bind
      intro args' first each
      exact closed.geometryFunction (List.forall_mem_singleton.mp own) each
  | .comparison lhs op rhs =>
      obtain ⟨inOperands, own⟩ := List.forall_mem_append.mp fits
      obtain ⟨inLeft, inRight⟩ := List.forall_mem_append.mp inOperands
      apply (walkExpr lhs inLeft).bind
      intro lhs' first left
      apply (walkExpr rhs inRight).bind
      intro rhs' second right
      exact closed.comparison (List.forall_mem_singleton.mp own) left right
  | .binary lhs op rhs =>
      obtain ⟨inOperands, own⟩ := List.forall_mem_append.mp fits
      obtain ⟨inLeft, inRight⟩ := List.forall_mem_append.mp inOperands
      apply (walkExpr lhs inLeft).bind
      intro lhs' first left
      apply (walkExpr rhs inRight).map
      intro rhs' second right
      exact closed.binary (List.forall_mem_singleton.mp own) left right
  | .unary op operand =>
      obtain ⟨inOperand, own⟩ := List.forall_mem_append.mp fits
      apply (walkExpr operand inOperand).map
      intro operand' first inner
      exact closed.unary (List.forall_mem_singleton.mp own) inner
  | .subquery statement =>
      obtain ⟨inside, own⟩ := List.forall_mem_append.mp fits
      apply (walkStatement statement inside).map
      intro statement' first inner
      exact closed.subquery (List.forall_mem_singleton.mp own) inner

theorem walkExprs (exprs : List Expr) (fits : ∀ node ∈ exprNodes exprs, fit node) :
    (pass.walkExprs exprs).Fits allowed (Each c.expr exprs) := by
  match exprs with
  | [] => exact .pure .nil
  | expr :: rest =>
      obtain ⟨inExpr, inRest⟩ := List.forall_mem_append.mp fits
      apply (walkExpr expr inExpr).bind
      intro expr' first head
      apply (walkExprs rest inRest).map
      intro rest' others tail
      exact .cons head tail

theorem walkOption (option : Option Expr) (fits : ∀ node ∈ readOption everywhere option, fit node) :
    (pass.walkOption option).Fits allowed (c.OfOption option) := by
  match option with
  | none => exact .pure .none
  | some expr =>
      apply (walkExpr expr fits).map
      intro expr' first inner
      exact .some inner

theorem walkStatement (statement : Statement) (fits : ∀ node ∈ statement.nodes, fit node) :
    (pass.walkStatement statement).Fits allowed (c.statement statement) := by
  match statement with
  | .select query =>
      apply (walkQuery query fits).bind
      intro query' first inner
      exact closed.query inner
  | .setOperation op all lhs rhs =>
      obtain ⟨inLeft, inRight⟩ := List.forall_mem_append.mp fits
      apply (walkStatement lhs inLeft).bind
      intro lhs' first left
      apply (walkStatement rhs inRight).map
      intro rhs' second right
      exact closed.setOperation left right
  | .sql text => exact .pure (closed.statementText text)

theorem walkQuery (query : Query) (fits : ∀ node ∈ query.nodes, fit node) :
    (pass.walkQuery query).Fits allowed (c.OfQuery query) := by
  match query with
  | { quantifier, top, items, tables, condition, groupBy, having, orderBy, limit, offset } =>
      obtain ⟨inItems, fits⟩ := List.forall_mem_append.mp fits
      obtain ⟨inTables, fits⟩ := List.forall_mem_append.mp fits
      obtain ⟨inCondition, fits⟩ := List.forall_mem_append.mp fits
      obtain ⟨inGroups, fits⟩ := List.forall_mem_append.mp fits
      obtain ⟨inHaving, inOrder⟩ := List.forall_mem_append.mp fits
      apply (walkItems items inItems).bind
      intro items' first items
      apply (walkTables tables inTables).bind
      intro tables' second tables
      apply (walkOption condition inCondition).bind
      intro condition' third condition
      apply (walkExprs groupBy inGroups).bind
      intro groupBy' fourth groupBy
      apply (walkOption having inHaving).bind
      intro having' fifth having
      apply (walkOrder orderBy inOrder).map
      intro orderBy' sixth orderBy
      exact .clauses quantifier top limit offset items tables condition groupBy having orderBy

theorem walkItem (item : SelectItem) (fits : ∀ node ∈ item.read everywhere, fit node) :
    (pass.walkItem item).Fits allowed (c.OfItem item) := by
  match item with
  | .star table => exact .pure (.star table)
  | .expr expr label =>
      apply (walkExpr expr fits).map
      intro expr' first inner
      exact .expr label inner

theorem walkItems (items : List SelectItem) (fits : ∀ node ∈ readItems everywhere items, fit node) :
    (pass.walkItems items).Fits allowed (Each c.OfItem items) := by
  match items with
  | [] => exact .pure .nil
  | item :: rest =>
      obtain ⟨inItem, inRest⟩ := List.forall_mem_append.mp fits
      apply (walkItem item inItem).bind
      intro item' first head
      apply (walkItems rest inRest).map
      intro rest' others tail
      exact .cons head tail

theorem walkOrder (order : List OrderItem) (fits : ∀ node ∈ readOrder everywhere order, fit node) :
    (pass.walkOrder order).Fits allowed (Each c.OfOrder order) := by
  match order with
  | [] => exact .pure .nil
  | { expr, descending } :: rest =>
      obtain ⟨inExpr, inRest⟩ := List.forall_mem_append.mp fits
      apply (walkExpr expr inExpr).bind
      intro expr' first head
      apply (walkOrder rest inRest).map
      intro rest' others tail
      exact .cons (.expr descending head) tail

theorem walkTable (table : TableRef) (fits : ∀ node ∈ table.nodes, fit node) :
    (pass.walkTable table).Fits allowed (c.table table) := by
  match table with
  | .table name label => exact .pure (closed.table name label)
  | .sql text => exact .pure (closed.tableText text)
  | .derived statement name =>
      apply (walkStatement statement fits).bind
      intro statement' first inner
      exact closed.derived name inner
  | .join left kind right spec =>
      obtain ⟨inLeft, fits⟩ := List.forall_mem_append.mp fits
      obtain ⟨inRight, inSpec⟩ := List.forall_mem_append.mp fits
      apply (walkTable left inLeft).bind
      intro left' first left
      apply (walkTable right inRight).bind
      intro right' second right
      apply (walkSpec spec inSpec).map
      intro spec' third spec
      exact closed.join left right spec

theorem walkTables (tables : List TableRef) (fits : ∀ node ∈ readTables everywhere tables, fit node) :
    (pass.walkTables tables).Fits allowed (Each c.table tables) := by
  match tables with
  | [] => exact .pure .nil
  | table :: rest =>
      obtain ⟨inTable, inRest⟩ := List.forall_mem_append.mp fits
      apply (walkTable table inTable).bind
      intro table' first head
      apply (walkTables rest inRest).map
      intro rest' others tail
      exact .cons head tail

theorem walkSpec (spec : JoinSpec) (fits : ∀ node ∈ spec.read everywhere, fit node) :
    (pass.walkSpec spec).Fits allowed (c.OfSpec spec) := by
  match spec with
  | .on condition =>
      apply (walkExpr condition fits).map
      intro condition' first inner
      exact .on inner
  | .using columns => exact .pure (.using columns)
  | .natural => exact .pure .natural
  | .none => exact .pure .none

end

theorem run (statement : Statement) (fits : ∀ node ∈ statement.nodes, fit node) :
    Fitting allowed (fun output => c.statement statement output.statement output.warnings)
      (pass.run statement) := by
  obtain ⟨result, added, walked, fitting⟩ := closed.walkStatement statement fits []
  rw [Pass.run, walked]
  cases result with
  | error e => exact fitting
  | ok statement' => exact fitting

end Closed

/-- A correspondence that passes keep each for itself is kept by all of them in turn, if it can be put
together from one statement to the next. -/
theorem run_pipeline {c : Correspondence} {passes : Pipeline} {statement : Statement}
    {output : PassOutput} (idle : ∀ statement, c.statement statement statement [])
    (further : ∀ {source middle result first second}, c.statement source middle first →
      c.statement middle result second → c.statement source result (first ++ second))
    (closed : ∀ pass ∈ passes, c.Closed pass (fun _ => True) fun _ => True)
    (found : passes.run statement = .ok output) :
    c.statement statement output.statement output.warnings := by
  induction passes generalizing statement output with
  | nil =>
      cases found
      exact idle statement
  | cons pass rest inductionHypothesis =>
      obtain ⟨own, later⟩ := List.forall_mem_cons.mp closed
      obtain ⟨first, last, ran, others, rfl⟩ := Pipeline.run_cons_eq_ok_iff.mp found
      have step := (own.run statement fun _ _ => trivial).holds ran
      exact further step (inductionHypothesis later others)

/-- A relation between a list read off a node, a list read off its outcome and the warnings on the
way, which can be shown part by part. -/
structure Additive {τ : Type} (related : List τ → List τ → List String → Prop) : Prop where
  nil : related [] [] []
  append : ∀ {before before' first after after' second}, related before before' first →
    related after after' second → related (before ++ after) (before' ++ after') (first ++ second)

section Read

variable {c : Correspondence} {τ : Type} {related : List τ → List τ → List String → Prop}
  (additive : Additive related)

include additive

theorem Each.flatMap {α : Type} {pointwise : α → α → List String → Prop} (read : α → List τ)
    {sources results : List α} {warnings : List String}
    (holds : ∀ source result warnings, pointwise source result warnings →
      related (read source) (read result) warnings)
    (each : Each pointwise sources results warnings) :
    related (sources.flatMap read) (results.flatMap read) warnings := by
  induction each with
  | nil => exact additive.nil
  | cons head _ inductionHypothesis => exact additive.append (holds _ _ _ head) inductionHypothesis

variable (reading : Reading τ) {warnings : List String}
  (exprs : ∀ source result warnings, c.expr source result warnings →
    related (source.read reading) (result.read reading) warnings)

include exprs

theorem Each.read {sources results : List Expr} (each : Each c.expr sources results warnings) :
    related (readExprs reading sources) (readExprs reading results) warnings := by
  rw [readExprs_eq_flatMap, readExprs_eq_flatMap]
  exact each.flatMap additive (·.read reading) exprs

theorem OfOption.elim {source result : Option Expr} (option : c.OfOption source result warnings) :
    related (source.elim [] (·.read reading)) (result.elim [] (·.read reading)) warnings := by
  cases option with
  | none => exact additive.nil
  | some inner => exact exprs _ _ _ inner

theorem OfItem.read {source result : SelectItem} (item : c.OfItem source result warnings) :
    related (source.read reading) (result.read reading) warnings := by
  cases item with
  | star => exact additive.nil
  | expr _ inner => exact exprs _ _ _ inner

theorem OfSpec.read {source result : JoinSpec} (spec : c.OfSpec source result warnings) :
    related (source.read reading) (result.read reading) warnings := by
  cases spec with
  | on inner => exact exprs _ _ _ inner
  | _ => exact additive.nil

theorem OfQuery.read {source result : Query}
    (tables : ∀ source result warnings, c.table source result warnings →
      related (source.read reading) (result.read reading) warnings)
    (query : c.OfQuery source result warnings) :
    related (source.read reading) (result.read reading) warnings := by
  rw [Query.read_eq_append, Query.read_eq_append]
  cases query with
  | clauses _ _ _ _ inItems inTables inCondition inGroups inHaving inOrder =>
      refine additive.append (inItems.flatMap additive (·.read reading) ?_) (additive.append
        (inTables.flatMap additive (·.read reading) tables) (additive.append
          (inCondition.elim additive reading exprs) (additive.append
            (inGroups.flatMap additive (·.read reading) exprs) (additive.append
              (inHaving.elim additive reading exprs)
                (inOrder.flatMap additive (·.expr.read reading) ?_)))))
      · intro source result warnings item
        exact item.read additive reading exprs
      · intro source result warnings ordered
        cases ordered with
        | expr _ inner => exact exprs _ _ _ inner

end Read

section Same

variable {c : Correspondence} {warnings : List String}

theorem Each.eq_of {α : Type} {related : α → α → List String → Prop} {sources results : List α}
    (same : ∀ source result warnings, related source result warnings → result = source)
    (each : Each related sources results warnings) : results = sources := by
  induction each with
  | nil => rfl
  | cons head _ inductionHypothesis => rw [same _ _ _ head, inductionHypothesis]

variable (exprs : ∀ source result warnings, c.expr source result warnings → result = source)

include exprs

theorem OfOption.eq_of {source result : Option Expr} (option : c.OfOption source result warnings) :
    result = source := by
  cases option with
  | none => rfl
  | some inner => rw [exprs _ _ _ inner]

theorem OfSpec.eq_of {source result : JoinSpec} (spec : c.OfSpec source result warnings) :
    result = source := by
  cases spec with
  | on inner => rw [exprs _ _ _ inner]
  | _ => rfl

theorem OfQuery.eq_of {source result : Query}
    (tables : ∀ source result warnings, c.table source result warnings → result = source)
    (query : c.OfQuery source result warnings) : result = source := by
  have items (source result : SelectItem) (warnings : List String)
      (item : c.OfItem source result warnings) : result = source := by
    cases item with
    | star => rfl
    | expr _ inner => rw [exprs _ _ _ inner]
  have order (source result : OrderItem) (warnings : List String)
      (item : c.OfOrder source result warnings) : result = source := by
    cases item with
    | expr _ inner => rw [exprs _ _ _ inner]
  cases query with
  | clauses _ _ _ _ inItems inTables inCondition inGroups inHaving inOrder =>
      rw [inItems.eq_of items, inTables.eq_of tables, inCondition.eq_of exprs, inGroups.eq_of exprs,
        inHaving.eq_of exprs, inOrder.eq_of order]

end Same

/-- The correspondence on nodes that are kept with other operands. -/
structure Congruent (c : Correspondence) (fit : Expr → Prop) : Prop extends c.Structural fit where
  geometry : ∀ {shape frame args args' first}, fit (.geometry shape frame args) →
    Each c.expr args args' first →
      c.expr (.geometry shape frame args) (.geometry shape frame args') first
  accessor : ∀ {kind arg arg' first}, fit (.accessor kind arg) → c.expr arg arg' first →
    c.expr (.accessor kind arg) (.accessor kind arg') first
  function : ∀ {name args args' first}, fit (.function name args) → Each c.expr args args' first →
    c.expr (.function name args) (.function name args') first
  geometryFunction : ∀ {kind args args' first}, fit (.geometryFunction kind args) →
    Each c.expr args args' first →
      c.expr (.geometryFunction kind args) (.geometryFunction kind args') first
  comparison : ∀ {lhs op rhs lhs' rhs' first second}, fit (.comparison lhs op rhs) →
    c.expr lhs lhs' first → c.expr rhs rhs' second →
      (lhs'.isPredicateText || rhs'.isPredicateText) = false →
        c.expr (.comparison lhs op rhs) (.comparison lhs' op rhs') (first ++ second)
  select : ∀ {query query' first}, c.OfQuery query query' first →
    c.statement (.select query) (.select query') first
  derived : ∀ {statement statement' first} name, c.statement statement statement' first →
    c.table (.derived statement name) (.derived statement' name) first

/-- The index pass has rules for geometry tests and for comparisons with their text; everything else
it keeps. -/
theorem Congruent.closed_indexPass {c : Correspondence} {fit : Expr → Prop}
    {allowed : Error → Prop} {config : DialectConfig} (congruent : c.Congruent fit)
    (unasked : ∀ {test lhs rhs lhs' rhs' first second}, fit (.predicate test lhs rhs) →
      c.expr lhs lhs' first → c.expr rhs rhs' second → search? test lhs' rhs' = none →
        c.expr (.predicate test lhs rhs) (.predicate test lhs' rhs') (first ++ second))
    (asked : ∀ {test lhs rhs lhs' rhs' search first second}, fit (.predicate test lhs rhs) →
      c.expr lhs lhs' first → c.expr rhs rhs' second → search? test lhs' rhs' = some search →
        Fitting allowed (fun call => c.expr (.predicate test lhs rhs)
            (call.elim (.predicate test lhs' rhs') fun text => .sql { text, predicate := true })
            (first ++ second))
          (search.call? config))
    (comparison : ∀ {lhs op rhs lhs' rhs' first second}, fit (.comparison lhs op rhs) →
      c.expr lhs lhs' first → c.expr rhs rhs' second →
        (lhs'.isPredicateText || rhs'.isPredicateText) = true →
          Fitting allowed (fun text =>
              c.expr (.comparison lhs op rhs) (.verbatim text) (first ++ second))
            (testCondition lhs' op rhs')) :
    c.Closed (indexPass config) fit allowed where
  toStructural := congruent.toStructural
  geometry fits each := by
    apply Rule.Fits.kept
    rw [List.append_nil]
    exact congruent.geometry fits each
  predicate {test _ _ lhs' rhs' _ _} fits left right := by
    apply Rule.Fits.raised (indexPredicate_raises config _ _ _)
    rw [List.append_nil, indexPredicate_outcome]
    cases found : search? test lhs' rhs' with
    | none => exact unasked fits left right found
    | some search =>
        apply (asked fits left right found).map
        intro call holds
        cases call <;> exact holds
  accessor fits inner := by
    apply Rule.Fits.kept
    rw [List.append_nil]
    exact congruent.accessor fits inner
  function fits each := by
    apply Rule.Fits.kept
    rw [List.append_nil]
    exact congruent.function fits each
  geometryFunction fits each := by
    apply Rule.Fits.kept
    rw [List.append_nil]
    exact congruent.geometryFunction fits each
  comparison fits left right := by
    apply Rule.Fits.comparison rfl
    · intro marked
      rw [List.append_nil]
      exact comparison fits left right marked
    · intro unmarked
      rw [List.append_nil]
      exact congruent.comparison fits left right unmarked
  query inner := by
    apply Rule.Fits.kept
    rw [List.append_nil]
    exact congruent.select inner
  derived name inner := by
    apply Rule.Fits.kept
    rw [List.append_nil]
    exact congruent.derived name inner

end Correspondence

end SkySql
