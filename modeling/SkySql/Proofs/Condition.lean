import SkySql.Pass.Pipeline
import SkySql.Proofs.Scope
import SkySql.Proofs.Tree

set_option autoImplicit false

/-!
Conditions keep their truth value. A query asks `1 = CONTAINS(..)` where SQL wants a condition; the
passes put the condition or its negation in the place of the comparison. Whatever the geometry tests
of a condition turn out to be, the rewritten condition says the same as the one it comes from.
-/

namespace SkySql

section Number

open Float.Model

theorem unpacked_compare_swap (a b : UnpackedFloat) :
    a.compare b = (b.compare a).map Ordering.swap := by
  have magnitudes (m n : Nat) (e f : Int) :
      (compare e f).then (compare m n) = ((compare f e).then (compare n m)).swap := by
    rw [Ordering.swap_then, ← Std.OrientedCmp.eq_swap, ← Std.OrientedCmp.eq_swap]
  rcases a with s | _ | s | ⟨s, m, e, _⟩ <;> rcases b with t | _ | t | ⟨t, n, f, _⟩ <;>
    try cases s
  all_goals try cases t
  all_goals first | rfl | skip
  -- What remains are two finite numbers of one sign, negative ones first.
  · exact congrArg (fun order => some order.swap) (magnitudes m n e f)
  · exact congrArg some (magnitudes m n e f)

theorem float_beq_comm (x y : Float) : (x == y) = (y == x) := by
  change (x.toModel.unpack.compare y.toModel.unpack == some .eq) =
    (y.toModel.unpack.compare x.toModel.unpack == some .eq)
  rw [unpacked_compare_swap]
  rcases y.toModel.unpack.compare x.toModel.unpack with _ | _ | _ | _ <;> rfl

theorem float_beq_zero_of_beq_one {x : Float} (one : (x == 1.0) = true) : (x == 0.0) = false := by
  have zeroParts : (0.0 : Float).toModel.unpack = .zero .positive := rfl
  have oneParts : ∃ m e positive, (1.0 : Float).toModel.unpack = .finite .positive m e positive :=
    ⟨_, _, _, rfl⟩
  obtain ⟨m, e, positive, oneParts⟩ := oneParts
  change (x.toModel.unpack.compare (1.0 : Float).toModel.unpack == some .eq) = true at one
  change (x.toModel.unpack.compare (0.0 : Float).toModel.unpack == some .eq) = false
  rw [oneParts] at one
  rw [zeroParts]
  cases parts : x.toModel.unpack with
  | zero sign => rw [parts] at one; cases one
  | infinity sign => cases sign <;> rfl
  | notANumber => rfl
  | finite sign m e positive => cases sign <;> rfl

end Number

def CompareOp.holds : CompareOp → Float → Float → Bool
  | .eq, x, y => x == y
  | .ne, x, y => x != y
  | .lt, x, y => x < y
  | .le, x, y => x ≤ y
  | .gt, x, y => y < x
  | .ge, x, y => y ≤ x

/-- The number that a geometry test gives. -/
def testValue (holds : Bool) : Float := if holds then 1.0 else 0.0

/-- A comparison that asks for the condition holds exactly when the test does, and one that asks for
the negation exactly when it does not, on whichever side the number stands. -/
theorem CompareOp.holds_of_polarity {op : CompareOp} {truth : Float} {positive : Bool}
    (found : op.polarity? truth = some positive) (holds : Bool) :
    op.holds truth (testValue holds) = (positive == holds) ∧
      op.holds (testValue holds) truth = (positive == holds) := by
  have swap (x : Float) : (x == truth) = (truth == x) := float_beq_comm x truth
  have valueOf (value : Bool) (equal : (truth == testValue value) = true) :
      (truth == testValue holds) = (value == holds) := by
    cases value <;> cases holds
    · exact equal
    · cases one : truth == testValue true with
      | false => rfl
      | true => rw [testValue, if_neg (by simp), float_beq_zero_of_beq_one one] at equal; cases equal
    · exact float_beq_zero_of_beq_one equal
    · exact equal
  cases op with
  | eq =>
      simp only [CompareOp.polarity?] at found
      split at found
      · next one =>
          cases found
          simp only [CompareOp.holds, swap, valueOf true one, and_self]
      · split at found
        · next zero =>
            cases found
            simp only [CompareOp.holds, swap, valueOf false zero, and_self]
        · cases found
  | ne =>
      simp only [CompareOp.polarity?] at found
      split at found
      · next zero =>
          cases found
          simp only [CompareOp.holds, bne, swap, valueOf false zero]
          cases holds <;> simp
      · split at found
        · next one =>
            cases found
            simp only [CompareOp.holds, bne, swap, valueOf true one]
            cases holds <;> simp
        · cases found
  | lt | le | gt | ge => simp [CompareOp.polarity?] at found

inductive Side where
  | left
  | right
  deriving Repr, DecidableEq

/-- A geometry test compared with a number, the test on the given side. -/
def Side.compare (side : Side) (test : Expr) (op : CompareOp) (number : Expr) : Expr :=
  match side with
  | .left => .comparison test op number
  | .right => .comparison number op test

/-- Conditions made with AND, OR and NOT from comparisons without geometry tests and from geometry
tests compared with a number. -/
inductive Expr.IsCondition : Expr → Prop where
  | and {lhs rhs : Expr} : lhs.IsCondition → rhs.IsCondition → IsCondition (.binary lhs .and rhs)
  | or {lhs rhs : Expr} : lhs.IsCondition → rhs.IsCondition → IsCondition (.binary lhs .or rhs)
  | not {operand : Expr} : operand.IsCondition → IsCondition (.unary .not operand)
  | comparison {lhs rhs : Expr} (op : CompareOp) :
      lhs.isTest = false → rhs.isTest = false → IsCondition (.comparison lhs op rhs)
  | test (side : Side) (test : GeometryTest) (lhs rhs : Expr) (op : CompareOp) {number : Expr} :
      number.isNumeral = true → IsCondition (side.compare (.predicate test lhs rhs) op number)

/-- An outcome for each comparison of a condition, given by the way to it: whether the geometry test
in it holds, or, if there is none, whether the comparison holds. -/
abbrev Assignment := List Side → Bool

def Assignment.enter (values : Assignment) (side : Side) : Assignment :=
  fun path => values (side :: path)

def Expr.truth : Expr → Assignment → Bool
  | .binary lhs .and rhs, values => lhs.truth (values.enter .left) && rhs.truth (values.enter .right)
  | .binary lhs .or rhs, values => lhs.truth (values.enter .left) || rhs.truth (values.enter .right)
  | .unary .not operand, values => !operand.truth (values.enter .left)
  | .comparison (.predicate ..) op number, values =>
      number.asNumber?.any fun x => op.holds (testValue (values [])) x
  | .comparison number op (.predicate ..), values =>
      number.asNumber?.any fun x => op.holds x (testValue (values []))
  | _, values => values []

/-- The condition with the given text, or its negation. -/
def signedText (positive : Bool) (text : String) : String :=
  if positive then text else "NOT (" ++ text ++ ")"

/-- What a rewritten comparison says about its geometry test, given what the test itself was
rewritten to: its text says that the test holds, and the negation that it does not. -/
def readTest (rewritten : Except Error Expr) (result : Expr) (holds : Bool) : Option Bool :=
  match rewritten, result with
  | .ok (.sql fragment), .sql written =>
      if written = { text := signedText true fragment.text } then some holds
      else if written = { text := signedText false fragment.text } then some !holds
      else none
  | _, _ => none

/-- The comparison of two operands as each of them is rewritten. -/
def ComparesRewritten (rewrite : Expr → Except Error Expr) (lhs : Expr) (op : CompareOp)
    (rhs result : Expr) : Prop :=
  ∃ lhs' rhs', rewrite lhs = .ok lhs' ∧ rewrite rhs = .ok rhs' ∧ result = .comparison lhs' op rhs'

open Classical in
/-- Whether a rewritten condition holds, if it has the AND, OR and NOT of the condition it comes from,
text for each geometry test, and the rewritten operands in every other comparison. Nothing decides
whether two expressions are equal, so that is asked classically. -/
noncomputable def Expr.readBack (rewrite : Expr → Except Error Expr) :
    Expr → Expr → Assignment → Option Bool
  | .binary lhs .and rhs, .binary lhs' .and rhs', values => do
      return (← lhs.readBack rewrite lhs' (values.enter .left)) &&
        (← rhs.readBack rewrite rhs' (values.enter .right))
  | .binary lhs .or rhs, .binary lhs' .or rhs', values => do
      return (← lhs.readBack rewrite lhs' (values.enter .left)) ||
        (← rhs.readBack rewrite rhs' (values.enter .right))
  | .unary .not operand, .unary .not operand', values => do
      return !(← operand.readBack rewrite operand' (values.enter .left))
  | .comparison (.predicate test lhs rhs) _ _, result, values =>
      readTest (rewrite (.predicate test lhs rhs)) result (values [])
  | .comparison _ _ (.predicate test lhs rhs), result, values =>
      readTest (rewrite (.predicate test lhs rhs)) result (values [])
  | .comparison lhs op rhs, result, values =>
      if ComparesRewritten rewrite lhs op rhs result then some (values []) else none
  | _, _, _ => none

/-- An expression rewritten by one pass after another, each with a state of its own. -/
def Pipeline.rewriteExpr : Pipeline → Expr → Except Error Expr
  | [], expr => .ok expr
  | pass :: rest, expr => do rewriteExpr rest (← (pass.walkExpr expr).outcome)

/-- A pass that keeps a geometry test only as it is, and no other node as a geometry test. -/
structure Pass.KeepsTests (pass : Pass) : Prop extends pass.Disciplined where
  keptPredicate : ∀ test lhs rhs node,
    (pass.predicate test lhs rhs).outcome = .ok (.keep node) → node = .predicate test lhs rhs
  keptGeometry : ∀ shape frame args node,
    (pass.geometry shape frame args).outcome = .ok (.keep node) → node.isTest = false
  keptAccessor : ∀ kind arg node,
    (pass.accessor kind arg).outcome = .ok (.keep node) → node.isTest = false
  keptFunction : ∀ name args node,
    (pass.function name args).outcome = .ok (.keep node) → node.isTest = false
  keptGeometryFunction : ∀ kind args node,
    (pass.geometryFunction kind args).outcome = .ok (.keep node) → node.isTest = false

theorem indexPredicate_kept {config : DialectConfig} {test : GeometryTest} {lhs rhs node : Expr}
    (found : (indexPredicate config test lhs rhs).outcome = .ok (.keep node)) :
    node = .predicate test lhs rhs := by
  unfold indexPredicate at found
  cases asked : search? test lhs rhs with
  | none => simp only [asked] at found; cases found; rfl
  | some search =>
      cases called : search.call? config with
      | error e => simp only [asked, called] at found; cases found
      | ok call => cases call <;> simp only [asked, called] at found <;> cases found; rfl

theorem indexPass_keepsTests (config : DialectConfig) : (indexPass config).KeepsTests where
  toDisciplined := indexPass_disciplined config
  keptPredicate _ _ _ _ := indexPredicate_kept
  keptGeometry := by rintro shape frame args node ⟨⟩; rfl
  keptAccessor := by rintro kind arg node ⟨⟩; rfl
  keptFunction := by rintro name args node ⟨⟩; rfl
  keptGeometryFunction := by rintro kind args node ⟨⟩; rfl

theorem functionRewrite_kept {name : String} {args : List Expr} {node : Expr}
    (found : functionRewrite name args = .ok (.keep node)) : node.isTest = false := by
  unfold functionRewrite at found
  cases other : renamed? (Text.upperAscii name) with
  | some other => simp only [other] at found; cases found; rfl
  | none =>
      simp only [other] at found
      split at found
      · match args with
        | [] => cases found
        | [seed] => cases text : seed.render <;> simp only [text] at found <;> cases found
        | _ :: _ :: _ => cases found
      · split at found
        · match args with
          | [] => cases found
          | [arg] => cases text : arg.render <;> simp only [text] at found <;> cases found
          | _ :: _ :: _ => cases found
        · cases found
          rfl

theorem not_kept_of_text {found : Except Error String} {node : Expr} :
    (do return .text (← found) : Rule (Rewrite Expr)).outcome ≠ .ok (.keep node) := by
  cases found <;> rintro ⟨⟩

theorem dialectPass_keepsTests (config : DialectConfig) : (dialectPass config).KeepsTests where
  toDisciplined := dialectPass_disciplined config
  keptPredicate test lhs rhs node found := by
    change (do let text ← testText test lhs rhs; Rule.raiseDiscard; return .text text :
      Rule (Rewrite Expr)).outcome = _ at found
    cases text : testText test lhs rhs <;> rw [text] at found <;> cases found
  keptGeometry _ _ _ _ found := absurd found not_kept_of_text
  keptAccessor _ _ _ found := absurd found not_kept_of_text
  keptFunction _ _ _ := functionRewrite_kept
  keptGeometryFunction kind args node found := by
    cases kind with
    | area => cases found; rfl
    | distance => exact absurd found not_kept_of_text
    | centroid => exact absurd found not_kept_of_text
    | region => cases found

theorem isPredicateText_of_not_isTest {expr : Expr} (ordinary : expr.isTest = false) :
    expr.isPredicateText = false := by
  cases expr with
  | sql fragment => exact ordinary
  | _ => rfl

theorem not_isTest_of_isNumeral {number : Expr} (numeral : number.isNumeral = true) :
    number.isTest = false := by
  cases number with
  | sql | predicate => cases numeral
  | _ => rfl

/-- No walk changes a number. -/
theorem apply_walkExpr_numeral (pass : Pass) (state : PassState) (number : Expr)
    (numeral : number.isNumeral = true) :
    (pass.walkExpr number).apply state = (.ok number, state) := by
  match number with
  | .literal value => rfl
  | .unary .neg operand =>
      have inner := apply_walkExpr_numeral pass state operand numeral
      rw [Pass.walkExpr, Rule.apply_bind, inner]
      rfl

/-- The comparison of a geometry test with a number, given the text of the test: the text itself or
its negation, as the number asks. -/
def SettledAs (text : String) (op : CompareOp) (number result : Expr) : Prop :=
  ∃ truth positive, number.asNumber? = some truth ∧ op.polarity? truth = some positive ∧
    result = .verbatim (signedText positive text)

def Side.condition (side : Side) (test : Expr) (op : CompareOp) (number : Expr) :
    Except Error String :=
  match side with
  | .left => testCondition test op number
  | .right => testCondition number op test

theorem Side.condition_eq_ok {side : Side} {text condition : String} {number : Expr}
    {op : CompareOp}
    (found : side.condition (.sql { text, predicate := true }) op number = .ok condition) :
    SettledAs text op number (.verbatim condition) := by
  have textIsNoNumber : (Expr.sql { text, predicate := true }).asNumber? = none := rfl
  have marked : (Expr.sql { text, predicate := true }).isPredicateText = true := rfl
  cases value : number.asNumber? with
  | none =>
      cases side <;>
        simp only [Side.condition, testCondition, textIsNoNumber, value, reduceCtorEq] at found
  | some truth =>
      cases polarity : op.polarity? truth with
      | none =>
          cases side <;>
            simp only [Side.condition, testCondition, textIsNoNumber, value, marked, if_true,
              polarity] at found <;>
            cases found
      | some positive =>
          refine ⟨truth, positive, value, polarity, ?_⟩
          cases side <;> cases positive <;>
            simp only [Side.condition, testCondition, textIsNoNumber, value, marked, if_true,
              polarity] at found <;>
            cases found <;> rfl

/-- What is settled from a rule is no geometry test if neither the kept node nor the text is. -/
theorem isTest_settle {rule : Rule (Rewrite Expr)} {wrap : String → Expr} {result : Expr}
    (confined : rule.Confined) (kept : ∀ node, rule.outcome = .ok (.keep node) → node.isTest = false)
    (wrapped : ∀ text, (wrap text).isTest = false)
    (found : (do return (← rule).settle wrap : Rule Expr).outcome = .ok result) :
    result.isTest = false := by
  obtain ⟨rewrite, given, found⟩ := confined.bind_eq_ok (fun _ => Rule.confined_pure _) found
  cases found
  cases rewrite with
  | keep node => exact kept node given
  | text text => exact wrapped text

section Step

variable {pass : Pass} (keeps : pass.KeepsTests)

include keeps

theorem isTest_walkExpr {expr result : Expr} (ordinary : expr.isTest = false)
    (found : (pass.walkExpr expr).outcome = .ok result) : result.isTest = false := by
  have disciplined := keeps.toDisciplined
  have inner := walkExprs_confined disciplined
  match expr with
  | .literal _ | .column _ | .region _ => cases found; rfl
  | .sql _ => cases found; exact ordinary
  | .predicate .. => cases ordinary
  | .geometry shape frame args =>
      have last := disciplined.geometry shape frame
      obtain ⟨args', _, found⟩ := (inner args).bind_eq_ok (fun args' => (last args').map _) found
      exact isTest_settle (last args') (keeps.keptGeometry shape frame args') (fun _ => rfl) found
  | .accessor kind arg =>
      have last := disciplined.accessor kind
      obtain ⟨arg', _, found⟩ :=
        (walkExpr_confined disciplined arg).bind_eq_ok (fun arg' => (last arg').map _) found
      exact isTest_settle (last arg') (keeps.keptAccessor kind arg') (fun _ => rfl) found
  | .function name args =>
      have last := disciplined.function name
      obtain ⟨args', _, found⟩ := (inner args).bind_eq_ok (fun args' => (last args').map _) found
      exact isTest_settle (last args') (keeps.keptFunction name args') (fun _ => rfl) found
  | .geometryFunction kind args =>
      have last := disciplined.geometryFunction kind
      obtain ⟨args', _, found⟩ := (inner args).bind_eq_ok (fun args' => (last args').map _) found
      exact isTest_settle (last args') (keeps.keptGeometryFunction kind args') (fun _ => rfl) found
  | .comparison lhs op rhs =>
      obtain ⟨lhs', rhs', _, _, shape⟩ := walkExpr_comparison_eq_ok disciplined found
      split at shape
      · obtain ⟨text, _, rfl⟩ := shape; rfl
      · cases shape; rfl
  | .binary lhs op rhs =>
      obtain ⟨lhs', rhs', _, _, rfl⟩ := walkExpr_binary_eq_ok disciplined found
      rfl
  | .unary op operand =>
      obtain ⟨operand', _, rfl⟩ := walkExpr_unary_eq_ok disciplined found
      rfl
  | .subquery statement =>
      have inside := walkStatement_confined disciplined statement
      obtain ⟨statement', _, found⟩ := inside.bind_eq_ok (fun _ => Rule.confined_pure _) found
      cases found
      rfl

/-- A comparison without geometry tests is kept, with its operands as they are rewritten. -/
theorem walkExpr_ordinary_comparison {lhs rhs result : Expr} {op : CompareOp}
    (left : lhs.isTest = false) (right : rhs.isTest = false)
    (found : (pass.walkExpr (.comparison lhs op rhs)).outcome = .ok result) :
    ∃ lhs' rhs', (pass.walkExpr lhs).outcome = .ok lhs' ∧ (pass.walkExpr rhs).outcome = .ok rhs' ∧
      lhs'.isTest = false ∧ rhs'.isTest = false ∧ result = .comparison lhs' op rhs' := by
  obtain ⟨lhs', rhs', first, second, shape⟩ :=
    walkExpr_comparison_eq_ok keeps.toDisciplined found
  have left' := isTest_walkExpr keeps left first
  have right' := isTest_walkExpr keeps right second
  rw [isPredicateText_of_not_isTest left', isPredicateText_of_not_isTest right'] at shape
  exact ⟨lhs', rhs', first, second, left', right', shape⟩

/-- A geometry test stays one or becomes text that is marked as one. -/
theorem walkExpr_predicate_cases {test : GeometryTest} {lhs rhs result : Expr}
    (found : (pass.walkExpr (.predicate test lhs rhs)).outcome = .ok result) :
    (∃ lhs' rhs', result = .predicate test lhs' rhs') ∨
      ∃ text, result = .sql { text, predicate := true } := by
  obtain ⟨lhs', rhs', rewrite, _, _, given, rfl⟩ :=
    walkExpr_predicate_eq_ok keeps.toDisciplined found
  cases rewrite with
  | keep node =>
      left
      exact ⟨lhs', rhs', keeps.keptPredicate test lhs' rhs' node given⟩
  | text text => exact .inr ⟨text, rfl⟩

/-- A comparison of a geometry test with a number stays one as long as the test does. -/
theorem walkExpr_test {side : Side} {test : GeometryTest} {lhs rhs number result : Expr}
    {op : CompareOp} (numeral : number.isNumeral = true)
    (found : (pass.walkExpr (side.compare (.predicate test lhs rhs) op number)).outcome =
      .ok result) :
    (∃ lhs' rhs', (pass.walkExpr (.predicate test lhs rhs)).outcome =
        .ok (.predicate test lhs' rhs') ∧
      result = side.compare (.predicate test lhs' rhs') op number) ∨
    ∃ text, (pass.walkExpr (.predicate test lhs rhs)).outcome =
        .ok (.sql { text, predicate := true }) ∧ SettledAs text op number result := by
  have unchanged : (pass.walkExpr number).outcome = .ok number := by
    rw [Rule.outcome, apply_walkExpr_numeral pass {} number numeral]
  have plainNumber := isPredicateText_of_not_isTest (not_isTest_of_isNumeral numeral)
  obtain ⟨predicate', walked, shape⟩ : ∃ predicate',
      (pass.walkExpr (.predicate test lhs rhs)).outcome = .ok predicate' ∧
      if predicate'.isPredicateText then
        ∃ text, side.condition predicate' op number = .ok text ∧ result = .verbatim text
      else result = side.compare predicate' op number := by
    cases side with
    | left =>
        obtain ⟨predicate', number', walked, same, shape⟩ :=
          walkExpr_comparison_eq_ok keeps.toDisciplined found
        cases unchanged.symm.trans same
        rw [plainNumber, Bool.or_false] at shape
        exact ⟨predicate', walked, shape⟩
    | right =>
        obtain ⟨number', predicate', same, walked, shape⟩ :=
          walkExpr_comparison_eq_ok keeps.toDisciplined found
        cases unchanged.symm.trans same
        rw [plainNumber, Bool.false_or] at shape
        exact ⟨predicate', walked, shape⟩
  rcases walkExpr_predicate_cases keeps walked with ⟨lhs', rhs', rfl⟩ | ⟨text, rfl⟩
  · exact .inl ⟨lhs', rhs', walked, shape⟩
  · obtain ⟨condition, given, rfl⟩ := shape
    exact .inr ⟨text, walked, side.condition_eq_ok given⟩

end Step

namespace Pipeline

theorem rewriteExpr_cons_eq_ok {pass : Pass} {rest : Pipeline} {expr result : Expr}
    (found : rewriteExpr (pass :: rest) expr = .ok result) :
    ∃ middle, (pass.walkExpr expr).outcome = .ok middle ∧ rest.rewriteExpr middle = .ok result := by
  rw [rewriteExpr] at found
  cases walked : (pass.walkExpr expr).outcome with
  | error e => rw [walked] at found; cases found
  | ok middle => rw [walked] at found; exact ⟨middle, rfl, found⟩

theorem rewriteExpr_sql (passes : Pipeline) (fragment : Fragment) :
    passes.rewriteExpr (.sql fragment) = .ok (.sql fragment) := by
  induction passes with
  | nil => rfl
  | cons pass rest inductionHypothesis => exact inductionHypothesis

variable {passes : Pipeline} (keeps : ∀ pass ∈ passes, pass.KeepsTests)

include keeps

theorem rewriteExpr_binary_eq_ok {lhs rhs result : Expr} {op : BinaryOp}
    (found : passes.rewriteExpr (.binary lhs op rhs) = .ok result) :
    ∃ lhs' rhs', passes.rewriteExpr lhs = .ok lhs' ∧ passes.rewriteExpr rhs = .ok rhs' ∧
      result = .binary lhs' op rhs' := by
  induction passes generalizing lhs rhs with
  | nil => cases found; exact ⟨lhs, rhs, rfl, rfl, rfl⟩
  | cons pass rest inductionHypothesis =>
      obtain ⟨head, tail⟩ := List.forall_mem_cons.mp keeps
      obtain ⟨middle, walked, found⟩ := rewriteExpr_cons_eq_ok found
      obtain ⟨lhs', rhs', left, right, rfl⟩ :=
        walkExpr_binary_eq_ok head.toDisciplined walked
      simp only [rewriteExpr, left, right]
      exact inductionHypothesis tail found

theorem rewriteExpr_unary_eq_ok {operand result : Expr} {op : UnaryOp}
    (found : passes.rewriteExpr (.unary op operand) = .ok result) :
    ∃ operand', passes.rewriteExpr operand = .ok operand' ∧ result = .unary op operand' := by
  induction passes generalizing operand with
  | nil => cases found; exact ⟨operand, rfl, rfl⟩
  | cons pass rest inductionHypothesis =>
      obtain ⟨head, tail⟩ := List.forall_mem_cons.mp keeps
      obtain ⟨middle, walked, found⟩ := rewriteExpr_cons_eq_ok found
      obtain ⟨operand', inner, rfl⟩ := walkExpr_unary_eq_ok head.toDisciplined walked
      simp only [rewriteExpr, inner]
      exact inductionHypothesis tail found

theorem rewriteExpr_ordinary_comparison {lhs rhs result : Expr} {op : CompareOp}
    (left : lhs.isTest = false) (right : rhs.isTest = false)
    (found : passes.rewriteExpr (.comparison lhs op rhs) = .ok result) :
    ComparesRewritten passes.rewriteExpr lhs op rhs result := by
  induction passes generalizing lhs rhs with
  | nil => cases found; exact ⟨lhs, rhs, rfl, rfl, rfl⟩
  | cons pass rest inductionHypothesis =>
      obtain ⟨head, tail⟩ := List.forall_mem_cons.mp keeps
      obtain ⟨middle, walked, found⟩ := rewriteExpr_cons_eq_ok found
      obtain ⟨lhs', rhs', first, second, left', right', rfl⟩ :=
        walkExpr_ordinary_comparison head left right walked
      simp only [ComparesRewritten, rewriteExpr, first, second]
      exact inductionHypothesis tail left' right' found

theorem rewriteExpr_test {side : Side} {test : GeometryTest} {lhs rhs number result : Expr}
    {op : CompareOp} (numeral : number.isNumeral = true)
    (found : passes.rewriteExpr (side.compare (.predicate test lhs rhs) op number) = .ok result) :
    (∃ lhs' rhs', passes.rewriteExpr (.predicate test lhs rhs) = .ok (.predicate test lhs' rhs')) ∨
    ∃ text, passes.rewriteExpr (.predicate test lhs rhs) = .ok (.sql { text, predicate := true }) ∧
      SettledAs text op number result := by
  induction passes generalizing lhs rhs with
  | nil => exact .inl ⟨lhs, rhs, rfl⟩
  | cons pass rest inductionHypothesis =>
      obtain ⟨head, tail⟩ := List.forall_mem_cons.mp keeps
      obtain ⟨middle, walked, found⟩ := rewriteExpr_cons_eq_ok found
      rcases walkExpr_test head numeral walked with
        ⟨lhs', rhs', kept, rfl⟩ | ⟨text, given, settled⟩
      · simp only [rewriteExpr, kept]
        exact inductionHypothesis tail found
      · right
        refine ⟨text, ?_, ?_⟩
        · simp only [rewriteExpr, given]
          exact rewriteExpr_sql rest _
        · obtain ⟨truth, positive, value, polarity, rfl⟩ := settled
          cases (rewriteExpr_sql rest _).symm.trans found
          exact ⟨truth, positive, value, polarity, rfl⟩

end Pipeline

theorem signedText_false_ne (text : String) : signedText false text ≠ signedText true text := by
  intro equal
  have lengths : ("NOT (" ++ text ++ ")").length = text.length := congrArg String.length equal
  have opening : "NOT (".length = 5 := rfl
  rw [String.length_append, String.length_append] at lengths
  omega

/-- The text that a comparison settles to reads as the comparison holds. -/
theorem readTest_of_settledAs {side : Side} {test : GeometryTest} {lhs rhs number result : Expr}
    {op : CompareOp} {text : String} {rewrite : Expr → Except Error Expr}
    (numeral : number.isNumeral = true)
    (given : rewrite (.predicate test lhs rhs) = .ok (.sql { text, predicate := true }))
    (settled : SettledAs text op number result) (values : Assignment) :
    (side.compare (.predicate test lhs rhs) op number).readBack rewrite result values =
      some ((side.compare (.predicate test lhs rhs) op number).truth values) := by
  obtain ⟨truth, positive, value, polarity, rfl⟩ := settled
  have reading : readTest (rewrite (.predicate test lhs rhs)) (.verbatim (signedText positive text))
      (values []) = some (positive == values []) := by
    rw [given]
    cases positive with
    | true => simp [readTest, Expr.verbatim]
    | false => simp [readTest, Expr.verbatim, signedText_false_ne]
  obtain ⟨numberFirst, testFirst⟩ := CompareOp.holds_of_polarity polarity (values [])
  cases side with
  | left => simp [Side.compare, Expr.readBack, Expr.truth, value, reading, testFirst]
  | right =>
      -- The number is no geometry test, so the one on the right is the one that is read.
      cases number with
      | literal | unary =>
          simp [Side.compare, Expr.readBack, Expr.truth, value, reading, numberFirst]
      | _ => cases numeral

theorem dialectPass_predicate_ne {config : DialectConfig} {test other : GeometryTest}
    {lhs rhs lhs' rhs' : Expr} :
    ((dialectPass config).walkExpr (.predicate test lhs rhs)).outcome ≠
      .ok (.predicate other lhs' rhs') := by
  intro found
  obtain ⟨left, right, rewrite, _, _, given, shape⟩ :=
    walkExpr_predicate_eq_ok (dialectPass_disciplined config) found
  change (do let text ← testText test left right; Rule.raiseDiscard; return .text text :
    Rule (Rewrite Expr)).outcome = _ at given
  cases text : testText test left right with
  | error e => rw [text] at given; cases given
  | ok text' => rw [text] at given; cases given; cases shape

theorem rewriteExpr_predicate_ne {config : DialectConfig} {passes : Pipeline}
    (known : passes = [dialectPass config] ∨ passes = [indexPass config, dialectPass config])
    {test other : GeometryTest} {lhs rhs lhs' rhs' : Expr} :
    passes.rewriteExpr (.predicate test lhs rhs) ≠ .ok (.predicate other lhs' rhs') := by
  intro found
  rcases known with rfl | rfl
  · obtain ⟨last, walked, found⟩ := Pipeline.rewriteExpr_cons_eq_ok found
    cases found
    exact dialectPass_predicate_ne walked
  · obtain ⟨middle, first, found⟩ := Pipeline.rewriteExpr_cons_eq_ok found
    obtain ⟨last, walked, found⟩ := Pipeline.rewriteExpr_cons_eq_ok found
    cases found
    rcases walkExpr_predicate_cases (indexPass_keepsTests config) first with
      ⟨_, _, rfl⟩ | ⟨_, rfl⟩
    · exact dialectPass_predicate_ne walked
    · cases walked

/-- Removing the comparisons with 0 and 1 does not change what a condition says: with the passes of
either pipeline, the rewritten condition has the AND, OR and NOT of the original, each geometry test
in it is the text of the rewritten test or the negation of that text, each other comparison has its
rewritten operands, and the condition holds exactly when the original does, whichever tests and
comparisons hold. -/
theorem rewriteExpr_keeps_truth (config : DialectConfig) (passes : Pipeline)
    (known : passes = [dialectPass config] ∨ passes = [indexPass config, dialectPass config])
    {condition result : Expr} (isCondition : condition.IsCondition)
    (found : passes.rewriteExpr condition = .ok result) (values : Assignment) :
    condition.readBack passes.rewriteExpr result values = some (condition.truth values) := by
  have keeps : ∀ pass ∈ passes, pass.KeepsTests := by
    rcases known with rfl | rfl
    · simpa using dialectPass_keepsTests config
    · simpa using ⟨indexPass_keepsTests config, dialectPass_keepsTests config⟩
  induction isCondition generalizing result values with
  | and _ _ leftHypothesis rightHypothesis =>
      obtain ⟨lhs', rhs', left, right, rfl⟩ := Pipeline.rewriteExpr_binary_eq_ok keeps found
      simp [Expr.readBack, Expr.truth, leftHypothesis left, rightHypothesis right]
  | or _ _ leftHypothesis rightHypothesis =>
      obtain ⟨lhs', rhs', left, right, rfl⟩ := Pipeline.rewriteExpr_binary_eq_ok keeps found
      simp [Expr.readBack, Expr.truth, leftHypothesis left, rightHypothesis right]
  | not _ inductionHypothesis =>
      obtain ⟨operand', inner, rfl⟩ := Pipeline.rewriteExpr_unary_eq_ok keeps found
      simp [Expr.readBack, Expr.truth, inductionHypothesis inner]
  | @comparison lhs rhs op left right =>
      have kept := Pipeline.rewriteExpr_ordinary_comparison keeps left right found
      have leftPlain : ∀ test a b, lhs ≠ .predicate test a b := by rintro test a b rfl; cases left
      have rightPlain : ∀ test a b, rhs ≠ .predicate test a b := by rintro test a b rfl; cases right
      simp [Expr.readBack, Expr.truth, leftPlain, rightPlain, kept]
  | test side test lhs rhs op numeral =>
      rcases Pipeline.rewriteExpr_test keeps numeral found with
        ⟨lhs', rhs', kept⟩ | ⟨text, given, settled⟩
      · exact absurd kept (rewriteExpr_predicate_ne known)
      · exact readTest_of_settledAs numeral given settled values

/-- `NOT 0 = CONTAINS(POINT(ra, dec), CIRCLE(10, 20, 1))` through the spherical index. -/
theorem rewriteExpr_keeps_truth_negated :
    let passes : Pipeline := [indexPass {}, dialectPass {}]
    let test := Expr.predicate .contains (.geometry .point none [.named "ra", .named "dec"])
      (.geometry .circle none [.number "10", .number "20", .number "1"])
    let condition := Expr.unary .not (.comparison (.number "0") .eq test)
    let result := Expr.unary .not (.verbatim "NOT (q3c_join(ra, dec, 10, 20, 1))")
    passes.rewriteExpr condition = .ok result ∧
      ∀ values, condition.readBack passes.rewriteExpr result values =
        some (condition.truth values) := by
  have found : Pipeline.rewriteExpr [indexPass {}, dialectPass {}] (.unary .not (.comparison
      (.number "0") .eq (.predicate .contains (.geometry .point none [.named "ra", .named "dec"])
        (.geometry .circle none [.number "10", .number "20", .number "1"])))) =
      .ok (.unary .not (.verbatim "NOT (q3c_join(ra, dec, 10, 20, 1))")) := by
    rfl
  exact ⟨found, rewriteExpr_keeps_truth {} _ (.inr rfl) (.not (.test .right _ _ _ _ rfl)) found⟩

end SkySql
