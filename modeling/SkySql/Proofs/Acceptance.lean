import Mathlib.Data.List.Forall2
import SkySql.Pass.Pipeline
import SkySql.Proofs.Scope
import SkySql.Proofs.Tree

set_option autoImplicit false

/-!
Which statements the dialect pass accepts. Every expression has a condition of its own, which looks
at the expression as it is written; the pass succeeds exactly when all of them are met, and otherwise
its error is the one of the first expression, in the order of the walk, whose condition is not. The
point is that rewriting the operands of an expression changes nothing that its condition depends on:
numbers stay numbers, coordinate systems stay known, and geometry tests stay marked.
-/

namespace SkySql

/-- A comparison for equality of one geometry test with 0 or 1. -/
def ComparesTest (lhs : Expr) (op : CompareOp) (rhs : Expr) : Prop :=
  lhs.isTest ≠ rhs.isTest ∧ (if lhs.isTest then rhs else lhs).isTruthValue = true ∧
    (op = .eq ∨ op = .ne)

instance (lhs : Expr) (op : CompareOp) (rhs : Expr) : Decidable (ComparesTest lhs op rhs) :=
  inferInstanceAs (Decidable (_ ∧ _ ∧ _))

/-- The condition of an expression apart from those of its operands. -/
def Expr.Accepted : Expr → Prop
  | .geometry shape _ args =>
      shape.takes args.length = true ∧
        (shape = .polygon → ∀ arg ∈ args, arg.asNumber?.isSome = true)
  | .predicate _ lhs rhs =>
      ∀ source ∈ lhs.system?, ∀ target ∈ rhs.system?,
        ∃ rotation, Frame.rotationByName source target = .ok rotation
  | .function name args =>
      (Text.upperAscii name = "RAND" → args.length ≤ 1) ∧
        (Text.upperAscii name = "SQUARE" → args.length = 1)
  | .geometryFunction .distance args => args.length = 2 ∨ args.length = 4
  | .geometryFunction .centroid args => args.length = 1
  | .geometryFunction .region _ => False
  | .comparison lhs op rhs => lhs.isTest = true ∨ rhs.isTest = true → ComparesTest lhs op rhs
  | _ => True

/-- The text, or what the error says instead. -/
def textOrMessage : Except Error String → String
  | .ok text => text
  | .error e => e.message

def rewrittenText (config : DialectConfig) (expr : Expr) : String :=
  textOrMessage do (← ((dialectPass config).walkExpr expr).outcome).render

def rewrittenComparison (config : DialectConfig) (lhs : Expr) (op : CompareOp) (rhs : Expr) :
    String :=
  textOrMessage do
    let lhs ← ((dialectPass config).walkExpr lhs).outcome
    let rhs ← ((dialectPass config).walkExpr rhs).outcome
    (Expr.comparison lhs op rhs).render

/-- The error of an expression whose own condition is not met. -/
def Expr.fault? (config : DialectConfig) : Expr → Option Error
  | .geometry shape _ args =>
      if shape.takes args.length then
        if shape = .polygon then
          (args.find? (·.asNumber?.isNone)).map fun arg =>
            .nonLiteralPolygon (rewrittenText config arg)
        else none
      else some (.arity shape.name shape.expected args.length)
  | .predicate _ lhs rhs =>
      match lhs.system?, rhs.system? with
      | some source, some target =>
          match Frame.rotationByName source target with
          | .ok _ => none
          | .error e => some e
      | _, _ => none
  | .function name args =>
      if Text.upperAscii name = "RAND" ∧ 1 < args.length then
        some (.arity "RAND" "0 or 1" args.length)
      else if Text.upperAscii name = "SQUARE" ∧ args.length ≠ 1 then
        some (.arity "SQUARE" "1" args.length)
      else none
  | .geometryFunction .distance args =>
      if args.length = 2 ∨ args.length = 4 then none
      else some (.arity "DISTANCE" "2 or 4" args.length)
  | .geometryFunction .centroid args =>
      if args.length = 1 then none else some (.arity "CENTROID" "1" args.length)
  | .geometryFunction .region _ => some (.unsupported "REGION")
  | .comparison lhs op rhs =>
      if (lhs.isTest = true ∨ rhs.isTest = true) ∧ ¬ComparesTest lhs op rhs then
        some (.predicateComparison (rewrittenComparison config lhs op rhs))
      else none
  | _ => none

theorem Expr.fault?_eq_none_iff (config : DialectConfig) (expr : Expr) :
    expr.fault? config = none ↔ expr.Accepted := by
  cases expr with
  | geometry shape frame args =>
      simp only [Expr.fault?, Expr.Accepted]
      split
      · next valid =>
          split
          · next polygon =>
              subst polygon
              simp [valid, Option.isSome_iff_ne_none]
          · next other => simp [valid, other]
      · next invalid => simp [invalid]
  | predicate test lhs rhs =>
      simp only [Expr.fault?, Expr.Accepted]
      rcases lhs.system? with _ | source <;> rcases rhs.system? with _ | target <;> simp
      cases Frame.rotationByName source target <;> simp
  | function name args =>
      simp only [Expr.fault?, Expr.Accepted]
      split
      · next rand => simp [rand]
      · split
        · next square => simp [square]
        · next rand square => simp_all
  | geometryFunction kind args =>
      cases kind with
      | distance => simp [Expr.fault?, Expr.Accepted, or_iff_not_imp_left]
      | area | centroid | region => simp [Expr.fault?, Expr.Accepted]
  | comparison lhs op rhs => simp [Expr.fault?, Expr.Accepted]
  | _ => simp [Expr.fault?, Expr.Accepted]

/-- The errors of the expressions in a list whose own conditions are not met. -/
def faults (config : DialectConfig) (nodes : List Expr) : List Error :=
  nodes.filterMap (·.fault? config)

@[simp] theorem faults_append (config : DialectConfig) (left right : List Expr) :
    faults config (left ++ right) = faults config left ++ faults config right :=
  List.filterMap_append

@[simp] theorem faults_singleton (config : DialectConfig) (node : Expr) :
    faults config [node] = (node.fault? config).toList := by
  rw [faults]
  cases found : node.fault? config <;> simp [found]

/-- The outcome that a list of faults allows: the first of them, or a good result if there is
none. -/
def Verdict {α : Type} (good : α → Prop) (found : Except Error α) : List Error → Prop
  | [] => ∃ a, found = .ok a ∧ good a
  | e :: _ => found = .error e

theorem Verdict.map {α β : Type} {good : α → Prop} {better : β → Prop} {found : Except Error α}
    {first : List Error} (f : α → β) (verdict : Verdict good found first)
    (holds : ∀ a, good a → better (f a)) : Verdict better (found.map f) first := by
  cases first with
  | nil =>
      obtain ⟨a, rfl, isGood⟩ := verdict
      exact ⟨f a, rfl, holds a isGood⟩
  | cons e rest =>
      cases verdict
      rfl

/-- From a state without a request to drop a comparison, the rule ends without one and with the
outcome that the faults allow. -/
def Rule.Meets {α : Type} (rule : Rule α) (found : List Error) (good : α → Prop) : Prop :=
  ∀ earlier, ∃ result later,
    rule.apply ⟨false, earlier⟩ = (result, ⟨false, later⟩) ∧ Verdict good result found

namespace Rule.Meets

variable {α β : Type} {rule : Rule α} {good : α → Prop} {better : β → Prop}
  {first second : List Error}

theorem pure {a : α} (holds : good a) : (Pure.pure a : Rule α).Meets [] good :=
  fun earlier => ⟨.ok a, earlier, rfl, a, rfl, holds⟩

theorem lift {found : Except Error α} (verdict : Verdict good found first) :
    (liftM found : Rule α).Meets first good :=
  fun earlier => ⟨found, earlier, rfl, verdict⟩

theorem bind {next : α → Rule β} (meets : rule.Meets first good)
    (further : ∀ a, good a → (next a).Meets second better) :
    (rule >>= next).Meets (first ++ second) better := by
  intro earlier
  obtain ⟨result, later, run, verdict⟩ := meets earlier
  rw [Rule.apply_bind, run]
  cases first with
  | nil =>
      obtain ⟨a, rfl, holds⟩ := verdict
      exact further a holds later
  | cons e rest =>
      cases verdict
      exact ⟨.error e, later, rfl, rfl⟩

theorem map (f : α → β) (meets : rule.Meets first good) (holds : ∀ a, good a → better (f a)) :
    (rule >>= fun a => Pure.pure (f a)).Meets first better := by
  have composed := meets.bind fun a isGood => pure (holds a isGood)
  simpa using composed

theorem text {found : Except Error String} {wrap : String → α}
    (verdict : Verdict (fun _ => True) found first) (holds : ∀ text, good (wrap text)) :
    (do let rewrite ← (do return .text (← found) : Rule (Rewrite α))
        return rewrite.settle wrap : Rule α).Meets first good := by
  intro earlier
  refine ⟨found.map wrap, earlier, ?_, verdict.map wrap fun text _ => holds text⟩
  cases found <;> rfl

theorem test {found : Except Error String} {good : Expr → Prop}
    (verdict : Verdict (fun _ => True) found first)
    (holds : ∀ text, good (.sql { text, predicate := true })) :
    (settleTest do let text ← found; raiseDiscard; return .text text).Meets first good := by
  intro earlier
  refine ⟨found.map _, earlier, ?_, verdict.map _ fun text _ => holds text⟩
  cases found <;> rfl

/-- What a rule gives from any state without a request it gives from a fresh one. -/
theorem strengthen {better : α → Prop} (confined : rule.Confined) (meets : rule.Meets first good)
    (holds : ∀ a, rule.outcome = .ok a → good a → better a) : rule.Meets first better := by
  intro earlier
  obtain ⟨result, later, run, verdict⟩ := meets earlier
  refine ⟨result, later, run, ?_⟩
  have same : rule.outcome = result := by
    rw [confined.apply_eq] at run
    exact congrArg Prod.fst run
  cases first with
  | nil =>
      obtain ⟨a, rfl, isGood⟩ := verdict
      exact ⟨a, rfl, holds a same isGood⟩
  | cons e rest => exact verdict

end Rule.Meets

/-- A rewritten expression that has text and in which everything that the conditions of other
expressions look at is as it was. -/
structure Faithful (source result : Expr) : Prop where
  rendered : ∃ text, result.render = .ok text
  number : result.asNumber? = source.asNumber?
  system : result.coordSystem? = source.system?
  test : result.isPredicateText = source.isTest

structure Rewritten (config : DialectConfig) (source result : Expr) : Prop
    extends Faithful source result where
  outcome : ((dialectPass config).walkExpr source).outcome = .ok result

/-- Text in the place of an expression that is neither a number nor a geometry test. -/
theorem faithful_sql {source : Expr} {text : String} {system : Option String}
    (number : source.asNumber? = none) (sameSystem : system = source.system?)
    (ordinary : source.isTest = false) : Faithful source (.sql { text, coordSystem := system }) :=
  ⟨⟨text, rfl⟩, number.symm, sameSystem, ordinary.symm⟩

section Rules

variable {config : DialectConfig}

theorem rewrittenText_eq {source result : Expr} {text : String}
    (rewritten : Rewritten config source result) (rendered : result.render = .ok text) :
    rewrittenText config source = text := by
  rw [rewrittenText, rewritten.outcome]
  change textOrMessage result.render = text
  rw [rendered]
  rfl

theorem renderExprs_eq_ok {sources results : List Expr}
    (all : List.Forall₂ (Rewritten config) sources results) :
    ∃ texts, renderExprs results = .ok texts := by
  induction all with
  | nil => exact ⟨[], rfl⟩
  | cons head _ inductionHypothesis =>
      obtain ⟨text, first⟩ := head.rendered
      obtain ⟨texts, rest⟩ := inductionHypothesis
      exact ⟨text :: texts, by rw [renderExprs, first, rest]; rfl⟩

theorem polygonCoordinates_verdict {sources results : List Expr}
    (all : List.Forall₂ (Rewritten config) sources results) :
    Verdict (fun _ => True) (polygonCoordinates results)
      ((sources.find? (·.asNumber?.isNone)).map fun arg =>
        Error.nonLiteralPolygon (rewrittenText config arg)).toList := by
  induction all with
  | nil => exact ⟨[], rfl, trivial⟩
  | @cons source result sources results head _ inductionHypothesis =>
      obtain ⟨text, rendered⟩ := head.rendered
      cases value : source.asNumber? with
      | none =>
          have refused : result.asNumber?.isNone = true := by rw [head.number, value]; rfl
          have first : polygonCoordinates (result :: results) =
              .error (.nonLiteralPolygon text) := by
            simp only [polygonCoordinates, rendered, refused, if_true]
            rfl
          rw [first, List.find?_cons_of_pos (by simp [value]), Option.map_some,
            rewrittenText_eq head rendered]
          rfl
      | some number =>
          have taken : result.asNumber?.isNone = false := by rw [head.number, value]; rfl
          have first : polygonCoordinates (result :: results) =
              (polygonCoordinates results).map (text :: ·) := by
            simp only [polygonCoordinates, rendered, taken]
            rfl
          rw [first, List.find?_cons_of_neg (by simp [value])]
          exact inductionHypothesis.map _ fun _ _ => trivial

theorem corner_eq_ok {center extent : Expr} {centerText extentText : String}
    (first : center.render = .ok centerText) (second : extent.render = .ok extentText) :
    (∃ text, (below center extent).render = .ok text) ∧
      ∃ text, (above center extent).render = .ok text := by
  unfold below above
  cases center.asNumber? <;> cases extent.asNumber?
  case some.some => exact ⟨⟨_, rfl⟩, ⟨_, rfl⟩⟩
  all_goals
    simp only [Expr.render, first, second]
    exact ⟨⟨_, rfl⟩, ⟨_, rfl⟩⟩

theorem geometryText_verdict {shape : Shape} {frame : Option String} {sources results : List Expr}
    (all : List.Forall₂ (Rewritten config) sources results) :
    Verdict (fun _ => True) (geometryText shape results)
      ((Expr.geometry shape frame sources).fault? config).toList := by
  unfold geometryText
  rw [Expr.fault?, all.length_eq]
  cases valid : shape.takes results.length with
  | false => simp; rfl
  | true =>
      cases shape with
      | point =>
          rcases all with _ | ⟨first, _ | ⟨second, _ | _⟩⟩
          case cons.cons.nil =>
            obtain ⟨x, firstText⟩ := first.rendered
            obtain ⟨y, secondText⟩ := second.rendered
            simp only [firstText, secondText]
            exact ⟨_, rfl, trivial⟩
          all_goals simp [Shape.takes] at valid
      | circle =>
          rcases all with _ | ⟨first, _ | ⟨second, _ | ⟨third, _ | _⟩⟩⟩
          case cons.cons.cons.nil =>
            obtain ⟨x, firstText⟩ := first.rendered
            obtain ⟨y, secondText⟩ := second.rendered
            obtain ⟨radius, thirdText⟩ := third.rendered
            simp only [firstText, secondText, thirdText]
            exact ⟨_, rfl, trivial⟩
          all_goals simp [Shape.takes] at valid
      | box =>
          rcases all with _ | ⟨first, _ | ⟨second, _ | ⟨third, _ | ⟨fourth, _ | _⟩⟩⟩⟩
          case cons.cons.cons.cons.nil =>
            obtain ⟨x, firstText⟩ := first.rendered
            obtain ⟨y, secondText⟩ := second.rendered
            obtain ⟨width, thirdText⟩ := third.rendered
            obtain ⟨height, fourthText⟩ := fourth.rendered
            obtain ⟨⟨x0, west⟩, ⟨x1, east⟩⟩ := corner_eq_ok firstText thirdText
            obtain ⟨⟨y0, south⟩, ⟨y1, north⟩⟩ := corner_eq_ok secondText fourthText
            simp only [Shape.corners?, west, east, south, north]
            exact ⟨_, rfl, trivial⟩
          all_goals simp [Shape.takes] at valid
      | polygon =>
          exact (polygonCoordinates_verdict all).map
            (fun texts => "'(" ++ Text.commaList (vertexTexts texts) ++ ")'::polygon")
            fun _ _ => trivial

theorem testText_verdict {test : GeometryTest} {lhs rhs left right : Expr}
    (first : Rewritten config lhs left) (second : Rewritten config rhs right) :
    Verdict (fun _ => True) (testText test left right)
      ((Expr.predicate test lhs rhs).fault? config).toList := by
  obtain ⟨leftText, leftRendered⟩ := first.rendered
  obtain ⟨rightText, rightRendered⟩ := second.rendered
  unfold testText
  simp only [leftRendered, rightRendered, first.system, second.system, Expr.fault?]
  cases lhs.system? with
  | none => exact ⟨_, rfl, trivial⟩
  | some source =>
      cases rhs.system? with
      | none => exact ⟨_, rfl, trivial⟩
      | some target =>
          cases rotation : Frame.rotationByName source target with
          | error e => simp [Frame.conform, rotation]; rfl
          | ok text => cases text <;> simp [Frame.conform, rotation] <;> exact ⟨_, rfl, trivial⟩

theorem accessorText_eq_ok {kind : PointAccessor} {arg result : Expr}
    (rewritten : Rewritten config arg result) : ∃ text, accessorText kind result = .ok text := by
  obtain ⟨text, rendered⟩ := rewritten.rendered
  cases kind with
  | coord1 | coord2 => simp only [accessorText, rendered]; exact ⟨_, rfl⟩
  | coordSystem => exact ⟨_, rfl⟩

theorem renamed?_eq_some {name other : String} (known : renamed? name = some other) :
    name ≠ "RAND" ∧ name ≠ "SQUARE" := by
  constructor <;> rintro rfl <;> cases known

theorem functionRewrite_verdict {name : String} {sources results : List Expr}
    (all : List.Forall₂ (Rewritten config) sources results) :
    Verdict (fun rewrite => Faithful (.function name sources) (rewrite.settle .verbatim))
      (functionRewrite name results) ((Expr.function name sources).fault? config).toList := by
  have plain (text : String) : Faithful (.function name sources) (.verbatim text) :=
    faithful_sql rfl rfl rfl
  have kept (other : String) : Faithful (.function name sources) (.function other results) := by
    obtain ⟨texts, rendered⟩ := renderExprs_eq_ok all
    exact ⟨⟨callText other texts, by rw [Expr.render, rendered]; rfl⟩, rfl, rfl, rfl⟩
  unfold functionRewrite
  rw [Expr.fault?, all.length_eq]
  cases known : renamed? (Text.upperAscii name) with
  | some other =>
      obtain ⟨notRand, notSquare⟩ := renamed?_eq_some known
      simp only [known, notRand, notSquare, false_and, if_false]
      exact ⟨_, rfl, kept other⟩
  | none =>
      by_cases rand : Text.upperAscii name = "RAND"
      · match all with
        | .nil => simp only [rand]; exact ⟨_, rfl, plain _⟩
        | .cons first .nil =>
            obtain ⟨text, rendered⟩ := first.rendered
            simp only [rand, rendered]
            exact ⟨_, rfl, plain _⟩
        | .cons _ (.cons _ _) => simp only [rand]; simp; rfl
      · by_cases square : Text.upperAscii name = "SQUARE"
        · match all with
          | .cons first .nil =>
              obtain ⟨text, rendered⟩ := first.rendered
              simp only [square, rendered]
              exact ⟨_, rfl, plain _⟩
          | .nil => simp only [square]; rfl
          | .cons _ (.cons _ _) => simp only [square]; simp; rfl
        · simp only [known, rand, square, false_and, if_false]
          exact ⟨_, rfl, kept name⟩

theorem GeometryFunction.system?_eq {kind : GeometryFunction} {sources results : List Expr}
    (all : List.Forall₂ (Rewritten config) sources results) :
    kind.system? results = (Expr.geometryFunction kind sources).system? := by
  cases kind with
  | area | distance | region => rfl
  | centroid =>
      cases all with
      | nil => rfl
      | cons head _ => exact head.system

theorem geometryFunctionRule_meets {kind : GeometryFunction} {sources results : List Expr}
    (all : List.Forall₂ (Rewritten config) sources results) :
    (do let rewrite ← geometryFunctionRule config kind results
        return rewrite.settle fun text =>
          .sql { text, coordSystem := kind.system? results } : Rule Expr).Meets
      ((Expr.geometryFunction kind sources).fault? config).toList
      (Faithful (.geometryFunction kind sources)) := by
  have plain (text : String) : Faithful (.geometryFunction kind sources)
      (.sql { text, coordSystem := kind.system? results }) :=
    faithful_sql rfl (GeometryFunction.system?_eq all) rfl
  obtain ⟨texts, rendered⟩ := renderExprs_eq_ok all
  cases kind with
  | area =>
      intro earlier
      refine ⟨.ok (.geometryFunction .area results), earlier ++ [planarAreaWarning], rfl, _, rfl, ?_⟩
      exact ⟨⟨callText _ texts, by rw [Expr.render, rendered]; rfl⟩, rfl, rfl, rfl⟩
  | distance =>
      have verdict : Verdict (fun _ => True) (distanceText config results)
          ((Expr.geometryFunction .distance sources).fault? config).toList := by
        rw [Expr.fault?, all.length_eq]
        by_cases two : results.length = 2
        · simp only [distanceText, two, rendered]
          exact ⟨_, rfl, trivial⟩
        · by_cases four : results.length = 4
          · simp only [distanceText, four, rendered]
            exact ⟨_, rfl, trivial⟩
          · simp [distanceText, two, four]
            rfl
      exact .text verdict plain
  | centroid =>
      have verdict : Verdict (fun _ => True) (centroidText config results)
          ((Expr.geometryFunction .centroid sources).fault? config).toList := by
        match all with
        | .cons first .nil =>
            obtain ⟨text, rendered⟩ := first.rendered
            simp only [centroidText, rendered]
            exact ⟨_, rfl, trivial⟩
        | .nil => rfl
        | .cons _ (.cons _ rest) => simp [centroidText, Expr.fault?, rest.length_eq]; rfl
      exact .text verdict plain
  | region => exact fun earlier => ⟨.error (.unsupported "REGION"), earlier, rfl, rfl⟩

/-- A comparison that is refused is shown as it was written, with its sides rewritten. -/
theorem badComparison_eq {lhs rhs left right : Expr} (op : CompareOp)
    (first : Rewritten config lhs left) (second : Rewritten config rhs right) :
    badComparison left op right =
      .predicateComparison (rewrittenComparison config lhs op rhs) := by
  rw [rewrittenComparison, first.outcome, second.outcome]
  change badComparison left op right =
    .predicateComparison (textOrMessage (Expr.comparison left op right).render)
  rw [badComparison]
  cases (Expr.comparison left op right).render <;> rfl

theorem Expr.isTest_of_asNumber? {expr : Expr} {number : Float}
    (value : expr.asNumber? = some number) : expr.isTest = false := by
  cases expr with
  | predicate | sql => cases value
  | _ => rfl

theorem CompareOp.polarity?_isSome_iff (op : CompareOp) (truth : Float) :
    (op.polarity? truth).isSome = true ↔
      (truth == 0.0 || truth == 1.0) = true ∧ (op = .eq ∨ op = .ne) := by
  cases op with
  | eq | ne =>
      cases zero : truth == 0.0 <;> cases one : truth == 1.0 <;>
        simp [CompareOp.polarity?, zero, one]
  | lt | le | gt | ge => simp [CompareOp.polarity?]

/-- A test compared with a number has a condition if the comparison has a polarity. -/
theorem polarity_verdict {compares : Prop} [Decidable compares] {op : CompareOp} {truth : Float}
    (same : compares ↔ (op.polarity? truth).isSome = true) (text : String) (e : Error) :
    Verdict (fun _ => True)
      (match op.polarity? truth with
        | some true => .ok text
        | some false => .ok ("NOT (" ++ text ++ ")")
        | none => .error e)
      (if ¬compares then some e else none).toList := by
  simp only [same]
  cases op.polarity? truth with
  | none => rfl
  | some positive => cases positive <;> exact ⟨_, rfl, trivial⟩

theorem testCondition_verdict {lhs rhs left right : Expr} {op : CompareOp}
    (first : Rewritten config lhs left) (second : Rewritten config rhs right)
    (tested : lhs.isTest = true ∨ rhs.isTest = true) :
    Verdict (fun _ => True) (testCondition left op right)
      ((Expr.comparison lhs op rhs).fault? config).toList := by
  obtain ⟨leftText, leftRendered⟩ := first.rendered
  obtain ⟨rightText, rightRendered⟩ := second.rendered
  unfold testCondition
  simp only [first.number, second.number, first.test, second.test, badComparison_eq op first second,
    leftRendered, rightRendered, Expr.fault?, tested, true_and]
  -- A number is no test, so at most one side is one, and the other side is the test.
  rcases leftValue : lhs.asNumber? with _ | leftTruth <;>
    rcases rightValue : rhs.asNumber? with _ | rightTruth
  case none.none =>
    have refused : ¬ComparesTest lhs op rhs := by
      rintro ⟨-, isValue, -⟩
      split at isValue <;> simp [Expr.isTruthValue, leftValue, rightValue] at isValue
    rw [if_pos refused]
    rfl
  case none.some =>
    have ordinary := Expr.isTest_of_asNumber? rightValue
    have test : lhs.isTest = true := by simpa [ordinary] using tested
    have compares : ComparesTest lhs op rhs ↔ (op.polarity? rightTruth).isSome = true := by
      rw [CompareOp.polarity?_isSome_iff]
      simp [ComparesTest, test, ordinary, Expr.isTruthValue, rightValue]
    simp only [if_pos test]
    exact polarity_verdict compares leftText _
  case some.none =>
    have ordinary := Expr.isTest_of_asNumber? leftValue
    have test : rhs.isTest = true := by simpa [ordinary] using tested
    have compares : ComparesTest lhs op rhs ↔ (op.polarity? leftTruth).isSome = true := by
      rw [CompareOp.polarity?_isSome_iff]
      simp [ComparesTest, test, ordinary, Expr.isTruthValue, leftValue]
    simp only [if_pos test]
    exact polarity_verdict compares rightText _
  case some.some =>
    simp [Expr.isTest_of_asNumber? leftValue, Expr.isTest_of_asNumber? rightValue] at tested

theorem settleComparison_meets {lhs rhs left right : Expr} {op : CompareOp}
    (first : Rewritten config lhs left) (second : Rewritten config rhs right) :
    ((dialectPass config).settleComparison left op right).Meets
      ((Expr.comparison lhs op rhs).fault? config).toList (Faithful (.comparison lhs op rhs)) := by
  intro earlier
  refine ⟨_, earlier, apply_settleComparison rfl left op right earlier, ?_⟩
  rw [first.test, second.test]
  by_cases tested : lhs.isTest = true ∨ rhs.isTest = true
  · rw [if_pos (by simpa using tested)]
    exact (testCondition_verdict first second tested).map _ fun _ _ => faithful_sql rfl rfl rfl
  · have accepted : (Expr.comparison lhs op rhs).fault? config = none := by
      simp [Expr.fault?, tested]
    obtain ⟨leftText, leftRendered⟩ := first.rendered
    obtain ⟨rightText, rightRendered⟩ := second.rendered
    rw [if_neg (by simpa using tested), accepted]
    refine ⟨_, rfl, ⟨_, by rw [Expr.render, leftRendered, rightRendered]; rfl⟩, rfl, rfl, rfl⟩

end Rules

section Walk

variable (config : DialectConfig)

mutual

theorem walkExpr_meets (expr : Expr) (plain : ∀ node ∈ expr.nodes, node.isRegion = false) :
    ((dialectPass config).walkExpr expr).Meets (faults config expr.nodes)
      (Rewritten config expr) := by
  have confined := walkExpr_confined (dialectPass_disciplined config) expr
  suffices meets : ((dialectPass config).walkExpr expr).Meets (faults config expr.nodes)
      (Faithful expr) from meets.strengthen confined fun _ found faithful => ⟨faithful, found⟩
  match expr with
  | .literal _ | .column _ | .sql _ => exact .pure ⟨⟨_, rfl⟩, rfl, rfl, rfl⟩
  | .region _ => cases plain _ (List.mem_singleton_self _)
  | .geometry shape frame args =>
      obtain ⟨inArgs, -⟩ := List.forall_mem_append.mp plain
      rw [Expr.nodes, Expr.read, everywhere_expr, faults_append, faults_singleton]
      refine (walkExprs_meets args inArgs).bind fun results all => ?_
      exact .text (geometryText_verdict all) fun _ => faithful_sql rfl rfl rfl
  | .predicate test lhs rhs =>
      obtain ⟨inOperands, -⟩ := List.forall_mem_append.mp plain
      obtain ⟨inLeft, inRight⟩ := List.forall_mem_append.mp inOperands
      rw [Expr.nodes, Expr.read, everywhere_expr, List.append_assoc, faults_append, faults_append,
        faults_singleton]
      refine (walkExpr_meets lhs inLeft).bind fun left first => ?_
      refine (walkExpr_meets rhs inRight).bind fun right second => ?_
      exact .test (testText_verdict first second) fun _ => ⟨⟨_, rfl⟩, rfl, rfl, rfl⟩
  | .accessor kind arg =>
      obtain ⟨inArg, -⟩ := List.forall_mem_append.mp plain
      rw [Expr.nodes, Expr.read, everywhere_expr, faults_append, faults_singleton]
      refine (walkExpr_meets arg inArg).bind fun result rewritten => ?_
      obtain ⟨text, made⟩ := accessorText_eq_ok rewritten
      exact .text ⟨text, made, trivial⟩ fun _ => faithful_sql rfl rfl rfl
  | .function name args =>
      obtain ⟨inArgs, -⟩ := List.forall_mem_append.mp plain
      rw [Expr.nodes, Expr.read, everywhere_expr, faults_append, faults_singleton]
      refine (walkExprs_meets args inArgs).bind fun results all => ?_
      exact (Rule.Meets.lift (functionRewrite_verdict all)).map _ fun _ faithful => faithful
  | .geometryFunction kind args =>
      obtain ⟨inArgs, -⟩ := List.forall_mem_append.mp plain
      rw [Expr.nodes, Expr.read, everywhere_expr, faults_append, faults_singleton]
      refine (walkExprs_meets args inArgs).bind fun results all => ?_
      exact geometryFunctionRule_meets all
  | .comparison lhs op rhs =>
      obtain ⟨inOperands, -⟩ := List.forall_mem_append.mp plain
      obtain ⟨inLeft, inRight⟩ := List.forall_mem_append.mp inOperands
      rw [Expr.nodes, Expr.read, everywhere_expr, List.append_assoc, faults_append, faults_append,
        faults_singleton]
      refine (walkExpr_meets lhs inLeft).bind fun left first => ?_
      refine (walkExpr_meets rhs inRight).bind fun right second => ?_
      exact settleComparison_meets first second
  | .binary lhs op rhs =>
      obtain ⟨inOperands, -⟩ := List.forall_mem_append.mp plain
      obtain ⟨inLeft, inRight⟩ := List.forall_mem_append.mp inOperands
      rw [Expr.nodes, Expr.read, everywhere_expr, List.append_assoc, faults_append, faults_append]
      refine (walkExpr_meets lhs inLeft).bind fun left first => ?_
      refine (walkExpr_meets rhs inRight).bind fun right second => ?_
      obtain ⟨leftText, leftRendered⟩ := first.rendered
      obtain ⟨rightText, rightRendered⟩ := second.rendered
      exact .pure ⟨⟨_, by rw [Expr.render, leftRendered, rightRendered]; rfl⟩, rfl, rfl, rfl⟩
  | .unary op operand =>
      obtain ⟨inOperand, -⟩ := List.forall_mem_append.mp plain
      rw [Expr.nodes, Expr.read, everywhere_expr, faults_append]
      refine (walkExpr_meets operand inOperand).bind fun result rewritten => ?_
      obtain ⟨text, rendered⟩ := rewritten.rendered
      cases op with
      | neg =>
          have number : (Expr.unary .neg result).asNumber? = (Expr.unary .neg operand).asNumber? := by
            rw [Expr.asNumber?, Expr.asNumber?, rewritten.number]
          exact .pure ⟨⟨_, by rw [Expr.render, rendered]; rfl⟩, number, rfl, rfl⟩
      | not => exact .pure ⟨⟨_, by rw [Expr.render, rendered]; rfl⟩, rfl, rfl, rfl⟩
  | .subquery statement =>
      obtain ⟨inside, -⟩ := List.forall_mem_append.mp plain
      rw [Expr.nodes, Expr.read, everywhere_expr, faults_append]
      refine (walkStatement_meets statement inside).bind fun result rendered => ?_
      obtain ⟨text, rendered⟩ := rendered
      exact .pure ⟨⟨_, by rw [Expr.render, rendered]; rfl⟩, rfl, rfl, rfl⟩

theorem walkExprs_meets (exprs : List Expr)
    (plain : ∀ node ∈ exprNodes exprs, node.isRegion = false) :
    ((dialectPass config).walkExprs exprs).Meets (faults config (exprNodes exprs))
      (List.Forall₂ (Rewritten config) exprs) := by
  match exprs with
  | [] => exact .pure .nil
  | expr :: rest =>
      obtain ⟨inExpr, inRest⟩ := List.forall_mem_append.mp plain
      rw [exprNodes, readExprs, faults_append]
      refine (walkExpr_meets expr inExpr).bind fun result rewritten => ?_
      exact (walkExprs_meets rest inRest).map _ fun _ all => .cons rewritten all

theorem walkOption_meets (option : Option Expr)
    (plain : ∀ node ∈ readOption everywhere option, node.isRegion = false) :
    ((dialectPass config).walkOption option).Meets (faults config (readOption everywhere option))
      fun result => ∃ text, renderOption result = .ok text := by
  match option with
  | none => exact .pure ⟨none, rfl⟩
  | some expr =>
      refine (walkExpr_meets expr plain).map _ fun result rewritten => ?_
      obtain ⟨text, rendered⟩ := rewritten.rendered
      exact ⟨some text, by rw [renderOption, rendered]; rfl⟩

theorem walkStatement_meets (statement : Statement)
    (plain : ∀ node ∈ statement.nodes, node.isRegion = false) :
    ((dialectPass config).walkStatement statement).Meets (faults config statement.nodes)
      fun result => ∃ text, result.render = .ok text := by
  match statement with
  | .sql text => exact .pure ⟨text, rfl⟩
  | .setOperation op all lhs rhs =>
      obtain ⟨inLeft, inRight⟩ := List.forall_mem_append.mp plain
      rw [Statement.nodes, Statement.read, faults_append]
      refine (walkStatement_meets lhs inLeft).bind fun left first => ?_
      refine (walkStatement_meets rhs inRight).map _ fun right second => ?_
      obtain ⟨leftText, leftRendered⟩ := first
      obtain ⟨rightText, rightRendered⟩ := second
      exact ⟨_, by rw [Statement.render, leftRendered, rightRendered]; rfl⟩
  | .select query =>
      change Rule.Meets _ (faults config query.nodes) _
      rw [← List.append_nil (faults config query.nodes)]
      refine (walkQuery_meets query plain).bind fun result rendered => ?_
      obtain ⟨clauses, rendered⟩ := rendered
      exact .text ⟨_, by rw [Query.renderSelect, rendered]; rfl, trivial⟩ fun text => ⟨text, rfl⟩

theorem walkQuery_meets (query : Query)
    (plain : ∀ node ∈ query.nodes, node.isRegion = false) :
    ((dialectPass config).walkQuery query).Meets (faults config query.nodes)
      fun result => ∃ clauses, result.clauses = .ok clauses := by
  match query with
  | { items, tables, condition, groupBy, having, orderBy, .. } =>
      obtain ⟨inItems, plain⟩ := List.forall_mem_append.mp plain
      obtain ⟨inTables, plain⟩ := List.forall_mem_append.mp plain
      obtain ⟨inCondition, plain⟩ := List.forall_mem_append.mp plain
      obtain ⟨inGroups, plain⟩ := List.forall_mem_append.mp plain
      obtain ⟨inHaving, inOrder⟩ := List.forall_mem_append.mp plain
      simp only [Query.nodes, Query.read, faults_append]
      refine (walkItems_meets items inItems).bind fun _ ⟨_, first⟩ => ?_
      refine (walkTables_meets tables inTables).bind fun _ ⟨_, second⟩ => ?_
      refine (walkOption_meets condition inCondition).bind fun _ ⟨_, third⟩ => ?_
      refine (walkExprs_meets groupBy inGroups).bind fun _ all => ?_
      obtain ⟨_, fourth⟩ := renderExprs_eq_ok all
      refine (walkOption_meets having inHaving).bind fun _ ⟨_, fifth⟩ => ?_
      refine (walkOrder_meets orderBy inOrder).map _ fun _ ⟨_, sixth⟩ => ?_
      exact ⟨_, by rw [Query.clauses, first, second, third, fourth, fifth, sixth]; rfl⟩

theorem walkItem_meets (item : SelectItem)
    (plain : ∀ node ∈ item.read everywhere, node.isRegion = false) :
    ((dialectPass config).walkItem item).Meets (faults config (item.read everywhere))
      fun result => ∃ text, result.render = .ok text := by
  match item with
  | .star table => cases table <;> exact .pure ⟨_, rfl⟩
  | .expr expr label =>
      refine (walkExpr_meets expr plain).map _ fun _ rewritten => ?_
      obtain ⟨_, rendered⟩ := rewritten.rendered
      exact ⟨_, by rw [SelectItem.render, rendered]; rfl⟩

theorem walkItems_meets (items : List SelectItem)
    (plain : ∀ node ∈ readItems everywhere items, node.isRegion = false) :
    ((dialectPass config).walkItems items).Meets (faults config (readItems everywhere items))
      fun results => ∃ texts, renderItems results = .ok texts := by
  match items with
  | [] => exact .pure ⟨[], rfl⟩
  | item :: rest =>
      obtain ⟨inItem, inRest⟩ := List.forall_mem_append.mp plain
      rw [readItems, faults_append]
      refine (walkItem_meets item inItem).bind fun _ ⟨_, first⟩ => ?_
      refine (walkItems_meets rest inRest).map _ fun _ ⟨_, others⟩ => ?_
      exact ⟨_, by rw [renderItems, first, others]; rfl⟩

theorem walkOrder_meets (order : List OrderItem)
    (plain : ∀ node ∈ readOrder everywhere order, node.isRegion = false) :
    ((dialectPass config).walkOrder order).Meets (faults config (readOrder everywhere order))
      fun results => ∃ texts, renderOrder results = .ok texts := by
  match order with
  | [] => exact .pure ⟨[], rfl⟩
  | { expr, descending } :: rest =>
      obtain ⟨inExpr, inRest⟩ := List.forall_mem_append.mp plain
      rw [readOrder, faults_append]
      refine (walkExpr_meets expr inExpr).bind fun _ rewritten => ?_
      obtain ⟨_, first⟩ := rewritten.rendered
      refine (walkOrder_meets rest inRest).map _ fun _ ⟨_, others⟩ => ?_
      exact ⟨_, by rw [renderOrder, first, others]; rfl⟩

theorem walkTable_meets (table : TableRef)
    (plain : ∀ node ∈ table.nodes, node.isRegion = false) :
    ((dialectPass config).walkTable table).Meets (faults config table.nodes)
      fun result => ∃ text, result.render = .ok text := by
  match table with
  | .table _ _ | .sql _ => exact .pure ⟨_, rfl⟩
  | .derived statement name =>
      change Rule.Meets _ (faults config statement.nodes) _
      rw [← List.append_nil (faults config statement.nodes)]
      refine (walkStatement_meets statement plain).bind fun _ ⟨_, rendered⟩ => ?_
      exact .text ⟨_, by rw [renderDerived, rendered]; rfl, trivial⟩ fun text => ⟨text, rfl⟩
  | .join left kind right spec =>
      obtain ⟨inLeft, plain⟩ := List.forall_mem_append.mp plain
      obtain ⟨inRight, inSpec⟩ := List.forall_mem_append.mp plain
      rw [TableRef.nodes, TableRef.read, faults_append, faults_append]
      refine (walkTable_meets left inLeft).bind fun _ ⟨_, first⟩ => ?_
      refine (walkTable_meets right inRight).bind fun _ ⟨_, second⟩ => ?_
      refine (walkSpec_meets spec inSpec).map _ fun _ ⟨_, third⟩ => ?_
      exact ⟨_, by unfold TableRef.render; rw [first, second, third]; rfl⟩

theorem walkTables_meets (tables : List TableRef)
    (plain : ∀ node ∈ readTables everywhere tables, node.isRegion = false) :
    ((dialectPass config).walkTables tables).Meets (faults config (readTables everywhere tables))
      fun results => ∃ texts, renderTables results = .ok texts := by
  match tables with
  | [] => exact .pure ⟨[], rfl⟩
  | table :: rest =>
      obtain ⟨inTable, inRest⟩ := List.forall_mem_append.mp plain
      rw [readTables, faults_append]
      refine (walkTable_meets table inTable).bind fun _ ⟨_, first⟩ => ?_
      refine (walkTables_meets rest inRest).map _ fun _ ⟨_, others⟩ => ?_
      exact ⟨_, by rw [renderTables, first, others]; rfl⟩

theorem walkSpec_meets (spec : JoinSpec)
    (plain : ∀ node ∈ spec.read everywhere, node.isRegion = false) :
    ((dialectPass config).walkSpec spec).Meets (faults config (spec.read everywhere))
      fun result => ∃ text, result.render = .ok text := by
  match spec with
  | .using _ | .natural | .none => exact .pure ⟨_, rfl⟩
  | .on condition =>
      refine (walkExpr_meets condition plain).map _ fun _ rewritten => ?_
      obtain ⟨_, rendered⟩ := rewritten.rendered
      exact ⟨_, by rw [JoinSpec.render, rendered]; rfl⟩

end

end Walk

theorem faults_eq_nil_iff (config : DialectConfig) {nodes : List Expr} :
    faults config nodes = [] ↔ ∀ node ∈ nodes, node.Accepted := by
  simp only [faults, List.filterMap_eq_nil_iff, Expr.fault?_eq_none_iff]

theorem faults_eq_cons_iff {config : DialectConfig} {nodes : List Expr} {e : Error} :
    (∃ rest, faults config nodes = e :: rest) ↔
      ∃ before node after, nodes = before ++ node :: after ∧
        (∀ earlier ∈ before, earlier.Accepted) ∧ node.fault? config = some e := by
  simp only [faults, List.filterMap_eq_cons_iff, Expr.fault?_eq_none_iff]
  constructor
  · rintro ⟨rest, before, node, after, split, accepted, fault, -⟩
    exact ⟨before, node, after, split, accepted, fault⟩
  · rintro ⟨before, node, after, split, accepted, fault⟩
    exact ⟨_, before, node, after, split, accepted, fault, rfl⟩

/-- The dialect pass accepts a statement without unresolved regions if and only if every expression
in it meets its own condition. Otherwise its error is that of the first expression, each taken after
its operands, that does not. -/
theorem dialectPass_accepts_iff (config : DialectConfig) (statement : Statement)
    (plain : ∀ node ∈ statement.nodes, node.isRegion = false) :
    ((∃ output, (dialectPass config).run statement = .ok output) ↔
      ∀ node ∈ statement.nodes, node.Accepted) ∧
    ∀ e, (dialectPass config).run statement = .error e ↔
      ∃ before node after, statement.nodes = before ++ node :: after ∧
        (∀ earlier ∈ before, earlier.Accepted) ∧ node.fault? config = some e := by
  obtain ⟨result, later, run, verdict⟩ := walkStatement_meets config statement plain []
  have ran : (dialectPass config).run statement = result.map (⟨·, later⟩) := by
    rw [Pass.run, run]
    cases result <;> rfl
  simp only [← faults_eq_cons_iff]
  rw [ran, ← faults_eq_nil_iff config]
  cases found : faults config statement.nodes with
  | nil =>
      rw [found] at verdict
      obtain ⟨rewritten, rfl, -⟩ := verdict
      simp [Except.map]
  | cons e rest =>
      rw [found] at verdict
      cases verdict
      simp [Except.map]

/-- Of two unacceptable select items the first is reported. -/
theorem dialectPass_accepts_iff_square :
    (dialectPass {}).run (.select { items :=
      [.expr (.function "square" [.named "x", .named "y"]) none,
        .expr (.geometryFunction .region []) none] }) = .error (.arity "SQUARE" "1" 2) := by
  refine ((dialectPass_accepts_iff {} _ ?_).2 _).mpr
    ⟨[.named "x", .named "y"], .function "square" [.named "x", .named "y"],
      [.geometryFunction .region []], rfl, ?_, ?_⟩
  · decide
  · simp [Expr.Accepted, Expr.named]
  · rfl

end SkySql
