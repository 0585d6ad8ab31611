import SkySql.Dialect.Compile
import SkySql.Proofs.Lexical.Spelling
import SkySql.Proofs.Precedence.Lexer
import SkySql.Proofs.Rendering

set_option autoImplicit false

/-!
Polygon literals. The coordinates of a polygon stand in a string literal, where the database takes
numerals and no expressions. The dialect pass accepts every number there, also behind any number of
minus signs, and writes its text as it is anywhere else. A numeral with at most one sign is a
numeral again; a sign in front of another one puts parentheses into the literal.
-/

namespace SkySql

open Precedence (IsNumeral)

/-- Numbers whose text is a decimal numeral with at most one sign: a numeral, or a minus sign before
a numeral that has none. -/
inductive Expr.IsSignedNumeral : Expr → Prop
  | number {spelling : String} (isNumber : Stcs.IsNumber spelling.toList) :
      IsSignedNumeral (.number spelling)
  | negated {spelling : String} (isNumeral : IsNumeral spelling.toList) :
      IsSignedNumeral (.unary .neg (.number spelling))

section Numeral

/-- A numeral without sign does not begin with one. -/
theorem not_isNumeral_minus (text : List Char) : ¬IsNumeral ('-' :: text) := by
  intro isNumeral
  generalize whole : '-' :: text = written at isNumeral
  obtain @⟨mantissa, exponent, isMantissa, -⟩ := isNumeral
  obtain ⟨c, tail, rfl, isFirst⟩ := isMantissa.head
  obtain ⟨rfl, -⟩ := List.cons.inj whole
  rcases isFirst with isDigit | isPoint
  · cases isDigit
  · cases isPoint

theorem isNumber_minus_iff {text : List Char} : Stcs.IsNumber ('-' :: text) ↔ IsNumeral text := by
  constructor
  · intro isNumber
    generalize whole : '-' :: text = written at isNumber
    obtain @⟨sign, mantissa, exponent, isSign, isMantissa, isExponent⟩ := isNumber
    have isNumeral : IsNumeral (mantissa ++ exponent) := .parts isMantissa isExponent
    rcases isSign with rfl | rfl | rfl
    · rw [List.nil_append] at whole
      rw [← whole] at isNumeral
      exact absurd isNumeral (not_isNumeral_minus text)
    · cases (List.cons.inj whole).1
    · rw [(List.cons.inj whole).2]
      exact isNumeral
  · rintro ⟨isMantissa, isExponent⟩
    exact .parts (.inr (.inr rfl)) isMantissa isExponent

/-- A sign makes a numeral of a numeral without sign and of nothing else; in front of another sign
it brings parentheses with it. -/
theorem isNumber_negated_iff {text : String} :
    Stcs.IsNumber (negated text).toList ↔ IsNumeral text.toList := by
  unfold negated
  split
  · next rest signed =>
      rw [signed]
      refine ⟨fun isNumber => ?_, fun isNumeral => absurd isNumeral (not_isNumeral_minus rest)⟩
      have opened : '(' ∈ ("-(" ++ text ++ ")").toList := by simp
      cases isNumber.chars _ opened
  · next unsigned =>
      have written : ("-" ++ text).toList = '-' :: text.toList := by simp
      rw [written, isNumber_minus_iff]

theorem negated_head (text : String) : ∃ rest, (negated text).toList = '-' :: rest := by
  unfold negated
  split <;> simp

/-- Among the numbers, also the negated ones, those with at most one sign have a numeral as text. -/
theorem isNumber_render_iff {expr : Expr} {text : String}
    (number : expr.asNumber?.isSome = true) (rendered : expr.render = .ok text) :
    Stcs.IsNumber text.toList ↔ expr.IsSignedNumeral := by
  match expr with
  | .literal (.number spelling) =>
      cases rendered
      refine ⟨.number, ?_⟩
      rintro ⟨isNumber⟩
      exact isNumber
  | .unary .neg (.literal (.number spelling)) =>
      cases rendered
      refine isNumber_negated_iff.trans ⟨.negated, ?_⟩
      rintro ⟨⟩
      assumption
  | .unary .neg (.unary .neg operand) =>
      obtain ⟨inner, renderedInner, made⟩ := bind_eq_ok_iff.mp rendered
      cases made
      obtain ⟨innermost, -, made⟩ := bind_eq_ok_iff.mp renderedInner
      cases made
      refine isNumber_negated_iff.trans ⟨fun isNumeral => ?_, nofun⟩
      obtain ⟨rest, signed⟩ := negated_head (operandText operand innermost)
      change IsNumeral (negated (operandText operand innermost)).toList at isNumeral
      rw [signed] at isNumeral
      exact absurd isNumeral (not_isNumeral_minus rest)

end Numeral

section Literal

def vertexText (vertex : String × String) : String := "(" ++ vertex.1 ++ ", " ++ vertex.2 ++ ")"

def polygonLiteral (vertices : List (String × String)) : String :=
  "'(" ++ Text.commaList (vertices.map vertexText) ++ ")'::polygon"

/-- The coordinates of vertices, one after another. -/
def vertexCoordinates (vertices : List (String × String)) : List String :=
  vertices.flatMap fun vertex => [vertex.1, vertex.2]

theorem vertexTexts_eq_map (vertices : List (String × String)) :
    vertexTexts (vertexCoordinates vertices) = vertices.map vertexText := by
  induction vertices with
  | nil => rfl
  | cons vertex vertices inductionHypothesis =>
      exact congrArg (vertexText vertex :: ·) inductionHypothesis

theorem exists_vertexCoordinates (coordinates : List String) (even : coordinates.length % 2 = 0) :
    ∃ vertices, coordinates = vertexCoordinates vertices := by
  match coordinates with
  | [] => exact ⟨[], rfl⟩
  | [_] => cases even
  | x :: y :: rest =>
      have evenRest : rest.length % 2 = 0 := by
        simp only [List.length_cons] at even
        omega
      obtain ⟨vertices, rfl⟩ := exists_vertexCoordinates rest evenRest
      exact ⟨(x, y) :: vertices, rfl⟩

theorem length_vertexCoordinates (vertices : List (String × String)) :
    (vertexCoordinates vertices).length = 2 * vertices.length := by
  induction vertices with
  | nil => rfl
  | cons vertex vertices inductionHypothesis =>
      change (vertexCoordinates vertices).length + 2 = _
      rw [inductionHypothesis, List.length_cons]
      omega

/-- The coordinates of a polygon are numbers, and stand as they are rendered. -/
theorem polygonCoordinates_eq_ok {args : List Expr} {coordinates : List String}
    (made : polygonCoordinates args = .ok coordinates) :
    List.Forall₂ (fun arg coordinate => arg.render = .ok coordinate ∧
      arg.asNumber?.isSome = true) args coordinates := by
  induction args generalizing coordinates with
  | nil =>
      cases made
      exact .nil
  | cons arg rest inductionHypothesis =>
      obtain ⟨text, rendered, made⟩ := bind_eq_ok_iff.mp made
      split at made
      · cases made
      · next number =>
          obtain ⟨others, later, made⟩ := bind_eq_ok_iff.mp made
          cases made
          refine .cons ⟨rendered, ?_⟩ (inductionHypothesis later)
          rwa [Bool.not_eq_true, Option.isNone_eq_false_iff] at number

theorem exists_polygonLiteral {args : List Expr} {text : String}
    (made : geometryText .polygon args = .ok text) :
    ∃ vertices, 3 ≤ vertices.length ∧ text = polygonLiteral vertices ∧
      List.Forall₂ (fun arg coordinate => arg.render = .ok coordinate ∧
        arg.asNumber?.isSome = true) args (vertexCoordinates vertices) := by
  unfold geometryText at made
  cases valid : Shape.polygon.takes args.length with
  | false =>
      simp only [valid] at made
      cases made
  | true =>
      simp only [valid, Bool.not_true, Bool.false_eq_true, if_false] at made
      obtain ⟨coordinates, found, made⟩ := bind_eq_ok_iff.mp made
      cases made
      have each := polygonCoordinates_eq_ok found
      simp only [Shape.takes, Bool.and_eq_true, decide_eq_true_eq, beq_iff_eq, each.length_eq]
        at valid
      obtain ⟨vertices, rfl⟩ := exists_vertexCoordinates coordinates valid.2
      rw [length_vertexCoordinates] at valid
      exact ⟨vertices, by omega, by rw [vertexTexts_eq_map, polygonLiteral], each⟩

end Literal

/-- A polygon that the dialect pass accepts becomes a literal with at least three vertices, whose
coordinates are the texts of the arguments in turn. Each argument is a number behind any number of
minus signs. Its text is a decimal numeral, perhaps with a sign, exactly if it is a numeral with at
most one sign, its own or a minus sign before it. -/
theorem polygon_coordinates (config : DialectConfig) (frame : Option String) (args : List Expr)
    (state after : PassState) (rewrite : Rewrite Expr)
    (accepted : ((dialectPass config).geometry .polygon frame args).apply state =
      (.ok rewrite, after)) :
    ∃ vertices, 3 ≤ vertices.length ∧ rewrite = .text (polygonLiteral vertices) ∧
      List.Forall₂ (fun arg coordinate =>
        arg.render = .ok coordinate ∧ arg.asNumber?.isSome = true ∧
          (Stcs.IsNumber coordinate.toList ↔ arg.IsSignedNumeral))
        args (vertexCoordinates vertices) := by
  cases made : geometryText .polygon args with
  | error e =>
      simp only [dialectPass, made] at accepted
      cases accepted
  | ok text =>
      simp only [dialectPass, made] at accepted
      cases accepted
      obtain ⟨vertices, enough, rfl, each⟩ := exists_polygonLiteral made
      refine ⟨vertices, enough, rfl, each.imp ?_⟩
      rintro arg coordinate ⟨rendered, number⟩
      exact ⟨rendered, number, isNumber_render_iff number rendered⟩

def triangle (x : Expr) : List Expr :=
  [x, .number "0", .number "+1.5e1", .unary .neg (.number ".5"), .number "1", .number "1"]

theorem polygon_coordinates_triangle :
    ((dialectPass {}).geometry .polygon none (triangle (.number "-1"))).apply {} =
      (.ok (.text "'((-1, 0), (+1.5e1, -.5), (1, 1))'::polygon"), {}) ∧
    ∃ vertices, 3 ≤ vertices.length ∧
      (.text "'((-1, 0), (+1.5e1, -.5), (1, 1))'::polygon" : Rewrite Expr) =
        .text (polygonLiteral vertices) ∧
      List.Forall₂ (fun arg coordinate =>
        arg.render = .ok coordinate ∧ arg.asNumber?.isSome = true ∧
          (Stcs.IsNumber coordinate.toList ↔ arg.IsSignedNumeral))
        (triangle (.number "-1")) (vertexCoordinates vertices) :=
  ⟨rfl, polygon_coordinates {} none (triangle (.number "-1")) {} {} _ rfl⟩

/-- With a sign before another one there are parentheses in the literal, and what is no decimal
numeral stays none. -/
theorem polygon_literal_with_parentheses :
    ((dialectPass {}).geometry .polygon none (triangle (.unary .neg (.number "-1")))).apply {} =
      (.ok (.text (polygonLiteral [("-(-1)", "0"), ("+1.5e1", "-.5"), ("1", "1")])), {}) ∧
    ¬Stcs.IsNumber "-(-1)".toList ∧
    ((dialectPass {}).geometry .polygon none (triangle (.number "inf"))).apply {} =
      (.ok (.text (polygonLiteral [("inf", "0"), ("+1.5e1", "-.5"), ("1", "1")])), {}) ∧
    ¬Stcs.IsNumber "inf".toList :=
  ⟨rfl, by decide, rfl, by decide⟩

end SkySql
