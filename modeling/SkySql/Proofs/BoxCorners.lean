import Mathlib.Algebra.Field.Rat
import Mathlib.Algebra.Ring.Int.Parity
import Mathlib.Data.Rat.Cast.Order
import Mathlib.Tactic.Linarith
import SkySql.Proofs.Lexical.Spelling
import SkySql.Proofs.Tree
import SkySql.Statement.Shape

set_option autoImplicit false

/-!
Where the database finds the corners of a box that are not worked out beforehand. Such a corner is
the center less or plus the extent divided by two, and it is the database that divides. Between two
integers it leaves out what is behind the point, so a corner is half a unit off exactly if the extent
is an odd number of an integer type.
-/

namespace SkySql

/-- A number in the database, of an integer type or of a type without rounding. -/
inductive Quantity where
  | integer (value : Int)
  | exact (value : ℚ)
  deriving DecidableEq

namespace Quantity

def value : Quantity → ℚ
  | .integer value => value
  | .exact value => value

def neg : Quantity → Quantity
  | .integer value => .integer (-value)
  | .exact value => .exact (-value)

/-- Integers stay integers; if one side is none, neither is the outcome. -/
def combine (integers : Int → Int → Int) (exacts : ℚ → ℚ → ℚ) : Quantity → Quantity → Quantity
  | .integer a, .integer b => .integer (integers a b)
  | a, b => .exact (exacts a.value b.value)

/-- The outcome of an arithmetic operator. The quotient of two integers is cut off at the point, and
there is none by zero. -/
def operate? : BinaryOp → Quantity → Quantity → Option Quantity
  | .add, a, b => some (combine (· + ·) (· + ·) a b)
  | .sub, a, b => some (combine (· - ·) (· - ·) a b)
  | .mul, a, b => some (combine (· * ·) (· * ·) a b)
  | .div, a, b => if b.value = 0 then none else some (combine Int.tdiv (· / ·) a b)
  | _, _, _ => none

/-- The value of a number without sign. Digits alone spell an integer. -/
def ofUnsigned? (spelling : List Char) : Option Quantity :=
  (Decimal.unsigned? spelling).map fun (digits, exponent) =>
    if spelling.all Char.isDigit then .integer (Decimal.digitsValue digits)
    else .exact (Decimal.digitsValue digits * 10 ^ exponent)

/-- The value of a number literal, the sign before it applied to the number. -/
def ofSpelling? (spelling : String) : Option Quantity :=
  let (negative, size) := Decimal.takeSign spelling.toList
  (ofUnsigned? size).map fun quantity => if negative then quantity.neg else quantity

def IsOdd : Quantity → Prop
  | .integer value => Odd value
  | .exact _ => False

/-- What the database leaves out when it divides a quantity by two. -/
def remainder : Quantity → ℚ
  | .integer value => value.tmod 2
  | .exact _ => 0

end Quantity

/-- The value of arithmetic in the database. There is none if something is divided by zero, nor for
expressions that are not arithmetic. -/
def Expr.value? (columns : Column → Quantity) : Expr → Option Quantity
  | .literal (.number spelling) => Quantity.ofSpelling? spelling
  | .column referred => some (columns referred)
  | .unary .neg operand => (operand.value? columns).map Quantity.neg
  | .binary lhs op rhs => do Quantity.operate? op (← lhs.value? columns) (← rhs.value? columns)
  | _ => none

/-- Arithmetic of columns and numbers. -/
inductive IsArithmetic : Expr → Prop
  | column (referred : Column) : IsArithmetic (.column referred)
  | number {spelling : String} (isNumber : Stcs.IsNumber spelling.toList) :
      IsArithmetic (.number spelling)
  | negation {operand : Expr} (isOperand : IsArithmetic operand) :
      IsArithmetic (.unary .neg operand)
  | operation {lhs rhs : Expr} {op : BinaryOp} (known : op ∈ [.add, .sub, .mul, .div])
      (isLhs : IsArithmetic lhs) (isRhs : IsArithmetic rhs) : IsArithmetic (.binary lhs op rhs)

def DividesByZero (columns : Column → Quantity) (expr : Expr) : Prop :=
  ∃ lhs rhs divisor, .binary lhs .div rhs ∈ expr.nodes ∧ rhs.value? columns = some divisor ∧
    divisor.value = 0

namespace Quantity

theorem exists_ofSpelling? {spelling : String} (isNumber : Stcs.IsNumber spelling.toList) :
    ∃ quantity, ofSpelling? spelling = some quantity := by
  unfold ofSpelling?
  generalize spelling.toList = text at isNumber
  cases isNumber with
  | @parts sign mantissa exponent isSign isMantissa isExponent =>
      obtain ⟨negative, signed⟩ := Stcs.takeSign_decimal isSign (isMantissa.noSign exponent)
      obtain ⟨parts, measured⟩ := isMantissa.value isExponent
      simp only [signed, ofUnsigned?, measured, Option.map_some]
      exact ⟨_, rfl⟩

/-- An arithmetic operator has an outcome unless it divides by zero. -/
theorem operate?_eq_none_iff {op : BinaryOp} (known : op ∈ [.add, .sub, .mul, .div])
    (a b : Quantity) : operate? op a b = none ↔ op = .div ∧ b.value = 0 := by
  simp only [List.mem_cons, List.not_mem_nil, or_false] at known
  rcases known with rfl | rfl | rfl | rfl <;> simp [operate?]

theorem value_add (a b : Quantity) : (combine (· + ·) (· + ·) a b).value = a.value + b.value := by
  cases a <;> cases b <;> simp [combine, value]

theorem value_sub (a b : Quantity) : (combine (· - ·) (· - ·) a b).value = a.value - b.value := by
  cases a <;> cases b <;> simp [combine, value]

theorem value_half (extent : Quantity) :
    (combine Int.tdiv (· / ·) extent (.integer 2)).value =
      (extent.value - extent.remainder) / 2 := by
  cases extent with
  | exact size => simp [combine, value, remainder]
  | integer size =>
      have division : (2 * size.tdiv 2 + size.tmod 2 : ℚ) = size := by
        exact_mod_cast Int.mul_tdiv_add_tmod size 2
      change ((size.tdiv 2 : Int) : ℚ) = ((size : ℚ) - ((size.tmod 2 : Int) : ℚ)) / 2
      linarith

theorem remainder_eq_zero_iff (extent : Quantity) : extent.remainder = 0 ↔ ¬extent.IsOdd := by
  cases extent with
  | exact size => simp [remainder, IsOdd]
  | integer size =>
      change ((size.tmod 2 : Int) : ℚ) = 0 ↔ ¬Odd size
      rw [Int.cast_eq_zero, Int.not_odd_iff_even, even_iff_two_dvd, Int.dvd_iff_tmod_eq_zero]

end Quantity

section Values

variable {columns : Column → Quantity} {center extent : Expr}

theorem dividesByZero_unary {operand : Expr} :
    DividesByZero columns (.unary .neg operand) ↔ DividesByZero columns operand := by
  simp [DividesByZero, Expr.read]

theorem dividesByZero_binary {lhs rhs : Expr} {op : BinaryOp} :
    DividesByZero columns (.binary lhs op rhs) ↔
      DividesByZero columns lhs ∨ DividesByZero columns rhs ∨
        op = .div ∧ ∃ divisor, rhs.value? columns = some divisor ∧ divisor.value = 0 := by
  unfold DividesByZero
  simp only [Expr.nodes, Expr.read, everywhere_expr, List.mem_append, List.mem_singleton,
    Expr.binary.injEq, or_assoc]
  constructor
  · rintro ⟨l, r, divisor, inLhs | inRhs | ⟨rfl, rfl, rfl⟩, evaluated, zero⟩
    · exact .inl ⟨l, r, divisor, inLhs, evaluated, zero⟩
    · exact .inr (.inl ⟨l, r, divisor, inRhs, evaluated, zero⟩)
    · exact .inr (.inr ⟨rfl, divisor, evaluated, zero⟩)
  · rintro (⟨l, r, divisor, inLhs, evaluated⟩ | ⟨l, r, divisor, inRhs, evaluated⟩ |
      ⟨rfl, divisor, evaluated⟩)
    · exact ⟨l, r, divisor, .inl inLhs, evaluated⟩
    · exact ⟨l, r, divisor, .inr (.inl inRhs), evaluated⟩
    · exact ⟨lhs, rhs, divisor, .inr (.inr ⟨rfl, rfl, rfl⟩), evaluated⟩

theorem IsArithmetic.value?_eq_none_iff {expr : Expr} (isArithmetic : IsArithmetic expr) :
    expr.value? columns = none ↔ DividesByZero columns expr := by
  induction isArithmetic with
  | column referred => simp [Expr.value?, DividesByZero, Expr.read]
  | @number spelling isNumber =>
      obtain ⟨quantity, read⟩ := Quantity.exists_ofSpelling? isNumber
      simp [Expr.number, Expr.value?, read, DividesByZero, Expr.read]
  | negation isOperand inductionHypothesis =>
      rw [dividesByZero_unary, ← inductionHypothesis, Expr.value?, Option.map_eq_none_iff]
  | @operation lhs rhs op known isLhs isRhs lhsHypothesis rhsHypothesis =>
      rw [dividesByZero_binary, ← lhsHypothesis, ← rhsHypothesis, Expr.value?]
      cases lhs.value? columns with
      | none => simp
      | some a =>
          cases rhs.value? columns with
          | none => simp
          | some b => simpa using Quantity.operate?_eq_none_iff known a b

/-- The database divides by a literal that is an integer to it. -/
theorem value?_half {size : Quantity} (measured : extent.value? columns = some size) :
    (Expr.binary extent .div (.number "2")).value? columns =
      some (Quantity.combine Int.tdiv (· / ·) size (.integer 2)) := by
  have two : (Expr.number "2").value? columns = some (.integer 2) := rfl
  rw [Expr.value?, measured, two]
  simp [Quantity.operate?, Quantity.value]

end Values

namespace Quantity

/-- Corners on both sides of `middle` for an extent of `size`: what is left out in halving the extent
is missing, and that is nothing unless it is odd. -/
structure Straddle (middle size low high : Quantity) : Prop where
  low_eq : low.value = middle.value - (size.value - size.remainder) / 2
  high_eq : high.value = middle.value + (size.value - size.remainder) / 2
  low_exact : low.value = middle.value - size.value / 2 ↔ ¬size.IsOdd
  high_exact : high.value = middle.value + size.value / 2 ↔ ¬size.IsOdd

theorem straddle_of_values {middle size low high : Quantity}
    (low_eq : low.value = middle.value - (size.value - size.remainder) / 2)
    (high_eq : high.value = middle.value + (size.value - size.remainder) / 2) :
    Straddle middle size low high := by
  refine ⟨low_eq, high_eq, ?_, ?_⟩
  · rw [low_eq, ← remainder_eq_zero_iff]
    constructor <;> intro h <;> linarith
  · rw [high_eq, ← remainder_eq_zero_iff]
    constructor <;> intro h <;> linarith

end Quantity

section Corners

variable {columns : Column → Quantity} {center extent : Expr}

theorem corners_symbolic (symbolic : center.asNumber? = none ∨ extent.asNumber? = none) :
    below center extent = .binary center .sub (.binary extent .div (.number "2")) ∧
      above center extent = .binary center .add (.binary extent .div (.number "2")) := by
  unfold below above
  rcases symbolic with none | none <;> simp [none]

/-- The corners of a side, as the database finds them. -/
def Straddles (columns : Column → Quantity) (center extent lower upper : Expr) : Prop :=
  ∀ middle size, center.value? columns = some middle → extent.value? columns = some size →
    ∃ low high, lower.value? columns = some low ∧ upper.value? columns = some high ∧
      Quantity.Straddle middle size low high

theorem straddles_symbolic (symbolic : center.asNumber? = none ∨ extent.asNumber? = none) :
    Straddles columns center extent (below center extent) (above center extent) := by
  intro middle size placed measured
  obtain ⟨isBelow, isAbove⟩ := corners_symbolic symbolic
  have halved := value?_half measured
  generalize half_eq : Quantity.combine Int.tdiv (· / ·) size (.integer 2) = half at halved
  have half_value : half.value = (size.value - size.remainder) / 2 := by
    rw [← half_eq, Quantity.value_half]
  refine ⟨.combine (· - ·) (· - ·) middle half, .combine (· + ·) (· + ·) middle half, ?_, ?_, ?_⟩
  · rw [isBelow, Expr.value?, placed, halved]
    rfl
  · rw [isAbove, Expr.value?, placed, halved]
    rfl
  · apply Quantity.straddle_of_values
    · rw [Quantity.value_sub, half_value]
    · rw [Quantity.value_add, half_value]

end Corners

/-- A box of arithmetic has corners. Where a side is not all numbers, the database finds its corners
half an extent from the center, exactly unless the extent is an odd integer, and if there is no such
place the reason is a division by zero in the center or the extent itself. -/
theorem box_corners_exact_unless_odd (columns : Column → Quantity) {x y width height : Expr}
    (arithmetic : ∀ arg ∈ [x, y, width, height], IsArithmetic arg) :
    (∀ arg ∈ [x, y, width, height],
      arg.value? columns = none ↔ DividesByZero columns arg) ∧
    ∃ corners, Shape.box.corners? [x, y, width, height] = some corners ∧
      (x.asNumber? = none ∨ width.asNumber? = none →
        Straddles columns x width corners.x0 corners.x1) ∧
      (y.asNumber? = none ∨ height.asNumber? = none →
        Straddles columns y height corners.y0 corners.y1) := by
  refine ⟨fun arg membership => (arithmetic arg membership).value?_eq_none_iff, ?_⟩
  exact ⟨_, rfl, straddles_symbolic, straddles_symbolic⟩

/-- A row of the database: a count in one column, rational numbers in the others. -/
def sampleRow (column : Column) : Quantity :=
  if column.name = "n" then .integer 2 else .exact 10

/-- A box around `5` and `-10` in that row, one extent of which is an odd integer. -/
def sampleBox : List Expr :=
  [.binary (.named "ra") .div (.named "n"), .unary .neg (.named "dec"), .number "1.5",
    .binary (.number "+3") .mul (.number "7")]

theorem box_corners_exact_unless_odd_sample :
    (∀ arg ∈ sampleBox, IsArithmetic arg) ∧
    ∃ corners, Shape.box.corners? sampleBox = some corners ∧
      (∃ low high, corners.x0.value? sampleRow = some low ∧
        corners.x1.value? sampleRow = some high ∧
        low.value = 5 - 1.5 / 2 ∧ high.value = 5 + 1.5 / 2) ∧
      ∃ low high, corners.y0.value? sampleRow = some low ∧
        corners.y1.value? sampleRow = some high ∧
        low.value = -10 - 20 / 2 ∧ high.value = -10 + 20 / 2 := by
  have arithmetic : ∀ arg ∈ sampleBox, IsArithmetic arg := by
    simp only [sampleBox, List.forall_mem_cons, List.not_mem_nil, false_implies, implies_true,
      and_true]
    exact ⟨.operation (by decide) (.column _) (.column _), .negation (.column _),
      .number (by decide), .operation (by decide) (.number (by decide)) (.number (by decide))⟩
  obtain ⟨-, corners, found, horizontal, vertical⟩ :=
    box_corners_exact_unless_odd sampleRow arithmetic
  obtain ⟨x0, x1, isX0, isX1, across⟩ :=
    horizontal (.inl rfl) (.exact (10 / 2)) (.exact (15 * 10 ^ (-1 : Int))) rfl rfl
  obtain ⟨y0, y1, isY0, isY1, upright⟩ :=
    vertical (.inl rfl) (.exact (-10)) (.integer 21) rfl rfl
  have cut : Int.tmod 21 2 = 1 := rfl
  refine ⟨arithmetic, corners, found, ⟨x0, x1, isX0, isX1, ?_, ?_⟩, y0, y1, isY0, isY1, ?_, ?_⟩
  · rw [across.low_eq]
    norm_num [Quantity.value, Quantity.remainder]
  · rw [across.high_eq]
    norm_num [Quantity.value, Quantity.remainder]
  · rw [upright.low_eq]
    norm_num [Quantity.value, Quantity.remainder, cut]
  · rw [upright.high_eq]
    norm_num [Quantity.value, Quantity.remainder, cut]

/-- A box of extent one around a point has all its corners in that point. -/
theorem unit_box_has_no_extent :
    ∃ corners, Shape.box.corners? [.named "ra", .named "dec", .number "1", .number "1"] =
        some corners ∧
      (∀ corner ∈ [corners.x0, corners.y0, corners.x1, corners.y1],
        ∃ place, corner.value? (fun _ => .exact 10) = some place ∧ place.value = 10) ∧
      (10 : ℚ) ≠ 10 - 1 / 2 := by
  have side (name : String) : ∀ corner ∈
      [below (.named name) (.number "1"), above (.named name) (.number "1")],
      ∃ place, corner.value? (fun _ => .exact 10) = some place ∧ place.value = 10 := by
    have straddled : Straddles (fun _ => .exact 10) (.named name) (.number "1") _ _ :=
      straddles_symbolic (.inl rfl)
    obtain ⟨low, high, isLow, isHigh, around⟩ :=
      straddled (.exact 10) (.integer 1) rfl rfl
    have cut : Int.tmod 1 2 = 1 := rfl
    simp only [List.forall_mem_cons, List.not_mem_nil, false_implies, implies_true, and_true]
    refine ⟨⟨low, isLow, ?_⟩, high, isHigh, ?_⟩
    · rw [around.low_eq]
      simp [Quantity.value, Quantity.remainder, cut]
    · rw [around.high_eq]
      simp [Quantity.value, Quantity.remainder, cut]
  refine ⟨_, rfl, ?_, by norm_num⟩
  simp only [List.forall_mem_cons, List.not_mem_nil, false_implies, implies_true, and_true] at side ⊢
  exact ⟨(side "ra").1, (side "dec").1, (side "ra").2, (side "dec").2⟩

end SkySql
