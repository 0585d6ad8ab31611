import SkySql.Decimal.Layout
import SkySql.Statement.Basic

set_option autoImplicit false

/-!
The arguments of geometry constructors: how many a shape takes, what they stand for, and the corners
of a box.
-/

namespace SkySql

namespace Shape

def takes : Shape → Nat → Bool
  | .point, count => count == 2
  | .circle, count => count == 3
  | .box, count => count == 4
  | .polygon, count => decide (6 ≤ count) && count % 2 == 0

def expected : Shape → String
  | .point => "2"
  | .circle => "3"
  | .box => "4"
  | .polygon => "an even number >= 6"

def radius? : Shape → List Expr → Option Expr
  | .circle, _ :: _ :: radius :: _ => some radius
  | _, _ => none

def width? : Shape → List Expr → Option Expr
  | .box, _ :: _ :: width :: _ => some width
  | _, _ => none

def height? : Shape → List Expr → Option Expr
  | .box, _ :: _ :: _ :: height :: _ => some height
  | _, _ => none

end Shape

structure Corners where
  x0 : Expr
  y0 : Expr
  x1 : Expr
  y1 : Expr

/-- Half an extent below a center: a number if both are numbers, else the difference as an
expression. -/
def below (center extent : Expr) : Expr :=
  match center.asNumber?, extent.asNumber? with
  | some c, some e => .number (Decimal.text (c - e / 2.0))
  | _, _ => .binary center .sub (.binary extent .div (.number "2"))

def above (center extent : Expr) : Expr :=
  match center.asNumber?, extent.asNumber? with
  | some c, some e => .number (Decimal.text (c + e / 2.0))
  | _, _ => .binary center .add (.binary extent .div (.number "2"))

def Shape.corners? : Shape → List Expr → Option Corners
  | .box, x :: y :: width :: height :: _ =>
      some ⟨below x width, below y height, above x width, above y height⟩
  | _, _ => none

end SkySql
