import SkySql.Decimal.Binary

set_option autoImplicit false

/-!
The shortest decimal that reads back to a double. The reals that round to the double form an
interval; on ever finer decimal grids the two neighbours of the double are tried, and the first grid
with a neighbour inside the interval wins. Of two neighbours inside, the nearer is taken. All
arithmetic is exact.
-/

namespace SkySql.Decimal

inductive Tie where
  | up
  | toEven
  deriving Repr, DecidableEq

def Tie.pick (tie : Tie) (below : Nat) : Nat :=
  match tie with
  | .up => below + 1
  | .toEven => if below % 2 = 0 then below else below + 1

/-- The reals from `low / unit` to `high / unit` that round to `value / unit`. The ends belong to
them when `closed` holds. -/
structure Interval where
  low : Nat
  value : Nat
  high : Nat
  unit : Nat
  closed : Bool

/-- Half the distance to each neighbouring double. Below a power of two the neighbour is half as
far. The ends round to an even mantissa. -/
def Binary.interval (x : Binary) : Interval :=
  let gap := if x.mantissa = Nat.pow 2 52 ∧ -1074 < x.exponent then 1 else 2
  let up := Nat.pow 2 (x.exponent - 2).toNat
  { low := (4 * x.mantissa - gap) * up
    value := 4 * x.mantissa * up
    high := (4 * x.mantissa + 2) * up
    unit := Nat.pow 2 (2 - x.exponent).toNat
    closed := x.mantissa % 2 = 0 }

namespace Interval

/-- Whether `point / (unit * down)` lies in the interval. -/
def holds (i : Interval) (down point : Nat) : Bool :=
  if i.closed then i.low * down ≤ point && point ≤ i.high * down
  else i.low * down < point && point < i.high * down

/-- The better of the value's two neighbours among the multiples of `10 ^ exponent` that lie in the
interval, counted in that step. -/
def neighbour? (i : Interval) (tie : Tie) (exponent : Int) : Option Nat :=
  let down := Nat.pow 10 (-exponent).toNat
  let step := Nat.pow 10 exponent.toNat * i.unit
  let scaled := i.value * down
  let below := scaled / step
  match i.holds down (below * step), i.holds down ((below + 1) * step) with
  | true, false => some below
  | false, true => some (below + 1)
  | true, true =>
      if 2 * scaled < (2 * below + 1) * step then some below
      else if (2 * below + 1) * step < 2 * scaled then some (below + 1)
      else some (tie.pick below)
  | false, false => none

end Interval

def digitCount (n : Nat) : Nat := (Nat.toDigits 10 n).length

/-- The `k` for which the value lies from `10 ^ (k - 1)` up to but not including `10 ^ k`. -/
def Interval.magnitude (i : Interval) : Int :=
  if i.unit ≤ i.value then digitCount (i.value / i.unit)
  else 1 - digitCount ((i.unit - 1) / i.value)

structure Numeral where
  digits : Nat
  exponent : Int
  deriving Repr, DecidableEq

/-- The decimal with the fewest digits that reads back; seventeen digits always do. -/
def Binary.shortest (tie : Tie) (x : Binary) : Numeral :=
  if x.mantissa = 0 then ⟨0, 0⟩
  else
    let i := x.interval
    let atLength (length : Nat) : Option Numeral :=
      let exponent := i.magnitude - length
      (i.neighbour? tie exponent).map (⟨·, exponent⟩)
    ((List.range' 1 17).findSome? atLength).getD ⟨0, 0⟩

end SkySql.Decimal
