set_option autoImplicit false

/-!
A double as an exact number: its sign and `mantissa * 2 ^ exponent`, read off its bits. Rounding to
a whole number is done on that form.
-/

namespace SkySql.Decimal

/-- The size of a finite double, `mantissa * 2 ^ exponent`. -/
structure Binary where
  mantissa : Nat
  exponent : Int
  deriving Repr, DecidableEq

inductive Reading where
  | nan
  | infinite (negative : Bool)
  | finite (negative : Bool) (size : Binary)
  deriving Repr, DecidableEq

/-- The parts of 64 bits: sign, eleven bits of biased exponent, 52 bits of fraction. -/
def Reading.ofBits (bits : Nat) : Reading :=
  let negative := bits / Nat.pow 2 63 % 2 == 1
  let biased : Nat := bits / Nat.pow 2 52 % Nat.pow 2 11
  let fraction : Nat := bits % Nat.pow 2 52
  if biased = 2047 then
    if fraction = 0 then .infinite negative else .nan
  else if biased = 0 then .finite negative ⟨fraction, -1074⟩
  else .finite negative ⟨fraction + Nat.pow 2 52, (biased : Int) - 1075⟩

def Reading.ofFloat (x : Float) : Reading := .ofBits x.toBits.toNat

def isFinite (x : Float) : Bool :=
  match Reading.ofFloat x with
  | .finite _ _ => true
  | _ => false

/-- The nearest whole number; a half goes up. -/
def Binary.nearest (x : Binary) : Nat :=
  if 0 ≤ x.exponent then x.mantissa * Nat.pow 2 x.exponent.toNat
  else
    let unit := Nat.pow 2 (-x.exponent).toNat
    (2 * x.mantissa + unit) / (2 * unit)

/-- The nearest whole double; a half goes away from zero, and a negative number that rounds to zero
keeps its sign. -/
def roundHalfAway (x : Float) : Float :=
  match Reading.ofFloat x with
  | .finite negative size =>
      if 0 ≤ size.exponent then x
      else if negative then -(Float.ofNat size.nearest) else Float.ofNat size.nearest
  | _ => x

example : (Binary.mk 5 (-1)).nearest = 3 := by decide
example : (Binary.mk 9 (-2)).nearest = 2 := by decide
example : (Binary.mk 1 (-3)).nearest = 0 := by decide

end SkySql.Decimal
