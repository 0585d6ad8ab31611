import SkySql.Decimal.Shortest

set_option autoImplicit false

/-!
How the digits of a number are set: positionally or with an exponent. Each output format is one
`Layout`.
-/

namespace SkySql.Decimal

/-- The choices of a number format. Numbers whose leading digit has an exponent from
`positional.1` to `positional.2` are written positionally, all numbers if there are no such bounds.
`whole` is put after a whole number. -/
structure Layout where
  tie : Tie
  positional : Option (Int × Int)
  whole : String

/-- Digits with the point `exponent` places from their end. -/
def placePoint (digits : List Char) (exponent : Int) (whole : String) : String :=
  if 0 ≤ exponent then
    String.ofList (digits ++ List.replicate exponent.toNat '0') ++ whole
  else
    let places := (-exponent).toNat
    let padded := List.replicate (places + 1 - digits.length) '0' ++ digits
    let front := padded.length - places
    String.ofList (padded.take front) ++ "." ++ String.ofList (padded.drop front)

def placeExponent (digits : List Char) (exponent : Int) : String :=
  let sign := if exponent < 0 then "-" else "+"
  let fraction := (digits.drop 1)
  let point := if fraction.isEmpty then "" else "."
  String.ofList (digits.take 1) ++ point ++ String.ofList fraction ++ "e" ++ sign ++
    toString exponent.natAbs

/-- The digits without the zeros at their end, and the exponent that makes up for them. -/
def Numeral.trimmed (n : Numeral) : List Char × Int :=
  let digits := Nat.toDigits 10 n.digits
  let kept := (digits.reverse.dropWhile (· == '0')).reverse
  if kept.isEmpty then (['0'], 0) else (kept, n.exponent + (digits.length - kept.length : Nat))

def Layout.size (layout : Layout) (n : Numeral) : String :=
  let (digits, exponent) := n.trimmed
  let leading := exponent + digits.length - 1
  match layout.positional with
  | none => placePoint digits exponent layout.whole
  | some (least, greatest) =>
      if least ≤ leading ∧ leading ≤ greatest then placePoint digits exponent layout.whole
      else placeExponent digits leading

def Layout.text (layout : Layout) (x : Float) : String :=
  match Reading.ofFloat x with
  | .nan => "NaN"
  | .infinite negative => if negative then "-inf" else "inf"
  | .finite negative size =>
      (if negative then "-" else "") ++ layout.size (size.shortest layout.tie)

/-- Numbers in SQL text have no exponent and no mark on whole numbers. -/
def plain : Layout := ⟨.up, none, ""⟩

def text (x : Float) : String := plain.text x

example : plain.size ⟨125, -2⟩ = "1.25" := by decide
example : plain.size ⟨1, -7⟩ = "0.0000001" := by decide
example : plain.size ⟨12, 3⟩ = "12000" := by decide

end SkySql.Decimal
