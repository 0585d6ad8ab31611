set_option autoImplicit false

/-!
Number spellings: an optional sign, then `inf`, `infinity` or `nan` in any letter case, or ASCII
digits with an optional point and an optional exponent. The value is the double nearest to the
written number.
-/

namespace SkySql.Decimal

def takeSign : List Char → Bool × List Char
  | '-' :: rest => (true, rest)
  | '+' :: rest => (false, rest)
  | cs => (false, cs)

def digitsValue (digits : List Char) : Nat :=
  digits.foldl (fun value c => 10 * value + (c.toNat - '0'.toNat)) 0

/-- An exponent, which must take up the whole text. -/
def exponent? : List Char → Option Int
  | [] => some 0
  | c :: rest =>
      if c = 'e' ∨ c = 'E' then
        let (negative, digits) := takeSign rest
        if digits.isEmpty ∨ !digits.all Char.isDigit then none
        else if negative then some (-(digitsValue digits : Int)) else some (digitsValue digits)
      else none

def unsigned? (cs : List Char) : Option (List Char × Int) :=
  let (front, rest) := cs.span Char.isDigit
  let (fraction, rest) := match rest with
    | '.' :: rest => rest.span Char.isDigit
    | _ => ([], rest)
  if front.isEmpty ∧ fraction.isEmpty then none
  else (exponent? rest).map fun exponent => (front ++ fraction, exponent - fraction.length)

/-- The double nearest to `digits * 10 ^ exponent`. Beyond the range of doubles the answer is known
from the size alone. -/
def nearestDouble (digits : List Char) (exponent : Int) : Float :=
  let digits := digits.dropWhile (· == '0')
  let size := digits.length + exponent
  if digits.isEmpty then 0.0
  else if 310 < size then 1.0 / 0.0
  else if size < -330 then 0.0
  else Float.ofScientific (digitsValue digits) (exponent < 0) exponent.natAbs

/-- The value of a number spelling, if the whole text is one. -/
def read? (cs : List Char) : Option Float :=
  let (negative, rest) := takeSign cs
  let word := String.ofList (rest.map Char.toLower)
  let size? :=
    if word = "inf" ∨ word = "infinity" then some (1.0 / 0.0)
    else if word = "nan" then some (0.0 / 0.0)
    else (unsigned? rest).map fun (digits, exponent) => nearestDouble digits exponent
  size?.map fun size => if negative then -size else size

def ofText? (text : String) : Option Float := read? text.toList

end SkySql.Decimal
