import SkySql.Json.Basic

set_option autoImplicit false

/-!
Numbers as JSON spells them. A whole number without fraction or exponent that fits 64 bits is kept
exactly. Of any other number the leading digits that fit 64 bits are kept and scaled by a power of
ten in double arithmetic; the result may be out of range.
-/

namespace SkySql.Json

def wordLimit : Nat := Nat.pow 2 64

/-- Appends digits to `value` up to the first one that would not fit 64 bits: the value reached and
the digits left over. -/
def keepDigits (value : Nat) : List Char → Nat × List Char
  | [] => (value, [])
  | c :: rest =>
      let next := 10 * value + (c.toNat - '0'.toNat)
      if next < wordLimit then keepDigits next rest else (value, c :: rest)

def powerOfTen (n : Nat) : Float := Float.ofScientific 1 false n

/-- The double `value * 10 ^ exponent`, by one multiplication or by divisions by at most
`10 ^ 308`. -/
def scale? (value : Nat) (exponent : Int) : Option Float :=
  let start := Float.ofNat value
  let size := exponent.natAbs
  if value = 0 then some 0.0
  else if 0 ≤ exponent then
    if size ≤ 308 then
      let scaled := start * powerOfTen size
      if scaled.isInf then none else some scaled
    else none
  else if size ≤ 308 then some (start / powerOfTen size)
  else if size ≤ 616 then some (start / powerOfTen 308 / powerOfTen (size - 308))
  else some 0.0

def fraction? : List Char → Option (List Char × List Char)
  | '.' :: rest =>
      let (digits, rest) := rest.span Char.isDigit
      if digits.isEmpty then none else some (digits, rest)
  | cs => some ([], cs)

def wholeExponent? : List Char → Option Int
  | [] => some 0
  | c :: rest =>
      if c = 'e' ∨ c = 'E' then
        let (negative, digits) := match rest with
          | '-' :: digits => (true, digits)
          | '+' :: digits => (false, digits)
          | digits => (false, digits)
        if digits.isEmpty ∨ !digits.all Char.isDigit then none
        else
          let value : Nat := digits.foldl (fun value c => 10 * value + (c.toNat - '0'.toNat)) 0
          some (if negative then -value else value)
      else none

def unsignedNumber? (negative : Bool) (cs : List Char) : Option Number := do
  let (whole, rest) := cs.span Char.isDigit
  guard (!whole.isEmpty && (whole.head? != some '0' || whole.length == 1))
  let (value, dropped) := keepDigits 0 whole
  if rest.isEmpty && dropped.isEmpty then
    if !negative then return .natural value
    else if 0 < value ∧ value ≤ Nat.pow 2 63 then return .negative value
    else return .double (-(Float.ofNat value))
  else
    let (fraction, rest) ← fraction? rest
    let exponent ← wholeExponent? rest
    let (value, droppedFraction) := keepDigits value fraction
    let kept := fraction.length - droppedFraction.length
    match scale? value (exponent + dropped.length - kept) with
    | some size => return .double (if negative then -size else size)
    | none => return .outOfRange

def number? : List Char → Option Number
  | '-' :: rest => unsignedNumber? true rest
  | cs => unsignedNumber? false cs

end SkySql.Json
