set_option autoImplicit false

/-!
JSON values. An object keeps its fields in the order in which they were written, repetitions
included, so that a decoder can refuse a field given twice. Numbers out of range and parts that nest
too deep have no value; they do no harm where no decoder looks at them.
-/

namespace SkySql

/-- A number of a document: a natural number of at most 64 bits, `-magnitude` for a negative whole
number of 64 bits, a double, or a number too large for any of these. -/
inductive Json.Number where
  | natural (value : Nat)
  | negative (magnitude : Nat)
  | double (value : Float)
  | outOfRange

inductive Json where
  | null
  | bool (value : Bool)
  | number (value : Json.Number)
  | string (value : String)
  | array (items : List Json)
  | object (fields : List (String × Json))
  /-- An array or object that lies too deep in its document. -/
  | tooDeep

namespace Json

def Number.toFloat? : Number → Option Float
  | .natural value => some (Float.ofNat value)
  | .negative magnitude => some (-(Float.ofNat magnitude))
  | .double value => some value
  | .outOfRange => none

mutual

/-- How many arrays and objects lie around the innermost value. -/
def depth : Json → Nat
  | .array items => 1 + depthItems items
  | .object fields => 1 + depthFields fields
  | _ => 0

def depthItems : List Json → Nat
  | [] => 0
  | item :: rest => max (depth item) (depthItems rest)

def depthFields : List (String × Json) → Nat
  | [] => 0
  | (_, value) :: rest => max (depth value) (depthFields rest)

end

end Json

end SkySql
