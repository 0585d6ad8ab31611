import SkySql.Decimal.Binary
import SkySql.Json.Basic

set_option autoImplicit false

/-!
Decoding JSON into the types of the library. A record is an object whose unknown fields are passed
over and whose known fields occur at most once. A choice is written as its name alone, or as an
object with one field: the name of the choice and what it carries.

Two other spellings that decoders accept are left out: a record as the array of its fields in order,
and a choice that carries nothing as an object with `null`, such as `{"Null": null}`. Nothing writes
them, and here they do not decode.
-/

namespace SkySql.Json

/-- The value of a field: `some none` if it is not given, `none` if it is given twice. -/
def field? (fields : List (String × Json)) (name : String) : Option (Option Json) :=
  match fields.filter (·.1 == name) with
  | [] => some none
  | [(_, value)] => some (some value)
  | _ => none

def fields? : Json → Option (List (String × Json))
  | .object fields => some fields
  | _ => none

def string? : Json → Option String
  | .string value => some value
  | _ => none

def bool? : Json → Option Bool
  | .bool value => some value
  | _ => none

/-- A natural number of at most 64 bits, written without fraction or exponent. -/
def natural? : Json → Option Nat
  | .number (.natural value) => some value
  | _ => none

def float? : Json → Option Float
  | .number value => value.toFloat?.filter Decimal.isFinite
  | _ => none

def list? {α : Type} (decode : Json → Option α) : Json → Option (List α)
  | .array items => items.mapM decode
  | _ => none

def option? {α : Type} (decode : Json → Option α) : Json → Option (Option α)
  | .null => some none
  | value => (decode value).map some

variable {α : Type} (fields : List (String × Json)) (name : String)

def required? (decode : Json → Option α) : Option α := do decode (← (← field? fields name))

/-- A field that may be missing or `null`. -/
def optional? (decode : Json → Option α) : Option (Option α) := do
  match ← field? fields name with
  | none => some none
  | some value => option? decode value

def defaulted? (fallback : α) (decode : Json → Option α) : Option α := do
  match ← field? fields name with
  | none => some fallback
  | some value => decode value

def choice? (values : List α) (tag : α → String) : Json → Option α
  | .string name => values.find? (tag · == name)
  | _ => none

def tagged? : Json → Option (String × Json)
  | .object [(name, payload)] => some (name, payload)
  | _ => none

end SkySql.Json
