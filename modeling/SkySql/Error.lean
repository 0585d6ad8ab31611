set_option autoImplicit false

/-!
Why a statement cannot be turned into SQL. None of these causes goes away by trying again: the
statement has to change.
-/

namespace SkySql

inductive Error where
  /-- The dialect has no counterpart for the feature. -/
  | unsupported (feature : String)
  /-- A polygon literal cannot hold an expression. -/
  | nonLiteralPolygon (argument : String)
  | arity (function expected : String) (got : Nat)
  | unknownFrame (name : String)
  /-- Region algebra has no SQL text; `region` is its printed form. -/
  | unresolvedRegion (region : String)
  /-- A geometry test is compared with something other than 0 or 1. -/
  | predicateComparison (comparison : String)
  deriving Repr, DecidableEq

def Error.message : Error → String
  | .unsupported feature => feature ++ " is not supported by the PostgreSQL dialect"
  | .nonLiteralPolygon argument =>
      "POLYGON only accepts numeric literals here, got '" ++ argument ++ "'"
  | .arity function expected got =>
      function ++ " expects " ++ expected ++ " arguments, got " ++ toString got
  | .unknownFrame name => "Unknown reference frame '" ++ name ++ "'"
  | .unresolvedRegion region => "Unresolved STC-S region cannot be rendered as SQL: " ++ region
  | .predicateComparison comparison =>
      "Geometry predicates can only be compared to 0 or 1: " ++ comparison

end SkySql
