import SkySql.Statement.Render
import SkySql.Text.Letter

set_option autoImplicit false

/-!
A query as PostgreSQL text: `TOP` becomes part of `LIMIT`, and the quantifier `ALL` is not written
but makes the offset explicit.
-/

namespace SkySql

def isAll (quantifier : String) : Bool := Text.sameAscii quantifier.toList "ALL".toList

def quantifierText : Option String → String
  | some quantifier => if isAll quantifier then "" else " " ++ Text.upper quantifier
  | none => ""

/-- The offset, which `ALL` sets to zero if it is not given. -/
def Query.startOffset (query : Query) : Option Nat :=
  if query.quantifier.any isAll then some (query.offset.getD 0) else query.offset

def Query.renderSelect (query : Query) : Except Error String := do
  let clauses ← query.clauses
  return "SELECT" ++ quantifierText query.quantifier ++ " " ++ Text.commaList clauses.items ++
    clauses.body ++ optionClause "LIMIT" (query.rowLimit.map toString) ++
      optionClause "OFFSET" (query.startOffset.map toString)

end SkySql
