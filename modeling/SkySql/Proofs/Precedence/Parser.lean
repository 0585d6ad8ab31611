import SkySql.Proofs.Precedence.Lexer
import SkySql.Statement.Basic

set_option autoImplicit false

/-!
Reading an expression by the precedence of SQL. The precedence is a table of layers; a layer parses
its operands by the layer before it, and the first one its operands as primaries. A parser gives the
expression at the front of the tokens and the tokens after it.
-/

namespace SkySql.Precedence

/-- Whether two tokens are the same, words in any letter case. -/
def Token.isSame : Token → Token → Bool
  | .word text, .word other => Text.sameAscii text.toList other.toList
  | token, other => token == other

abbrev Parser := List Token → Option (Expr × List Token)

/-- Operators that bind equally. -/
inductive Layer where
  | unary (mark : Token) (op : UnaryOp)
  /-- Operators that associate to the left. -/
  | binary (operators : List (Token × BinaryOp))
  /-- Operators that do not associate. -/
  | comparison (operators : List (Token × CompareOp))

/-- The layers of SQL; those that bind tighter come first. -/
def precedence : List Layer := [
  .unary (.operator "-") .neg,
  .binary [(.operator "*", .mul), (.operator "/", .div)],
  .binary [(.operator "+", .add), (.operator "-", .sub)],
  .binary [(.operator "||", .concat)],
  .comparison [(.operator "=", .eq), (.operator "<>", .ne), (.operator "<", .lt),
    (.operator "<=", .le), (.operator ">", .gt), (.operator ">=", .ge)],
  .unary (.word "NOT") .not,
  .binary [(.word "AND", .and)],
  .binary [(.word "OR", .or)]]

/-- An operator of a table at the front of the tokens. -/
def operator? {α : Type} (operators : List (Token × α)) : List Token → Option (α × List Token)
  | [] => none
  | token :: rest => (operators.find? (token.isSame ·.1)).map fun found => (found.2, rest)

/-- An operand behind any number of the same unary operator. -/
def parseUnary (mark : Token) (op : UnaryOp) (operand : Parser) : Parser
  | [] => operand []
  | token :: rest =>
      if token.isSame mark then
        (parseUnary mark op operand rest).map fun (inner, rest) => (.unary op inner, rest)
      else operand (token :: rest)

/-- Goes on from `lhs` with operators and operands. Each round takes at least one token, so as many
rounds as there are tokens are enough. -/
def parseChain (operators : List (Token × BinaryOp)) (operand : Parser) : Nat → Expr → Parser
  | 0, lhs, tokens => some (lhs, tokens)
  | rounds + 1, lhs, tokens =>
      match operator? operators tokens with
      | none => some (lhs, tokens)
      | some (op, rest) => do
          let (rhs, rest) ← operand rest
          parseChain operators operand rounds (.binary lhs op rhs) rest

def Layer.parse : Layer → Parser → Parser
  | .unary mark op, operand, tokens => parseUnary mark op operand tokens
  | .binary operators, operand, tokens => do
      let (lhs, rest) ← operand tokens
      parseChain operators operand rest.length lhs rest
  | .comparison operators, operand, tokens => do
      let (lhs, rest) ← operand tokens
      match operator? operators rest with
      | none => return (lhs, rest)
      | some (op, rest) =>
          let (rhs, rest) ← operand rest
          return (.comparison lhs op rhs, rest)

/-- Parses by layers, the first of them on top of a parser for primaries. -/
def climb (layers : List Layer) (primary : Parser) : Parser :=
  layers.foldl (fun operand layer => layer.parse operand) primary

/-- At least one item, with commas between them and a closing parenthesis at the end. -/
def parseArguments (item : Parser) : Nat → List Token → Option (List Expr × List Token)
  | 0, _ => none
  | rounds + 1, tokens => do
      let (first, rest) ← item tokens
      match rest with
      | .closing :: rest => return ([first], rest)
      | .comma :: rest =>
          let (others, rest) ← parseArguments item rounds rest
          return (first :: others, rest)
      | _ => none

/-- A literal, a column, a call, or an expression in parentheses; `depth` bounds how deep
parentheses nest. -/
def primary : Nat → Parser
  | 0, _ => none
  | _ + 1, .number spelling :: rest => some (.number spelling, rest)
  | _ + 1, .string value :: rest => some (.string value, rest)
  | depth + 1, .opening :: rest => do
      match ← climb precedence (primary depth) rest with
      | (inner, .closing :: rest) => return (inner, rest)
      | _ => none
  | depth + 1, .word name :: rest =>
      if Token.isSame (.word name) (.word "NULL") then some (.literal .null, rest)
      else if isReserved name then none
      else
        match rest with
        | .opening :: .closing :: rest => some (.function name [], rest)
        | .opening :: rest =>
            (parseArguments (climb precedence (primary depth)) rest.length rest).map
              fun (args, rest) => (.function name args, rest)
        | .point :: .word inner :: rest =>
            if isReserved inner then none
            else some (.column { qualifier := some name, name := inner }, rest)
        | rest => some (.named name, rest)
  | _ + 1, _ => none

/-- The expression that a text stands for. -/
def readExpr (text : String) : Option Expr := do
  let tokens ← tokens? text
  match ← climb precedence (primary tokens.length) tokens with
  | (expr, []) => return expr
  | _ => none

/-- Whether an operand of the layer can begin with a token in front of it. -/
def Layer.marks : Layer → Token → Bool
  | .unary mark _, token => token.isSame mark
  | _, _ => false

/-- Whether the layer goes on at a token after an operand. -/
def Layer.joins : Layer → Token → Bool
  | .unary _ _, _ => false
  | .binary operators, token => operators.any (token.isSame ·.1)
  | .comparison operators, token => operators.any (token.isSame ·.1)

theorem operator?_eq_none {α : Type} {operators : List (Token × α)} {rest : List Token}
    (ends : ∀ token ∈ rest.head?, operators.any (token.isSame ·.1) = false) :
    operator? operators rest = none := by
  cases rest with
  | nil => rfl
  | cons token rest =>
      have absent := ends token rfl
      simp only [List.any_eq_false] at absent
      simpa [operator?, List.find?_eq_none] using absent

theorem parseChain_of_ends {operators : List (Token × BinaryOp)} {rest : List Token}
    (operand : Parser) (rounds : Nat) (lhs : Expr)
    (ends : ∀ token ∈ rest.head?, operators.any (token.isSame ·.1) = false) :
    parseChain operators operand rounds lhs rest = some (lhs, rest) := by
  cases rounds with
  | zero => rfl
  | succ rounds => simp [parseChain, operator?_eq_none ends]

section Layers

variable {operand : Parser} {expr lhs rhs : Expr} {token : Token}
  {tokens front rest : List Token} {layer : Layer}

/-- A layer that finds none of its operators leaves the operand as it is. -/
theorem Layer.parse_operand (read : operand (token :: tokens) = some (expr, rest))
    (unmarked : layer.marks token = false) (ends : ∀ next ∈ rest.head?, layer.joins next = false) :
    layer.parse operand (token :: tokens) = some (expr, rest) := by
  cases layer with
  | unary mark op =>
      have unmarked : token.isSame mark = false := unmarked
      simp [parse, parseUnary, unmarked, read]
  | binary operators =>
      simp [parse, read, parseChain_of_ends operand rest.length expr ends]
  | comparison operators =>
      simp [parse, read, operator?_eq_none ends]

theorem climb_operand {layers : List Layer}
    (read : operand (token :: tokens) = some (expr, rest))
    (unmarked : ∀ layer ∈ layers, layer.marks token = false)
    (ends : ∀ layer ∈ layers, ∀ next ∈ rest.head?, layer.joins next = false) :
    climb layers operand (token :: tokens) = some (expr, rest) := by
  induction layers generalizing operand with
  | nil => exact read
  | cons layer layers inductionHypothesis =>
      obtain ⟨firstUnmarked, unmarked⟩ := List.forall_mem_cons.mp unmarked
      obtain ⟨firstEnds, ends⟩ := List.forall_mem_cons.mp ends
      exact inductionHypothesis (layer.parse_operand read firstUnmarked firstEnds) unmarked ends

theorem climb_nil (primary : Parser) : climb [] primary = primary := rfl

theorem climb_append (below above : List Layer) (primary : Parser) :
    climb (below ++ above) primary = climb above (climb below primary) :=
  List.foldl_append

theorem parse_unary {mark : Token} {op : UnaryOp}
    (read : (Layer.unary mark op).parse operand tokens = some (expr, rest))
    (marked : token.isSame mark = true) :
    (Layer.unary mark op).parse operand (token :: tokens) = some (.unary op expr, rest) := by
  have inner : parseUnary mark op operand tokens = some (expr, rest) := read
  simp [Layer.parse, parseUnary, marked, inner]

theorem parse_binary {operators : List (Token × BinaryOp)} {op : BinaryOp}
    (readLhs : operand front = some (lhs, token :: tokens))
    (isOperator : (operators.find? (token.isSame ·.1)).map (·.2) = some op)
    (readRhs : operand tokens = some (rhs, rest))
    (ends : ∀ next ∈ rest.head?, (Layer.binary operators).joins next = false) :
    (Layer.binary operators).parse operand front = some (.binary lhs op rhs, rest) := by
  obtain ⟨⟨text, found⟩, isFound, rfl⟩ := Option.map_eq_some_iff.mp isOperator
  simp [Layer.parse, readLhs, parseChain, operator?, isFound, readRhs,
    parseChain_of_ends operand _ _ ends]

theorem parse_comparison {operators : List (Token × CompareOp)} {op : CompareOp}
    (readLhs : operand front = some (lhs, token :: tokens))
    (isOperator : (operators.find? (token.isSame ·.1)).map (·.2) = some op)
    (readRhs : operand tokens = some (rhs, rest)) :
    (Layer.comparison operators).parse operand front = some (.comparison lhs op rhs, rest) := by
  obtain ⟨⟨text, found⟩, isFound, rfl⟩ := Option.map_eq_some_iff.mp isOperator
  simp [Layer.parse, readLhs, operator?, isFound, readRhs]

end Layers

end SkySql.Precedence
