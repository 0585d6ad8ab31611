import SkySql.Proofs.Arithmetic.Reader
import SkySql.Proofs.Index.Idempotence
import SkySql.Proofs.Index.Spelling
import SkySql.Proofs.Precedence.Reading

set_option autoImplicit false

/-!
How the database groups arithmetic with `SQUARE` and `RAND` in it. The texts for these functions
have operators in them and stand without parentheses, so an operator next to one of them can take a
part of it. It does so exactly where a sign stands before a square or a random number with a seed,
where such a random number is the right operand of an operator, and where it is the left operand of
`*` or `/`.
-/

namespace SkySql.Arithmetic

open Precedence (IsNumeral)

/-- A column whose name is a word. -/
abbrev WordColumn :=
  { column : Column // column.text ≠ "" ∧ ∀ c ∈ column.text.toList, isWordPart c = true }

/-- A number without sign. -/
abbrev Numeral := { spelling : String // IsNumeral spelling.toList }

/-- A name in small or capital letters. -/
abbrev Spelled (capitals : String) := { name : String // Text.upperAscii name = capitals }

/-- Arithmetic of columns and numbers with squares and random numbers. -/
inductive Formula where
  | column (referred : WordColumn)
  | number (numeral : Numeral)
  | neg (operand : Formula)
  | binary (lhs : Formula) (operation : Operation) (rhs : Formula)
  | square (name : Spelled "SQUARE") (argument : Formula)
  | random (name : Spelled "RAND")
  | seeded (name : Spelled "RAND") (seed : Formula)

def Operation.op : Operation → BinaryOp
  | .mul => .mul
  | .div => .div
  | .add => .add
  | .sub => .sub

namespace Formula

/-- A formula as an expression of a query. -/
def expr : Formula → Expr
  | .column referred => .column referred.val
  | .number numeral => .number numeral.val
  | .neg operand => .unary .neg operand.expr
  | .binary lhs operation rhs => .binary lhs.expr operation.op rhs.expr
  | .square name argument => .function name.val [argument.expr]
  | .random name => .function name.val []
  | .seeded name seed => .function name.val [seed.expr]

def isOperation : Formula → Bool
  | .binary .. => true
  | _ => false

def isNegation : Formula → Bool
  | .neg _ => true
  | _ => false

def isSquare : Formula → Bool
  | .square .. => true
  | _ => false

def isSeeded : Formula → Bool
  | .seeded .. => true
  | _ => false

/-- The operators of a formula, with each square and each random number as a unit. -/
def tree : Formula → Term
  | .column referred => .atom referred.val.text
  | .number numeral => .atom numeral.val
  | .neg operand => .neg operand.tree
  | .binary lhs operation rhs => .binary lhs.tree (.basic operation) rhs.tree
  | .square _ argument => .binary argument.tree .power (.atom "2")
  | .random _ => .constant "random"
  | .seeded _ seed =>
      .binary (.binary (.call "setseed" seed.tree) (.basic .sub) (.call "setseed" seed.tree))
        (.basic .add) (.constant "random")

/-- Whether no operator stands where it takes a part of a square or of a random number. -/
def isGuarded : Formula → Bool
  -- The sign of `-(x)^2` is that of `x`.
  | .neg operand => !operand.isSquare && !operand.isSeeded && operand.isGuarded
  -- Sums leave a sum on their left together, since they associate to the left.
  | .binary lhs operation rhs =>
      !rhs.isSeeded && (operation = .add || operation = .sub || !lhs.isSeeded) &&
        lhs.isGuarded && rhs.isGuarded
  | .square _ argument => argument.isGuarded
  | .seeded _ seed => seed.isGuarded
  | _ => true

def text : Formula → String
  | .column referred => referred.val.text
  | .number numeral => numeral.val
  | .neg operand => negated (operandText operand.expr operand.text)
  | .binary lhs operation rhs =>
      operandText lhs.expr lhs.text ++ " " ++ operation.op.symbol ++ " " ++
        operandText rhs.expr rhs.text
  | .square _ argument => "(" ++ argument.text ++ ")^2"
  | .random _ => "random()"
  | .seeded _ seed => "setseed(" ++ seed.text ++ ")-setseed(" ++ seed.text ++ ")+random()"

/-- What the dialect pass leaves of a formula. -/
def result : Formula → Expr
  | .column referred => .column referred.val
  | .number numeral => .number numeral.val
  | .neg operand => .unary .neg operand.result
  | .binary lhs operation rhs => .binary lhs.result operation.op rhs.result
  | .square name argument => .verbatim (square name argument).text
  | .random name => .verbatim (random name).text
  | .seeded name seed => .verbatim (seeded name seed).text

theorem operandText_result (formula : Formula) (text : String) :
    operandText formula.result text = operandText formula.expr text := by
  cases formula <;> rfl

theorem render_result (formula : Formula) : formula.result.render = .ok formula.text := by
  induction formula with
  | column | number | square | random | seeded => rfl
  | neg operand inductionHypothesis =>
      rw [result, Expr.render, inductionHypothesis]
      exact congrArg (fun text => Except.ok (negated text))
        (operandText_result operand operand.text)
  | binary lhs operation rhs inLhs inRhs =>
      rw [result, Precedence.render_binary inLhs inRhs, operandText_result, operandText_result]
      rfl

theorem walkExpr_dialectPass (config : DialectConfig) (formula : Formula) :
    (dialectPass config).walkExpr formula.expr = pure formula.result := by
  have rewritten {name text : String} {args results : List Expr}
      (walked : (dialectPass config).walkExprs args = pure results)
      (made : functionRewrite name results = .ok (.text text)) :
      (dialectPass config).walkExpr (.function name args) = pure (.verbatim text) := by
    have applied : (dialectPass config).function name results = pure (.text text) :=
      congrArg (fun found => (liftM found : Rule (Rewrite Expr))) made
    rw [Pass.walkExpr, walked, pure_bind, applied, pure_bind]
    rfl
  have argument {arg result : Expr} (walked : (dialectPass config).walkExpr arg = pure result) :
      (dialectPass config).walkExprs [arg] = pure [result] := by
    rw [Pass.walkExprs, walked, pure_bind, Pass.walkExprs, pure_bind]
  induction formula with
  | column | number => rfl
  | neg operand inductionHypothesis =>
      rw [expr, Pass.walkExpr, inductionHypothesis, pure_bind]
      rfl
  | binary lhs operation rhs inLhs inRhs =>
      rw [expr, Pass.walkExpr, inLhs, inRhs, pure_bind, pure_bind]
      rfl
  | square name inner inductionHypothesis =>
      refine rewritten (argument inductionHypothesis) ?_
      simp only [functionRewrite, name.property, inner.render_result]
      rfl
  | random name =>
      refine rewritten rfl ?_
      simp only [functionRewrite, name.property]
      rfl
  | seeded name seed inductionHypothesis =>
      refine rewritten (argument inductionHypothesis) ?_
      simp only [functionRewrite, name.property, seed.render_result]
      rfl

theorem settled_nodes (formula : Formula) : ∀ node ∈ formula.expr.nodes, node.Settled := by
  have settled {node : Expr} (unasked : node.search? = none) (apart : node.comparesText = false) :
      ∀ other ∈ [node], other.Settled :=
    List.forall_mem_singleton.mpr (Expr.settled_of_search?_none unasked apart)
  induction formula with
  | column | number | random => exact settled rfl rfl
  | neg operand inductionHypothesis =>
      exact List.forall_mem_append.mpr ⟨inductionHypothesis, settled rfl rfl⟩
  | binary lhs operation rhs inLhs inRhs =>
      have operands := List.forall_mem_append.mpr ⟨inLhs, inRhs⟩
      exact List.forall_mem_append.mpr ⟨operands, settled rfl rfl⟩
  | square name argument inductionHypothesis | seeded name argument inductionHypothesis =>
      have nodes : readExprs everywhere [argument.expr] = argument.expr.nodes := List.append_nil _
      refine List.forall_mem_append.mpr ⟨?_, settled rfl rfl⟩
      rw [nodes]
      exact inductionHypothesis

/-- A formula is compiled to its text, with the index pass and without it. -/
theorem compile_eq_ok (config : DialectConfig) (formula : Formula) :
    compile config (valueOf formula.expr) = .ok ⟨"SELECT " ++ formula.text, []⟩ := by
  have walked := formula.walkExpr_dialectPass config
  have translated : (dialectPass config).text formula.expr = .ok formula.text := by
    rw [Pass.text, walked]
    exact formula.render_result
  have direct : Pipeline.compile [dialectPass config] (valueOf formula.expr) =
      .ok ⟨"SELECT " ++ formula.text, []⟩ := by
    rw [Pipeline.compile_cons_eq, dialectPass_valueOf, translated, walked]
    rfl
  have settled : ∀ node ∈ (valueOf formula.expr).nodes, node.Settled := by
    rw [nodes_valueOf]
    exact formula.settled_nodes
  rw [compile, pipeline]
  split
  · rw [List.singleton_append, Pipeline.compile_cons (indexPass_of_settled config settled), direct]
    rfl
  · exact direct

end Formula

/-- A chain, in parentheses if it has to stand in them. -/
def Chain.closedIf (isClosed : Bool) (chain : Chain) : Chain :=
  if isClosed then chain.closed else chain

namespace Formula

def chain : Formula → Chain
  | .column referred => ⟨.atom referred.val.text, []⟩
  | .number numeral => ⟨.atom numeral.val, []⟩
  | .neg operand => (operand.chain.closedIf (operand.isOperation || operand.isNegation)).negated
  | .binary lhs operation rhs =>
      (lhs.chain.closedIf lhs.isOperation).join (.basic operation)
        (rhs.chain.closedIf rhs.isOperation)
  | .square _ argument => ⟨argument.chain.term, [(.power, .atom "2")]⟩
  | .random _ => ⟨.constant "random", []⟩
  | .seeded _ seed =>
      ⟨.call "setseed" seed.chain.term, [(.basic .sub, .call "setseed" seed.chain.term),
        (.basic .add, .constant "random")]⟩

theorem isOperation_expr (formula : Formula) : formula.expr.isOperation = formula.isOperation := by
  cases formula <;> rfl

theorem toList_negated {text : String} {c : Char} {rest : List Char}
    (spelled : text.toList = c :: rest) :
    (negated text).toList =
      if c = '-' then '-' :: '(' :: (c :: rest ++ [')']) else '-' :: c :: rest := by
  unfold negated
  split
  next others signed =>
    obtain ⟨rfl, rfl⟩ := List.cons.inj (spelled.symm.trans signed)
    simp [spelled]
  next unsigned =>
    have apart : c ≠ '-' := fun isSign => unsigned rest (by rw [spelled, isSign])
    simp [spelled, apart]

/-- The text of an operand begins with an operator only if it is a negation. -/
theorem exists_head (formula : Formula) :
    ∃ c, (operandText formula.expr formula.text).toList.head? = some c ∧
      (if formula.isNegation then c = '-' else operator? c = none) := by
  rw [operandText, isOperation_expr]
  cases formula with
  | column referred =>
      obtain ⟨column, isText, areParts⟩ := referred
      obtain ⟨first, others, spelled⟩ :=
        List.exists_cons_of_ne_nil (String.toList_eq_nil_iff.not.mpr isText)
      rw [spelled] at areParts
      refine ⟨first, by simp [isOperation, text, spelled], ?_⟩
      exact operator?_of_isWordPart (List.forall_mem_cons.mp areParts).1
  | number numeral =>
      obtain ⟨spelling, isNumeral⟩ := numeral
      obtain ⟨first, others, spelled, isPart⟩ := Reads.numeral_head isNumeral
      exact ⟨first, by simp [isOperation, text, spelled], operator?_of_isWordPart isPart⟩
  | neg operand =>
      refine ⟨'-', ?_, rfl⟩
      change (negated _).toList.head? = _
      unfold negated
      split <;> simp
  | binary | square => exact ⟨'(', by simp [isOperation, text], rfl⟩
  | random => exact ⟨'r', by simp [isOperation, text], rfl⟩
  | seeded => exact ⟨'s', by simp [isOperation, text], rfl⟩

theorem reads_operand {formula : Formula} (reads : Reads formula.text.toList formula.chain) :
    Reads (operandText formula.expr formula.text).toList
      (formula.chain.closedIf formula.isOperation) := by
  rw [operandText, isOperation_expr]
  cases formula.isOperation with
  | true => simpa [Chain.closedIf] using reads.closed
  | false => exact reads

theorem reads (formula : Formula) : Reads formula.text.toList formula.chain := by
  induction formula with
  | column referred =>
      obtain ⟨column, isText, areParts⟩ := referred
      simpa [text, chain] using Reads.word (String.toList_eq_nil_iff.not.mpr isText) areParts
  | number numeral => simpa [text, chain] using Reads.numeral numeral.property
  | neg operand inductionHypothesis =>
      obtain ⟨c, isHead, leads⟩ := operand.exists_head
      obtain ⟨rest, spelled⟩ := List.head?_eq_some_iff.mp isHead
      have inner := reads_operand inductionHypothesis
      rw [spelled] at inner
      rw [text, chain, toList_negated spelled]
      cases isNegation : operand.isNegation with
      | true =>
          -- A second sign is kept off by parentheses, so the operand is read by itself.
          rw [isNegation, if_pos rfl] at leads
          subst leads
          have single : operand.isOperation = false := by
            cases operand <;> first | rfl | cases isNegation
          rw [single] at inner ⊢
          exact inner.closed.negated rfl
      | false =>
          rw [isNegation] at leads
          have apart : c ≠ '-' := by
            rintro rfl
            cases leads
          rw [if_neg apart, Bool.or_false]
          exact inner.negated leads
  | binary lhs operation rhs inLhs inRhs =>
      have joined (c : Char) (isSymbol : operation.op.symbol = String.singleton c)
          (isOperator : operator? c = some (.basic operation)) :
          Reads (binary lhs operation rhs).text.toList (binary lhs operation rhs).chain := by
        have read := (reads_operand inLhs).join (reads_operand inRhs) isOperator
        simpa [text, isSymbol, chain] using read
      cases operation with
      | mul => exact joined '*' rfl rfl
      | div => exact joined '/' rfl rfl
      | add => exact joined '+' rfl rfl
      | sub => exact joined '-' rfl rfl
  | square name argument inductionHypothesis =>
      simpa [text, chain] using inductionHypothesis.squared
  | random name => exact Reads.random
  | seeded name seed inductionHypothesis =>
      simpa [text, chain] using inductionHypothesis.seeded

end Formula

namespace Chain

/-- A single operand or a square, which the operators of a formula leave together. -/
def IsTight (chain : Chain) : Prop :=
  ∃ first, chain = ⟨first, []⟩ ∨ chain = ⟨first, [(.power, .atom "2")]⟩

/-- A random number with a seed, perhaps with a sign before it. -/
def IsLoose (chain : Chain) : Prop :=
  ∃ first second,
    chain = ⟨first, [(.basic .sub, second), (.basic .add, .constant "random")]⟩

variable {lhs rhs : Chain}

theorem term_closedIf (isClosed : Bool) (chain : Chain) :
    (chain.closedIf isClosed).term = chain.term := by
  cases isClosed <;> rfl

/-- Operands that the operator between them takes as they are. -/
theorem term_join {operation : Operation} (isRhs : rhs.IsTight)
    (isLhs : lhs.IsTight ∨ lhs.IsLoose ∧ (operation = .add ∨ operation = .sub)) :
    (lhs.join (.basic operation) rhs).term = .binary lhs.term (.basic operation) rhs.term := by
  obtain ⟨right, rfl | rfl⟩ := isRhs <;>
    obtain ⟨left, rfl | rfl⟩ | ⟨⟨left, second, rfl⟩, rfl | rfl⟩ := isLhs <;>
      first | rfl | (cases operation <;> rfl)

/-- A product takes the last part of a random number on its left. -/
theorem term_join_of_loose_lhs {operation : Operation} (isRhs : rhs.IsTight)
    (isLhs : lhs.IsLoose) (isProduct : operation = .mul ∨ operation = .div) :
    ∃ left right, (lhs.join (.basic operation) rhs).term = .binary left (.basic .add) right := by
  obtain ⟨right, rfl | rfl⟩ := isRhs <;> obtain ⟨left, second, rfl⟩ := isLhs <;>
    obtain rfl | rfl := isProduct <;> exact ⟨_, _, rfl⟩

/-- Every operator takes the first part of a random number on its right. -/
theorem term_join_of_loose_rhs (operation : Operation) (isRhs : rhs.IsLoose)
    (isLhs : lhs.IsTight ∨ lhs.IsLoose) :
    ∃ left, (lhs.join (.basic operation) rhs).term =
      .binary left (.basic .add) (.constant "random") := by
  obtain ⟨right, second, rfl⟩ := isRhs
  obtain ⟨left, rfl | rfl⟩ | ⟨left, other, rfl⟩ := isLhs <;> cases operation <;> exact ⟨_, rfl⟩

end Chain

namespace Formula

/-- An operand is tight, or it has a random number with a seed at its end. -/
theorem tight_or_loose (formula : Formula) :
    (formula.chain.closedIf formula.isOperation).IsTight ∧ formula.isSeeded = false ∨
      (formula.chain.closedIf formula.isOperation).IsLoose ∧
        (formula.isSeeded = true ∨ formula.isGuarded = false) ∧
          formula.tree ≠ .constant "random" := by
  cases formula with
  | column | number | random | binary => exact .inl ⟨⟨_, .inl rfl⟩, rfl⟩
  | square => exact .inl ⟨⟨_, .inr rfl⟩, rfl⟩
  | seeded => exact .inr ⟨⟨_, _, rfl⟩, .inl rfl, nofun⟩
  | neg operand =>
      cases operand with
      | column | number | random | binary | neg => exact .inl ⟨⟨_, .inl rfl⟩, rfl⟩
      | square => exact .inl ⟨⟨_, .inr rfl⟩, rfl⟩
      | seeded => exact .inr ⟨⟨_, _, rfl⟩, .inr rfl, nofun⟩

/-- A sign is that of the whole operand, unless it is a square or a random number with a seed. -/
theorem term_neg_eq_tree_iff {operand : Formula}
    (inOperand : operand.chain.term = operand.tree ↔ operand.isGuarded = true) :
    (neg operand).chain.term = (neg operand).tree ↔ (neg operand).isGuarded = true := by
  cases operand with
  | square | seeded =>
      refine iff_of_false (fun same => ?_) Bool.false_ne_true
      have differs : Term.binary _ _ _ = Term.neg _ := same
      cases differs
  | column | number | random | neg | binary =>
      change Term.neg _ = Term.neg _ ↔ _
      rw [Term.neg.injEq]
      exact inOperand

theorem term_binary_eq_tree_iff {lhs rhs : Formula} (operation : Operation)
    (inLhs : lhs.chain.term = lhs.tree ↔ lhs.isGuarded = true)
    (inRhs : rhs.chain.term = rhs.tree ↔ rhs.isGuarded = true) :
    (binary lhs operation rhs).chain.term = (binary lhs operation rhs).tree ↔
      (binary lhs operation rhs).isGuarded = true := by
  have together (read : (binary lhs operation rhs).chain.term =
      .binary (lhs.chain.closedIf lhs.isOperation).term (.basic operation)
        (rhs.chain.closedIf rhs.isOperation).term)
      (free : (!rhs.isSeeded && (operation = .add || operation = .sub || !lhs.isSeeded)) = true) :
      (binary lhs operation rhs).chain.term = (binary lhs operation rhs).tree ↔
        (binary lhs operation rhs).isGuarded = true := by
    rw [read, tree, Term.binary.injEq, Chain.term_closedIf, Chain.term_closedIf, inLhs, inRhs,
      isGuarded, free]
    simp
  -- Where a part is taken, the text is read as a sum that ends with the random number, or with
  -- what is made of it, and the formula is no such sum.
  rcases rhs.tight_or_loose with ⟨tightRhs, freeRhs⟩ | ⟨looseRhs, taken, notRandom⟩
  · rcases lhs.tight_or_loose with ⟨tightLhs, freeLhs⟩ | ⟨looseLhs, taken, -⟩
    · exact together (Chain.term_join tightRhs (.inl tightLhs)) (by simp [freeRhs, freeLhs])
    · by_cases isSum : operation = .add ∨ operation = .sub
      · refine together (Chain.term_join tightRhs (.inr ⟨looseLhs, isSum⟩)) ?_
        simpa [freeRhs] using .inl isSum
      · have isProduct : operation = .mul ∨ operation = .div := by
          cases operation <;> simp_all
        obtain ⟨left, right, read⟩ := Chain.term_join_of_loose_lhs tightRhs looseLhs isProduct
        refine iff_of_false (fun same => ?_) ?_
        · have sameOperator := (Term.binary.inj (read.symm.trans same)).2.1
          rcases isProduct with rfl | rfl <;> cases sameOperator
        · rcases taken with seeded | unguarded
          · simp [isGuarded, seeded, not_or.mp isSum]
          · simp [isGuarded, unguarded]
  · obtain ⟨left, read⟩ := Chain.term_join_of_loose_rhs operation looseRhs
      (lhs.tight_or_loose.imp And.left And.left)
    refine iff_of_false (fun same => ?_) ?_
    · exact notRandom (Term.binary.inj (read.symm.trans same)).2.2.symm
    · rcases taken with seeded | unguarded
      · simp [isGuarded, seeded]
      · simp [isGuarded, unguarded]

/-- The text of a formula is read as the formula exactly if the formula is guarded. -/
theorem term_eq_tree_iff (formula : Formula) :
    formula.chain.term = formula.tree ↔ formula.isGuarded = true := by
  induction formula with
  | column | number | random => exact iff_of_true rfl rfl
  | square name argument inductionHypothesis =>
      change Term.binary _ _ _ = Term.binary _ _ _ ↔ argument.isGuarded = true
      rw [Term.binary.injEq, ← inductionHypothesis]
      exact ⟨And.left, fun same => ⟨same, rfl, rfl⟩⟩
  | seeded name seed inductionHypothesis =>
      change Term.binary (.binary (.call _ _) _ (.call _ _)) _ (.constant _) =
        Term.binary (.binary (.call _ _) _ (.call _ _)) _ (.constant _) ↔ seed.isGuarded = true
      simp only [Term.binary.injEq, Term.call.injEq, true_and, and_true, and_self,
        inductionHypothesis]
  | neg operand inductionHypothesis => exact term_neg_eq_tree_iff inductionHypothesis
  | binary lhs operation rhs inLhs inRhs => exact term_binary_eq_tree_iff operation inLhs inRhs

end Formula

/-- Every formula is compiled, with the index pass and without it. By the precedence of the
database, the text is read as the operators of the formula, with each square and each random number
as a unit, exactly if no operator stands where it takes a part of one. -/
theorem compile_groups_units (config : DialectConfig) (formula : Formula) :
    ∃ text, compile config (valueOf formula.expr) = .ok ⟨"SELECT " ++ text, []⟩ ∧
      (read? text).isSome = true ∧
      (read? text = some formula.tree ↔ formula.isGuarded = true) := by
  have read := read?_of_reads formula.reads
  refine ⟨formula.text, formula.compile_eq_ok config, by rw [read]; rfl, ?_⟩
  rw [read, Option.some.injEq]
  exact formula.term_eq_tree_iff

def Formula.named (name : String) (isName : name ≠ "" ∧ name.toList.all isWordPart = true) :
    Formula :=
  .column ⟨{ name }, isName.1, List.all_eq_true.mp isName.2⟩

/-- A random number as the first of two summands, and the square of a negation. -/
theorem compile_groups_units_sum :
    let x := Formula.named "x" (by decide)
    let formula : Formula :=
      .binary (.seeded ⟨"rand", by decide⟩ x) .add (.square ⟨"SQUARE", by decide⟩ (.neg x))
    compile {} (valueOf formula.expr) =
        .ok ⟨"SELECT setseed(x)-setseed(x)+random() + (-x)^2", []⟩ ∧
      read? "setseed(x)-setseed(x)+random() + (-x)^2" = some formula.tree := by
  intro x formula
  obtain ⟨text, compiled, -, grouped⟩ := compile_groups_units {} formula
  have found : compile {} (valueOf formula.expr) =
      .ok ⟨"SELECT setseed(x)-setseed(x)+random() + (-x)^2", []⟩ := rfl
  rw [found, Except.ok.injEq, Compiled.mk.injEq] at compiled
  have same : "setseed(x)-setseed(x)+random() + (-x)^2" = text :=
    (String.append_right_inj "SELECT ").mp compiled.1
  refine ⟨found, ?_⟩
  rw [same]
  exact grouped.mpr rfl

/-- A sign before a square is that of its base, and a factor before a random number is that of its
first part. -/
theorem sign_takes_base_of_square :
    let x := Formula.named "x" (by decide)
    let opposite : Formula := .neg (.square ⟨"SQUARE", by decide⟩ x)
    let product : Formula := .binary x .mul (.seeded ⟨"RAND", by decide⟩ x)
    (compile {} (valueOf opposite.expr) = .ok ⟨"SELECT -(x)^2", []⟩ ∧
      read? "-(x)^2" = some (.binary (.neg (.atom "x")) .power (.atom "2")) ∧
      opposite.tree = .neg (.binary (.atom "x") .power (.atom "2"))) ∧
    compile {} (valueOf product.expr) =
        .ok ⟨"SELECT x * setseed(x)-setseed(x)+random()", []⟩ ∧
      read? "x * setseed(x)-setseed(x)+random()" ≠ some product.tree := by
  intro x opposite product
  exact ⟨⟨rfl, rfl, rfl⟩, rfl, by decide⟩

end SkySql.Arithmetic
