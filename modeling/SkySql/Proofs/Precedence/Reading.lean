import SkySql.Proofs.Precedence.Parser
import SkySql.Statement.Render

set_option autoImplicit false

/-!
Rendered expressions are read back as they were. Every operand that is an operation stands in
parentheses, so between two parentheses there is at most one operator with two operands; what
remains to be seen is that minus signs and `NOT`, which get no parentheses, end up at the right
operand, and that no two neighbours run together into one token.
-/

namespace SkySql.Precedence

/-- Value expressions: literals, columns of which nothing is known, calls, and arithmetic. -/
inductive IsValue : Expr → Prop
  | column {name : String} (isName : isIdentifier name = true) : IsValue (.named name)
  | qualified {qualifier name : String} (isQualifier : isIdentifier qualifier = true)
      (isName : isIdentifier name = true) :
      IsValue (.column { qualifier := some qualifier, name := name })
  | number {spelling : String} (isNumeral : IsNumeral spelling.toList) : IsValue (.number spelling)
  | string (value : String) : IsValue (.string value)
  | null : IsValue (.literal .null)
  | call {name : String} {args : List Expr} (isName : isIdentifier name = true)
      (areValues : ∀ arg ∈ args, IsValue arg) : IsValue (.function name args)
  | negation {operand : Expr} (isOperand : IsValue operand) : IsValue (.unary .neg operand)
  | arithmetic {lhs rhs : Expr} {op : BinaryOp} (isArithmetic : op ≠ .and ∧ op ≠ .or)
      (isLhs : IsValue lhs) (isRhs : IsValue rhs) : IsValue (.binary lhs op rhs)

/-- Conditions: comparisons of values, and what is made of conditions by `NOT`, `AND` and `OR`. -/
inductive IsCondition : Expr → Prop
  | comparison {lhs rhs : Expr} (op : CompareOp) (isLhs : IsValue lhs) (isRhs : IsValue rhs) :
      IsCondition (.comparison lhs op rhs)
  | negation {operand : Expr} (isOperand : IsCondition operand) :
      IsCondition (.unary .not operand)
  | connective {lhs rhs : Expr} {op : BinaryOp} (isConnective : op = .and ∨ op = .or)
      (isLhs : IsCondition lhs) (isRhs : IsCondition rhs) : IsCondition (.binary lhs op rhs)

/-- Whether an expression ends before a token, as the first `level` layers see it. A parenthesis or
a point would go on with a name. -/
def ends (level : Nat) (token : Token) : Bool :=
  token != .opening && token != .point &&
    (precedence.take level).all fun layer => !layer.joins token

/-- Whether an expression that the first `level` layers read may begin with a token: the layers
above them must not take it away. -/
def begins (level : Nat) (token : Token) : Bool :=
  token != .closing && (precedence.drop level).all fun layer => !layer.marks token

theorem begins_add {level : Nat} {token : Token} (isBegin : begins level token = true)
    (more : Nat) : begins (level + more) token = true := by
  simp only [begins, Bool.and_eq_true, List.all_eq_true] at isBegin ⊢
  refine ⟨isBegin.1, fun layer membership => isBegin.2 layer ?_⟩
  rw [← List.drop_drop] at membership
  exact List.mem_of_mem_drop membership

theorem ends_of_add {level more : Nat} {token : Token} (isEnd : ends (level + more) token = true) :
    ends level token = true := by
  simp only [ends, List.take_add, List.all_append, Bool.and_eq_true] at isEnd ⊢
  exact ⟨isEnd.1, isEnd.2.1⟩

theorem joins_of_ends {level : Nat} {token : Token} {layer : Layer}
    (isEnd : ends (level + 1) token = true) (isLayer : precedence[level]? = some layer) :
    layer.joins token = false := by
  simp only [ends, List.take_add_one, isLayer, List.all_append, Bool.and_eq_true] at isEnd
  simpa using isEnd.2.2

def operatorLevel : BinaryOp → Nat
  | .mul | .div => 1
  | .add | .sub => 2
  | .concat => 3
  | .and => 6
  | .or => 7

theorem operator_layer (op : BinaryOp) :
    ∃ operators, precedence[operatorLevel op]? = some (.binary operators) ∧
      (operators.find? ((operatorToken op).isSame ·.1)).map (·.2) = some op ∧
      ends (operatorLevel op) (operatorToken op) = true := by
  cases op <;> exact ⟨_, rfl, rfl, rfl⟩

theorem comparison_layer (op : CompareOp) :
    ∃ operators, precedence[4]? = some (.comparison operators) ∧
      (operators.find? (Token.isSame (.operator op.symbol) ·.1)).map (·.2) = some op ∧
      ends 4 (.operator op.symbol) = true := by
  cases op <;> exact ⟨_, rfl, rfl, rfl⟩

/-- A text that the first `level` layers read as an expression. -/
def ReadsAt (level : Nat) (text : List Char) (expr : Expr) : Prop :=
  ∃ token tokens, Lexes text (token :: tokens) ∧ begins level token = true ∧
    ∀ depth rest, tokens.length < depth → (∀ next ∈ rest.head?, ends level next = true) →
      climb (precedence.take level) (primary depth) (token :: (tokens ++ rest)) = some (expr, rest)

namespace ReadsAt

variable {level : Nat} {text : List Char} {expr : Expr}

/-- What some layers read, more layers read in the same way. -/
theorem add (reads : ReadsAt level text expr) (more : Nat) : ReadsAt (level + more) text expr := by
  obtain ⟨token, tokens, isText, isBegin, read⟩ := reads
  refine ⟨token, tokens, isText, begins_add isBegin more, fun depth rest deep isEnd => ?_⟩
  simp only [begins, Bool.and_eq_true, List.all_eq_true, Bool.not_eq_true'] at isBegin
  rw [List.take_add, climb_append]
  refine climb_operand (read depth rest deep fun next isNext => ends_of_add (isEnd next isNext))
    (fun layer membership => isBegin.2 layer (List.mem_of_mem_take membership))
    fun layer membership next isNext => ?_
  have isEnd := isEnd next isNext
  simp only [ends, List.take_add, List.all_append, Bool.and_eq_true, List.all_eq_true,
    Bool.not_eq_true'] at isEnd
  exact isEnd.2.2 layer membership

theorem mono {higher : Nat} (reads : ReadsAt level text expr) (below : level ≤ higher) :
    ReadsAt higher text expr := by
  obtain ⟨more, rfl⟩ := Nat.exists_eq_add_of_le below
  exact reads.add more

theorem enclosed (reads : ReadsAt 8 text expr) : ReadsAt 0 ('(' :: (text ++ [')'])) expr := by
  obtain ⟨token, tokens, isText, -, read⟩ := reads
  have all : precedence.take 8 = precedence := rfl
  rw [all] at read
  refine ⟨.opening, token :: tokens ++ [.closing], isText.enclosed, rfl,
    fun depth rest deep _ => ?_⟩
  obtain ⟨depth, rfl⟩ := Nat.exists_eq_add_one.mpr (Nat.zero_lt_of_lt deep)
  simp only [List.cons_append, List.length_cons, List.length_append, List.length_nil] at deep
  have inner := read depth (.closing :: rest) (by omega) fun next isNext => by
    cases isNext
    rfl
  rw [List.take_zero, climb_nil, List.cons_append, List.cons_append, List.append_assoc,
    List.singleton_append, primary, inner]
  rfl

/-- An operand behind a sign or keyword that binds as tight as itself. -/
theorem unary {mark : Token} {op : UnaryOp} {front : List Char}
    (reads : ReadsAt (level + 1) text expr)
    (isLayer : precedence[level]? = some (.unary mark op))
    (isBegin : begins (level + 1) mark = true) (same : mark.isSame mark = true)
    (joined : ∀ tokens, Lexes text tokens → Lexes (front ++ text) (mark :: tokens)) :
    ReadsAt (level + 1) (front ++ text) (.unary op expr) := by
  obtain ⟨token, tokens, isText, -, read⟩ := reads
  refine ⟨mark, token :: tokens, joined _ isText, isBegin, fun depth rest deep isEnd => ?_⟩
  have inner := read depth rest (by simp at deep; omega) isEnd
  rw [List.take_add_one, isLayer] at inner ⊢
  rw [Option.toList_some, climb_append] at inner ⊢
  exact parse_unary inner same

/-- Operands that bind tighter than the operator between them. -/
theorem joined {front symbol : List Char} {token : Token} {layer : Layer} {lhs rhs whole : Expr}
    (isLhs : ReadsAt level front lhs) (isRhs : ReadsAt level text rhs)
    (isSymbol : Lexes symbol [token]) (isLayer : precedence[level]? = some layer)
    (isEndOfLhs : ends level token = true)
    (parses : ∀ {operand : Parser} {front tokens rest : List Token},
      operand front = some (lhs, token :: tokens) → operand tokens = some (rhs, rest) →
      (∀ next ∈ rest.head?, layer.joins next = false) →
      layer.parse operand front = some (whole, rest)) :
    ReadsAt (level + 1) (front ++ ' ' :: (symbol ++ ' ' :: text)) whole := by
  obtain ⟨first, firsts, isFront, isBegin, readLhs⟩ := isLhs
  obtain ⟨second, seconds, isText, -, readRhs⟩ := isRhs
  refine ⟨first, firsts ++ ([token] ++ (second :: seconds)),
    isFront.blank (isSymbol.blank isText), begins_add isBegin 1, fun depth rest deep isEnd => ?_⟩
  simp only [List.length_append, List.length_cons] at deep
  rw [List.take_add_one, isLayer, Option.toList_some, climb_append, List.append_assoc,
    List.append_assoc, List.singleton_append]
  refine parses (readLhs depth _ (by omega) fun next isNext => ?_)
    (readRhs depth rest (by omega) fun next isNext => ends_of_add (isEnd next isNext))
    fun next isNext => joins_of_ends (isEnd next isNext) isLayer
  cases isNext
  exact isEndOfLhs

theorem binary {op : BinaryOp} {front : List Char} {lhs rhs : Expr}
    (isLhs : ReadsAt (operatorLevel op) front lhs) (isRhs : ReadsAt (operatorLevel op) text rhs) :
    ReadsAt (operatorLevel op + 1) (front ++ ' ' :: (op.symbol.toList ++ ' ' :: text))
      (.binary lhs op rhs) := by
  obtain ⟨operators, isLayer, isOperator, isEndOfLhs⟩ := operator_layer op
  exact isLhs.joined isRhs (Lexes.operator op) isLayer isEndOfLhs fun readLhs readRhs isEnd =>
    parse_binary readLhs isOperator readRhs isEnd

theorem comparison {op : CompareOp} {front : List Char} {lhs rhs : Expr}
    (isLhs : ReadsAt 4 front lhs) (isRhs : ReadsAt 4 text rhs) :
    ReadsAt (4 + 1) (front ++ ' ' :: (op.symbol.toList ++ ' ' :: text))
      (.comparison lhs op rhs) := by
  obtain ⟨operators, isLayer, isOperator, isEndOfLhs⟩ := comparison_layer op
  exact isLhs.joined isRhs (Lexes.comparison op) isLayer isEndOfLhs fun readLhs readRhs _ =>
    parse_comparison readLhs isOperator readRhs

theorem not_reserved {name : String} (isName : isIdentifier name = true) :
    isReserved name = false := by
  simp only [isIdentifier, Bool.and_eq_true, Bool.not_eq_true'] at isName
  exact isName.2

theorem not_same {name : String} {mark : String} (isName : isIdentifier name = true)
    (isMark : mark ∈ reserved) : Token.isSame (.word name) (.word mark) = false := by
  have free := not_reserved isName
  simp only [isReserved, List.any_eq_false, Bool.not_eq_true] at free
  exact free mark isMark

theorem not_null {name : String} (isName : isIdentifier name = true) :
    Token.isSame (.word name) (.word "NULL") = false :=
  not_same isName (by decide)

theorem begins_word {name : String} (isName : isIdentifier name = true) :
    begins 0 (.word name) = true := by
  have notNot : Token.isSame (.word name) (.word "NOT") = false := not_same isName (by decide)
  have noSign : Token.isSame (.word name) (.operator "-") = false := rfl
  simp [begins, precedence, Layer.marks, notNot, noSign]

theorem name {name : String} (isName : isIdentifier name = true) :
    ReadsAt 0 name.toList (.named name) := by
  refine ⟨.word name, [], Lexes.name isName, begins_word isName, fun depth rest deep isEnd => ?_⟩
  obtain ⟨depth, rfl⟩ := Nat.exists_eq_add_one.mpr deep
  rw [List.take_zero, climb_nil, List.nil_append]
  unfold primary
  simp only [not_null isName, not_reserved isName]
  cases rest with
  | nil => rfl
  | cons next rest =>
      have isEnd := isEnd next rfl
      cases next with
      | opening | point => cases isEnd
      | _ => rfl

theorem number {spelling : String} (isNumeral : IsNumeral spelling.toList) :
    ReadsAt 0 spelling.toList (.number spelling) := by
  refine ⟨.number spelling, [], Lexes.number isNumeral, rfl, fun depth rest deep _ => ?_⟩
  obtain ⟨depth, rfl⟩ := Nat.exists_eq_add_one.mpr deep
  rfl

theorem string (value : String) : ReadsAt 0 (Text.quote value).toList (.string value) := by
  refine ⟨.string value, [], Lexes.string value, rfl, fun depth rest deep _ => ?_⟩
  obtain ⟨depth, rfl⟩ := Nat.exists_eq_add_one.mpr deep
  rfl

theorem null : ReadsAt 0 "NULL".toList (.literal .null) := by
  refine ⟨.word "NULL", [], fun before => ⟨_, rfl, rfl⟩, rfl, fun depth rest deep _ => ?_⟩
  obtain ⟨depth, rfl⟩ := Nat.exists_eq_add_one.mpr deep
  rfl

theorem qualified {qualifier name : String} (isQualifier : isIdentifier qualifier = true)
    (isName : isIdentifier name = true) :
    ReadsAt 0 (qualifier.toList ++ '.' :: name.toList)
      (.column { qualifier := some qualifier, name := name }) := by
  refine ⟨.word qualifier, [.point, .word name], Lexes.qualified isQualifier isName,
    begins_word isQualifier, fun depth rest deep _ => ?_⟩
  obtain ⟨depth, rfl⟩ := Nat.exists_eq_add_one.mpr (Nat.zero_lt_of_lt deep)
  rw [List.take_zero, climb_nil]
  unfold primary
  simp [not_null isQualifier, not_reserved isQualifier, not_reserved isName]

end ReadsAt

/-- Arguments that are each read by all layers, as they stand between the parentheses of a call. -/
theorem exists_arguments {texts : List String} {args : List Expr} (some : args ≠ [])
    (read : List.Forall₂ (fun text arg => ReadsAt 8 text.toList arg) texts args) :
    ∃ token tokens, Lexes (Text.commaList texts).toList (token :: tokens) ∧ token ≠ .closing ∧
      ∀ depth rounds rest, tokens.length < depth → tokens.length < rounds →
        parseArguments (climb precedence (primary depth)) rounds
          (token :: (tokens ++ .closing :: rest)) = .some (args, rest) := by
  induction read with
  | nil => exact absurd rfl some
  | @cons text arg texts args isArg areArgs inductionHypothesis =>
      obtain ⟨token, tokens, isText, isBegin, readArg⟩ := isArg
      have all : precedence.take 8 = precedence := rfl
      rw [all] at readArg
      have apart : token ≠ .closing := by
        rintro rfl
        cases isBegin
      cases areArgs with
      | nil =>
          refine ⟨token, tokens, isText, apart, fun depth rounds rest deep many => ?_⟩
          obtain ⟨rounds, rfl⟩ := Nat.exists_eq_add_one.mpr (Nat.zero_lt_of_lt many)
          have first := readArg depth (.closing :: rest) deep fun next isNext => by
            cases isNext
            rfl
          rw [parseArguments, first]
          rfl
      | @cons nextText nextArg texts args isNext areNext =>
          obtain ⟨second, seconds, areTexts, -, readArgs⟩ := inductionHypothesis (by simp)
          refine ⟨token, tokens ++ .comma :: (second :: seconds), ?_, apart,
            fun depth rounds rest deep many => ?_⟩
          · rw [Text.commaList_cons_cons]
            simpa using isText.comma (Lexes.nil.blank areTexts)
          · simp only [List.length_append, List.length_cons] at deep many
            obtain ⟨rounds, rfl⟩ := Nat.exists_eq_add_one.mpr (Nat.zero_lt_of_lt many)
            have first := readArg depth (.comma :: (second :: (seconds ++ .closing :: rest)))
              (by omega) fun next isNext => by
                cases isNext
                rfl
            have others := readArgs depth rounds rest (by omega) (by omega)
            have joined : tokens ++ .comma :: (second :: seconds) ++ Token.closing :: rest =
                tokens ++ .comma :: (second :: (seconds ++ .closing :: rest)) := by simp
            rw [joined, parseArguments, first]
            simp [others]

theorem ReadsAt.call {name : String} {texts : List String} {args : List Expr}
    (isName : isIdentifier name = true)
    (read : List.Forall₂ (fun text arg => ReadsAt 8 text.toList arg) texts args) :
    ReadsAt 0 (callText name texts).toList (.function name args) := by
  have written : (callText name texts).toList =
      name.toList ++ '(' :: ((Text.commaList texts).toList ++ [')']) := by
    simp [callText]
  rw [written]
  by_cases isEmpty : args = []
  · subst isEmpty
    cases read
    refine ⟨.word name, [.opening, .closing], ?_, begins_word isName, fun depth rest deep _ => ?_⟩
    · exact (Lexes.name isName).opening Lexes.nil.closing
    · obtain ⟨depth, rfl⟩ := Nat.exists_eq_add_one.mpr (Nat.zero_lt_of_lt deep)
      rw [List.take_zero, climb_nil]
      unfold primary
      simp [not_null isName, not_reserved isName]
  · obtain ⟨token, tokens, areTexts, apart, readArgs⟩ := exists_arguments isEmpty read
    refine ⟨.word name, .opening :: (token :: tokens ++ [.closing]), ?_, begins_word isName,
      fun depth rest deep _ => ?_⟩
    · exact (Lexes.name isName).opening areTexts.closing
    · obtain ⟨depth, rfl⟩ := Nat.exists_eq_add_one.mpr (Nat.zero_lt_of_lt deep)
      rw [List.take_zero, climb_nil]
      simp only [List.cons_append, List.length_cons, List.length_append, List.length_nil] at deep
      have many : tokens.length < (token :: (tokens ++ Token.closing :: rest)).length := by
        simp only [List.length_cons, List.length_append]
        omega
      have inner := readArgs depth _ rest (by omega) many
      unfold primary
      simp only [not_null isName, not_reserved isName, List.cons_append, List.append_assoc,
        List.nil_append]
      cases token with
      | closing => exact absurd rfl apart
      | _ => simpa using inner

/-- A text in parentheses if it is that of an operation. -/
theorem ReadsAt.operand {expr : Expr} {text : String} {level : Nat}
    (isText : ReadsAt 8 text.toList expr)
    (isUnary : expr.isOperation = false → ReadsAt level text.toList expr) :
    ReadsAt level (operandText expr text).toList expr := by
  by_cases operation : expr.isOperation = true
  · rw [operandText, if_pos operation]
    have read : ReadsAt level ('(' :: (text.toList ++ [')'])) expr :=
      isText.enclosed.mono (Nat.zero_le level)
    simpa using read
  · rw [operandText, if_neg operation]
    exact isUnary (by simpa using operation)

theorem ReadsAt.negated {expr : Expr} {text : String} (reads : ReadsAt 1 text.toList expr) :
    ReadsAt 1 (negated text).toList (.unary .neg expr) := by
  have signed {text : List Char} (apart : ∀ c ∈ text.head?, c ≠ '-') (reads : ReadsAt 1 text expr) :
      ReadsAt (0 + 1) (['-'] ++ text) (.unary .neg expr) :=
    unary reads rfl rfl rfl fun tokens isText => isText.minus apart
  unfold SkySql.negated
  split
  · have enclosed : ReadsAt 1 ('(' :: (text.toList ++ [')'])) expr :=
      (reads.mono (by decide)).enclosed.mono (by decide)
    have read := signed (by simp) enclosed
    simpa using read
  next apart =>
    have read := signed (fun c isFirst => ?_) reads
    · simpa using read
    · rintro rfl
      obtain ⟨others, spelled⟩ := List.head?_eq_some_iff.mp isFirst
      exact apart others spelled

theorem exists_texts {args : List Expr}
    (each : ∀ arg ∈ args, ∃ text, arg.render = .ok text ∧ ReadsAt 8 text.toList arg) :
    ∃ texts, renderExprs args = .ok texts ∧
      List.Forall₂ (fun text arg => ReadsAt 8 text.toList arg) texts args := by
  induction args with
  | nil => exact ⟨[], rfl, .nil⟩
  | cons arg args inductionHypothesis =>
      obtain ⟨first, others⟩ := List.forall_mem_cons.mp each
      obtain ⟨text, rendered, read⟩ := first
      obtain ⟨texts, renderedAll, readAll⟩ := inductionHypothesis others
      refine ⟨text :: texts, ?_, .cons read readAll⟩
      rw [renderExprs, rendered, renderedAll]
      rfl

section Render

variable {lhs rhs : Expr} {lhsText rhsText : String}

theorem render_binary {op : BinaryOp} (renderedLhs : lhs.render = .ok lhsText)
    (renderedRhs : rhs.render = .ok rhsText) :
    (Expr.binary lhs op rhs).render =
      .ok (operandText lhs lhsText ++ " " ++ op.symbol ++ " " ++ operandText rhs rhsText) := by
  rw [Expr.render, renderedLhs, renderedRhs]
  rfl

theorem render_comparison {op : CompareOp} (renderedLhs : lhs.render = .ok lhsText)
    (renderedRhs : rhs.render = .ok rhsText) :
    (Expr.comparison lhs op rhs).render =
      .ok (operandText lhs lhsText ++ " " ++ op.symbol ++ " " ++ operandText rhs rhsText) := by
  rw [Expr.render, renderedLhs, renderedRhs]
  rfl

end Render

/-- A value has a text; it is read as the value by the arithmetic layers, and as an operand already
by the layer of signs. -/
theorem exists_value {expr : Expr} (isValue : IsValue expr) :
    ∃ text, expr.render = .ok text ∧ ReadsAt 4 text.toList expr ∧
      ReadsAt 1 (operandText expr text).toList expr := by
  have ofPrimary {expr : Expr} {text : String} (rendered : expr.render = .ok text)
      (ordinary : expr.isOperation = false) (read : ReadsAt 0 text.toList expr) :
      ∃ text, expr.render = .ok text ∧ ReadsAt 4 text.toList expr ∧
        ReadsAt 1 (operandText expr text).toList expr := by
    refine ⟨text, rendered, read.mono (by decide), ?_⟩
    exact (read.mono (by decide)).operand fun _ => read.mono (by decide)
  induction isValue with
  | column isName => exact ofPrimary rfl rfl (ReadsAt.name isName)
  | qualified isQualifier isName =>
      exact ofPrimary rfl rfl (by simpa [Column.text] using ReadsAt.qualified isQualifier isName)
  | number isNumeral => exact ofPrimary rfl rfl (ReadsAt.number isNumeral)
  | string value => exact ofPrimary rfl rfl (ReadsAt.string value)
  | null => exact ofPrimary rfl rfl ReadsAt.null
  | @call name args isName areValues inductionHypothesis =>
      obtain ⟨texts, rendered, read⟩ := exists_texts fun arg membership => by
        obtain ⟨text, rendered, read, -⟩ := inductionHypothesis arg membership
        exact ⟨text, rendered, read.mono (by decide)⟩
      exact ofPrimary (by simp [Expr.render, rendered]) rfl (ReadsAt.call isName read)
  | @negation operand isOperand inductionHypothesis =>
      obtain ⟨text, rendered, -, read⟩ := inductionHypothesis
      have negation := read.negated
      refine ⟨negated (operandText operand text), by simp [Expr.render, rendered],
        negation.mono (by decide), ?_⟩
      exact (negation.mono (by decide)).operand fun _ => negation
  | @arithmetic lhs rhs op isArithmetic isLhs isRhs lhsHypothesis rhsHypothesis =>
      obtain ⟨lhsText, renderedLhs, -, readLhs⟩ := lhsHypothesis
      obtain ⟨rhsText, renderedRhs, -, readRhs⟩ := rhsHypothesis
      have above : 1 ≤ operatorLevel op := by cases op <;> decide
      have below : operatorLevel op + 1 ≤ 4 := by
        cases op with
        | and => exact absurd rfl isArithmetic.1
        | or => exact absurd rfl isArithmetic.2
        | _ => decide
      have read := (readLhs.mono above).binary (readRhs.mono above)
      refine ⟨operandText lhs lhsText ++ " " ++ op.symbol ++ " " ++ operandText rhs rhsText,
        render_binary renderedLhs renderedRhs, ?_, ?_⟩
      · simpa using read.mono below
      · refine ReadsAt.operand ?_ nofun
        simpa using read.mono (Nat.le_trans below (by decide))

/-- A condition has a text; as an operand it is read as the condition by the layers up to `NOT`. -/
theorem exists_condition {expr : Expr} (isCondition : IsCondition expr) :
    ∃ text, expr.render = .ok text ∧ ReadsAt 8 text.toList expr ∧
      ReadsAt 6 (operandText expr text).toList expr := by
  induction isCondition with
  | @comparison lhs rhs op isLhs isRhs =>
      obtain ⟨lhsText, renderedLhs, -, readLhs⟩ := exists_value isLhs
      obtain ⟨rhsText, renderedRhs, -, readRhs⟩ := exists_value isRhs
      have read : ReadsAt (4 + 1) _ (.comparison lhs op rhs) :=
        (readLhs.mono (by decide)).comparison (readRhs.mono (by decide))
      refine ⟨operandText lhs lhsText ++ " " ++ op.symbol ++ " " ++ operandText rhs rhsText,
        render_comparison renderedLhs renderedRhs, ?_, ?_⟩
      · simpa using read.mono (by decide)
      · refine ReadsAt.operand ?_ nofun
        simpa using read.mono (by decide)
  | @negation operand isOperand inductionHypothesis =>
      obtain ⟨text, rendered, -, read⟩ := inductionHypothesis
      have isNot : Lexes ['N', 'O', 'T'] [.word "NOT"] := fun before => ⟨_, rfl, rfl⟩
      have negation : ReadsAt (5 + 1) (['N', 'O', 'T', ' '] ++ (operandText operand text).toList)
          (.unary .not operand) :=
        ReadsAt.unary read rfl rfl rfl fun tokens isText => Lexes.blank isNot isText
      refine ⟨"NOT " ++ operandText operand text, by simp [Expr.render, rendered], ?_, ?_⟩
      · simpa using negation.mono (by decide)
      · refine ReadsAt.operand ?_ fun _ => ?_
        · simpa using negation.mono (by decide)
        · simpa using negation
  | @connective lhs rhs op isConnective isLhs isRhs lhsHypothesis rhsHypothesis =>
      obtain ⟨lhsText, renderedLhs, -, readLhs⟩ := lhsHypothesis
      obtain ⟨rhsText, renderedRhs, -, readRhs⟩ := rhsHypothesis
      have above : 6 ≤ operatorLevel op := by rcases isConnective with rfl | rfl <;> decide
      have below : operatorLevel op + 1 ≤ 8 := by rcases isConnective with rfl | rfl <;> decide
      have read := (readLhs.mono above).binary (readRhs.mono above)
      refine ⟨operandText lhs lhsText ++ " " ++ op.symbol ++ " " ++ operandText rhs rhsText,
        render_binary renderedLhs renderedRhs, ?_, ?_⟩
      · simpa using read.mono below
      · refine ReadsAt.operand ?_ nofun
        simpa using read.mono below

theorem readExpr_of_readsAt {text : String} {expr : Expr} (reads : ReadsAt 8 text.toList expr) :
    readExpr text = some expr := by
  obtain ⟨token, tokens, isText, -, read⟩ := reads
  obtain ⟨lexer, ran, closed⟩ := isText []
  have all : precedence.take 8 = precedence := rfl
  rw [all] at read
  have found : tokens? text = some (token :: tokens) := by
    rw [tokens?, ran]
    exact closed
  have parsed := read (token :: tokens).length [] (by simp) (by simp)
  rw [List.append_nil] at parsed
  rw [readExpr, found]
  simp only [Option.bind_eq_bind, Option.bind_some, parsed]
  rfl

/-- Every value or condition has a text, and by the precedence of SQL that text is read as the same
expression again. So no two of them have the same text. -/
theorem rendering_is_read_back :
    (∀ expr, IsValue expr ∨ IsCondition expr →
      ∃ text, expr.render = .ok text ∧ readExpr text = some expr) ∧
    ∀ first second, IsValue first ∨ IsCondition first → IsValue second ∨ IsCondition second →
      first ≠ second → first.render ≠ second.render := by
  have readBack (expr : Expr) (sorted : IsValue expr ∨ IsCondition expr) :
      ∃ text, expr.render = .ok text ∧ readExpr text = some expr := by
    rcases sorted with isValue | isCondition
    · obtain ⟨text, rendered, read, -⟩ := exists_value isValue
      exact ⟨text, rendered, readExpr_of_readsAt (read.mono (by decide))⟩
    · obtain ⟨text, rendered, read, -⟩ := exists_condition isCondition
      exact ⟨text, rendered, readExpr_of_readsAt read⟩
  refine ⟨readBack, fun first second isFirst isSecond different same => different ?_⟩
  obtain ⟨text, rendered, read⟩ := readBack first isFirst
  obtain ⟨other, renderedOther, readOther⟩ := readBack second isSecond
  rw [rendered, renderedOther] at same
  cases same
  exact Option.some.inj (read.symm.trans readOther)

/-- A condition with signs one after another, what looks like a comment in a string, and a negated
comparison beside one that is not. -/
def signedCondition : Expr :=
  .binary
    (.unary .not (.comparison
      (.binary (.unary .neg (.unary .neg (.named "a"))) .mul (.string "it's --")) .le
      (.number "1.5e-3")))
    .and
    (.comparison
      (.function "f" [.column { qualifier := some "t", name := "b" }, .literal .null]) .ne
      (.unary .neg (.number ".5")))

theorem rendering_is_read_back_signs :
    IsCondition signedCondition ∧
      signedCondition.render =
        .ok "NOT ((-(-a) * 'it''s --') <= 1.5e-3) AND (f(t.b, NULL) <> -.5)" ∧
      readExpr "NOT ((-(-a) * 'it''s --') <= 1.5e-3) AND (f(t.b, NULL) <> -.5)" =
        some signedCondition ∧
      (Expr.unary .not signedCondition).render ≠ signedCondition.render := by
  have digit {c : Char} (isDigit : c.isDigit = true) : Stcs.IsDigits [c] :=
    ⟨List.cons_ne_nil c [], List.forall_mem_singleton.mpr isDigit⟩
  have mantissa : Stcs.IsMantissa (['1'] ++ '.' :: ['5']) := .pointed (digit rfl) (digit rfl).2
  have exponent : Stcs.IsExponent ('e' :: (['-'] ++ ['3'])) :=
    .present (.inl rfl) (.inr (.inr rfl)) (digit rfl)
  have fraction : Stcs.IsMantissa ('.' :: ['5']) := .fraction (digit rfl)
  have limit : IsValue (.number "1.5e-3") := .number (IsNumeral.parts mantissa exponent)
  have half : IsValue (.number ".5") := .number (IsNumeral.parts fraction .absent)
  have product : IsValue
      (.binary (.unary .neg (.unary .neg (.named "a"))) .mul (.string "it's --")) :=
    .arithmetic ⟨by decide, by decide⟩ (.negation (.negation (.column (by decide)))) (.string _)
  have call : IsValue
      (.function "f" [.column { qualifier := some "t", name := "b" }, .literal .null]) := by
    refine .call (by decide) ?_
    simp only [List.forall_mem_cons]
    exact ⟨.qualified (by decide) (by decide), .null, List.forall_mem_nil _⟩
  have isCondition : IsCondition signedCondition :=
    .connective (.inl rfl) (.negation (.comparison .le product limit))
      (.comparison .ne call (.negation half))
  have rendered : signedCondition.render =
      .ok "NOT ((-(-a) * 'it''s --') <= 1.5e-3) AND (f(t.b, NULL) <> -.5)" := rfl
  obtain ⟨text, isText, read⟩ := rendering_is_read_back.1 signedCondition (.inr isCondition)
  rw [rendered] at isText
  cases isText
  have apart : Expr.unary .not signedCondition ≠ signedCondition := by
    intro same
    cases same
  exact ⟨isCondition, rendered, read, rendering_is_read_back.2 _ _ (.inr (.negation isCondition))
    (.inr isCondition) apart⟩

end SkySql.Precedence
