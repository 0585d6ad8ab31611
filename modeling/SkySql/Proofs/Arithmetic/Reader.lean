import SkySql.Proofs.Precedence.Lexer
import SkySql.Proofs.Stcs.Number

set_option autoImplicit false

/-!
Reading arithmetic by the precedence of the database: a minus sign before an operand binds tighter
than `^`, that tighter than `*` and `/`, and those tighter than `+` and `-`; all operators associate
to the left. The reader goes over a text one character at a time. It holds the operand before the
character and, on a stack, what waits for the operand after it.
-/

namespace SkySql.Arithmetic

open Precedence (IsNumeral)

inductive Operation where
  | mul | div | add | sub
  deriving Repr, DecidableEq

/-- The operators of the database, which has powers too. -/
inductive Operator where
  | power
  | basic (operation : Operation)
  deriving Repr, DecidableEq

def Operator.level : Operator → Nat
  | .power => 3
  | .basic .mul | .basic .div => 2
  | .basic .add | .basic .sub => 1

def operator? : Char → Option Operator
  | '^' => some .power
  | '*' => some (.basic .mul)
  | '/' => some (.basic .div)
  | '+' => some (.basic .add)
  | '-' => some (.basic .sub)
  | _ => none

/-- What is read: names and numbers, operators, and calls of functions with at most one argument. -/
inductive Term where
  | atom (text : String)
  | neg (operand : Term)
  | binary (lhs : Term) (op : Operator) (rhs : Term)
  | constant (function : String)
  | call (function : String) (argument : Term)
  deriving Repr, DecidableEq

/-- What waits for an operand: a sign, an operator with its left operand, an opening parenthesis, or
that of a call. -/
inductive Frame where
  | sign
  | lhs (lhs : Term) (op : Operator)
  | group
  | call (function : String)
  deriving Repr, DecidableEq

/-- What the last character was part of. After the character of an operator there must be no other
one: two of them would be another operator or begin a comment. -/
inductive Mode where
  | gap
  | word (text : List Char)
  | mark
  deriving Repr, DecidableEq

structure Reader where
  mode : Mode
  operand : Option Term
  stack : List Frame
  deriving Repr, DecidableEq

def isWordPart (c : Char) : Bool :=
  c.isAlphanum || c == '_' || c == '$' || c == '.' || 128 ≤ c.toNat

/-- Whether a character goes on with a word. A sign does after the mark of an exponent. -/
def goesOn (text : List Char) (c : Char) : Bool :=
  isWordPart c ||
    (c == '+' || c == '-') && text.head?.any (fun first => first.isDigit || first == '.') &&
      text.getLast?.any fun last => last == 'e' || last == 'E'

/-- An operand is complete, and gets the signs before it. -/
def settle : Term → List Frame → Term × List Frame
  | term, .sign :: stack => settle (.neg term) stack
  | term, stack => (term, stack)

/-- An operand is the right one of the operators before it that bind at least as tight as a level. -/
def reduce (level : Nat) : Term → List Frame → Term × List Frame
  | term, .lhs lhs op :: stack =>
      if level ≤ op.level then reduce level (.binary lhs op term) stack
      else (term, .lhs lhs op :: stack)
  | term, stack => (term, stack)

namespace Reader

def after (found : Term × List Frame) : Reader := ⟨.gap, some found.1, found.2⟩

/-- Takes a term as the next operand. -/
def operand? (reader : Reader) (term : Term) : Option Reader :=
  match reader.operand with
  | none => some (after (settle term reader.stack))
  | some _ => none

/-- Ends the word that is being read, if there is one. -/
def close? (reader : Reader) : Option Reader :=
  match reader.mode with
  | .gap => some reader
  | .word text => reader.operand? (.atom (String.ofList text))
  | .mark => none

def open? (reader : Reader) (frame : Frame) : Option Reader :=
  match reader.operand with
  | none => some ⟨.gap, none, frame :: reader.stack⟩
  | some _ => none

/-- A closing parenthesis, which is that of a call without argument if there is no operand. -/
def shut? (reader : Reader) : Option Reader :=
  match reader.operand with
  | some term =>
      match reduce 0 term reader.stack with
      | (term, .group :: stack) => some (after (settle term stack))
      | (term, .call function :: stack) => some (after (settle (.call function term) stack))
      | _ => none
  | none =>
      match reader.stack with
      | .call function :: stack => some (after (settle (.constant function) stack))
      | _ => none

/-- An operator after an operand, or a sign before one. -/
def mark? (reader : Reader) (op : Operator) : Option Reader :=
  match reader.operand with
  | some term =>
      let (lhs, stack) := reduce op.level term reader.stack
      some ⟨.mark, none, .lhs lhs op :: stack⟩
  | none => if op = .basic .sub then some ⟨.mark, none, .sign :: reader.stack⟩ else none

/-- The first character of a word, or one that stands for itself. -/
def start? (reader : Reader) (c : Char) : Option Reader :=
  match operator? c with
  | some op => reader.mark? op
  | none =>
      if c = ' ' then some { reader with mode := .gap }
      else if c = '(' then reader.open? .group
      else if c = ')' then reader.shut?
      else if isWordPart c then some { reader with mode := .word [c] }
      else none

def step? (reader : Reader) (c : Char) : Option Reader :=
  match reader.mode with
  | .gap => reader.start? c
  | .word text =>
      if goesOn text c then some { reader with mode := .word (text ++ [c]) }
      else if c = '(' then reader.open? (.call (String.ofList text))
      else do (← reader.close?).start? c
  | .mark => if (operator? c).isSome then none else reader.start? c

def run? (reader : Reader) (text : List Char) : Option Reader := text.foldlM step? reader

end Reader

def read? (text : String) : Option Term := do
  let reader ← (← Reader.run? ⟨.gap, none, []⟩ text.toList).close?
  match reduce 0 (← reader.operand) reader.stack with
  | (term, []) => some term
  | _ => none

example : read? "-x^2 - t.a * (1e-3 + f(y))" =
    some (.binary (.binary (.neg (.atom "x")) .power (.atom "2")) (.basic .sub)
      (.binary (.atom "t.a") (.basic .mul)
        (.binary (.atom "1e-3") (.basic .add) (.call "f" (.atom "y"))))) := by decide

example : read? "x --y" = none := by decide

/-- Operands with operators between them. -/
structure Chain where
  first : Term
  rest : List (Operator × Term)

def extend (found : Term × List Frame) (link : Operator × Term) : Term × List Frame :=
  let (lhs, stack) := reduce link.1.level found.1 found.2
  (link.2, .lhs lhs link.1 :: stack)

namespace Chain

/-- What the reader has after a chain: its last operand, and the operators that wait for it. -/
def push (chain : Chain) (stack : List Frame) : Term × List Frame :=
  chain.rest.foldl extend (settle chain.first stack)

def term (chain : Chain) : Term := (reduce 0 (chain.push []).1 (chain.push []).2).1

def closed (chain : Chain) : Chain := ⟨chain.term, []⟩

/-- A chain behind a sign, which is that of its first operand. -/
def negated (chain : Chain) : Chain := { chain with first := .neg chain.first }

def join (lhs : Chain) (op : Operator) (rhs : Chain) : Chain :=
  ⟨lhs.first, lhs.rest ++ (op, rhs.first) :: rhs.rest⟩

theorem push_join (lhs rhs : Chain) (op : Operator) (stack : List Frame) :
    (lhs.join op rhs).push stack =
      rhs.push (.lhs (reduce op.level (lhs.push stack).1 (lhs.push stack).2).1 op ::
        (reduce op.level (lhs.push stack).1 (lhs.push stack).2).2) := by
  rw [push, join, List.foldl_append, List.foldl_cons]
  rfl

end Chain

section Boundary

/-- Whether no sign and no operator waits at the top of a stack. -/
def isBoundary : List Frame → Bool
  | .sign :: _ | .lhs .. :: _ => false
  | _ => true

variable {base : List Frame}

theorem settle_boundary (term : Term) (boundary : isBoundary base = true) :
    settle term base = (term, base) := by
  match base, boundary with
  | [], _ | .group :: _, _ | .call _ :: _, _ => rfl

theorem reduce_boundary (level : Nat) (term : Term) (boundary : isBoundary base = true) :
    reduce level term base = (term, base) := by
  match base, boundary with
  | [], _ | .group :: _, _ | .call _ :: _, _ => rfl

/-- What waits for an operand above a boundary is all that it is used for. -/
theorem reduce_append (level : Nat) (term : Term) (frames : List Frame)
    (boundary : isBoundary base = true) :
    reduce level term (frames ++ base) =
      ((reduce level term frames).1, (reduce level term frames).2 ++ base) := by
  induction frames generalizing term with
  | nil => exact reduce_boundary level term boundary
  | cons frame frames inductionHypothesis =>
      cases frame with
      | lhs lhs op =>
          simp only [List.cons_append, reduce]
          split
          · exact inductionHypothesis _
          · rfl
      | _ => rfl

theorem foldl_extend_append (term : Term) (frames : List Frame) (links : List (Operator × Term))
    (boundary : isBoundary base = true) :
    links.foldl extend (term, frames ++ base) =
      ((links.foldl extend (term, frames)).1, (links.foldl extend (term, frames)).2 ++ base) := by
  induction links generalizing term frames with
  | nil => rfl
  | cons link links inductionHypothesis =>
      have extended : extend (term, frames ++ base) link =
          (link.2, (extend (term, frames) link).2 ++ base) := by
        rw [extend, reduce_append _ _ _ boundary]
        rfl
      rw [List.foldl_cons, extended]
      exact inductionHypothesis _ _

def Operators (frames : List Frame) : Prop := ∀ frame ∈ frames, ∃ lhs op, frame = .lhs lhs op

theorem Operators.reduce (level : Nat) {frames : List Frame} (term : Term)
    (operators : Operators frames) : Operators (reduce level term frames).2 := by
  induction frames generalizing term with
  | nil => exact operators
  | cons frame frames inductionHypothesis =>
      obtain ⟨⟨lhs, op, rfl⟩, others⟩ := List.forall_mem_cons.mp operators
      rw [Arithmetic.reduce]
      split
      · exact inductionHypothesis _ others
      · exact operators

theorem Operators.foldl_extend {found : Term × List Frame} (links : List (Operator × Term))
    (operators : Operators found.2) : Operators (links.foldl extend found).2 := by
  induction links generalizing found with
  | nil => exact operators
  | cons link links inductionHypothesis =>
      exact inductionHypothesis
        (List.forall_mem_cons.mpr ⟨⟨_, _, rfl⟩, operators.reduce link.1.level found.1⟩)

/-- In the end all operators have their operands. -/
theorem Operators.reduce_zero {frames : List Frame} (term : Term) (operators : Operators frames) :
    (Arithmetic.reduce 0 term frames).2 = [] := by
  induction frames generalizing term with
  | nil => rfl
  | cons frame frames inductionHypothesis =>
      obtain ⟨⟨lhs, op, rfl⟩, others⟩ := List.forall_mem_cons.mp operators
      exact inductionHypothesis _ others

/-- Above a boundary a chain stands for its term. -/
theorem Chain.reduce_push (chain : Chain) (boundary : isBoundary base = true) :
    reduce 0 (chain.push base).1 (chain.push base).2 = (chain.term, base) := by
  have above : chain.push base = ((chain.push []).1, (chain.push []).2 ++ base) := by
    rw [push, settle_boundary chain.first boundary]
    exact foldl_extend_append chain.first [] chain.rest boundary
  have operators : Operators (chain.push []).2 :=
    Operators.foldl_extend chain.rest (List.forall_mem_nil _)
  rw [above, reduce_append _ _ _ boundary, operators.reduce_zero]
  rfl

end Boundary

theorem operator?_of_isWordPart {c : Char} (isPart : isWordPart c = true) : operator? c = none := by
  unfold operator?
  split <;> first | rfl | cases isPart

namespace Reader

theorem run?_append (reader : Reader) (front text : List Char) :
    reader.run? (front ++ text) = (reader.run? front).bind (·.run? text) :=
  List.foldlM_append

theorem run?_cons (reader : Reader) (c : Char) (text : List Char) :
    reader.run? (c :: text) = (reader.step? c).bind (·.run? text) := rfl

theorem run?_word {text rest : List Char} {operand : Option Term} {stack : List Frame}
    (areParts : ∀ c ∈ rest, isWordPart c = true) :
    run? ⟨.word text, operand, stack⟩ rest = some ⟨.word (text ++ rest), operand, stack⟩ := by
  induction rest generalizing text with
  | nil => simp [run?]
  | cons c rest inductionHypothesis =>
      obtain ⟨isPart, others⟩ := List.forall_mem_cons.mp areParts
      have step : step? ⟨.word text, operand, stack⟩ c =
          some ⟨.word (text ++ [c]), operand, stack⟩ := by
        simp [step?, goesOn, isPart]
      rw [run?_cons, step, Option.bind_some, inductionHypothesis others, List.append_assoc]
      rfl

theorem start?_word {reader : Reader} {c : Char} (isPart : isWordPart c = true) :
    reader.start? c = some { reader with mode := .word [c] } := by
  have apart (other : Char) (isOther : isWordPart other = false) : c ≠ other := by
    rintro rfl
    rw [isOther] at isPart
    cases isPart
  simp only [start?, operator?_of_isWordPart isPart, apart ' ' rfl, apart '(' rfl, apart ')' rfl,
    isPart, if_true, if_false]

theorem run?_first {c : Char} {text : List Char} {operand : Option Term} {stack : List Frame}
    (isPart : isWordPart c = true) :
    run? ⟨.gap, operand, stack⟩ (c :: text) = run? ⟨.word [c], operand, stack⟩ text := by
  have started : step? ⟨.gap, operand, stack⟩ c = some ⟨.word [c], operand, stack⟩ :=
    start?_word isPart
  rw [run?_cons, started]
  rfl

/-- A blank or a closing parenthesis ends every word. -/
theorem step?_of_close {reader next : Reader} {c : Char} (closed : reader.close? = some next)
    (separates : c = ' ' ∨ c = ')') : reader.step? c = next.start? c := by
  obtain ⟨mode, operand, stack⟩ := reader
  cases mode with
  | gap =>
      cases closed
      rfl
  | word text =>
      have ends : goesOn text c = false := by rcases separates with rfl | rfl <;> rfl
      have apart : c ≠ '(' := by rcases separates with rfl | rfl <;> decide
      simp [step?, ends, apart, closed]
  | mark => cases closed

end Reader

/-- A text that is a chain of operands, whatever waits before it. -/
def Reads (text : List Char) (chain : Chain) : Prop :=
  ∀ stack, ∃ reader, Reader.run? ⟨.gap, none, stack⟩ text = some reader ∧
    reader.close? = some (.after (chain.push stack))

namespace Reads

variable {text : List Char} {chain : Chain}

theorem of_run?_word (ran : ∀ stack, Reader.run? ⟨.gap, none, stack⟩ text =
    some ⟨.word text, none, stack⟩) : Reads text ⟨.atom (String.ofList text), []⟩ :=
  fun stack => ⟨_, ran stack, rfl⟩

theorem word (isText : text ≠ []) (areParts : ∀ c ∈ text, isWordPart c = true) :
    Reads text ⟨.atom (String.ofList text), []⟩ := by
  obtain ⟨first, others, rfl⟩ := List.exists_cons_of_ne_nil isText
  obtain ⟨isPart, areParts⟩ := List.forall_mem_cons.mp areParts
  exact of_run?_word fun stack => by rw [Reader.run?_first isPart, Reader.run?_word areParts]; rfl

theorem areWordParts_digits {digits : List Char} (areDigits : ∀ c ∈ digits, c.isDigit = true) :
    ∀ c ∈ digits, isWordPart c = true := by
  intro c membership
  simp [isWordPart, Char.isAlphanum, areDigits c membership]

theorem areWordParts_mantissa {mantissa : List Char} (isMantissa : Stcs.IsMantissa mantissa) :
    ∀ c ∈ mantissa, isWordPart c = true := by
  cases isMantissa with
  | whole isWhole => exact areWordParts_digits isWhole.2
  | pointed isWhole isFraction =>
      refine List.forall_mem_append.mpr ⟨areWordParts_digits isWhole.2, ?_⟩
      exact List.forall_mem_cons.mpr ⟨rfl, areWordParts_digits isFraction⟩
  | fraction isFraction =>
      exact List.forall_mem_cons.mpr ⟨rfl, areWordParts_digits isFraction.2⟩

theorem numeral_head (isNumeral : IsNumeral text) :
    ∃ first others, text = first :: others ∧ isWordPart first = true := by
  obtain ⟨isMantissa, isExponent⟩ := isNumeral
  obtain ⟨first, others, rfl, -⟩ := isMantissa.head
  exact ⟨first, _, rfl, (List.forall_mem_cons.mp (areWordParts_mantissa isMantissa)).1⟩

/-- A sign after the mark of an exponent. -/
theorem run?_signed {front digits : List Char} {c : Char} (isFront : front ≠ [])
    (areParts : ∀ c ∈ front, isWordPart c = true) (goes : goesOn front c = true)
    (areDigits : ∀ c ∈ digits, isWordPart c = true) (stack : List Frame) :
    Reader.run? ⟨.gap, none, stack⟩ (front ++ c :: digits) =
      some ⟨.word (front ++ c :: digits), none, stack⟩ := by
  obtain ⟨first, others, rfl⟩ := List.exists_cons_of_ne_nil isFront
  obtain ⟨isPart, areParts⟩ := List.forall_mem_cons.mp areParts
  have sign : Reader.step? ⟨.word (first :: others), none, stack⟩ c =
      some ⟨.word (first :: others ++ [c]), none, stack⟩ := by
    simp [Reader.step?, goes]
  rw [Reader.run?_append, Reader.run?_first isPart, Reader.run?_word areParts, Option.bind_some,
    Reader.run?_cons, List.singleton_append, sign, Option.bind_some, Reader.run?_word areDigits,
    List.append_assoc, List.singleton_append]

/-- A numeral is one word, with the sign of its exponent. -/
theorem numeral (isNumeral : IsNumeral text) : Reads text ⟨.atom (String.ofList text), []⟩ := by
  obtain ⟨isMantissa, isExponent⟩ := isNumeral
  obtain ⟨first, others, rfl, isFirst⟩ := isMantissa.head
  have areParts := areWordParts_mantissa isMantissa
  cases isExponent with
  | absent =>
      rw [List.append_nil]
      exact word (List.cons_ne_nil _ _) areParts
  | @present mark sign digits isMark isSign isDigits =>
      have areDigits := areWordParts_digits isDigits.2
      have isPart : isWordPart mark = true := by rcases isMark with rfl | rfl <;> rfl
      have signed (c : Char) (isSign : c = '+' ∨ c = '-') (stack : List Frame) :
          Reader.run? ⟨.gap, none, stack⟩ (first :: others ++ mark :: ([c] ++ digits)) =
            some ⟨.word (first :: others ++ mark :: ([c] ++ digits)), none, stack⟩ := by
        have last : (first :: others ++ [mark]).getLast? = some mark := List.getLast?_concat
        have goes : goesOn (first :: others ++ [mark]) c = true := by
          rw [goesOn, last]
          rcases isMark with rfl | rfl <;> rcases isSign with rfl | rfl <;> simp [isFirst]
        have marked := List.forall_mem_append.mpr ⟨areParts, List.forall_mem_singleton.mpr isPart⟩
        simpa using run?_signed (List.cons_ne_nil _ _) marked goes areDigits stack
      rcases isSign with rfl | rfl | rfl
      · refine word (List.cons_ne_nil _ _) ?_
        exact List.forall_mem_append.mpr
          ⟨areParts, List.forall_mem_cons.mpr ⟨isPart, areDigits⟩⟩
      · exact of_run?_word (signed '+' (.inl rfl))
      · exact of_run?_word (signed '-' (.inr rfl))

theorem run?_separator (reads : Reads text chain) (stack : List Frame) {c : Char}
    (separates : c = ' ' ∨ c = ')') (rest : List Char) :
    Reader.run? ⟨.gap, none, stack⟩ (text ++ c :: rest) =
      ((Reader.after (chain.push stack)).start? c).bind (·.run? rest) := by
  obtain ⟨reader, ran, closed⟩ := reads stack
  rw [Reader.run?_append, ran, Option.bind_some, Reader.run?_cons,
    Reader.step?_of_close closed separates]

theorem run?_closing (reads : Reads text chain) {base : List Frame}
    (boundary : isBoundary base = true) (rest : List Char) :
    Reader.run? ⟨.gap, none, base⟩ (text ++ ')' :: rest) =
      (Reader.shut? ⟨.gap, some chain.term, base⟩).bind (·.run? rest) := by
  have shut : (Reader.after (chain.push base)).shut? =
      Reader.shut? ⟨.gap, some chain.term, base⟩ := by
    simp only [Reader.shut?, Reader.after, chain.reduce_push boundary,
      reduce_boundary 0 chain.term boundary]
  rw [reads.run?_separator _ (.inr rfl), ← shut]
  rfl

theorem run?_group (reads : Reads text chain) (stack : List Frame) (rest : List Char) :
    Reader.run? ⟨.gap, none, stack⟩ ('(' :: (text ++ ')' :: rest)) =
      (Reader.after (settle chain.term stack)).run? rest :=
  reads.run?_closing rfl rest

theorem run?_argument (reads : Reads text chain) (function : String) (stack : List Frame)
    (rest : List Char) :
    Reader.run? ⟨.gap, none, .call function :: stack⟩ (text ++ ')' :: rest) =
      (Reader.after (settle (.call function chain.term) stack)).run? rest :=
  reads.run?_closing rfl rest

theorem closed (reads : Reads text chain) : Reads ('(' :: (text ++ [')'])) chain.closed :=
  fun stack => ⟨_, reads.run?_group stack [], rfl⟩

theorem squared (reads : Reads text chain) :
    Reads ('(' :: (text ++ ")^2".toList)) ⟨chain.term, [(.power, .atom "2")]⟩ :=
  fun stack => ⟨_, reads.run?_group stack ['^', '2'], rfl⟩

theorem random : Reads "random()".toList ⟨.constant "random", []⟩ :=
  fun stack => ⟨.after (settle (.constant "random") stack), rfl, rfl⟩

theorem seeded (reads : Reads text chain) :
    Reads ("setseed(".toList ++ (text ++ (")-setseed(".toList ++ (text ++ ")+random()".toList))))
      ⟨.call "setseed" chain.term, [(.basic .sub, .call "setseed" chain.term),
        (.basic .add, .constant "random")]⟩ := by
  intro stack
  let seed := Term.call "setseed" chain.term
  -- After the first call its value waits for the second one to be subtracted.
  let waiting := (extend (settle seed stack) (.basic .sub, seed)).2
  have first := reads.run?_argument "setseed" stack
    ("-setseed(".toList ++ (text ++ ")+random()".toList))
  have second := reads.run?_argument "setseed" waiting "+random()".toList
  exact ⟨_, first.trans second, rfl⟩

/-- A sign before a text that does not begin with an operator. -/
theorem negated {c : Char} (reads : Reads (c :: text) chain) (apart : operator? c = none) :
    Reads ('-' :: c :: text) chain.negated := by
  intro stack
  obtain ⟨reader, ran, closed⟩ := reads (.sign :: stack)
  refine ⟨reader, ?_, closed⟩
  have step : Reader.step? ⟨.mark, none, .sign :: stack⟩ c =
      Reader.step? ⟨.gap, none, .sign :: stack⟩ c := by
    simp only [Reader.step?, Reader.start?, apart]
    rfl
  rw [← ran, Reader.run?_cons _ c text, ← step]
  rfl

theorem join {front : List Char} {lhs : Chain} {c : Char} {op : Operator} (isLhs : Reads front lhs)
    (isRhs : Reads text chain) (isOperator : operator? c = some op) :
    Reads (front ++ ' ' :: c :: ' ' :: text) (lhs.join op chain) := by
  intro stack
  let found := lhs.push stack
  let waiting := Frame.lhs (reduce op.level found.1 found.2).1 op ::
    (reduce op.level found.1 found.2).2
  obtain ⟨reader, ran, closed⟩ := isRhs waiting
  refine ⟨reader, ?_, by rw [Chain.push_join]; exact closed⟩
  have mark : (Reader.after found).step? c = some ⟨.mark, none, waiting⟩ := by
    simp only [Reader.step?, Reader.after, Reader.start?, isOperator, Reader.mark?]
    rfl
  rw [isLhs.run?_separator stack (.inl rfl), ← ran]
  change (Reader.after found).run? (c :: ' ' :: text) = _
  rw [Reader.run?_cons, mark]
  rfl

end Reads

theorem read?_of_reads {text : String} {chain : Chain} (reads : Reads text.toList chain) :
    read? text = some chain.term := by
  obtain ⟨reader, ran, closed⟩ := reads []
  have reduced := chain.reduce_push (show isBoundary [] = true from rfl)
  rw [read?, ran]
  simp only [Option.bind_eq_bind, Option.bind_some, closed, Reader.after, reduced]

end SkySql.Arithmetic
