import Mathlib.Data.List.Basic
import SkySql.Proofs.Stcs.Grammar
import SkySql.Statement.Operator
import SkySql.Text.Quoted

set_option autoImplicit false

/-!
SQL expressions as tokens. The lexer goes over a text one character at a time; what it holds between
two characters is the token it is in and the tokens before that one. A comment has no tokens, so a
text with one is refused. Words are kept in their own letter case.
-/

namespace SkySql.Precedence

open Stcs (isWordChar)

inductive Token where
  | word (text : String)
  /-- A number in its own spelling. -/
  | number (spelling : String)
  | string (value : String)
  | operator (text : String)
  | opening
  | closing
  | comma
  | point
  deriving Repr, DecidableEq

/-- How far a numeral has come: its whole part, a point that may begin a numeral, what follows a
point, the mark of an exponent, its sign, and its digits. -/
inductive Stage where
  | whole | point | fraction | mark | sign | exponent
  deriving Repr, DecidableEq

/-- The stage after one more character, if that is part of the numeral. -/
def Stage.next? : Stage → Char → Option Stage
  | .whole, c =>
      if c.isDigit then some .whole
      else if c = '.' then some .fraction
      else if c = 'e' ∨ c = 'E' then some .mark
      else none
  | .point, c => if c.isDigit then some .fraction else none
  | .fraction, c =>
      if c.isDigit then some .fraction else if c = 'e' ∨ c = 'E' then some .mark else none
  | .mark, c =>
      if c.isDigit then some .exponent else if c = '+' ∨ c = '-' then some .sign else none
  | .sign, c | .exponent, c => if c.isDigit then some .exponent else none

/-- The token that the lexer is in, as far as it has been read. -/
inductive Mode where
  | gap
  | word (text : List Char)
  | numeral (stage : Stage) (text : List Char)
  | literal (value : List Char)
  /-- A quote inside a literal, which either ends it or is the first of two. -/
  | quote (value : List Char)
  /-- The first character of an operator. -/
  | half (first : Char)
  deriving Repr, DecidableEq

structure Lexer where
  mode : Mode
  /-- The tokens before the current one. -/
  tokens : List Token
  deriving Repr, DecidableEq

/-- The operators of two characters. -/
def longOperators : List (Char × Char) := [('<', '>'), ('<', '='), ('>', '='), ('|', '|')]

/-- The two characters that begin a comment. -/
def commentMarks : List (Char × Char) := [('-', '-'), ('/', '*')]

namespace Lexer

/-- The tokens read so far, if the text may end here. -/
def close? (lexer : Lexer) : Option (List Token) :=
  match lexer.mode with
  | .gap => some lexer.tokens
  | .word text => some (lexer.tokens ++ [.word (String.ofList text)])
  | .numeral .point _ => some (lexer.tokens ++ [.point])
  | .numeral .mark _ | .numeral .sign _ => none
  | .numeral _ text => some (lexer.tokens ++ [.number (String.ofList text)])
  | .literal _ => none
  | .quote value => some (lexer.tokens ++ [.string (String.ofList value)])
  | .half '|' => none
  | .half first => some (lexer.tokens ++ [.operator (String.ofList [first])])

/-- The first character of a token, or a blank between tokens. -/
def start? (tokens : List Token) (c : Char) : Option Lexer :=
  if c.isAlpha then some ⟨.word [c], tokens⟩
  else if c.isDigit then some ⟨.numeral .whole [c], tokens⟩
  else if c.isWhitespace then some ⟨.gap, tokens⟩
  else
    match c with
    | '\x27' => some ⟨.literal [], tokens⟩
    | '.' => some ⟨.numeral .point [c], tokens⟩
    | '(' => some ⟨.gap, tokens ++ [.opening]⟩
    | ')' => some ⟨.gap, tokens ++ [.closing]⟩
    | ',' => some ⟨.gap, tokens ++ [.comma]⟩
    | '+' | '-' | '*' | '/' | '=' | '<' | '>' | '|' => some ⟨.half c, tokens⟩
    | _ => none

/-- A character that is no part of the current token. -/
def restart? (lexer : Lexer) (c : Char) : Option Lexer := do start? (← lexer.close?) c

def step? (lexer : Lexer) (c : Char) : Option Lexer :=
  match lexer.mode with
  | .gap => lexer.restart? c
  | .word text =>
      if isWordChar c then some { lexer with mode := .word (text ++ [c]) } else lexer.restart? c
  | .numeral stage text =>
      match stage.next? c with
      | some next => some { lexer with mode := .numeral next (text ++ [c]) }
      | none => lexer.restart? c
  | .literal value =>
      some { lexer with mode := if c = '\x27' then .quote value else .literal (value ++ [c]) }
  | .quote value =>
      if c = '\x27' then some { lexer with mode := .literal (value ++ [c]) } else lexer.restart? c
  | .half first =>
      if (first, c) ∈ commentMarks then none
      else if (first, c) ∈ longOperators then
        some ⟨.gap, lexer.tokens ++ [.operator (String.ofList [first, c])]⟩
      else lexer.restart? c

def run? (lexer : Lexer) (text : List Char) : Option Lexer := text.foldlM step? lexer

end Lexer

def tokens? (text : String) : Option (List Token) := do
  (← Lexer.run? ⟨.gap, []⟩ text.toList).close?

example : tokens? "t.a >= -1.5e-3 || 'it''s'" =
    some [.word "t", .point, .word "a", .operator ">=", .operator "-", .number "1.5e-3",
      .operator "||", .string "it's"] := by decide

example : tokens? "a --b" = none := by decide

/-- A text that has these tokens, whatever tokens stand before it. It may end with the text. -/
def Lexes (text : List Char) (tokens : List Token) : Prop :=
  ∀ before, ∃ lexer, Lexer.run? ⟨.gap, before⟩ text = some lexer ∧
    lexer.close? = some (before ++ tokens)

namespace Lexer

@[simp]
theorem run?_nil (lexer : Lexer) : lexer.run? [] = some lexer := rfl

theorem run?_cons (lexer : Lexer) (c : Char) (text : List Char) :
    lexer.run? (c :: text) = (lexer.step? c).bind (·.run? text) := rfl

theorem run?_append (lexer : Lexer) (front text : List Char) :
    lexer.run? (front ++ text) = (lexer.run? front).bind (·.run? text) :=
  List.foldlM_append

theorem restart?_of_close {lexer : Lexer} {tokens : List Token} (c : Char)
    (closed : lexer.close? = some tokens) : lexer.restart? c = start? tokens c := by
  rw [restart?, closed]
  rfl

/-- A blank, a comma or a parenthesis ends every token but a literal. -/
theorem step?_of_separator {lexer : Lexer} {tokens : List Token} {c : Char}
    (closed : lexer.close? = some tokens) (separates : c = ' ' ∨ c = ',' ∨ c = '(' ∨ c = ')') :
    lexer.step? c = start? tokens c := by
  have ended := restart?_of_close c closed
  rcases lexer with ⟨mode, before⟩
  cases mode with
  | gap => exact ended
  | word text =>
      have apart : isWordChar c = false := by
        rcases separates with rfl | rfl | rfl | rfl <;> rfl
      simp [step?, apart, ended]
  | numeral stage text =>
      have apart : stage.next? c = none := by
        rcases separates with rfl | rfl | rfl | rfl <;> cases stage <;> rfl
      simp [step?, apart, ended]
  | literal value => cases closed
  | quote value =>
      have apart : c ≠ '\x27' := by
        rintro rfl
        simp at separates
      simp [step?, apart, ended]
  | half first =>
      have noComment : (first, c) ∉ commentMarks := by
        rcases separates with rfl | rfl | rfl | rfl <;> simp [commentMarks]
      have short : (first, c) ∉ longOperators := by
        rcases separates with rfl | rfl | rfl | rfl <;> simp [longOperators]
      simp [step?, noComment, short, ended]

theorem run?_word {before : List Token} {text rest : List Char}
    (isWord : ∀ c ∈ rest, isWordChar c = true) :
    run? ⟨.word text, before⟩ rest = some ⟨.word (text ++ rest), before⟩ := by
  induction rest generalizing text with
  | nil => simp
  | cons c rest inductionHypothesis =>
      obtain ⟨first, others⟩ := List.forall_mem_cons.mp isWord
      simp [run?_cons, step?, first, inductionHypothesis others]

theorem run?_numeral {before : List Token} {stage final : Stage} {text rest : List Char}
    (goes : rest.foldlM Stage.next? stage = some final) :
    run? ⟨.numeral stage text, before⟩ rest = some ⟨.numeral final (text ++ rest), before⟩ := by
  induction rest generalizing stage text with
  | nil =>
      cases goes
      simp
  | cons c rest inductionHypothesis =>
      obtain ⟨next, first, others⟩ := Option.bind_eq_some_iff.mp goes
      simp [run?_cons, step?, first, inductionHypothesis others]

theorem run?_literal {before : List Token} (read value : List Char) :
    run? ⟨.literal read, before⟩ (Text.doubleQuotes value ++ ['\x27']) =
      some ⟨.quote (read ++ value), before⟩ := by
  induction value generalizing read with
  | nil => simp [Text.doubleQuotes, run?_cons, step?]
  | cons c value inductionHypothesis =>
      by_cases isQuote : c = '\x27'
      · simp [Text.doubleQuotes, isQuote, run?_cons, step?, inductionHypothesis]
      · simp [Text.doubleQuotes, isQuote, run?_cons, step?, inductionHypothesis]

theorem start?_letter {tokens : List Token} {c : Char} (isLetter : c.isAlpha = true) :
    start? tokens c = some ⟨.word [c], tokens⟩ := by
  simp [start?, isLetter]

theorem isDigit_of_isAlpha {c : Char} (isLetter : c.isAlpha = true) : c.isDigit = false := by
  delta Char.isAlpha Char.isUpper Char.isLower at isLetter
  simp only [Char.isDigit, Bool.and_eq_true, decide_eq_true_eq, Bool.or_eq_true,
    Bool.and_eq_false_iff, decide_eq_false_iff_not] at isLetter ⊢
  grind

theorem start?_digit {tokens : List Token} {c : Char} (isDigit : c.isDigit = true) :
    start? tokens c = some ⟨.numeral .whole [c], tokens⟩ := by
  have noLetter : c.isAlpha ≠ true := by
    intro isLetter
    rw [isDigit_of_isAlpha isLetter] at isDigit
    cases isDigit
  simp [start?, noLetter, isDigit]

end Lexer

namespace Stage

/-- The stage that digits lead to. -/
def afterDigit : Stage → Stage
  | .whole => .whole
  | .point | .fraction => .fraction
  | .mark | .sign | .exponent => .exponent

theorem next?_digit {c : Char} (stage : Stage) (isDigit : c.isDigit = true) :
    stage.next? c = some stage.afterDigit := by
  cases stage <;> simp [next?, afterDigit, isDigit]

theorem foldlM_digits {stage : Stage} {digits : List Char}
    (areDigits : ∀ c ∈ digits, c.isDigit = true) (steady : stage.afterDigit = stage) :
    digits.foldlM next? stage = some stage := by
  induction digits with
  | nil => rfl
  | cons c digits inductionHypothesis =>
      obtain ⟨first, others⟩ := List.forall_mem_cons.mp areDigits
      rw [List.foldlM_cons, next?_digit stage first, steady]
      exact inductionHypothesis others

theorem foldlM_isDigits {digits : List Char} (stage : Stage) (isDigits : Stcs.IsDigits digits) :
    digits.foldlM next? stage = some stage.afterDigit := by
  obtain ⟨first, others, rfl⟩ := List.exists_cons_of_ne_nil isDigits.1
  obtain ⟨firstDigit, otherDigits⟩ := List.forall_mem_cons.mp isDigits.2
  rw [List.foldlM_cons, next?_digit stage firstDigit]
  exact foldlM_digits otherDigits (by cases stage <;> rfl)

def isFinal : Stage → Bool
  | .whole | .fraction | .exponent => true
  | _ => false

theorem foldlM_exponent {stage : Stage} {exponent : List Char}
    (isExponent : Stcs.IsExponent exponent) (isStage : stage = .whole ∨ stage = .fraction) :
    ∃ final, exponent.foldlM next? stage = some final ∧ final.isFinal = true := by
  cases isExponent with
  | absent =>
      refine ⟨stage, rfl, ?_⟩
      rcases isStage with rfl | rfl <;> rfl
  | @present mark sign digits isMark isSign isDigits =>
      refine ⟨.exponent, ?_, rfl⟩
      have marked : stage.next? mark = some .mark := by
        rcases isStage with rfl | rfl <;> rcases isMark with rfl | rfl <;> rfl
      rw [List.foldlM_cons, marked]
      rcases isSign with rfl | rfl | rfl
      · exact foldlM_isDigits .mark isDigits
      · exact foldlM_isDigits .sign isDigits
      · exact foldlM_isDigits .sign isDigits

theorem foldlM_mantissa {mantissa : List Char} (isMantissa : Stcs.IsMantissa mantissa) :
    ∃ first others stage final, mantissa = first :: others ∧
      (∀ tokens, Lexer.start? tokens first = some ⟨.numeral stage [first], tokens⟩) ∧
      others.foldlM next? stage = some final ∧ (final = .whole ∨ final = .fraction) := by
  cases isMantissa with
  | whole isWhole =>
      obtain ⟨first, others, rfl⟩ := List.exists_cons_of_ne_nil isWhole.1
      obtain ⟨firstDigit, otherDigits⟩ := List.forall_mem_cons.mp isWhole.2
      exact ⟨first, others, .whole, .whole, rfl, fun _ => Lexer.start?_digit firstDigit,
        foldlM_digits otherDigits rfl, .inl rfl⟩
  | @pointed digits fraction isWhole isFraction =>
      obtain ⟨first, others, rfl⟩ := List.exists_cons_of_ne_nil isWhole.1
      obtain ⟨firstDigit, otherDigits⟩ := List.forall_mem_cons.mp isWhole.2
      refine ⟨first, others ++ '.' :: fraction, .whole, .fraction, rfl,
        fun _ => Lexer.start?_digit firstDigit, ?_, .inr rfl⟩
      rw [List.foldlM_append, foldlM_digits otherDigits rfl]
      exact foldlM_digits isFraction rfl
  | @fraction digits isFraction =>
      exact ⟨'.', digits, .point, .fraction, rfl, fun _ => rfl, foldlM_isDigits .point isFraction,
        .inr rfl⟩

end Stage

/-- A decimal numeral without sign, perhaps with an exponent. -/
inductive IsNumeral : List Char → Prop
  | parts {mantissa exponent : List Char} (isMantissa : Stcs.IsMantissa mantissa)
      (isExponent : Stcs.IsExponent exponent) : IsNumeral (mantissa ++ exponent)

/-- The words that are no names. -/
def reserved : List String := ["AND", "OR", "NOT", "NULL"]

def isReserved (word : String) : Bool :=
  reserved.any fun known => Text.sameAscii word.toList known.toList

/-- A letter, then letters, digits and underscores, and no reserved word. -/
def isIdentifier (name : String) : Bool :=
  name.toList.head?.any Char.isAlpha && name.toList.all isWordChar && !isReserved name

def operatorToken (op : BinaryOp) : Token :=
  match op with
  | .and | .or => .word op.symbol
  | _ => .operator op.symbol

namespace Lexes

variable {front text : List Char} {first second : List Token}

theorem nil : Lexes [] [] := fun before => ⟨⟨.gap, before⟩, rfl, by simp [Lexer.close?]⟩

/-- Two texts with a separator between them. -/
theorem separated {c : Char} {mark : List Token} (isFirst : Lexes front first)
    (isSecond : Lexes text second) (separates : c = ' ' ∨ c = ',' ∨ c = '(' ∨ c = ')')
    (starts : ∀ tokens, Lexer.start? tokens c = some ⟨.gap, tokens ++ mark⟩) :
    Lexes (front ++ c :: text) (first ++ (mark ++ second)) := by
  intro before
  obtain ⟨lexer, reached, closed⟩ := isFirst before
  obtain ⟨final, went, finished⟩ := isSecond (before ++ (first ++ mark))
  refine ⟨final, ?_, by simp [finished]⟩
  have stepped : lexer.step? c = some ⟨.gap, before ++ (first ++ mark)⟩ := by
    rw [Lexer.step?_of_separator closed separates, starts, List.append_assoc]
  rw [Lexer.run?_append, reached, Option.bind_some, Lexer.run?_cons, stepped]
  exact went

theorem blank (isFirst : Lexes front first) (isSecond : Lexes text second) :
    Lexes (front ++ ' ' :: text) (first ++ second) :=
  separated isFirst isSecond (.inl rfl) fun tokens => by
    rw [List.append_nil]
    rfl

theorem comma (isFirst : Lexes front first) (isSecond : Lexes text second) :
    Lexes (front ++ ',' :: text) (first ++ .comma :: second) :=
  separated isFirst isSecond (.inr (.inl rfl)) fun _ => rfl

theorem opening (isFirst : Lexes front first) (isSecond : Lexes text second) :
    Lexes (front ++ '(' :: text) (first ++ .opening :: second) :=
  separated isFirst isSecond (.inr (.inr (.inl rfl))) fun _ => rfl

theorem closing (isFirst : Lexes front first) : Lexes (front ++ [')']) (first ++ [.closing]) :=
  separated isFirst nil (.inr (.inr (.inr rfl))) fun _ => rfl

theorem enclosed (isFirst : Lexes front first) :
    Lexes ('(' :: (front ++ [')'])) (.opening :: (first ++ [.closing])) :=
  opening nil (closing isFirst)

/-- A minus sign before anything but another one. -/
theorem minus (isText : Lexes text second) (apart : ∀ c ∈ text.head?, c ≠ '-') :
    Lexes ('-' :: text) (.operator "-" :: second) := by
  intro before
  obtain ⟨final, went, finished⟩ := isText (before ++ [.operator "-"])
  rw [List.append_assoc] at finished
  cases text with
  | nil =>
      cases went
      exact ⟨⟨.half '-', before⟩, rfl, finished⟩
  | cons c text =>
      have noComment : ('-', c) ∉ commentMarks := by simpa [commentMarks] using apart c rfl
      have short : ('-', c) ∉ longOperators := by simp [longOperators]
      have stepped : Lexer.step? ⟨.half '-', before⟩ c =
          Lexer.step? ⟨.gap, before ++ [.operator "-"]⟩ c := by
        simp only [Lexer.step?, noComment, short, if_false]
        rfl
      refine ⟨final, ?_, finished⟩
      rw [Lexer.run?_cons] at went
      rw [← went, ← stepped]
      rfl

/-- A name, at a place where a letter begins a word. -/
theorem run?_name {name : String} {lexer : Lexer} {tokens : List Token}
    (isName : isIdentifier name = true)
    (restarts : ∀ c, c.isAlpha = true → lexer.step? c = Lexer.start? tokens c) :
    lexer.run? name.toList = some ⟨.word name.toList, tokens⟩ := by
  simp only [isIdentifier, Bool.and_eq_true, List.all_eq_true] at isName
  obtain ⟨⟨isLetter, areWordChars⟩, -⟩ := isName
  cases spelled : name.toList with
  | nil => simp [spelled] at isLetter
  | cons c rest =>
      rw [spelled] at isLetter areWordChars
      rw [Lexer.run?_cons, restarts c isLetter, Lexer.start?_letter isLetter]
      exact Lexer.run?_word (List.forall_mem_cons.mp areWordChars).2

theorem name {name : String} (isName : isIdentifier name = true) :
    Lexes name.toList [.word name] := by
  intro before
  exact ⟨⟨.word name.toList, before⟩, run?_name isName fun _ _ => rfl, by simp [Lexer.close?]⟩

theorem qualified {qualifier name : String} (isQualifier : isIdentifier qualifier = true)
    (isName : isIdentifier name = true) :
    Lexes (qualifier.toList ++ '.' :: name.toList) [.word qualifier, .point, .word name] := by
  intro before
  refine ⟨⟨.word name.toList, before ++ [.word qualifier, .point]⟩, ?_, by simp [Lexer.close?]⟩
  have pointed : Lexer.step? ⟨.word qualifier.toList, before⟩ '.' =
      some ⟨.numeral .point ['.'], before ++ [.word qualifier]⟩ := by
    have isEnd : isWordChar '.' = false := rfl
    simp only [Lexer.step?, isEnd, Lexer.restart?, Lexer.close?, String.ofList_toList]
    rfl
  have restarts (c : Char) (isLetter : c.isAlpha = true) :
      Lexer.step? ⟨.numeral .point ['.'], before ++ [.word qualifier]⟩ c =
        Lexer.start? (before ++ [.word qualifier, .point]) c := by
    have noDigit := Lexer.isDigit_of_isAlpha isLetter
    simp [Lexer.step?, Stage.next?, noDigit, Lexer.restart?, Lexer.close?]
  rw [Lexer.run?_append, run?_name isQualifier fun _ _ => rfl, Option.bind_some, Lexer.run?_cons,
    pointed, Option.bind_some, run?_name isName restarts]

theorem number {spelling : String} (isNumeral : IsNumeral spelling.toList) :
    Lexes spelling.toList [.number spelling] := by
  intro before
  have named : String.ofList spelling.toList = spelling := String.ofList_toList
  generalize spelling.toList = text at isNumeral named
  cases isNumeral with
  | @parts mantissa exponent isMantissa isExponent =>
      obtain ⟨first, others, stage, inner, rfl, starts, goes, isInner⟩ :=
        Stage.foldlM_mantissa isMantissa
      obtain ⟨final, ends, isFinal⟩ := Stage.foldlM_exponent isExponent isInner
      have whole : (others ++ exponent).foldlM Stage.next? stage = some final := by
        rw [List.foldlM_append, goes]
        exact ends
      have started : Lexer.step? ⟨.gap, before⟩ first = some ⟨.numeral stage [first], before⟩ :=
        starts before
      refine ⟨⟨.numeral final (first :: (others ++ exponent)), before⟩, ?_, ?_⟩
      · rw [List.cons_append, Lexer.run?_cons, started]
        exact Lexer.run?_numeral whole
      · rw [List.cons_append] at named
        cases final <;> simp_all [Lexer.close?, Stage.isFinal]

theorem string (value : String) : Lexes (Text.quote value).toList [.string value] := by
  intro before
  refine ⟨⟨.quote value.toList, before⟩, ?_, by simp [Lexer.close?]⟩
  rw [Text.toList_quote, Lexer.run?_cons]
  exact Lexer.run?_literal [] value.toList

theorem operator (op : BinaryOp) : Lexes op.symbol.toList [operatorToken op] := by
  cases op <;> exact fun before => ⟨_, rfl, rfl⟩

theorem comparison (op : CompareOp) : Lexes op.symbol.toList [.operator op.symbol] := by
  cases op <;> exact fun before => ⟨_, rfl, rfl⟩

end Lexes

end SkySql.Precedence
