import SkySql.Stcs.Basic
import SkySql.Stcs.Literal

set_option autoImplicit false

/-!
Region algebra as it is written: literals, complements, unions and intersections, before any value
is computed. At this level only space, tab, carriage return and line feed count as blanks, and words
are compared by the 26 Latin letters.
-/

namespace SkySql.Stcs

inductive Draft where
  | literal (literal : Literal)
  | complement (operand : Draft)
  | combination (op : RegionOp) (frame flavor : Option String) (operands : List Draft)

/-- Takes something off the front of a text. -/
abbrev Taker (α : Type) := List Char → Option (α × List Char)

def isSpace (c : Char) : Bool := c == ' ' || c == '\t' || c == '\r' || c == '\n'

def skipSpaces (cs : List Char) : List Char := cs.dropWhile isSpace

/-- The rest after `word`, if the text starts with it in any letter case. -/
def afterKeyword? (word : String) (cs : List Char) : Option (List Char) :=
  let length := word.toList.length
  if Text.sameAscii (cs.take length) word.toList then some (cs.drop length) else none

def afterChar? (c : Char) : List Char → Option (List Char)
  | first :: rest => if first = c then some rest else none
  | [] => none

def isWordChar (c : Char) : Bool := c.isAlphanum || c == '_'

/-- A word of the vocabulary after blanks, as it is written; else nothing is taken. -/
def takeHeader (words : List String) (cs : List Char) : Option String × List Char :=
  match cs.span isSpace with
  | ([], _) => (none, cs)
  | (_ :: _, rest) =>
      let (word, rest) := rest.span isWordChar
      if words.any fun known => Text.sameAscii word known.toList then
        (some (String.ofList word), rest)
      else (none, cs)

/-- As many operands as can be taken. Each takes at least one character, so the length of the text
bounds their number. -/
def takeMany (operand : Taker Draft) : Nat → List Char → List Draft × List Char
  | 0, cs => ([], cs)
  | bound + 1, cs =>
      match operand cs with
      | none => ([], cs)
      | some (draft, rest) =>
          let (drafts, rest) := takeMany operand bound rest
          (draft :: drafts, rest)

def takeComplement? (operand : Taker Draft) : Taker Draft := fun cs => do
  let rest ← afterKeyword? "NOT" cs
  let rest ← afterChar? '(' (skipSpaces rest)
  let (draft, rest) ← operand rest
  let rest ← afterChar? ')' (skipSpaces rest)
  return (.complement draft, rest)

def takeOperator? : Taker RegionOp := fun cs =>
  match afterKeyword? "UNION" cs with
  | some rest => some (.union, rest)
  | none => (afterKeyword? "INTERSECTION" cs).map (.intersection, ·)

/-- An operator, its optional words, and at least two operands in parentheses. -/
def takeCombination? (operand : Taker Draft) : Taker Draft := fun cs => do
  let (op, rest) ← takeOperator? cs
  let (frame, rest) := takeHeader frameWords rest
  let (_, rest) := takeHeader positionWords rest
  let (flavor, rest) := takeHeader flavorWords rest
  let rest ← afterChar? '(' (skipSpaces rest)
  let (first, rest) ← operand rest
  let (second, rest) ← operand rest
  let (others, rest) := takeMany operand rest.length rest
  let rest ← afterChar? ')' (skipSpaces rest)
  return (.combination op frame flavor (first :: second :: others), rest)

/-- A region at the front of a text, in which parentheses nest less than `levels` deep. -/
def takeRegion? : Nat → Taker Draft
  | 0 => fun _ => none
  | levels + 1 => fun cs =>
      let cs := skipSpaces cs
      takeComplement? (takeRegion? levels) cs <|>
        takeCombination? (takeRegion? levels) cs <|>
          (takeLiteral? cs).map fun (literal, rest) => (.literal literal, rest)

/-- The greatest number of parentheses open at once. A closing one too many counts for nothing. -/
def nestingFrom : Nat → List Char → Nat
  | opened, [] => opened
  | opened, c :: rest =>
      if c = '(' then nestingFrom (opened + 1) rest
      else if c = ')' then max opened (nestingFrom (opened - 1) rest)
      else nestingFrom opened rest

def nestingDepth (cs : List Char) : Nat := nestingFrom 0 cs

end SkySql.Stcs
