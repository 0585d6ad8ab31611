import SkySql.Stcs.Vocabulary
import SkySql.Text.Blank
import SkySql.Text.Digit
import SkySql.Text.Letter

set_option autoImplicit false

/-!
The literal at the front of a text: a shape, its optional words, and one or more numbers, each after
blanks. Words are compared by case folding. Every part is as long as it can be, so the last number
may end inside a word of the text.
-/

namespace SkySql.Stcs

/-- The parts of a literal as they are written. `text` runs from the shape to the last number. -/
structure Literal where
  text : List Char
  shape : List Char
  flavor : Option (List Char)
  numbers : List (List Char)
  deriving Repr, DecidableEq

def takeWord (cs : List Char) : List Char × List Char := cs.span (!Text.isBlank ·)

def isAmong (words : List String) (word : List Char) : Bool :=
  words.any fun known => Text.sameFolded word known.toList

def takeOptional (words : List String) (cs : List Char) : Option (List Char) × List Char :=
  match cs.span Text.isBlank with
  | ([], _) => (none, cs)
  | (_ :: _, rest) =>
      let (word, rest) := takeWord rest
      if isAmong words word then (some word, rest) else (none, cs)

def takeDigits (cs : List Char) : List Char × List Char := cs.span Text.isDecimalDigit

/-- Digits with an optional point and optional further digits, or a point and digits. -/
def takeMantissa? (cs : List Char) : Option (List Char × List Char) :=
  match takeDigits cs, cs with
  | ([], _), '.' :: rest =>
      match takeDigits rest with
      | ([], _) => none
      | (fraction, rest) => some ('.' :: fraction, rest)
  | ([], _), _ => none
  | (whole, '.' :: rest), _ =>
      let (fraction, rest) := takeDigits rest
      some (whole ++ '.' :: fraction, rest)
  | (whole, rest), _ => some (whole, rest)

def takeSign : List Char → List Char × List Char
  | c :: rest => if c = '+' ∨ c = '-' then ([c], rest) else ([], c :: rest)
  | [] => ([], [])

/-- An exponent mark with an optional sign and digits; else nothing is taken. -/
def takeExponent : List Char → List Char × List Char
  | [] => ([], [])
  | c :: rest =>
      if c = 'e' ∨ c = 'E' then
        let (sign, digits) := takeSign rest
        match takeDigits digits with
        | ([], _) => ([], c :: rest)
        | (digits, rest) => (c :: (sign ++ digits), rest)
      else ([], c :: rest)

def takeNumber? (cs : List Char) : Option (List Char × List Char) := do
  let (sign, rest) := takeSign cs
  let (mantissa, rest) ← takeMantissa? rest
  let (exponent, rest) := takeExponent rest
  return (sign ++ mantissa ++ exponent, rest)

/-- Numbers at the front of a text, each after blanks. One round takes at least two characters, so
the length of the text bounds the rounds. -/
def takeNumbers : Nat → List Char → List (List Char) × List Char
  | 0, cs => ([], cs)
  | bound + 1, cs =>
      match cs.span Text.isBlank with
      | ([], _) => ([], cs)
      | (_ :: _, rest) =>
          match takeNumber? rest with
          | none => ([], cs)
          | some (number, rest) =>
              let (numbers, rest) := takeNumbers bound rest
              (number :: numbers, rest)

def takeLiteral? (cs : List Char) : Option (Literal × List Char) :=
  let start := cs.dropWhile Text.isBlank
  let (shape, rest) := takeWord start
  if isAmong shapeWords shape then
    let (_, rest) := takeOptional frameWords rest
    let (_, rest) := takeOptional positionWords rest
    let (flavor, rest) := takeOptional flavorWords rest
    match takeNumbers rest.length rest with
    | ([], _) => none
    | (numbers, rest) =>
        some (⟨start.take (start.length - rest.length), shape, flavor, numbers⟩, rest)
  else none

end SkySql.Stcs
