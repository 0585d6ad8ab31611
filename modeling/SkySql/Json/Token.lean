import SkySql.Json.Numeral

set_option autoImplicit false

/-!
The tokens of a JSON text. The scanner takes one character at a time and keeps what it has read of
the token it is in.
-/

namespace SkySql.Json

inductive Token where
  | openArray
  | closeArray
  | openObject
  | closeObject
  | colon
  | comma
  | null
  | bool (value : Bool)
  | number (value : Number)
  | string (value : String)

/-- Where the scanner stands; characters read so far are held last first. `hex` reads the four digits
of an escape, after `high` if that was the first half of a surrogate pair. -/
inductive Scan where
  | between
  | word (letters : List Char)
  | numeral (chars : List Char)
  | text (chars : List Char)
  | escape (chars : List Char)
  | hex (chars : List Char) (high : Option Nat) (value count : Nat)
  | pairBackslash (chars : List Char) (high : Nat)
  | pairLetter (chars : List Char) (high : Nat)

structure Scanner where
  scan : Scan := .between
  tokens : List Token := []

def isJsonBlank (c : Char) : Bool := c == ' ' || c == '\t' || c == '\n' || c == '\r'

def isNumeralChar (c : Char) : Bool :=
  c.isDigit || c == '-' || c == '+' || c == '.' || c == 'e' || c == 'E'

def wordToken? (letters : List Char) : Option Token :=
  match String.ofList letters.reverse with
  | "null" => some .null
  | "true" => some (.bool true)
  | "false" => some (.bool false)
  | _ => none

def hexValue? (c : Char) : Option Nat :=
  if c.isDigit then some (c.toNat - '0'.toNat)
  else if 'a' ≤ c ∧ c ≤ 'f' then some (c.toNat - 'a'.toNat + 10)
  else if 'A' ≤ c ∧ c ≤ 'F' then some (c.toNat - 'A'.toNat + 10)
  else none

def escaped? : Char → Option Char
  | '"' => some '"'
  | '\\' => some '\\'
  | '/' => some '/'
  | 'b' => some '\x08'
  | 'f' => some '\x0c'
  | 'n' => some '\n'
  | 'r' => some '\r'
  | 't' => some '\t'
  | _ => none

/-- What follows four hexadecimal digits. A surrogate must be one half of a pair. -/
def finishHex? (chars : List Char) (high : Option Nat) (value : Nat) : Option Scan :=
  match high with
  | some first =>
      if 0xdc00 ≤ value ∧ value ≤ 0xdfff then
        some (.text (Char.ofNat (0x10000 + (first - 0xd800) * 0x400 + (value - 0xdc00)) :: chars))
      else none
  | none =>
      if 0xd800 ≤ value ∧ value ≤ 0xdbff then some (.pairBackslash chars value)
      else if 0xdc00 ≤ value ∧ value ≤ 0xdfff then none
      else some (.text (Char.ofNat value :: chars))

namespace Scanner

def start? (s : Scanner) (c : Char) : Option Scanner :=
  let single (token : Token) : Option Scanner := some ⟨.between, token :: s.tokens⟩
  if isJsonBlank c then some { s with scan := .between }
  else if c == '[' then single .openArray
  else if c == ']' then single .closeArray
  else if c == '\x7b' then single .openObject
  else if c == '\x7d' then single .closeObject
  else if c == ':' then single .colon
  else if c == ',' then single .comma
  else if c == '"' then some { s with scan := .text [] }
  else if c.isDigit || c == '-' then some { s with scan := .numeral [c] }
  else if c.isAlpha then some { s with scan := .word [c] }
  else none

def step? (s : Scanner) (c : Char) : Option Scanner :=
  match s.scan with
  | .between => s.start? c
  | .word letters =>
      if c.isAlpha then some { s with scan := .word (c :: letters) }
      else do start? ⟨.between, (← wordToken? letters) :: s.tokens⟩ c
  | .numeral chars =>
      if isNumeralChar c then some { s with scan := .numeral (c :: chars) }
      else do start? ⟨.between, .number (← number? chars.reverse) :: s.tokens⟩ c
  | .text chars =>
      if c == '"' then some ⟨.between, .string (String.ofList chars.reverse) :: s.tokens⟩
      else if c == '\\' then some { s with scan := .escape chars }
      else if c.toNat < 0x20 then none
      else some { s with scan := .text (c :: chars) }
  | .escape chars =>
      if c == 'u' then some { s with scan := .hex chars none 0 0 }
      else do return { s with scan := .text ((← escaped? c) :: chars) }
  | .hex chars high value count => do
      let value := 16 * value + (← hexValue? c)
      if count < 3 then return { s with scan := .hex chars high value (count + 1) }
      else return { s with scan := ← finishHex? chars high value }
  | .pairBackslash chars high =>
      if c == '\\' then some { s with scan := .pairLetter chars high } else none
  | .pairLetter chars high =>
      if c == 'u' then some { s with scan := .hex chars (some high) 0 0 } else none

def finish? (s : Scanner) : Option (List Token) :=
  match s.scan with
  | .between => some s.tokens.reverse
  | .word letters => do return ((← wordToken? letters) :: s.tokens).reverse
  | .numeral chars => do return (.number (← number? chars.reverse) :: s.tokens).reverse
  | _ => none

end Scanner

def tokens? (cs : List Char) : Option (List Token) := do
  let scanner ← cs.foldlM Scanner.step? {}
  scanner.finish?

end SkySql.Json
