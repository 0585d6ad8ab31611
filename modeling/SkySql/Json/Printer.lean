import SkySql.Decimal.Layout
import SkySql.Json.Basic
import SkySql.Text.Listing

set_option autoImplicit false

/-!
Writing JSON, on one line or indented by two spaces a level.
-/

namespace SkySql.Json

/-- Doubles keep a mark on whole numbers and are written with an exponent below `10 ^ -5` and from
`10 ^ 16` on. -/
def numberLayout : Decimal.Layout := ⟨.toEven, some (-5, 15), ".0"⟩

def hexDigit (n : Nat) : Char := "0123456789abcdef".toList.getD n '0'

def escape (c : Char) : List Char :=
  if c == '"' then ['\\', '"']
  else if c == '\\' then ['\\', '\\']
  else if c == '\n' then ['\\', 'n']
  else if c == '\r' then ['\\', 'r']
  else if c == '\t' then ['\\', 't']
  else if c == '\x08' then ['\\', 'b']
  else if c == '\x0c' then ['\\', 'f']
  else if c.toNat < 0x20 then
    ['\\', 'u', '0', '0', hexDigit (c.toNat / 16), hexDigit (c.toNat % 16)]
  else [c]

def stringText (text : String) : String :=
  "\"" ++ String.ofList (text.toList.flatMap escape) ++ "\""

/-- A number; JSON has no word for those that are not finite or out of range. -/
def Number.text : Number → String
  | .natural value => toString value
  | .negative magnitude => "-" ++ toString magnitude
  | .double value => if Decimal.isFinite value then numberLayout.text value else "null"
  | .outOfRange => "null"

def scalarText : Json → String
  | .bool value => if value then "true" else "false"
  | .number value => value.text
  | .string value => stringText value
  | _ => "null"

mutual

def compact : Json → String
  | .array items => "[" ++ Text.separated "," (compactItems items) ++ "]"
  | .object fields => "\x7b" ++ Text.separated "," (compactFields fields) ++ "\x7d"
  | value => scalarText value

def compactItems : List Json → List String
  | [] => []
  | item :: rest => compact item :: compactItems rest

def compactFields : List (String × Json) → List String
  | [] => []
  | (key, value) :: rest => (stringText key ++ ":" ++ compact value) :: compactFields rest

end

def indentation (level : Nat) : String := String.ofList (List.replicate (2 * level) ' ')

/-- Parts on lines of their own between brackets; nothing between them if there are none. -/
def block (level : Nat) (opening closing : String) (parts : List String) : String :=
  if parts.isEmpty then opening ++ closing
  else
    let indented := parts.map (indentation (level + 1) ++ ·)
    opening ++ "\n" ++ Text.separated ",\n" indented ++ "\n" ++ indentation level ++ closing

mutual

def pretty (level : Nat) : Json → String
  | .array items => block level "[" "]" (prettyItems (level + 1) items)
  | .object fields => block level "\x7b" "\x7d" (prettyFields (level + 1) fields)
  | value => scalarText value

def prettyItems (level : Nat) : List Json → List String
  | [] => []
  | item :: rest => pretty level item :: prettyItems level rest

def prettyFields (level : Nat) : List (String × Json) → List String
  | [] => []
  | (key, value) :: rest =>
      (stringText key ++ ": " ++ pretty level value) :: prettyFields level rest

end

end SkySql.Json
