import SkySql.Json.Token

set_option autoImplicit false

/-!
Reading a JSON document: one value with nothing but blanks around it. Arrays and objects that lie
deeper than a given limit are checked but not kept. The open arrays and objects are a stack,
innermost first.
-/

namespace SkySql.Json

/-- An open array or object with what it holds so far, last first. `key` is the key whose value is
being read. -/
inductive Open where
  | array (items : List Json)
  | object (fields : List (String × Json)) (key : String)

inductive Expected where
  | value
  | valueOrClose
  | keyOrClose
  | key
  | colon
  | commaOrClose
  | nothing (document : Json)

structure Builder where
  limit : Nat
  depth : Nat := 0
  stack : List Open := []
  expected : Expected := .value

namespace Builder

/-- A value is complete: it goes into the innermost open array or object. -/
def complete (b : Builder) (value : Json) : Builder :=
  match b.stack with
  | [] => { b with expected := .nothing value }
  | .array items :: outer =>
      { b with stack := .array (value :: items) :: outer, expected := .commaOrClose }
  | .object fields key :: outer =>
      { b with stack := .object ((key, value) :: fields) key :: outer, expected := .commaOrClose }

def nest (b : Builder) (frame : Open) (expected : Expected) : Builder :=
  { b with depth := b.depth + 1, stack := frame :: b.stack, expected }

def unnest (b : Builder) (outer : List Open) (value : Json) : Builder :=
  complete { b with depth := b.depth - 1, stack := outer }
    (if b.limit < b.depth then .tooDeep else value)

def close? (b : Builder) (token : Token) : Option Builder :=
  match token, b.stack with
  | .closeArray, .array items :: outer => some (b.unnest outer (.array items.reverse))
  | .closeObject, .object fields _ :: outer => some (b.unnest outer (.object fields.reverse))
  | _, _ => none

def value? (b : Builder) (token : Token) : Option Builder :=
  match token with
  | .null => some (b.complete .null)
  | .bool value => some (b.complete (.bool value))
  | .number value => some (b.complete (.number value))
  | .string value => some (b.complete (.string value))
  | .openArray => some (b.nest (.array []) .valueOrClose)
  | .openObject => some (b.nest (.object [] "") .keyOrClose)
  | _ => none

def key? (b : Builder) (token : Token) : Option Builder :=
  match token, b.stack with
  | .string key, .object fields _ :: outer =>
      some { b with stack := .object fields key :: outer, expected := .colon }
  | _, _ => none

def comma? (b : Builder) : Option Builder :=
  match b.stack with
  | .array _ :: _ => some { b with expected := .value }
  | .object _ _ :: _ => some { b with expected := .key }
  | [] => none

def step? (b : Builder) (token : Token) : Option Builder :=
  match b.expected, token with
  | .value, token => b.value? token
  | .valueOrClose, .closeArray => b.close? .closeArray
  | .valueOrClose, token => b.value? token
  | .keyOrClose, .closeObject => b.close? .closeObject
  | .keyOrClose, token => b.key? token
  | .key, token => b.key? token
  | .colon, .colon => some { b with expected := .value }
  | .colon, _ => none
  | .commaOrClose, .comma => b.comma?
  | .commaOrClose, token => b.close? token
  | .nothing _, _ => none

end Builder

/-- The document written in `text`, as far as it nests at most `limit` deep. -/
def readWithin? (limit : Nat) (text : String) : Option Json := do
  let tokens ← tokens? text.toList
  let builder ← tokens.foldlM Builder.step? { limit }
  match builder.expected with
  | .nothing document => some document
  | _ => none

end SkySql.Json
