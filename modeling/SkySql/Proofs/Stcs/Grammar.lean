import SkySql.Stcs.Reader

set_option autoImplicit false

/-!
The notation of regions as a grammar, and what a written region stands for. A rule of the grammar
relates a part of a region to a text it can be written as; nothing is said about how a text is taken
apart. Words of the vocabulary stand in any letter case. Blanks inside a literal are white space of
every kind, those between the parts of a complement or combination only space, tab, carriage return
and line feed.
-/

namespace SkySql.Stcs

def IsDigits (text : List Char) : Prop := text ≠ [] ∧ ∀ c ∈ text, c.isDigit = true

def IsSign (text : List Char) : Prop := text = [] ∨ text = ['+'] ∨ text = ['-']

inductive IsMantissa : List Char → Prop
  | whole {digits : List Char} (isWhole : IsDigits digits) : IsMantissa digits
  | pointed {digits fraction : List Char} (isWhole : IsDigits digits)
      (isFraction : ∀ c ∈ fraction, c.isDigit = true) : IsMantissa (digits ++ '.' :: fraction)
  | fraction {digits : List Char} (isFraction : IsDigits digits) : IsMantissa ('.' :: digits)

inductive IsExponent : List Char → Prop
  | absent : IsExponent []
  | present {mark : Char} {sign digits : List Char} (isMark : mark = 'e' ∨ mark = 'E')
      (isSign : IsSign sign) (isDigits : IsDigits digits) : IsExponent (mark :: (sign ++ digits))

inductive IsNumber : List Char → Prop
  | parts {sign mantissa exponent : List Char} (isSign : IsSign sign)
      (isMantissa : IsMantissa mantissa) (isExponent : IsExponent exponent) :
      IsNumber (sign ++ (mantissa ++ exponent))

/-- A word of a vocabulary in any letter case. -/
def IsWord (words : List String) (text : List Char) : Prop :=
  ∃ known ∈ words, Text.sameAscii text known.toList = true

/-- At least one blank. -/
def IsGap (blank : Char → Bool) (text : List Char) : Prop :=
  text ≠ [] ∧ ∀ c ∈ text, blank c = true

/-- Nothing, or a word of a vocabulary after blanks. -/
inductive IsOptional (blank : Char → Bool) (words : List String) :
    Option (List Char) → List Char → Prop
  | absent : IsOptional blank words none []
  | present {gap word : List Char} (isGap : IsGap blank gap) (isWord : IsWord words word) :
      IsOptional blank words (some word) (gap ++ word)

/-- The optional words between a shape or operator and what follows it: a frame, a reference position
and a flavor. Nothing depends on the reference position. -/
inductive IsHeader (blank : Char → Bool) :
    Option (List Char) → Option (List Char) → List Char → Prop
  | parts {frame position flavor : Option (List Char)}
      {frameText positionText flavorText : List Char}
      (isFrame : IsOptional blank frameWords frame frameText)
      (isPosition : IsOptional blank positionWords position positionText)
      (isFlavor : IsOptional blank flavorWords flavor flavorText) :
      IsHeader blank frame flavor (frameText ++ (positionText ++ flavorText))

/-- Numbers, each after blanks. -/
inductive AreNumbers : List (List Char) → List Char → Prop
  | nil : AreNumbers [] []
  | cons {gap number text : List Char} {numbers : List (List Char)}
      (isGap : IsGap Text.isBlank gap) (isNumber : IsNumber number)
      (areNumbers : AreNumbers numbers text) :
      AreNumbers (number :: numbers) (gap ++ (number ++ text))

/-- A literal, perhaps after blanks: a shape, its optional words, and at least one number. -/
inductive Literal.Written : Literal → List Char → Prop
  | parts {blanks shape header body : List Char} {frame flavor : Option (List Char)}
      {numbers : List (List Char)} (areBlanks : ∀ c ∈ blanks, Text.isBlank c = true)
      (isShape : IsWord shapeWords shape) (isHeader : IsHeader Text.isBlank frame flavor header)
      (areNumbers : AreNumbers numbers body) (some : numbers ≠ []) :
      Literal.Written ⟨shape ++ (header ++ body), shape, flavor, numbers⟩
        (blanks ++ (shape ++ (header ++ body)))

mutual

/-- A region, perhaps after spaces. -/
inductive Draft.Written : Draft → List Char → Prop
  | literal {literal : Literal} {spaces text : List Char}
      (areSpaces : ∀ c ∈ spaces, isSpace c = true) (isLiteral : literal.Written text) :
      Draft.Written (.literal literal) (spaces ++ text)
  | complement {operand : Draft} {spaces word inner text final : List Char}
      (areSpaces : ∀ c ∈ spaces, isSpace c = true)
      (isWord : Text.sameAscii word "NOT".toList = true)
      (areInner : ∀ c ∈ inner, isSpace c = true) (isOperand : operand.Written text)
      (areFinal : ∀ c ∈ final, isSpace c = true) :
      Draft.Written (.complement operand)
        (spaces ++ (word ++ (inner ++ '(' :: (text ++ (final ++ [')'])))))
  | combination {op : RegionOp} {operands : List Draft} {frame flavor : Option (List Char)}
      {spaces word header inner text final : List Char}
      (areSpaces : ∀ c ∈ spaces, isSpace c = true) (isOperator : op = .union ∨ op = .intersection)
      (isWord : Text.sameAscii word op.name.toList = true)
      (isHeader : IsHeader isSpace frame flavor header)
      (areInner : ∀ c ∈ inner, isSpace c = true) (several : 2 ≤ operands.length)
      (areOperands : AreWritten operands text) (areFinal : ∀ c ∈ final, isSpace c = true) :
      Draft.Written
        (.combination op (frame.map String.ofList) (flavor.map String.ofList) operands)
        (spaces ++ (word ++ (header ++ (inner ++ '(' :: (text ++ (final ++ [')']))))))

/-- Regions one after another. -/
inductive AreWritten : List Draft → List Char → Prop
  | nil : AreWritten [] []
  | cons {draft : Draft} {drafts : List Draft} {text rest : List Char}
      (isWritten : draft.Written text) (areWritten : AreWritten drafts rest) :
      AreWritten (draft :: drafts) (text ++ rest)

end

mutual

/-- How deep the parentheses of a written region nest. -/
def Draft.depth : Draft → Nat
  | .literal _ => 0
  | .complement operand => operand.depth + 1
  | .combination _ _ _ operands => Draft.depths operands + 1

def Draft.depths : List Draft → Nat
  | [] => 0
  | draft :: rest => max draft.depth (Draft.depths rest)

end

/-- The one flavor whose coordinates are understood, or none. -/
def SupportedFlavor (flavor : Option (List Char)) : Prop :=
  ∀ word ∈ flavor, Text.sameAscii word supportedFlavor.toList = true

/-- Whether a shape takes `count` numbers. -/
def Takes (shape : String) (count : Nat) : Prop :=
  shape = "position" ∧ count = 2 ∨ shape = "circle" ∧ count = 3 ∨ shape = "box" ∧ count = 4 ∨
    shape = "polygon" ∧ 6 ≤ count ∧ count % 2 = 0

mutual

/-- Every flavor in a region is supported, and every literal has as many numbers as its shape
takes. -/
def Draft.Supported : Draft → Prop
  | .literal written =>
      SupportedFlavor written.flavor ∧
        ∃ shape, Text.sameAscii written.shape shape.toList = true ∧
          Takes shape written.numbers.length
  | .complement operand => operand.Supported
  | .combination _ _ flavor operands =>
      SupportedFlavor (flavor.map String.toList) ∧ Draft.AllSupported operands

def Draft.AllSupported : List Draft → Prop
  | [] => True
  | draft :: rest => draft.Supported ∧ Draft.AllSupported rest

end

/-- The geometry of a shape with numbers in degrees. A box is the polygon of its corners. -/
inductive Depicts (shape : String) (numbers : List Float) : Geometry → Prop
  | position {lon lat : Float} (isShape : shape = "position") (given : numbers = [lon, lat]) :
      Depicts shape numbers (.point (.ofDegrees lon lat))
  | circle {lon lat radius : Float} (isShape : shape = "circle")
      (given : numbers = [lon, lat, radius]) :
      Depicts shape numbers (.circle ⟨.ofDegrees lon lat, radius * radiansPerDegree⟩)
  | box {lon lat width height : Float} (isShape : shape = "box")
      (given : numbers = [lon, lat, width, height]) :
      Depicts shape numbers
        (.polygon ⟨[.ofDegrees (lon - width / 2.0) (lat - height / 2.0),
          .ofDegrees (lon - width / 2.0) (lat + height / 2.0),
          .ofDegrees (lon + width / 2.0) (lat + height / 2.0),
          .ofDegrees (lon + width / 2.0) (lat - height / 2.0)]⟩)
  | polygon {vertices : List (Float × Float)} (isShape : shape = "polygon")
      (given : numbers = vertices.flatMap fun (lon, lat) => [lon, lat]) :
      Depicts shape numbers (.polygon ⟨vertices.map fun (lon, lat) => .ofDegrees lon lat⟩)

mutual

/-- The value of a written region. A complement has one operand and no frame; a union or
intersection has the frame that is written on it and the values of its operands in their order. -/
inductive Draft.Denotes : Draft → Value → Prop
  | literal {literal : Literal} {shape : String} {numbers : List Float} {geometry : Geometry}
      (isShape : Text.sameAscii literal.shape shape.toList = true)
      (read : literal.numbers.map Decimal.read? = numbers.map some)
      (depicts : Depicts shape numbers geometry) :
      Draft.Denotes (.literal literal) (.concrete geometry)
  | complement {operand : Draft} {value : Value} (denotes : operand.Denotes value) :
      Draft.Denotes (.complement operand) (.unresolved ⟨.not, none, [value]⟩)
  | combination {op : RegionOp} {frame flavor : Option String} {operands : List Draft}
      {values : List Value} (denote : AllDenote operands values) :
      Draft.Denotes (.combination op frame flavor operands) (.unresolved ⟨op, frame, values⟩)

inductive AllDenote : List Draft → List Value → Prop
  | nil : AllDenote [] []
  | cons {draft : Draft} {drafts : List Draft} {value : Value} {values : List Value}
      (denotes : draft.Denotes value) (denote : AllDenote drafts values) :
      AllDenote (draft :: drafts) (value :: values)

end

end SkySql.Stcs
