import SkySql.Decimal.Spelling
import SkySql.Stcs.Draft

set_option autoImplicit false

/-!
Reading a region: the text is taken apart into a draft, the draft must cover the whole text, and
every literal of it becomes a geometry.
-/

namespace SkySql.Stcs

inductive Fault where
  | nestedTooDeep
  | notARegion (found : String)
  | trailing (found : String)
  | notALiteral
  | flavor (name : String)
  | badNumber (spelling : String)
  | wrongCount (shape expected : String) (got : Nat)
  deriving Repr, DecidableEq

/-- A fault and the text that has it: the whole input, or one literal of it. -/
structure Error where
  literal : String
  fault : Fault
  deriving Repr, DecidableEq

def nestingLimit : Nat := 64

def Fault.message : Fault → String
  | .nestedTooDeep => "regions nest deeper than " ++ toString nestingLimit ++ " levels"
  | .notARegion found => "expected an STC-S region at '" ++ found ++ "'"
  | .trailing found => "unexpected trailing input '" ++ found ++ "'"
  | .notALiteral => "not an STC-S shape literal"
  | .flavor name => "only " ++ supportedFlavor ++ " coordinates are supported, not " ++ name
  | .badNumber spelling => "bad coordinate '" ++ spelling ++ "'"
  | .wrongCount shape expected got =>
      shape ++ " expects " ++ expected ++ " coordinates, got " ++ toString got

def Error.message (e : Error) : String :=
  "Invalid STC-S '" ++ e.literal ++ "': " ++ e.fault.message

def checkFlavor (text : String) : Option String → Except Error Unit
  | some flavor =>
      if Text.sameAscii flavor.toList supportedFlavor.toList then .ok ()
      else .error ⟨text, .flavor flavor⟩
  | none => .ok ()

/-- Numbers taken as longitude and latitude in turn. -/
def pairs : List Float → List Sphere.Point
  | lon :: lat :: rest => .ofDegrees lon lat :: pairs rest
  | _ => []

/-- The geometry of a shape with the given numbers, in degrees. A box becomes the polygon of its
corners, in the order lower left, upper left, upper right, lower right. Every shape word other than
the first three is taken for a polygon. -/
def shapeGeometry (shape : String) (numbers : List Float) : Except Fault Geometry :=
  let wrong (expected : String) : Except Fault Geometry :=
    .error (.wrongCount shape expected numbers.length)
  if shape = "position" then
    match numbers with
    | [lon, lat] => .ok (.point (.ofDegrees lon lat))
    | _ => wrong "2"
  else if shape = "circle" then
    match numbers with
    | [lon, lat, radius] => .ok (.circle ⟨.ofDegrees lon lat, radius * radiansPerDegree⟩)
    | _ => wrong "3"
  else if shape = "box" then
    match numbers with
    | [lon, lat, width, height] =>
        let west := lon - width / 2.0
        let east := lon + width / 2.0
        let south := lat - height / 2.0
        let north := lat + height / 2.0
        .ok (.polygon ⟨[.ofDegrees west south, .ofDegrees west north, .ofDegrees east north,
          .ofDegrees east south]⟩)
    | _ => wrong "4"
  else if numbers.length < 6 ∨ numbers.length % 2 ≠ 0 then
    wrong "an even number (at least 6) of"
  else .ok (.polygon ⟨pairs numbers⟩)

def number (spelling : List Char) : Except Fault Float :=
  match Decimal.read? spelling with
  | some value => .ok value
  | none => .error (.badNumber (String.ofList spelling))

def Literal.geometry (literal : Literal) : Except Error Geometry := do
  let text := String.ofList literal.text
  checkFlavor text (literal.flavor.map String.ofList)
  let numbers ← (literal.numbers.mapM number).mapError (⟨text, ·⟩)
  (shapeGeometry (Text.lowerAscii (String.ofList literal.shape)) numbers).mapError (⟨text, ·⟩)

/-- The geometry of the text of a literal, which is taken apart once more on its own. -/
def literalGeometry (text : List Char) : Except Error Geometry :=
  match takeLiteral? text with
  | some (found, _) => { found with text }.geometry
  | none => .error ⟨String.ofList text, .notALiteral⟩

mutual

/-- The value of a draft. `source` is the whole input, which faults of an operator name. -/
def Draft.build (source : String) : Draft → Except Error Value
  | .literal written => do return .concrete (← literalGeometry written.text)
  | .complement operand => do return .unresolved ⟨.not, none, [← operand.build source]⟩
  | .combination op frame flavor operands => do
      checkFlavor source flavor
      return .unresolved ⟨op, frame, ← Draft.buildAll source operands⟩

def Draft.buildAll (source : String) : List Draft → Except Error (List Value)
  | [] => .ok []
  | draft :: rest => do return (← draft.build source) :: (← Draft.buildAll source rest)

end

def read (text : String) : Except Error Value :=
  let input := Text.trim text.toList
  if nestingLimit < nestingDepth input then .error ⟨text, .nestedTooDeep⟩
  else
    match takeRegion? (nestingLimit + 1) input with
    | none => .error ⟨text, .notARegion (String.ofList input)⟩
    | some (draft, rest) =>
        let trailing := Text.trim rest
        if trailing.isEmpty then draft.build text
        else .error ⟨text, .trailing (String.ofList trailing)⟩

end SkySql.Stcs
