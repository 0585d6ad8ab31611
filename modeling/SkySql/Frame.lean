import SkySql.Error
import SkySql.Text.Blank
import SkySql.Text.Letter

set_option autoImplicit false

/-!
Reference frames, and the two readers of frame names: the one for names in queries, which looks at
the first word only and refuses what it does not know, and the one for declarations of a service,
which takes every name.
-/

namespace SkySql

inductive Frame where
  | icrs
  | fk4
  | fk5
  | galactic
  | ecliptic
  /-- Positions that can be moved to any frame. -/
  | relocatable
  /-- No frame was declared. -/
  | unknown
  /-- A frame was declared that cannot be understood. -/
  | broken
  deriving Repr, DecidableEq

namespace Frame

def ofCapitals? : String → Option Frame
  | "ICRS" => some .icrs
  | "FK4" | "B1950" => some .fk4
  | "FK5" | "J2000" => some .fk5
  | "GALACTIC" | "GALACTIC_II" => some .galactic
  | "ECLIPTIC" => some .ecliptic
  | "RELOCATABLE" => some .relocatable
  | "" | "UNKNOWN" | "UNKNOWNFRAME" => some .unknown
  | "BROKEN" => some .broken
  | _ => none

/-- The frame that the first word of `name` says, in any letter case; no word says `unknown`. -/
def ofName (name : String) : Except Error Frame :=
  match ofCapitals? (Text.upperAscii (String.ofList (Text.firstWord name.toList))) with
  | some frame => .ok frame
  | none => .error (.unknownFrame name)

def name : Frame → String
  | .icrs => "ICRS"
  | .fk4 => "FK4"
  | .fk5 => "FK5"
  | .galactic => "GALACTIC"
  | .ecliptic => "ECLIPTIC"
  | .relocatable => "RELOCATABLE"
  | .unknown => "UNKNOWNFrame"
  | .broken => "BROKEN"

/-- Frames that never need a rotation against anything. -/
def isUniversal : Frame → Bool
  | .relocatable | .unknown | .broken => true
  | _ => false

/-- The name a service declares for the frame; empty for an undeclared one. -/
def declaredName : Frame → String
  | .unknown => ""
  | frame => frame.name

def declarable : List Frame := [.icrs, .fk4, .fk5, .galactic, .ecliptic, .relocatable]

/-- The frame a service declares by `name`. Blanks around the name and letter case do not count;
the empty name and the marks for an unknown frame say `unknown`, and every name that is no
declarable frame says `broken`. -/
def ofDeclaration (name : String) : Frame :=
  let word := Text.trim name.toList
  if word.isEmpty ∨ Text.sameAscii word "UNKNOWN".toList ∨ Text.sameAscii word "UNKNOWNFrame".toList
  then .unknown
  else (declarable.find? fun frame => Text.sameAscii frame.name.toList word).getD .broken

theorem ofDeclaration_declaredName (frame : Frame) : ofDeclaration frame.declaredName = frame := by
  cases frame <;> decide

end Frame

end SkySql
