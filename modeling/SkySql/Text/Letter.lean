set_option autoImplicit false

/-!
Letter case. Names of frames and functions are compared by the 26 Latin letters alone; words inside
a region literal are compared by simple case folding, under which two more characters count as
Latin letters.
-/

namespace SkySql.Text

/-- Upper case for a to z; every other character stays. -/
def upperAscii (text : String) : String := String.ofList (text.toList.map Char.toUpper)

def lowerAscii (text : String) : String := String.ofList (text.toList.map Char.toLower)

def sameAscii (left right : List Char) : Bool := left.map Char.toLower == right.map Char.toLower

/-- Simple case folding, as far as it reaches the letters a to z: the long s folds to s and the
Kelvin sign to k. -/
def foldLetter (c : Char) : Char :=
  if c = 'ſ' then 's' else if c = '\u212A' then 'k' else c.toLower

def sameFolded (left right : List Char) : Bool := left.map foldLetter == right.map foldLetter

theorem sameAscii_refl (cs : List Char) : sameAscii cs cs = true := by simp [sameAscii]

end SkySql.Text
