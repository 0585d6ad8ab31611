import Mathlib
import SkySql.Frame

set_option autoImplicit false

/-!
Names of frames. Both readers see a name through its capitals, without the blanks around it, so
neither blanks nor letter case make a difference to them. The reader of declarations is the stricter
one: what it understands the reader of queries takes for the same frame, and all that it misses are
names of several words and the second names of three frames.
-/

namespace SkySql

namespace Text

section Capitals

/-- No range of blanks reaches into the letters. -/
theorem isBlank_eq_false_of_isAlpha {c : Char} (letter : c.isAlpha = true) : isBlank c = false := by
  simp only [Char.isAlpha, Char.isUpper, Char.isLower, Bool.or_eq_true, Bool.and_eq_true,
    decide_eq_true_eq, ge_iff_le, UInt32.le_iff_toNat_le] at letter
  have code : 65 ≤ c.toNat ∧ c.toNat ≤ 90 ∨ 97 ≤ c.toNat ∧ c.toNat ≤ 122 := letter
  have apart : ∀ range ∈ blankRanges, range.2 < 65 ∨ 122 < range.1 := by decide
  refine Bool.eq_false_iff.mpr fun blank => ?_
  obtain ⟨range, membership, bounds⟩ := exists_range_of_inRanges blank
  have := apart range membership
  omega

theorem isBlank_toUpper (c : Char) : isBlank c.toUpper = isBlank c := by
  by_cases small : c.isLower = true
  · have letter : c.isAlpha = true := by simp [Char.isAlpha, small]
    rw [isBlank_eq_false_of_isAlpha letter, isBlank_eq_false_of_isAlpha (by simpa using letter)]
  · rw [Char.toUpper_eq_of_not_isLower small]

theorem dropWhile_isBlank_map_toUpper (cs : List Char) :
    (cs.map Char.toUpper).dropWhile isBlank = (cs.dropWhile isBlank).map Char.toUpper := by
  rw [List.dropWhile_map, show isBlank ∘ Char.toUpper = isBlank from funext isBlank_toUpper]

theorem trim_map_toUpper (cs : List Char) :
    trim (cs.map Char.toUpper) = (trim cs).map Char.toUpper := by
  simp only [trim, trimEnd, dropWhile_isBlank_map_toUpper, ← List.map_reverse]

theorem firstWord_map_toUpper (cs : List Char) :
    firstWord (cs.map Char.toUpper) = (firstWord cs).map Char.toUpper := by
  simp only [firstWord, dropWhile_isBlank_map_toUpper, List.takeWhile_map, Function.comp_def,
    isBlank_toUpper]

theorem sameAscii_eq (left right : List Char) :
    sameAscii left right = (left.map Char.toUpper == right.map Char.toUpper) := by
  rw [sameAscii, Bool.eq_iff_iff, beq_iff_eq, beq_iff_eq]
  constructor
  · intro same
    simpa [Function.comp_def] using congrArg (List.map Char.toUpper) same
  · intro same
    simpa [Function.comp_def] using congrArg (List.map Char.toLower) same

theorem sameAscii_comm (left right : List Char) : sameAscii left right = sameAscii right left :=
  BEq.comm

end Capitals

section Blanks

variable {cs before after : List Char}

theorem trim_surrounded (allBefore : ∀ c ∈ before, isBlank c = true)
    (allAfter : ∀ c ∈ after, isBlank c = true) : trim (before ++ cs ++ after) = trim cs := by
  rw [List.append_assoc, trim_append_left_of_all_blank allBefore, trim, trim, List.dropWhile_append]
  split
  · next onlyBlanks =>
      rw [List.isEmpty_iff.mp onlyBlanks, List.dropWhile_eq_nil_iff.mpr allAfter]
  · exact trimEnd_append_of_all_blank allAfter

theorem firstWord_surrounded (allBefore : ∀ c ∈ before, isBlank c = true)
    (allAfter : ∀ c ∈ after, isBlank c = true) :
    firstWord (before ++ cs ++ after) = firstWord cs := by
  have noWord : after.takeWhile (!isBlank ·) = [] :=
    List.takeWhile_eq_nil_iff.mpr fun inside => by simp [allAfter]
  rw [List.append_assoc, firstWord, firstWord, dropWhile_blank_append allBefore,
    List.dropWhile_append]
  split
  · next onlyBlanks =>
      rw [List.isEmpty_iff.mp onlyBlanks, List.dropWhile_eq_nil_iff.mpr allAfter]
  · rw [List.takeWhile_append, noWord, List.append_nil]
    split
    · next whole => exact (List.takeWhile_prefix _).eq_of_length whole |>.symm
    · rfl

theorem firstWord_trim (cs : List Char) : firstWord (trim cs) = firstWord cs := by
  obtain ⟨before, after, split, allBefore, allAfter⟩ := exists_surrounded_trim cs
  conv_rhs => rw [split, firstWord_surrounded allBefore allAfter]

theorem firstWord_eq_self (solid : ∀ c ∈ cs, isBlank c = false) : firstWord cs = cs := by
  have noBlank : cs.dropWhile isBlank = cs :=
    List.dropWhile_eq_self_iff.mpr fun _ => by simp [solid]
  rw [firstWord, noBlank]
  exact List.takeWhile_eq_self_iff.mpr fun c membership => by simp [solid c membership]

end Blanks

section Respelling

/-- A character in one of its letter cases. Only the letters a to z have two. -/
def Recased (c other : Char) : Prop := other = c ∨ other = c.toLower ∨ other = c.toUpper

theorem Recased.toUpper_eq {c other : Char} (recased : Recased c other) :
    other.toUpper = c.toUpper := by
  rcases recased with rfl | rfl | rfl <;> simp

/-- A text with blanks around it and each letter in any case. -/
inductive Respelled : List Char → List Char → Prop
  | intro {cs letters before after : List Char} (allBefore : ∀ c ∈ before, isBlank c = true)
      (recased : List.Forall₂ Recased cs letters) (allAfter : ∀ c ∈ after, isBlank c = true) :
      Respelled cs (before ++ letters ++ after)

variable {cs letters other : List Char}

theorem map_toUpper_eq_of_recased (recased : List.Forall₂ Recased cs letters) :
    letters.map Char.toUpper = cs.map Char.toUpper := by
  induction recased with
  | nil => rfl
  | cons first _ inductionHypothesis =>
      rw [List.map_cons, List.map_cons, first.toUpper_eq, inductionHypothesis]

theorem Respelled.map_toUpper_trim (respelled : Respelled cs other) :
    (trim other).map Char.toUpper = (trim cs).map Char.toUpper := by
  obtain ⟨allBefore, recased, allAfter⟩ := respelled
  rw [trim_surrounded allBefore allAfter, ← trim_map_toUpper, map_toUpper_eq_of_recased recased,
    trim_map_toUpper]

end Respelling

end Text

namespace Frame

/-- A name in capitals, without the blanks around it. -/
def capitals (name : String) : String := Text.upperAscii (String.ofList (Text.trim name.toList))

/-- The capitals of the first word of a name. -/
def leadingCapitals (name : String) : String :=
  Text.upperAscii (String.ofList (Text.firstWord name.toList))

@[simp] theorem toList_capitals (name : String) :
    (capitals name).toList = (Text.trim name.toList).map Char.toUpper := by
  simp [capitals, Text.upperAscii]

@[simp] theorem toList_leadingCapitals (name : String) :
    (leadingCapitals name).toList = (Text.firstWord name.toList).map Char.toUpper := by
  simp [leadingCapitals, Text.upperAscii]

section Capitals

variable {name other : String}

theorem leadingCapitals_capitals (name : String) :
    leadingCapitals (capitals name) = leadingCapitals name := by
  rw [← String.toList_inj]
  simp [Text.firstWord_map_toUpper, Text.firstWord_trim, Function.comp_def]

theorem leadingCapitals_eq_capitals (solid : (capitals name).toList.any Text.isBlank = false) :
    leadingCapitals name = capitals name := by
  have oneWord : Text.firstWord (capitals name).toList = (capitals name).toList :=
    Text.firstWord_eq_self (by simpa using solid)
  rw [← leadingCapitals_capitals, ← String.toList_inj, toList_leadingCapitals, oneWord]
  simp [Function.comp_def]

theorem capitals_eq_of_respelled (respelled : Text.Respelled name.toList other.toList) :
    capitals other = capitals name := by
  rw [← String.toList_inj, toList_capitals, toList_capitals, respelled.map_toUpper_trim]

theorem leadingCapitals_eq_of_respelled (respelled : Text.Respelled name.toList other.toList) :
    leadingCapitals other = leadingCapitals name := by
  rw [← leadingCapitals_capitals, capitals_eq_of_respelled respelled, leadingCapitals_capitals]

end Capitals

/-- The names of a frame that a service may not declare it by. -/
def secondNames : List String := ["B1950", "J2000", "GALACTIC_II"]

section Readers

variable {name other word : String} {frame : Frame}

theorem solid_of_ofCapitals? (known : ofCapitals? word = some frame) :
    word.toList.any Text.isBlank = false := by
  unfold ofCapitals? at known
  split at known
  case h_14 => cases known
  all_goals decide

theorem ofName_eq_ok_iff :
    ofName name = .ok frame ↔ ofCapitals? (leadingCapitals name) = some frame := by
  unfold ofName leadingCapitals
  split
  · next known => simp [known]
  · next unknown => simp [unknown]

theorem sameAscii_trim_eq (name word : String) :
    Text.sameAscii (Text.trim name.toList) word.toList =
      (capitals name == Text.upperAscii word) := by
  rw [Text.sameAscii_eq, Bool.eq_iff_iff, beq_iff_eq, beq_iff_eq, ← String.toList_inj]
  simp [Text.upperAscii]

theorem ofDeclaration_eq_find (name : String) :
    ofDeclaration name =
      if capitals name = "" ∨ capitals name = "UNKNOWN" ∨ capitals name = "UNKNOWNFRAME" then
        .unknown
      else (declarable.find? fun frame =>
        capitals name == Text.upperAscii frame.name).getD .broken := by
  have empty : (Text.trim name.toList).isEmpty = (capitals name == "") := by
    rw [Bool.eq_iff_iff, beq_iff_eq, ← String.toList_inj]
    simp
  simp only [ofDeclaration, Text.sameAscii_comm _ (Text.trim _), sameAscii_trim_eq, empty,
    beq_iff_eq]
  rfl

/-- The reader of declarations takes the whole name for the word, and knows the words of the reader
of queries less the second names. -/
theorem ofDeclaration_eq (name : String) :
    ofDeclaration name =
      if capitals name ∈ secondNames then .broken
      else (ofCapitals? (capitals name)).getD .broken := by
  rw [ofDeclaration_eq_find]
  generalize capitals name = word
  fun_cases ofCapitals? word
  case case14 => simp_all [declarable, Frame.name, Text.upperAscii]
  all_goals decide

/-- A declaration says a frame exactly if a query says it by the same name, in one word that is not
a second name. -/
theorem ofDeclaration_eq_iff (understood : frame ≠ .broken) :
    ofDeclaration name = frame ↔
      ofName name = .ok frame ∧ leadingCapitals name = capitals name ∧
        capitals name ∉ secondNames := by
  rw [ofName_eq_ok_iff, ofDeclaration_eq]
  constructor
  · intro declared
    split at declared
    · exact absurd declared.symm understood
    · next first =>
        cases known : ofCapitals? (capitals name) with
        | none =>
            rw [known] at declared
            exact absurd declared.symm understood
        | some said =>
            rw [known] at declared
            have oneWord := leadingCapitals_eq_capitals (solid_of_ofCapitals? known)
            exact ⟨by rw [oneWord, known, ← declared]; rfl, oneWord, first⟩
  · rintro ⟨said, oneWord, first⟩
    rw [oneWord] at said
    rw [if_neg first, said]
    rfl

example : ofName "Icrs geocenter" = .ok .icrs ∧ ofDeclaration "Icrs geocenter" = .broken := by
  decide

example : ofName "j2000" = .ok .fk5 ∧ ofDeclaration "j2000" = .broken := by decide

theorem ofDeclaration_eq_of_respelled (respelled : Text.Respelled name.toList other.toList) :
    ofDeclaration other = ofDeclaration name := by
  rw [ofDeclaration_eq, ofDeclaration_eq, capitals_eq_of_respelled respelled]

theorem ofName_eq_ok_iff_of_respelled (respelled : Text.Respelled name.toList other.toList) :
    ofName other = .ok frame ↔ ofName name = .ok frame := by
  rw [ofName_eq_ok_iff, ofName_eq_ok_iff, leadingCapitals_eq_of_respelled respelled]

end Readers

/-- The two readers never contradict each other: a declared name says the same frame in a query,
unless the declaration is not understood. Neither reader minds blanks around a name or the case of
its letters. -/
theorem readers_agree (name : String) :
    (ofDeclaration name = .broken ∨ ofName name = .ok (ofDeclaration name)) ∧
      ∀ other : String, Text.Respelled name.toList other.toList →
        ofDeclaration other = ofDeclaration name ∧
          ∀ frame, ofName other = .ok frame ↔ ofName name = .ok frame := by
  refine ⟨?_, fun other respelled =>
    ⟨ofDeclaration_eq_of_respelled respelled, fun _ => ofName_eq_ok_iff_of_respelled respelled⟩⟩
  by_cases understood : ofDeclaration name = .broken
  · exact .inl understood
  · exact .inr ((ofDeclaration_eq_iff understood).mp rfl).1

theorem readers_agree_fk5 :
    Text.Respelled "Fk5".toList "\u2003fK5\n".toList ∧
      ofDeclaration "\u2003fK5\n" = .fk5 ∧ ofName "\u2003fK5\n" = .ok (ofDeclaration "Fk5") := by
  have respelled : Text.Respelled "Fk5".toList (['\u2003'] ++ ['f', 'K', '5'] ++ ['\n']) :=
    .intro (List.forall_mem_singleton.mpr (by decide)) (by simp [Text.Recased])
      (List.forall_mem_singleton.mpr (by decide))
  obtain ⟨agreed, kept⟩ := readers_agree "Fk5"
  obtain ⟨declared, said⟩ := kept "\u2003fK5\n" respelled
  exact ⟨respelled, declared.trans (by decide), (said _).mpr (agreed.resolve_left (by decide))⟩

end Frame

end SkySql
