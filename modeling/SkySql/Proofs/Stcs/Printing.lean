import Mathlib.Data.List.Forall2
import SkySql.Proofs.Stcs.Reading

set_option autoImplicit false

/-!
Printing a region and reading it back. The printed form of every value that can be read is a text of
the grammar again, and it stands for the same tree of operators, frames and shapes. Only the angles
change: each becomes the number that is printed for it, taken back to radians.
-/

namespace SkySql.Stcs

section Numerals

theorem isDigits_toDigits (n : Nat) : IsDigits (Nat.toDigits 10 n) := by
  constructor
  · exact Nat.toDigits_ne_nil
  · intro c membership
    exact Nat.isDigit_of_mem_toDigits (by decide) (by decide) membership

theorem isDigits_trimmed (n : Decimal.Numeral) : IsDigits n.trimmed.1 := by
  unfold Decimal.Numeral.trimmed
  dsimp only
  split
  · exact ⟨by simp, List.all_eq_true.mp rfl⟩
  · next kept =>
      constructor
      · simpa using kept
      · intro c membership
        apply (isDigits_toDigits n.digits).2
        rw [List.mem_reverse] at membership
        exact List.mem_reverse.mp ((List.dropWhile_suffix _).subset membership)

/-- Digits with the point put between them are digits with at most one point, and a digit on either
side of it. -/
theorem isMantissa_placePoint {digits : List Char} (isDigits : IsDigits digits) (exponent : Int) :
    IsMantissa (Decimal.placePoint digits exponent "").toList := by
  have zeros (count : Nat) : ∀ c ∈ List.replicate count '0', c.isDigit = true := by
    intro c membership
    rw [List.eq_of_mem_replicate membership]
    rfl
  unfold Decimal.placePoint
  split
  · simp only [String.toList_append, String.toList_ofList, String.toList_empty, List.append_nil]
    apply IsMantissa.whole
    constructor
    · simp [isDigits.1]
    · exact List.forall_mem_append.mpr ⟨isDigits.2, zeros _⟩
  · next negative =>
      dsimp only
      generalize places : (-exponent).toNat = count
      generalize filled : List.replicate (count + 1 - digits.length) '0' ++ digits = padded
      have all : ∀ c ∈ padded, c.isDigit = true := by
        rw [← filled]
        exact List.forall_mem_append.mpr ⟨zeros _, isDigits.2⟩
      have long : count < padded.length := by
        rw [← filled, List.length_append, List.length_replicate]
        omega
      have written : (String.ofList (padded.take (padded.length - count)) ++ "." ++
          String.ofList (padded.drop (padded.length - count))).toList =
          padded.take (padded.length - count) ++ '.' :: padded.drop (padded.length - count) := by
        simp
      rw [written]
      apply IsMantissa.pointed
      · constructor
        · apply List.ne_nil_of_length_pos
          rw [List.length_take]
          omega
        · intro c membership
          exact all c (List.mem_of_mem_take membership)
      · intro c membership
        exact all c (List.mem_of_mem_drop membership)

/-- A finite number is printed without an exponent: an optional minus sign, digits, and perhaps a
point with more digits. -/
theorem isNumber_text {x : Float} (finite : Decimal.isFinite x = true) :
    IsNumber (Decimal.text x).toList := by
  unfold Decimal.isFinite at finite
  unfold Decimal.text Decimal.Layout.text
  cases reading : Decimal.Reading.ofFloat x with
  | nan => rw [reading] at finite; cases finite
  | infinite negative => rw [reading] at finite; cases finite
  | finite negative size =>
      have mantissa := isMantissa_placePoint (isDigits_trimmed (size.shortest .up))
        (size.shortest .up).trimmed.2
      have isSign : IsSign (if negative then "-" else "").toList := by
        cases negative with
        | true => exact .inr (.inr rfl)
        | false => exact .inl rfl
      have number := IsNumber.parts isSign mantissa .absent
      rw [List.append_nil] at number
      rw [String.toList_append]
      exact number

end Numerals

def geometryAngles : Geometry → List Float
  | .point p => [p.lon, p.lat]
  | .circle c => [c.center.lon, c.center.lat, c.radius]
  | .polygon p => p.vertices.flatMap fun vertex => [vertex.lon, vertex.lat]

def mapPoint (f : Float → Float) (p : Sphere.Point) : Sphere.Point := ⟨f p.lon, f p.lat⟩

/-- The same kind of geometry with as many points, each angle changed by `f`. -/
def mapGeometry (f : Float → Float) : Geometry → Geometry
  | .point p => .point (mapPoint f p)
  | .circle c => .circle ⟨mapPoint f c.center, f c.radius⟩
  | .polygon p => .polygon ⟨p.vertices.map (mapPoint f)⟩

mutual

/-- The angles of a region in the order in which they are printed. -/
def Value.angles : Value → List Float
  | .concrete geometry => geometryAngles geometry
  | .unresolved { operands, .. } => operandAngles operands

def operandAngles : List Value → List Float
  | [] => []
  | operand :: rest => operand.angles ++ operandAngles rest

end

mutual

/-- The same tree of operators, frames and geometries, each angle changed by `f`. -/
def Value.mapAngles (f : Float → Float) : Value → Value
  | .concrete geometry => .concrete (mapGeometry f geometry)
  | .unresolved { op, frame, operands } => .unresolved ⟨op, frame, mapOperands f operands⟩

def mapOperands (f : Float → Float) : List Value → List Value
  | [] => []
  | operand :: rest => operand.mapAngles f :: mapOperands f rest

end

/-- A frame as it can stand on an operator. -/
def IsFrame (frame : Option String) : Prop :=
  ∀ word ∈ frame, IsWord frameWords word.toList ∧ ∀ c ∈ word.toList, isWordChar c = true

/-- The values that texts are read as, with operators nested less than `levels` deep. -/
inductive Value.Readable : Nat → Value → Prop
  | concrete {levels : Nat} {geometry : Geometry}
      (enough : ∀ polygon, geometry = .polygon polygon → 3 ≤ polygon.vertices.length) :
      Readable (levels + 1) (.concrete geometry)
  | complement {levels : Nat} {operand : Value} (readable : operand.Readable levels) :
      Readable (levels + 1) (.unresolved ⟨.not, none, [operand]⟩)
  | combination {levels : Nat} {op : RegionOp} {frame : Option String} {operands : List Value}
      (isOperator : op = .union ∨ op = .intersection) (isFrame : IsFrame frame)
      (several : 2 ≤ operands.length) (readable : ∀ operand ∈ operands, operand.Readable levels) :
      Readable (levels + 1) (.unresolved ⟨op, frame, operands⟩)

section Reading

variable {cs rest : List Char} {draft : Draft} {levels : Nat}

theorem length_pairs (numbers : List Float) : (pairs numbers).length = numbers.length / 2 := by
  match numbers with
  | [] => rfl
  | [_] => simp [pairs]
  | lon :: lat :: rest =>
      simp only [pairs, List.length_cons, length_pairs rest]
      omega

/-- Whatever the shape, a polygon that is read has three vertices or more. -/
theorem vertices_of_shapeGeometry {shape : String} {numbers : List Float} {polygon : Sphere.Polygon}
    (found : shapeGeometry shape numbers = .ok (.polygon polygon)) :
    3 ≤ polygon.vertices.length := by
  unfold shapeGeometry at found
  dsimp only at found
  split at found
  · split at found <;> cases found
  · split at found
    · split at found <;> cases found
    · split at found
      · split at found
        · cases found
          simp
        · cases found
      · split at found
        · cases found
        · next enough =>
            cases found
            rw [length_pairs]
            omega

theorem vertices_of_geometry {literal : Literal} {polygon : Sphere.Polygon}
    (found : literal.geometry = .ok (.polygon polygon)) : 3 ≤ polygon.vertices.length := by
  unfold Literal.geometry at found
  simp only [bind, Except.bind] at found
  split at found
  · cases found
  · split at found
    · cases found
    · next numbers _ =>
        cases made : shapeGeometry (Text.lowerAscii (String.ofList literal.shape)) numbers with
        | error fault => rw [made] at found; cases found
        | ok geometry =>
            rw [made] at found
            cases found
            exact vertices_of_shapeGeometry made

theorem isFrame_takeHeader {frame : Option String}
    (taken : takeHeader frameWords cs = (frame, rest)) : IsFrame frame := by
  unfold takeHeader at taken
  split at taken
  · cases taken
    intro word absent
    cases absent
  · next first gap after split =>
      cases splitWord : after.span isWordChar with
      | mk word final =>
          simp only [splitWord] at taken
          split at taken
          · next listed =>
              cases taken
              intro found present
              cases present
              rw [String.toList_ofList]
              constructor
              · simpa [IsWord] using listed
              · exact (eq_append_of_span splitWord).2.1
          · cases taken
            intro word absent
            cases absent

theorem values_eq_ok {source : String} {drafts : List Draft} {values : List Value}
    (found : Draft.values source drafts = .ok values) :
    List.Forall₂ (fun draft value => Draft.value source draft = .ok value) drafts values := by
  induction drafts generalizing values with
  | nil =>
      cases found
      exact .nil
  | cons draft drafts inductionHypothesis =>
      rw [Draft.values] at found
      cases first : draft.value source with
      | error e => rw [first] at found; cases found
      | ok value =>
          cases others : Draft.values source drafts with
          | error e => rw [first, others] at found; cases found
          | ok rest =>
              rw [first, others] at found
              cases found
              exact .cons first (inductionHypothesis others)

/-- Whatever value the draft has, its operators nest less than `levels` deep. -/
def Draft.GivesReadable (levels : Nat) (draft : Draft) : Prop :=
  ∀ source value, draft.value source = .ok value → value.Readable levels

theorem readable_of_forall₂ {source : String} {drafts : List Draft} {values : List Value}
    (gives : ∀ draft ∈ drafts, draft.GivesReadable levels)
    (found : List.Forall₂ (fun draft value => Draft.value source draft = .ok value) drafts values) :
    ∀ value ∈ values, value.Readable levels := by
  induction found with
  | nil => simp
  | cons first _ inductionHypothesis =>
      obtain ⟨givesFirst, givesOthers⟩ := List.forall_mem_cons.mp gives
      exact List.forall_mem_cons.mpr ⟨givesFirst source _ first, inductionHypothesis givesOthers⟩

def TakesReadable (levels : Nat) (operand : Taker Draft) : Prop :=
  ∀ {cs rest : List Char} {draft : Draft}, operand cs = some (draft, rest) →
    draft.GivesReadable levels

section Step

variable {operand : Taker Draft} (takes : TakesReadable levels operand)

include takes

theorem takeComplement?_readable (taken : takeComplement? operand cs = some (draft, rest)) :
    draft.GivesReadable (levels + 1) := by
  simp only [takeComplement?, Option.bind_eq_bind, Option.bind_eq_some_iff] at taken
  obtain ⟨_, -, _, -, ⟨inner, _⟩, takenInner, _, -, result⟩ := taken
  cases result
  intro source value found
  rw [Draft.value] at found
  cases innerFound : inner.value source with
  | error e => rw [innerFound] at found; cases found
  | ok innerValue =>
      rw [innerFound] at found
      cases found
      exact .complement (takes takenInner source innerValue innerFound)

theorem takeMany_readable {bound : Nat} {drafts : List Draft}
    (taken : takeMany operand bound cs = (drafts, rest)) :
    ∀ draft ∈ drafts, draft.GivesReadable levels := by
  induction bound generalizing cs drafts with
  | zero =>
      cases taken
      simp
  | succ bound inductionHypothesis =>
      unfold takeMany at taken
      split at taken
      · cases taken
        simp
      · next first after takenFirst =>
          cases takenOthers : takeMany operand bound after with
          | mk others final =>
              rw [takenOthers] at taken
              cases taken
              exact List.forall_mem_cons.mpr ⟨takes takenFirst, inductionHypothesis takenOthers⟩

theorem takeCombination?_readable (taken : takeCombination? operand cs = some (draft, rest)) :
    draft.GivesReadable (levels + 1) := by
  simp only [takeCombination?, Option.bind_eq_bind, Option.bind_eq_some_iff] at taken
  obtain ⟨⟨op, afterWord⟩, takenOperator, _, -, ⟨first, _⟩, takenFirst, ⟨second, afterSecond⟩,
    takenSecond, _, -, result⟩ := taken
  obtain ⟨-, -, isOperator, -⟩ := operator_of_takeOperator? takenOperator
  have isFrame : IsFrame (takeHeader frameWords afterWord).1 := isFrame_takeHeader rfl
  cases takenOthers : takeMany operand afterSecond.length afterSecond with
  | mk others final =>
      have readable : ∀ draft ∈ first :: second :: others, draft.GivesReadable levels :=
        List.forall_mem_cons.mpr ⟨takes takenFirst,
          List.forall_mem_cons.mpr ⟨takes takenSecond, takeMany_readable takes takenOthers⟩⟩
      simp only [takenOthers] at result
      cases result
      intro source value found
      rw [Draft.value] at found
      generalize checkFlavor source _ = checked at found
      cases checked with
      | error e => cases found
      | ok =>
          cases made : Draft.values source (first :: second :: others) with
          | error e => rw [made] at found; cases found
          | ok values =>
              rw [made] at found
              cases found
              have all := values_eq_ok made
              have several : 2 ≤ values.length := by
                rw [← all.length_eq]
                simp
              exact .combination isOperator isFrame several (readable_of_forall₂ readable all)

end Step

theorem takeRegion?_readable (levels : Nat) : TakesReadable levels (takeRegion? levels) := by
  induction levels with
  | zero =>
      intro cs rest draft taken
      cases taken
  | succ levels inductionHypothesis =>
      intro cs rest draft taken
      simp only [takeRegion?_succ, Option.or_eq_some_iff] at taken
      rcases taken with complement | ⟨-, combination | ⟨-, other⟩⟩
      · exact takeComplement?_readable inductionHypothesis complement
      · exact takeCombination?_readable inductionHypothesis combination
      · obtain ⟨⟨literal, after⟩, -, result⟩ := Option.map_eq_some_iff.mp other
        cases result
        intro source value found
        rw [Draft.value] at found
        cases made : literal.geometry with
        | error e => rw [made] at found; cases found
        | ok geometry =>
            rw [made] at found
            cases found
            apply Value.Readable.concrete
            intro polygon isPolygon
            rw [isPolygon] at made
            exact vertices_of_geometry made

/-- Whatever is read is readable, from any text. -/
theorem readable_of_read {text : String} {value : Value} (found : read text = .ok value) :
    value.Readable (nestingLimit + 1) := by
  rw [read_eq] at found
  split at found
  · cases found
  · split at found
    · cases found
    · next draft rest taken =>
        split at found
        · exact takeRegion?_readable _ taken text value found
        · cases found

end Reading

section Printing

/-- The number that the printed form of an angle says. -/
def printedAngle (radians : Float) : Float :=
  (Decimal.ofText? (Decimal.text (degrees radians))).getD 0.0

/-- The angle that is read for the printed form of an angle. -/
def rereadAngle (radians : Float) : Float := printedAngle radians * radiansPerDegree

def angleSpelling (radians : Float) : List Char := (Decimal.text (degrees radians)).toList

def FiniteAngles (angles : List Float) : Prop :=
  ∀ x ∈ angles, Decimal.isFinite (degrees x) = true

theorem ofText?_degrees {x : Float} (finite : Decimal.isFinite (degrees x) = true) :
    Decimal.ofText? (Decimal.text (degrees x)) = some (printedAngle x) := by
  obtain ⟨value, read⟩ := (isNumber_text finite).value
  have found : Decimal.ofText? (Decimal.text (degrees x)) = some value := read
  rw [printedAngle, found]
  rfl

theorem map_read?_spelling {angles : List Float} (finite : FiniteAngles angles) :
    (angles.map angleSpelling).map Decimal.read? = (angles.map printedAngle).map some := by
  rw [List.map_map, List.map_map]
  apply List.map_congr_left
  intro x membership
  exact ofText?_degrees (finite x membership)

/-- The text of the angles, each after a blank. -/
def anglesText (angles : List Float) : List Char := angles.flatMap fun x => ' ' :: angleSpelling x

theorem areNumbers_anglesText {angles : List Float} (finite : FiniteAngles angles) :
    AreNumbers (angles.map angleSpelling) (anglesText angles) := by
  induction angles with
  | nil => exact .nil
  | cons x angles inductionHypothesis =>
      obtain ⟨first, others⟩ := List.forall_mem_cons.mp finite
      have blank : IsGap Text.isBlank [' '] := ⟨by simp, List.all_eq_true.mp rfl⟩
      exact .cons blank (isNumber_text first) (inductionHypothesis others)

def Solid (word : List Char) : Prop := word ≠ [] ∧ ∀ c ∈ word, Text.isBlank c = false

theorem solid_of_all {word : List Char}
    (solid : (!word.isEmpty && word.all (!Text.isBlank ·)) = true) : Solid word := by
  simp only [Bool.and_eq_true, List.all_eq_true, Bool.not_eq_true', List.isEmpty_eq_false_iff]
    at solid
  exact solid

def shapeWord : Geometry → String
  | .point _ => "Position"
  | .circle _ => "Circle"
  | .polygon _ => "Polygon"

/-- The word of a geometry as it stands in the vocabulary. -/
def shapeName : Geometry → String
  | .point _ => "position"
  | .circle _ => "circle"
  | .polygon _ => "polygon"

theorem shapeWord_spelling (geometry : Geometry) :
    Ascii (shapeWord geometry).toList ∧ Solid (shapeWord geometry).toList ∧
      Text.sameAscii (shapeWord geometry).toList (shapeName geometry).toList = true := by
  have spelled : ∀ pair ∈ [("Position", "position"), ("Circle", "circle"), ("Polygon", "polygon")],
      pair.1.toList.all (fun c => decide (c.toNat < 128)) = true ∧
        (!pair.1.toList.isEmpty && pair.1.toList.all (!Text.isBlank ·)) = true ∧
          Text.sameAscii pair.1.toList pair.2.toList = true := by
    decide
  cases geometry with
  | point p =>
      obtain ⟨ascii, solid, same⟩ := spelled ("Position", "position") (by simp)
      exact ⟨ascii_of_all ascii, solid_of_all solid, same⟩
  | circle c =>
      obtain ⟨ascii, solid, same⟩ := spelled ("Circle", "circle") (by simp)
      exact ⟨ascii_of_all ascii, solid_of_all solid, same⟩
  | polygon p =>
      obtain ⟨ascii, solid, same⟩ := spelled ("Polygon", "polygon") (by simp)
      exact ⟨ascii_of_all ascii, solid_of_all solid, same⟩

theorem toList_geometryText (geometry : Geometry) :
    (geometryText geometry).toList =
      (shapeWord geometry).toList ++ anglesText (geometryAngles geometry) := by
  cases geometry with
  | point p =>
      simp [geometryText, pointAngles, angle, shapeWord, geometryAngles, anglesText, angleSpelling]
  | circle c =>
      simp [geometryText, pointAngles, angle, shapeWord, geometryAngles, anglesText, angleSpelling]
  | polygon p =>
      simp [geometryText, pointAngles, angle, shapeWord, geometryAngles, anglesText, angleSpelling,
        List.flatMap_map, List.flatMap_assoc]

/-- A text with a word at either end is not trimmed. -/
theorem trim_of_solid {front middle final : List Char} (first : Solid front) (last : Solid final) :
    Text.trim (front ++ (middle ++ final)) = front ++ (middle ++ final) := by
  have start : ∀ c ∈ (front ++ (middle ++ final)).head?, Text.isBlank c = false := by
    rw [List.head?_append_of_ne_nil _ first.1]
    intro c isHead
    exact first.2 c (List.mem_of_mem_head? isHead)
  have stop : ∀ c ∈ (front ++ (middle ++ final)).reverse.head?, Text.isBlank c = false := by
    rw [← List.append_assoc, List.head?_reverse, List.getLast?_append_of_ne_nil _ last.1]
    intro c isLast
    exact last.2 c (List.mem_of_getLast? isLast)
  have noneBefore := dropWhile_append_of_stops (List.forall_mem_nil _) start
  have noneAfter := dropWhile_append_of_stops (List.forall_mem_nil _) stop
  rw [List.nil_append] at noneBefore noneAfter
  rw [Text.trim, Text.trimEnd, noneBefore, noneAfter, List.reverse_reverse]

theorem IsNumber.solid {number : List Char} (isNumber : IsNumber number) : Solid number := by
  constructor
  · obtain ⟨first, tail, rfl, -⟩ := isNumber.head
    simp
  · intro c membership
    have inNumber := isNumber.chars c membership
    have apart := of_ascii (fun c => !isNumberChar c || !Text.isBlank c) (by decide)
      (ascii_of_isNumberChar inNumber)
    simpa [inNumber] using apart

/-- The angles end with the spelling of the last one. -/
theorem anglesText_eq_append {angles : List Float} (some : angles ≠ [])
    (finite : FiniteAngles angles) :
    ∃ middle final, anglesText angles = middle ++ final ∧ Solid final := by
  rcases List.eq_nil_or_concat angles with rfl | ⟨init, x, rfl⟩
  · exact absurd rfl some
  · refine ⟨anglesText init ++ [' '], angleSpelling x, by simp [anglesText], ?_⟩
    exact (isNumber_text (finite x (by simp))).solid

/-- A written region, nested less than `levels` deep, that is accepted and stands for a value. -/
structure Spells (levels : Nat) (draft : Draft) (text : List Char) (value : Value) : Prop where
  written : draft.Written text
  ascii : Ascii text
  trimmed : Text.trim text = text
  shallow : draft.depth < levels
  supported : draft.Supported
  denotes : draft.Denotes value

/-- The same for regions one after another. -/
structure SpellAll (levels : Nat) (drafts : List Draft) (text : List Char) (values : List Value) :
    Prop where
  written : AreWritten drafts text
  ascii : Ascii text
  shallow : ∀ draft ∈ drafts, draft.depth < levels
  supported : Draft.AllSupported drafts
  denote : AllDenote drafts values

theorem ascii_anglesText {angles : List Float} (finite : FiniteAngles angles) :
    Ascii (anglesText angles) := by
  intro c membership
  obtain ⟨x, inAngles, inText⟩ := List.mem_flatMap.mp membership
  cases inText with
  | head => decide
  | tail _ inNumber =>
      exact ascii_of_isNumberChar ((isNumber_text (finite x inAngles)).chars c inNumber)

theorem takes_geometryAngles {geometry : Geometry}
    (enough : ∀ polygon, geometry = .polygon polygon → 3 ≤ polygon.vertices.length) :
    Takes (shapeName geometry) (geometryAngles geometry).length := by
  cases geometry with
  | point p => exact .inl ⟨rfl, rfl⟩
  | circle c => exact .inr (.inl ⟨rfl, rfl⟩)
  | polygon p =>
      have vertices := enough p rfl
      have length : (geometryAngles (.polygon p)).length = 2 * p.vertices.length := by
        simp [geometryAngles, List.length_flatMap]
        omega
      refine .inr (.inr (.inr ⟨rfl, ?_⟩))
      omega

theorem depicts_mapGeometry (geometry : Geometry) :
    Depicts (shapeName geometry) ((geometryAngles geometry).map printedAngle)
      (mapGeometry rereadAngle geometry) := by
  cases geometry with
  | point p => exact .position rfl rfl
  | circle c => exact .circle rfl rfl
  | polygon p =>
      have depicts : Depicts "polygon" ((geometryAngles (.polygon p)).map printedAngle)
          (.polygon ⟨(p.vertices.map fun v => (printedAngle v.lon, printedAngle v.lat)).map
            fun v => .ofDegrees v.1 v.2⟩) := by
        apply Depicts.polygon rfl
        simp [geometryAngles, List.map_flatMap, List.flatMap_map]
      rw [List.map_map] at depicts
      exact depicts

/-- A geometry is printed as a literal of the grammar. -/
theorem spells_geometry {levels : Nat} {geometry : Geometry}
    (enough : ∀ polygon, geometry = .polygon polygon → 3 ≤ polygon.vertices.length)
    (finite : FiniteAngles (geometryAngles geometry)) :
    ∃ draft, Spells (levels + 1) draft (geometryText geometry).toList
      (.concrete (mapGeometry rereadAngle geometry)) := by
  have takes := takes_geometryAngles enough
  obtain ⟨asciiWord, solidWord, sameShape⟩ := shapeWord_spelling geometry
  have isShape : IsWord shapeWords (shapeWord geometry).toList := ⟨_, takes.mem, sameShape⟩
  have header : IsHeader Text.isBlank none none [] :=
    @IsHeader.parts _ none none none [] [] [] .absent .absent .absent
  have some : geometryAngles geometry ≠ [] := by
    intro empty
    rw [empty] at takes
    simp [Takes] at takes
  have literal := @Literal.Written.parts [] _ _ _ _ _ _ (List.forall_mem_nil _) isShape header
    (areNumbers_anglesText finite) (mt List.map_eq_nil_iff.mp some)
  obtain ⟨middle, final, split, solidFinal⟩ := anglesText_eq_append some finite
  rw [toList_geometryText]
  refine ⟨.literal _, @Draft.Written.literal _ [] _ (List.forall_mem_nil _) literal,
    ascii_append.mpr ⟨asciiWord, ascii_anglesText finite⟩, ?_, Nat.succ_pos _, ?_, ?_⟩
  · rw [split]
    exact trim_of_solid solidWord solidFinal
  · refine ⟨by simp [SupportedFlavor], shapeName geometry, sameShape, ?_⟩
    rw [List.length_map]
    exact takes
  · exact .literal sameShape (map_read?_spelling finite) (depicts_mapGeometry geometry)

/-- A space in front of regions belongs to the first of them. -/
theorem SpellAll.space_cons {levels : Nat} {draft : Draft} {drafts : List Draft}
    {text : List Char} {values : List Value} (spell : SpellAll levels (draft :: drafts) text values) :
    SpellAll levels (draft :: drafts) (' ' :: text) values := by
  have areSpaces : ∀ c ∈ [' '], isSpace c = true := List.all_eq_true.mp rfl
  refine ⟨?_, ?_, spell.shallow, spell.supported, spell.denote⟩
  · cases spell.written with
    | cons written others => exact .cons (written.spaces_append areSpaces) others
  · exact List.forall_mem_cons.mpr ⟨by decide, spell.ascii⟩

theorem SpellAll.cons {levels : Nat} {draft : Draft} {drafts : List Draft} {text rest : List Char}
    {value : Value} {values : List Value} (spells : Spells levels draft text value)
    (spell : SpellAll levels drafts rest values) :
    SpellAll levels (draft :: drafts) (text ++ rest) (value :: values) where
  written := .cons spells.written spell.written
  ascii := ascii_append.mpr ⟨spells.ascii, spell.ascii⟩
  shallow := List.forall_mem_cons.mpr ⟨spells.shallow, spell.shallow⟩
  supported := ⟨spells.supported, spell.supported⟩
  denote := .cons spells.denotes spell.denote

/-- Regions that are printed with a space between neighbours are read as they were printed. -/
theorem spellAll_operands {levels : Nat} {operands : List Value}
    (each : ∀ operand ∈ operands, ∃ draft,
      Spells levels draft operand.text.toList (operand.mapAngles rereadAngle)) :
    ∃ drafts, SpellAll levels drafts (Text.separated " " (operandTexts operands)).toList
      (mapOperands rereadAngle operands) := by
  have none : SpellAll levels [] [] [] :=
    ⟨.nil, List.forall_mem_nil _, List.forall_mem_nil _, trivial, .nil⟩
  match operands with
  | [] => exact ⟨[], none⟩
  | [operand] =>
      obtain ⟨draft, spells⟩ := each operand (List.mem_singleton_self operand)
      have single := SpellAll.cons spells none
      rw [List.append_nil] at single
      exact ⟨[draft], single⟩
  | operand :: next :: rest =>
      obtain ⟨first, others⟩ := List.forall_mem_cons.mp each
      obtain ⟨draft, spells⟩ := first
      obtain ⟨drafts, spell⟩ := spellAll_operands others
      cases drafts with
      | nil => cases spell.denote
      | cons second drafts =>
          have printed : (Text.separated " " (operandTexts (operand :: next :: rest))).toList =
              operand.text.toList ++
                ' ' :: (Text.separated " " (operandTexts (next :: rest))).toList := by
            simp [operandTexts, Text.separated]
          rw [printed]
          exact ⟨draft :: second :: drafts, .cons spells spell.space_cons⟩

theorem depths_lt {levels : Nat} {drafts : List Draft} (positive : 0 < levels)
    (shallow : ∀ draft ∈ drafts, draft.depth < levels) : Draft.depths drafts < levels := by
  induction drafts with
  | nil => exact positive
  | cons draft drafts inductionHypothesis =>
      obtain ⟨first, others⟩ := List.forall_mem_cons.mp shallow
      exact Nat.max_lt.mpr ⟨first, inductionHypothesis others⟩

theorem AllDenote.length_eq {drafts : List Draft} {values : List Value}
    (denote : AllDenote drafts values) : drafts.length = values.length := by
  induction drafts generalizing values with
  | nil => cases denote; rfl
  | cons draft drafts inductionHypothesis =>
      cases denote with
      | cons _ others => simp [inductionHypothesis others]

theorem length_mapOperands (f : Float → Float) (operands : List Value) :
    (mapOperands f operands).length = operands.length := by
  induction operands with
  | nil => rfl
  | cons operand rest inductionHypothesis => simp [mapOperands, inductionHypothesis]

theorem finiteAngles_of_mem {operands : List Value} (finite : FiniteAngles (operandAngles operands)) :
    ∀ operand ∈ operands, FiniteAngles operand.angles := by
  induction operands with
  | nil => exact List.forall_mem_nil _
  | cons operand rest inductionHypothesis =>
      obtain ⟨first, others⟩ := List.forall_mem_append.mp finite
      exact List.forall_mem_cons.mpr ⟨first, inductionHypothesis others⟩

def frameText : Option String → List Char
  | some frame => ' ' :: frame.toList
  | none => []

theorem isHeader_frameText {frame : Option String} (isFrame : IsFrame frame) :
    IsHeader isSpace (frame.map String.toList) none (frameText frame) := by
  cases frame with
  | none => exact @IsHeader.parts _ none none none [] [] [] .absent .absent .absent
  | some word =>
      have gap : IsGap isSpace [' '] := ⟨by simp, List.all_eq_true.mp rfl⟩
      have header := @IsHeader.parts isSpace _ none none _ [] []
        (.present gap (isFrame word rfl).1) .absent .absent
      simpa [frameText] using header

theorem ascii_frameText {frame : Option String} (isFrame : IsFrame frame) :
    Ascii (frameText frame) := by
  cases frame with
  | none => exact List.forall_mem_nil _
  | some word =>
      refine List.forall_mem_cons.mpr ⟨by decide, fun c membership => ?_⟩
      exact ascii_of_isWordChar ((isFrame word rfl).2 c membership)

/-- A region is printed as its operator, its frame, and the operands in parentheses. -/
def regionText (op : RegionOp) (frame : Option String) (operands : List Char) : List Char :=
  op.name.toList ++ (frameText frame ++ '(' :: (operands ++ [')']))

theorem toList_regionText (op : RegionOp) (frame : Option String) (operands : List Value) :
    (Value.unresolved ⟨op, frame, operands⟩).text.toList =
      regionText op frame (Text.separated " " (operandTexts operands)).toList := by
  cases frame <;> simp [Value.text, Region.text, regionText, frameText]

theorem ascii_regionText {op : RegionOp} {frame : Option String} {operands : List Char}
    (isFrame : IsFrame frame) (ascii : Ascii operands) : Ascii (regionText op frame operands) := by
  have asciiName : Ascii op.name.toList := by cases op <;> exact ascii_of_all rfl
  have asciiEnd : Ascii [')'] := ascii_of_all rfl
  refine ascii_append.mpr ⟨asciiName, ascii_append.mpr ⟨ascii_frameText isFrame, ?_⟩⟩
  exact List.forall_mem_cons.mpr ⟨by decide, ascii_append.mpr ⟨ascii, asciiEnd⟩⟩

theorem trim_regionText (op : RegionOp) (frame : Option String) (operands : List Char) :
    Text.trim (regionText op frame operands) = regionText op frame operands := by
  have solidName : Solid op.name.toList := by
    cases op <;> exact solid_of_all (by decide)
  have solidEnd : Solid [')'] := solid_of_all (by decide)
  have split : regionText op frame operands =
      op.name.toList ++ ((frameText frame ++ '(' :: operands) ++ [')']) := by
    simp [regionText]
  rw [split]
  exact trim_of_solid solidName solidEnd

theorem spells_complement {levels : Nat} {draft : Draft} {operand value : Value}
    (spells : Spells levels draft operand.text.toList value) :
    Spells (levels + 1) (.complement draft) (Value.unresolved ⟨.not, none, [operand]⟩).text.toList
      (.unresolved ⟨.not, none, [value]⟩) := by
  rw [toList_regionText]
  exact {
    written := @Draft.Written.complement draft [] "NOT".toList [] operand.text.toList []
      (List.forall_mem_nil _) (by decide) (List.forall_mem_nil _) spells.written
      (List.forall_mem_nil _)
    ascii := ascii_regionText (fun _ absent => nomatch absent) spells.ascii
    trimmed := trim_regionText ..
    shallow := Nat.succ_lt_succ spells.shallow
    supported := spells.supported
    denotes := .complement spells.denotes }

theorem spells_combination {levels : Nat} {op : RegionOp} {frame : Option String}
    {drafts : List Draft} {operands values : List Value}
    (isOperator : op = .union ∨ op = .intersection) (isFrame : IsFrame frame)
    (several : 2 ≤ values.length)
    (spell : SpellAll levels drafts (Text.separated " " (operandTexts operands)).toList values) :
    Spells (levels + 1) (.combination op frame none drafts)
      (Value.unresolved ⟨op, frame, operands⟩).text.toList (.unresolved ⟨op, frame, values⟩) := by
  have sameLength := spell.denote.length_eq
  have written := @Draft.Written.combination op drafts _ _ [] _ _ [] _ [] (List.forall_mem_nil _)
    isOperator (Text.sameAscii_refl _) (isHeader_frameText isFrame) (List.forall_mem_nil _)
    (by omega) spell.written (List.forall_mem_nil _)
  have kept : (frame.map String.toList).map String.ofList = frame := by
    cases frame <;> simp
  have positive : 0 < levels := by
    obtain ⟨draft, membership⟩ := List.exists_mem_of_length_pos (l := drafts) (by omega)
    exact Nat.zero_lt_of_lt (spell.shallow draft membership)
  rw [kept] at written
  rw [toList_regionText]
  exact {
    written := written
    ascii := ascii_regionText isFrame spell.ascii
    trimmed := trim_regionText ..
    shallow := Nat.succ_lt_succ (depths_lt positive spell.shallow)
    supported := ⟨by simp [SupportedFlavor], spell.supported⟩
    denotes := .combination spell.denote }

/-- Every readable value with finite angles is printed as a region of the grammar that stands for the
same tree. -/
theorem spells_text {levels : Nat} {value : Value} (readable : value.Readable levels)
    (finite : FiniteAngles value.angles) :
    ∃ draft, Spells levels draft value.text.toList (value.mapAngles rereadAngle) := by
  induction readable with
  | concrete enough => exact spells_geometry enough finite
  | complement _ inductionHypothesis =>
      have inner := finiteAngles_of_mem finite _ (List.mem_singleton_self _)
      obtain ⟨draft, spells⟩ := inductionHypothesis inner
      exact ⟨_, spells_complement spells⟩
  | combination isOperator isFrame several _ inductionHypothesis =>
      have each := finiteAngles_of_mem finite
      obtain ⟨drafts, spell⟩ := spellAll_operands fun operand membership =>
        inductionHypothesis operand membership (each operand membership)
      refine ⟨_, spells_combination isOperator isFrame ?_ spell⟩
      rw [length_mapOperands]
      exact several

end Printing

/-- Reading the printed form of a region gives the region back, except that every angle is now the
one that its printed form says: the operators, their frames, the number and order of their operands,
the kinds of geometry and the number of their vertices are the same. -/
theorem read_text {text : String} {value : Value} (found : read text = .ok value)
    (finite : ∀ x ∈ value.angles, Decimal.isFinite (degrees x) = true) :
    (∀ x ∈ value.angles, Decimal.ofText? (Decimal.text (degrees x)) = some (printedAngle x)) ∧
      read value.text = .ok (value.mapAngles fun x => printedAngle x * radiansPerDegree) := by
  obtain ⟨draft, spells⟩ := spells_text (readable_of_read found) finite
  have written : draft.Written (Text.trim value.text.toList) := by
    rw [spells.trimmed]
    exact spells.written
  constructor
  · intro x membership
    exact ofText?_degrees (finite x membership)
  · rw [read_of_written spells.ascii written, if_pos (Nat.le_of_lt_succ spells.shallow)]
    rcases Draft.Written.resolves draft written value.text with
      ⟨-, result, made, unique⟩ | ⟨unsupported, -⟩
    · rw [made, ← (unique _).mp spells.denotes]
      rfl
    · exact absurd spells.supported unsupported

/-- A union with a frame, a point and the complement of a circle. -/
theorem read_text_union : ∃ value,
    read " Union icrs (position fk5 +10.7 -2e1 not (circle 1 2 .5) )" = .ok value ∧
      value.text = "UNION icrs(Position 10.7 -20 NOT(Circle 1 2 0.5))" ∧
        read value.text = .ok (value.mapAngles fun x => printedAngle x * radiansPerDegree) := by
  have checked : (match read " Union icrs (position fk5 +10.7 -2e1 not (circle 1 2 .5) )" with
      | .ok value => value.text == "UNION icrs(Position 10.7 -20 NOT(Circle 1 2 0.5))" &&
          value.angles.all fun x => Decimal.isFinite (degrees x)
      | .error _ => false) = true := by
    decide +kernel
  split at checked
  · next value found =>
      obtain ⟨printed, finite⟩ := Bool.and_eq_true_iff.mp checked
      exact ⟨value, found, eq_of_beq printed, (read_text found (List.all_eq_true.mp finite)).2⟩
  · cases checked

end SkySql.Stcs
