import SkySql.Dialect.Rules
import SkySql.Proofs.Lexical.Spelling
import SkySql.Proofs.Rendering

set_option autoImplicit false

/-!
The templates of the rules. A rule puts the texts of its operands into a template and never looks at
them again. Each template makes sound text of sound operands: a call, an operator between
parentheses, a rotation behind a geometry, an array of vertices, the clauses of a query. The one
template that puts operands into a string literal takes only numbers, which have no quotes in them.
-/

namespace SkySql

open Lexical

section Templates

variable {lhs rhs : Expr} {args : List Expr}

/-- A corner of a box is a number that has been worked out, or a difference or sum of operands. -/
theorem corner_renders {center extent : Expr} (inCenter : AllSound center.spellings)
    (inExtent : AllSound extent.spellings) :
    Renders (below center extent).render ∧ Renders (above center extent).render := by
  have symbolic (op : BinaryOp) :
      Renders (Expr.binary center op (.binary extent .div (.number "2"))).render := by
    apply Expr.renders
    refine List.forall_mem_append.mpr ⟨inCenter, List.forall_mem_append.mpr ⟨inExtent, ?_⟩⟩
    exact List.forall_mem_singleton.mpr (show Stcs.IsNumber "2".toList by decide)
  unfold below above
  cases center.asNumber? with
  | none => exact ⟨symbolic .sub, symbolic .add⟩
  | some c =>
      cases extent.asNumber? with
      | none => exact ⟨symbolic .sub, symbolic .add⟩
      | some e => exact ⟨scanned_decimal _, scanned_decimal _⟩

structure SoundCorners (corners : Corners) : Prop where
  x0 : Renders corners.x0.render
  y0 : Renders corners.y0.render
  x1 : Renders corners.x1.render
  y1 : Renders corners.y1.render

theorem sound_corners {corners : Corners} (sound : AllSound (exprSpellings args))
    (known : Shape.box.corners? args = some corners) : SoundCorners corners := by
  match args with
  | [] | [_] | [_, _] | [_, _, _] => cases known
  | x :: y :: width :: height :: _ =>
      cases known
      obtain ⟨inX, sound⟩ := List.forall_mem_append.mp sound
      obtain ⟨inY, sound⟩ := List.forall_mem_append.mp sound
      obtain ⟨inWidth, sound⟩ := List.forall_mem_append.mp sound
      obtain ⟨inHeight, -⟩ := List.forall_mem_append.mp sound
      obtain ⟨west, east⟩ := corner_renders inX inWidth
      obtain ⟨south, north⟩ := corner_renders inY inHeight
      exact ⟨west, south, east, north⟩

/-- A text that can stand between quotes as it is. -/
def Unquoted (text : String) : Prop := '\x27' ∉ text.toList

theorem unquoted_number {text : String} (isNumber : Stcs.IsNumber text.toList) : Unquoted text := by
  intro membership
  have quote := isNumber.chars _ membership
  cases quote

/-- The text of a number, also of a negated one, has no quotes in it. -/
theorem unquoted_of_asNumber? (expr : Expr) {value : Float} (sound : AllSound expr.spellings)
    (number : expr.asNumber? = some value) : Fitting (fun _ => True) Unquoted expr.render := by
  match expr with
  | .literal (.number spelling) => exact @unquoted_number spelling (sound_single sound)
  | .unary .neg operand =>
      rw [Expr.asNumber?, Option.map_eq_some_iff] at number
      obtain ⟨inner, number, -⟩ := number
      apply (unquoted_of_asNumber? operand sound number).bind
      intro text unquoted
      have enclosed : Unquoted (operandText operand text) := by
        unfold operandText
        split
        · simpa [Unquoted] using unquoted
        · exact unquoted
      -- Minus signs and parentheses are all that is put around a number.
      change Unquoted (negated _)
      unfold negated
      split <;> simpa [Unquoted] using enclosed

theorem polygonCoordinates_unquoted (sound : AllSound (exprSpellings args)) :
    Fitting (fun _ => True) (fun texts => ∀ text ∈ texts, Unquoted text)
      (polygonCoordinates args) := by
  induction args with
  | nil => exact List.forall_mem_nil _
  | cons arg rest inductionHypothesis =>
      obtain ⟨inArg, inRest⟩ := List.forall_mem_append.mp sound
      unfold polygonCoordinates
      cases number : arg.asNumber? with
      | none => exact (arg.renders inArg).bind fun _ _ => trivial
      | some value =>
          apply (unquoted_of_asNumber? arg inArg number).bind
          intro text unquoted
          apply (inductionHypothesis inRest).bind
          intro texts each
          exact List.forall_mem_cons.mpr ⟨unquoted, each⟩

theorem unquoted_commaList {texts : List String} (each : ∀ text ∈ texts, Unquoted text) :
    Unquoted (Text.commaList texts) := by
  induction texts with
  | nil => simp [Unquoted]
  | cons text rest inductionHypothesis =>
      obtain ⟨first, later⟩ := List.forall_mem_cons.mp each
      cases rest with
      | nil => exact first
      | cons next rest =>
          have others := inductionHypothesis later
          simp only [Unquoted, Text.commaList_cons_cons] at first others ⊢
          simp [first, others]

theorem unquoted_vertexTexts {texts : List String} (each : ∀ text ∈ texts, Unquoted text) :
    ∀ text ∈ vertexTexts texts, Unquoted text := by
  match texts with
  | [] | [_] => exact List.forall_mem_nil _
  | x :: y :: rest =>
      obtain ⟨first, each⟩ := List.forall_mem_cons.mp each
      obtain ⟨second, later⟩ := List.forall_mem_cons.mp each
      refine List.forall_mem_cons.mpr ⟨?_, unquoted_vertexTexts later⟩
      simp only [Unquoted] at first second ⊢
      simp [first, second]

/-- Vertices stand in a string literal, which they cannot close. -/
theorem scanned_polygon {vertices : String} (unquoted : Unquoted vertices) :
    Scanned ("'(" ++ vertices ++ ")'::polygon") := by
  have inside : Unquoted ("(" ++ vertices ++ ")") := by simpa [Unquoted] using unquoted
  have cast : Follows "::polygon" := ⟨scanned_of_plain _ rfl, by simp⟩
  have parts : "'(" ++ vertices ++ ")'::polygon" =
      "'" ++ ("(" ++ vertices ++ ")") ++ "'" ++ "::polygon" := by
    rw [← String.toList_inj]
    simp
  rw [parts]
  exact (scanned_unquoted inside).append cast

theorem geometryText_renders (shape : Shape) (sound : AllSound (exprSpellings args)) :
    Renders (geometryText shape args) := by
  unfold geometryText
  cases valid : shape.takes args.length with
  | false => exact trivial
  | true =>
      simp only [Bool.not_true, Bool.false_eq_true, if_false]
      cases shape with
      | point =>
          obtain ⟨x, y, rfl⟩ := List.length_eq_two.mp (by simpa [Shape.takes] using valid)
          obtain ⟨inX, sound⟩ := List.forall_mem_append.mp sound
          obtain ⟨inY, -⟩ := List.forall_mem_append.mp sound
          apply (x.renders inX).bind
          intro x isX
          apply (y.renders inY).bind
          intro y isY due
          simp [isX, isY]
      | circle =>
          obtain ⟨x, y, radius, rfl⟩ := List.length_eq_three.mp (by simpa [Shape.takes] using valid)
          obtain ⟨inX, sound⟩ := List.forall_mem_append.mp sound
          obtain ⟨inY, sound⟩ := List.forall_mem_append.mp sound
          obtain ⟨inRadius, -⟩ := List.forall_mem_append.mp sound
          apply (x.renders inX).bind
          intro x isX
          apply (y.renders inY).bind
          intro y isY
          apply (radius.renders inRadius).bind
          intro radius isRadius due
          simp [isX, isY, isRadius]
      | box =>
          cases known : Shape.box.corners? args with
          | none =>
              simp only [known]
              exact trivial
          | some corners =>
              have isSound := sound_corners sound known
              simp only [known]
              apply isSound.x0.bind
              intro x0 isX0
              apply isSound.y0.bind
              intro y0 isY0
              apply isSound.x1.bind
              intro x1 isX1
              apply isSound.y1.bind
              intro y1 isY1 due
              simp [isX0, isY0, isX1, isY1]
      | polygon =>
          apply (polygonCoordinates_unquoted sound).bind
          intro texts each
          exact scanned_polygon (unquoted_commaList (unquoted_vertexTexts each))

theorem scanned_array {texts : List String} (each : ∀ text ∈ texts, Scanned text) :
    Scanned ("ARRAY[" ++ Text.commaList texts ++ "]") :=
  fun due => by simp [scanned_commaList each]

/-- A rotation that goes behind the text of a geometry, if there is any. -/
abbrev Rotates : Except Error (Option String) → Prop :=
  Fitting (fun _ => True) fun rotation => ∀ text ∈ rotation, Follows text

theorem follows_transformation {sign : String} (scanned : Scanned sign) (angles : EulerAngles) :
    Follows (Frame.transformation sign angles) where
  scanned due := by simp [Frame.transformation, scanned]
  mild := by simp [Frame.transformation]

theorem rotates_angles {sign : String} (scanned : Scanned sign) (frame : Frame) :
    Rotates (do return (← frame.angles).map (Frame.transformation sign)) := by
  apply fitting_of_eq_ok fun _ => trivial
  intro rotation made text found
  obtain ⟨angles, -, made⟩ := bind_eq_ok_iff.mp made
  cases made
  obtain ⟨turn, -, rfl⟩ := Option.map_eq_some_iff.mp found
  exact follows_transformation scanned turn

theorem rotates_toIcrs (frame : Frame) : Rotates frame.toIcrs :=
  rotates_angles (fun due => by simp) frame

theorem rotates_fromIcrs : Rotates Frame.fromIcrs :=
  rotates_angles (scanned_of_plain _ rfl) .icrs

theorem follows_getD {rotation : Option String} (each : ∀ text ∈ rotation, Follows text) :
    Follows (rotation.getD "") := by
  cases rotation with
  | none => exact .empty
  | some text => exact each text rfl

theorem rotates_rotation (source target : Frame) : Rotates (source.rotation target) := by
  have unneeded : ∀ text ∈ (none : Option String), Follows text := by simp
  unfold Frame.rotation
  split
  · exact unneeded
  · split
    · exact rotates_fromIcrs
    · split
      · exact rotates_toIcrs source
      · apply (rotates_toIcrs source).bind
        intro first isFirst
        apply rotates_fromIcrs.bind
        intro second isSecond
        split
        · exact unneeded
        · intro text found
          cases found
          exact (follows_getD isFirst).append (follows_getD isSecond)

theorem scanned_of_conform {text source target turned : String} (scanned : Scanned text)
    (made : Frame.conform text source target = .ok turned) : Scanned turned := by
  obtain ⟨rotation, found, made⟩ := bind_eq_ok_iff.mp made
  obtain ⟨first, -, found⟩ := bind_eq_ok_iff.mp found
  obtain ⟨second, -, found⟩ := bind_eq_ok_iff.mp found
  have each := (rotates_rotation first second).holds found
  cases rotation with
  | none =>
      cases made
      exact scanned
  | some after =>
      cases made
      have follows := each after rfl
      intro due
      simp [scanned, follows.scanned, follows.mild]

theorem testText_renders (test : GeometryTest) (inLeft : AllSound lhs.spellings)
    (inRight : AllSound rhs.spellings) : Renders (testText test lhs rhs) := by
  unfold testText
  apply (lhs.renders inLeft).bind
  intro left isLeft
  apply (rhs.renders inRight).bind
  intro right isRight
  have symbol : Scanned test.operator := scanned_of_plain _ (by cases test <;> rfl)
  have whole (turned : String) (isTurned : Scanned turned) :
      Scanned ("(" ++ turned ++ ") " ++ test.operator ++ " (" ++ right ++ ")") := by
    intro due
    simp [isTurned, symbol, isRight]
  -- Whether the left side has been rotated or not, it stands in parentheses again.
  dsimp only
  split
  · next source target _ _ =>
      cases made : Frame.conform left source target with
      | error e => exact trivial
      | ok turned => exact whole turned (scanned_of_conform isLeft made)
  · exact whole left isLeft

theorem accessorText_renders {arg : Expr} (kind : PointAccessor) (sound : AllSound arg.spellings) :
    Renders (accessorText kind arg) := by
  cases kind with
  | coord1 | coord2 =>
      apply (arg.renders sound).bind
      intro text isText due
      simp [isText]
  | coordSystem => exact scanned_quote _

theorem isName_of_renamed? {name other : String} (known : renamed? name = some other) :
    isName other = true := by
  unfold renamed? at known
  split at known <;> cases known <;> rfl

/-- A function is kept under a name, or its argument is put into a template. -/
theorem functionRewrite_sound {name : String} (own : isName name = true)
    (sound : AllSound (exprSpellings args)) :
    Fitting (fun _ => True) (fun rewrite => AllSound (rewrite.settle Expr.verbatim).spellings)
      (functionRewrite name args) := by
  unfold functionRewrite
  cases known : renamed? (Text.upperAscii name) with
  | some other =>
      simp only [known]
      exact sound_named (isName_of_renamed? known) sound
  | none =>
      simp only [known]
      split
      · match args with
        | [] => exact sound_verbatim fun due => by simp
        | [seed] =>
            -- The minus sign of the template stands between two calls.
            apply (seed.renders (List.forall_mem_append.mp sound).1).bind
            intro text isText
            exact sound_verbatim fun due => by simp [isText]
        | _ :: _ :: _ => exact trivial
      · split
        · match args with
          | [arg] =>
              apply (arg.renders (List.forall_mem_append.mp sound).1).bind
              intro text isText
              exact sound_verbatim fun due => by simp [isText]
          | [] | _ :: _ :: _ => exact trivial
        · exact sound_named own sound

theorem polarity_renders {text : String} (isText : Scanned text) (polarity : Option Bool)
    (e : Error) :
    Renders (match polarity with
      | some true => .ok text
      | some false => .ok ("NOT (" ++ text ++ ")")
      | none => .error e) := by
  cases polarity with
  | none => exact trivial
  | some positive =>
      cases positive with
      | true => exact isText
      | false =>
          intro due
          simp [isText]

theorem testCondition_renders (op : CompareOp) (inLeft : AllSound lhs.spellings)
    (inRight : AllSound rhs.spellings) : Renders (testCondition lhs op rhs) := by
  unfold testCondition
  dsimp only
  split
  · split
    · exact (rhs.renders inRight).bind fun _ isText => polarity_renders isText _ _
    · exact trivial
  · split
    · exact (lhs.renders inLeft).bind fun _ isText => polarity_renders isText _ _
    · exact trivial
  · exact trivial

theorem renderSelect_renders (query : Query) (sound : AllSound query.spellings) :
    Renders query.renderSelect := by
  apply (query.clauses_sound sound).bind
  intro clauses isSound
  have quantifier : Follows (quantifierText query.quantifier) := by
    have name := query.isName_quantifier sound
    unfold quantifierText
    split
    · next word found =>
        split
        · exact .empty
        · exact .blank (scanned_upper (name word found))
    · exact .empty
  have items := scanned_commaList isSound.items
  have limit := Follows.countClause "LIMIT" rfl query.rowLimit
  have offset := Follows.countClause "OFFSET" rfl query.startOffset
  exact (((((scanned_of_plain "SELECT" rfl).append quantifier).spaced items).append
    isSound.body).append limit).append offset

theorem renderDerived_renders {name : String} (statement : Statement) (own : isName name = true)
    (sound : AllSound statement.spellings) : Renders (renderDerived statement name) := by
  apply (statement.renders sound).bind
  intro text isText
  exact scanned_derivedText isText own

end Templates

/-- The names of database functions that rules write. -/
def DialectConfig.functionNames (config : DialectConfig) : List String :=
  [config.distanceFunction, config.distanceFunctionDeg, config.centroidFunction,
    config.indexJoinFunction, config.indexPolyFunction]

section Calls

variable {config : DialectConfig} {args : List Expr}
  (names : ∀ name ∈ config.functionNames, isName name = true)

include names

theorem scanned_functions :
    Scanned config.distanceFunction ∧ Scanned config.distanceFunctionDeg ∧
      Scanned config.centroidFunction ∧ Scanned config.indexJoinFunction ∧
        Scanned config.indexPolyFunction := by
  have each (name : String) (membership : name ∈ config.functionNames) : Scanned name :=
    scanned_name (names name membership)
  simpa [DialectConfig.functionNames] using each

theorem distanceText_renders (sound : AllSound (exprSpellings args)) :
    Renders (distanceText config args) := by
  obtain ⟨points, degrees, -⟩ := scanned_functions names
  unfold distanceText
  split
  · exact (exprs_render args sound).bind fun _ each => scanned_callText points each
  · exact (exprs_render args sound).bind fun _ each => scanned_callText degrees each
  · exact trivial

theorem centroidText_renders (sound : AllSound (exprSpellings args)) :
    Renders (centroidText config args) := by
  obtain ⟨-, -, center, -⟩ := scanned_functions names
  match args with
  | [arg] =>
      apply (arg.renders (List.forall_mem_append.mp sound).1).bind
      intro text isText
      exact scanned_callText center (List.forall_mem_singleton.mpr isText)
  | [] | _ :: _ :: _ => exact trivial

/-- The index call for a search. The vertices of a box or polygon stand in an array. -/
theorem search_renders (search : Search) (inX : AllSound search.x.spellings)
    (inY : AllSound search.y.spellings) (inShape : AllSound (exprSpellings search.args)) :
    Fitting (fun _ => True) (fun call => ∀ text ∈ call, Scanned text) (search.call? config) := by
  obtain ⟨-, -, -, join, poly⟩ := scanned_functions names
  have call {text : String} (scanned : Scanned text) : ∀ found ∈ some text, Scanned found := by
    rintro found ⟨⟩
    exact scanned
  have uncalled : ∀ found ∈ (none : Option String), Scanned found := by simp
  obtain ⟨x, y, shape, args⟩ := search
  apply (x.renders inX).bind
  intro x isX
  apply (y.renders inY).bind
  intro y isY
  cases shape with
  | point => exact uncalled
  | circle =>
      match args with
      | [] | [_] | [_, _] => exact uncalled
      | centerX :: centerY :: radius :: _ =>
          obtain ⟨inX, inShape⟩ := List.forall_mem_append.mp inShape
          obtain ⟨inY, inShape⟩ := List.forall_mem_append.mp inShape
          obtain ⟨inRadius, -⟩ := List.forall_mem_append.mp inShape
          apply (centerX.renders inX).bind
          intro centerX isCenterX
          apply (centerY.renders inY).bind
          intro centerY isCenterY
          apply (radius.renders inRadius).bind
          intro radius isRadius
          apply call (scanned_callText join _)
          simp [isX, isY, isCenterX, isCenterY, isRadius]
  | box =>
      cases known : Shape.box.corners? args with
      | none =>
          simp only [known]
          exact uncalled
      | some corners =>
          simp only [known]
          have corners := sound_corners inShape known
          apply corners.x0.bind
          intro x0 isX0
          apply corners.y0.bind
          intro y0 isY0
          apply corners.x1.bind
          intro x1 isX1
          apply corners.y1.bind
          intro y1 isY1
          have vertices : Scanned ("ARRAY[" ++
              Text.commaList [x0, y0, x0, y1, x1, y1, x1, y0] ++ "]") := by
            apply scanned_array
            simp [isX0, isY0, isX1, isY1]
          apply call (scanned_callText poly _)
          simp [isX, isY, vertices]
  | polygon =>
      have list : Fitting (fun _ => True) (fun text => Scanned ("ARRAY[" ++ text ++ "]"))
          (renderList args) :=
        (exprs_render args inShape).bind fun _ each => scanned_array each
      apply list.bind
      intro text isText
      apply call (scanned_callText poly _)
      simp [isX, isY, isText]

end Calls

end SkySql
