import SkySql.Proofs.Stcs.Rereading

set_option autoImplicit false

/-!
Reading a region accepts exactly the grammar. Every number of the grammar has a value, so a written
region is refused only for its flavor, its number of coordinates or its depth, and its value is the
one it stands for.
-/

namespace SkySql.Stcs

section Numbers

variable {sign digits mantissa exponent : List Char}

theorem takeSign_decimal {body : List Char} (isSign : IsSign sign)
    (stops : ∀ c ∈ body.head?, c ≠ '+' ∧ c ≠ '-') :
    ∃ negative, Decimal.takeSign (sign ++ body) = (negative, body) := by
  rcases isSign with rfl | rfl | rfl
  · refine ⟨false, ?_⟩
    rw [List.nil_append]
    unfold Decimal.takeSign
    split
    · cases (stops '-' rfl).2 rfl
    · cases (stops '+' rfl).1 rfl
    · rfl
  · exact ⟨false, rfl⟩
  · exact ⟨true, rfl⟩

theorem IsExponent.value (isExponent : IsExponent exponent) :
    ∃ power, Decimal.exponent? exponent = some power := by
  cases isExponent with
  | absent => exact ⟨0, rfl⟩
  | @present mark sign digits isMark isSign isDigits =>
      have noSign : ∀ c ∈ digits.head?, c ≠ '+' ∧ c ≠ '-' := by
        obtain ⟨digit, tail, rfl, isDigit⟩ := isDigits.head
        rintro c ⟨⟩
        constructor <;> rintro rfl <;> cases isDigit
      obtain ⟨negative, signed⟩ := takeSign_decimal isSign noSign
      have nonempty : digits.isEmpty = false := by simpa using isDigits.1
      have all : digits.all Char.isDigit = true := List.all_eq_true.mpr isDigits.2
      simp only [Decimal.exponent?, if_pos isMark, signed, nonempty, all]
      cases negative <;> exact ⟨_, rfl⟩

theorem IsExponent.stops (isExponent : IsExponent exponent) :
    ∀ c ∈ exponent.head?, c.isDigit = false ∧ c ≠ '.' := by
  cases isExponent with
  | absent => simp
  | present isMark =>
      rintro c ⟨⟩
      rcases isMark with rfl | rfl <;> decide

theorem IsMantissa.value (isMantissa : IsMantissa mantissa) (isExponent : IsExponent exponent) :
    ∃ parts, Decimal.unsigned? (mantissa ++ exponent) = some parts := by
  obtain ⟨power, isPower⟩ := isExponent.value
  have noDigit : ∀ c ∈ exponent.head?, c.isDigit = false := fun c first =>
    (isExponent.stops c first).1
  cases isMantissa with
  | whole isWhole =>
      have split := span_append isWhole.2 noDigit
      unfold Decimal.unsigned?
      rw [split]
      cases exponent with
      | nil => simp [isWhole.1, isPower]
      | cons mark tail =>
          have noPoint : mark ≠ '.' := (isExponent.stops mark rfl).2
          simp [noPoint, isWhole.1, isPower]
  | @pointed whole fraction isWhole isFraction =>
      have split : (whole ++ '.' :: (fraction ++ exponent)).span Char.isDigit =
          (whole, '.' :: (fraction ++ exponent)) := span_append isWhole.2 (by simp)
      have splitFraction := span_append isFraction noDigit
      rw [List.append_assoc, List.cons_append]
      simp only [Decimal.unsigned?, split, splitFraction]
      simp [isWhole.1, isPower]
  | @fraction digits isFraction =>
      have split : ('.' :: (digits ++ exponent)).span Char.isDigit =
          ([], '.' :: (digits ++ exponent)) := rfl
      have splitFraction := span_append isFraction.2 noDigit
      rw [List.cons_append]
      simp only [Decimal.unsigned?, split, splitFraction]
      simp [isFraction.1, isPower]

theorem IsNumber.value {text : List Char} (isNumber : IsNumber text) :
    ∃ value, Decimal.read? text = some value := by
  cases isNumber with
  | @parts sign mantissa exponent isSign isMantissa isExponent =>
      obtain ⟨negative, signed⟩ := takeSign_decimal isSign (isMantissa.noSign exponent)
      obtain ⟨parts, measured⟩ := isMantissa.value isExponent
      simp only [Decimal.read?, signed, measured, Option.map_some]
      generalize String.ofList ((mantissa ++ exponent).map Char.toLower) = word
      by_cases infinite : word = "inf" ∨ word = "infinity"
      · rw [if_pos infinite]
        exact ⟨_, rfl⟩
      · rw [if_neg infinite]
        by_cases undefined : word = "nan"
        · rw [if_pos undefined]
          exact ⟨_, rfl⟩
        · rw [if_neg undefined]
          exact ⟨_, rfl⟩

theorem AreNumbers.values {spellings : List (List Char)} {text : List Char}
    (areNumbers : AreNumbers spellings text) :
    ∃ numbers : List Float, spellings.map Decimal.read? = numbers.map some := by
  induction areNumbers with
  | nil => exact ⟨[], rfl⟩
  | cons _ isNumber _ inductionHypothesis =>
      obtain ⟨value, read⟩ := isNumber.value
      obtain ⟨values, others⟩ := inductionHypothesis
      exact ⟨value :: values, by simp [read, others]⟩

theorem mapM_number {spellings : List (List Char)} {numbers : List Float}
    (read : spellings.map Decimal.read? = numbers.map some) :
    spellings.mapM number = .ok numbers := by
  induction spellings generalizing numbers with
  | nil =>
      cases numbers with
      | nil => rfl
      | cons => cases read
  | cons spelling spellings inductionHypothesis =>
      cases numbers with
      | nil => cases read
      | cons value values =>
          obtain ⟨first, others⟩ := List.cons.inj read
          rw [List.mapM_cons, number, first, inductionHypothesis others]
          rfl

end Numbers

/-- A step that succeeds exactly on what is accepted, and then with the one result that is meant. -/
def Resolves {ε α : Type} (accepted : Prop) (found : Except ε α) (meant : α → Prop) : Prop :=
  (accepted ∧ ∃ a, found = .ok a ∧ ∀ other, meant other ↔ other = a) ∨
    (¬accepted ∧ ∃ e, found = .error e)

namespace Resolves

variable {ε α β γ : Type} {accepted : Prop} {found : Except ε α} {meant : α → Prop}

theorem map {better : β → Prop} (f : α → β) (resolves : Resolves accepted found meant)
    (same : ∀ b, better b ↔ ∃ a, meant a ∧ b = f a) :
    Resolves accepted (do return f (← found)) better := by
  rcases resolves with ⟨holds, a, rfl, unique⟩ | ⟨fails, e, rfl⟩
  · refine .inl ⟨holds, f a, rfl, fun other => ?_⟩
    simp only [same, unique, exists_eq_left]
  · exact .inr ⟨fails, e, rfl⟩

theorem mapError {φ : Type} (f : ε → φ) (resolves : Resolves accepted found meant) :
    Resolves accepted (found.mapError f) meant := by
  rcases resolves with ⟨holds, a, rfl, unique⟩ | ⟨fails, e, rfl⟩
  · exact .inl ⟨holds, a, rfl, unique⟩
  · exact .inr ⟨fails, f e, rfl⟩

theorem after {check : Except ε Unit} {also : Prop} (first : Resolves also check fun _ => True)
    (second : Resolves accepted found meant) :
    Resolves (also ∧ accepted) (do check; found) meant := by
  rcases first with ⟨alsoHolds, _, rfl, -⟩ | ⟨alsoFails, e, rfl⟩
  · rcases second with ⟨holds, a, rfl, unique⟩ | ⟨fails, e, rfl⟩
    · exact .inl ⟨⟨alsoHolds, holds⟩, a, rfl, unique⟩
    · exact .inr ⟨fun all => fails all.2, e, rfl⟩
  · exact .inr ⟨fun all => alsoFails all.1, e, rfl⟩

theorem both {also : Prop} {next : Except ε β} {further : β → Prop} {better : γ → Prop}
    (f : α → β → γ) (first : Resolves accepted found meant) (second : Resolves also next further)
    (same : ∀ c, better c ↔ ∃ a b, meant a ∧ further b ∧ c = f a b) :
    Resolves (accepted ∧ also) (do return f (← found) (← next)) better := by
  rcases first with ⟨holds, a, rfl, unique⟩ | ⟨fails, e, rfl⟩
  · rcases second with ⟨alsoHolds, b, rfl, alsoUnique⟩ | ⟨alsoFails, e, rfl⟩
    · refine .inl ⟨⟨holds, alsoHolds⟩, f a b, rfl, fun other => ?_⟩
      simp only [same, unique, alsoUnique]
      constructor
      · rintro ⟨_, _, rfl, rfl, rfl⟩
        rfl
      · rintro rfl
        exact ⟨a, b, rfl, rfl, rfl⟩
    · exact .inr ⟨fun all => alsoFails all.2, e, rfl⟩
  · exact .inr ⟨fun all => fails all.1, e, rfl⟩

end Resolves

section Shapes

theorem exists_vertices (numbers : List Float) (even : numbers.length % 2 = 0) :
    ∃ vertices : List (Float × Float), numbers = vertices.flatMap fun (lon, lat) => [lon, lat] := by
  match numbers with
  | [] => exact ⟨[], rfl⟩
  | [_] => cases even
  | lon :: lat :: rest =>
      have evenRest : rest.length % 2 = 0 := by
        simp only [List.length_cons] at even
        omega
      obtain ⟨vertices, split⟩ := exists_vertices rest evenRest
      exact ⟨(lon, lat) :: vertices, by simp [← split]⟩

theorem pairs_flatMap (vertices : List (Float × Float)) :
    pairs (vertices.flatMap fun (lon, lat) => [lon, lat]) =
      vertices.map fun (lon, lat) => .ofDegrees lon lat := by
  induction vertices with
  | nil => rfl
  | cons vertex vertices inductionHypothesis =>
      obtain ⟨lon, lat⟩ := vertex
      simp [pairs, inductionHypothesis]

/-- A shape takes the right number of numbers, and then has one geometry. -/
def Settles (shape : String) (numbers : List Float) : Prop :=
  Resolves (Takes shape numbers.length) (shapeGeometry shape numbers) (Depicts shape numbers)

theorem settles_position (numbers : List Float) : Settles "position" numbers := by
  match numbers with
  | [lon, lat] =>
      refine .inl ⟨by simp [Takes], _, rfl, fun other => ⟨?_, ?_⟩⟩
      · rintro (⟨-, given⟩ | ⟨isShape⟩ | ⟨isShape⟩ | ⟨isShape⟩)
        · cases given; rfl
        all_goals simp at isShape
      · rintro rfl
        exact .position rfl rfl
  | [] | [_] | _ :: _ :: _ :: _ => exact .inr ⟨by simp [Takes], _, rfl⟩

theorem settles_circle (numbers : List Float) : Settles "circle" numbers := by
  match numbers with
  | [lon, lat, radius] =>
      refine .inl ⟨by simp [Takes], _, rfl, fun other => ⟨?_, ?_⟩⟩
      · rintro (⟨isShape⟩ | ⟨-, given⟩ | ⟨isShape⟩ | ⟨isShape⟩)
        case circle => cases given; rfl
        all_goals simp at isShape
      · rintro rfl
        exact .circle rfl rfl
  | [] | [_] | [_, _] | _ :: _ :: _ :: _ :: _ => exact .inr ⟨by simp [Takes], _, rfl⟩

theorem settles_box (numbers : List Float) : Settles "box" numbers := by
  match numbers with
  | [lon, lat, width, height] =>
      refine .inl ⟨by simp [Takes], _, rfl, fun other => ⟨?_, ?_⟩⟩
      · rintro (⟨isShape⟩ | ⟨isShape⟩ | ⟨-, given⟩ | ⟨isShape⟩)
        case box => cases given; rfl
        all_goals simp at isShape
      · rintro rfl
        exact .box rfl rfl
  | [] | [_] | [_, _] | [_, _, _] | _ :: _ :: _ :: _ :: _ :: _ =>
      exact .inr ⟨by simp [Takes], _, rfl⟩

theorem shapeGeometry_polygon (numbers : List Float) :
    shapeGeometry "polygon" numbers =
      if numbers.length < 6 ∨ numbers.length % 2 ≠ 0 then
        .error (.wrongCount "polygon" "an even number (at least 6) of" numbers.length)
      else .ok (.polygon ⟨pairs numbers⟩) := rfl

theorem settles_polygon (numbers : List Float) : Settles "polygon" numbers := by
  by_cases refused : numbers.length < 6 ∨ numbers.length % 2 ≠ 0
  · refine .inr ⟨?_, _, by rw [shapeGeometry_polygon, if_pos refused]⟩
    simp [Takes]
    omega
  · refine .inl ⟨?_, _, by rw [shapeGeometry_polygon, if_neg refused], fun other => ⟨?_, ?_⟩⟩
    · simp [Takes]
      omega
    · rintro (⟨isShape⟩ | ⟨isShape⟩ | ⟨isShape⟩ | ⟨-, given⟩)
      case polygon => rw [given, pairs_flatMap]
      all_goals simp at isShape
    · rintro rfl
      obtain ⟨vertices, given⟩ := exists_vertices numbers (by omega)
      rw [given, pairs_flatMap]
      exact .polygon rfl rfl

theorem settles_of_mem {shape : String} (known : shape ∈ shapeWords) (numbers : List Float) :
    Settles shape numbers := by
  simp only [shapeWords, List.mem_cons, List.not_mem_nil, or_false] at known
  rcases known with rfl | rfl | rfl | rfl
  · exact settles_position numbers
  · exact settles_circle numbers
  · exact settles_box numbers
  · exact settles_polygon numbers

end Shapes

section Values

theorem checkFlavor_resolves (text : String) (flavor : Option String) :
    Resolves (SupportedFlavor (flavor.map String.toList)) (checkFlavor text flavor)
      fun _ => True := by
  cases flavor with
  | none => exact .inl ⟨by simp [SupportedFlavor], (), rfl, by simp⟩
  | some word =>
      by_cases same : Text.sameAscii word.toList supportedFlavor.toList = true
      · refine .inl ⟨by simpa [SupportedFlavor] using same, (), ?_, by simp⟩
        rw [checkFlavor, if_pos same]
      · refine .inr ⟨by simpa [SupportedFlavor] using same, ⟨text, .flavor word⟩, ?_⟩
        rw [checkFlavor, if_neg same]

theorem Takes.mem {shape : String} {count : Nat} (takes : Takes shape count) :
    shape ∈ shapeWords := by
  rcases takes with ⟨rfl, -⟩ | ⟨rfl, -⟩ | ⟨rfl, -⟩ | ⟨rfl, -⟩ <;> decide

theorem Depicts.mem {shape : String} {numbers : List Float} {geometry : Geometry}
    (depicts : Depicts shape numbers geometry) : shape ∈ shapeWords := by
  rcases depicts with ⟨rfl, -⟩ | ⟨rfl, -⟩ | ⟨rfl, -⟩ | ⟨rfl, -⟩ <;> decide

/-- A shape is written as one word of the vocabulary only, and reading it in small letters gives
that word. -/
theorem shape_unique {shape : List Char} {known other : String} (member : known ∈ shapeWords)
    (same : Text.sameAscii shape known.toList = true) (otherMember : other ∈ shapeWords)
    (otherSame : Text.sameAscii shape other.toList = true) : other = known := by
  have apart : ∀ left ∈ shapeWords, ∀ right ∈ shapeWords,
      left.toList.map Char.toLower = right.toList.map Char.toLower → left = right := by decide
  apply apart other otherMember known member
  rw [← eq_of_beq same, ← eq_of_beq otherSame]

theorem lowerAscii_shape {shape : List Char} {known : String} (member : known ∈ shapeWords)
    (same : Text.sameAscii shape known.toList = true) :
    Text.lowerAscii (String.ofList shape) = known := by
  have small : ∀ known ∈ shapeWords, String.ofList (known.toList.map Char.toLower) = known := by
    decide
  rw [Text.lowerAscii, String.toList_ofList, eq_of_beq same]
  exact small known member

theorem geometry_resolves {literal : Literal} {known : String} {values : List Float}
    (member : known ∈ shapeWords) (same : Text.sameAscii literal.shape known.toList = true)
    (read : literal.numbers.map Decimal.read? = values.map some) :
    Resolves (SupportedFlavor literal.flavor ∧ Takes known values.length) literal.geometry
      (Depicts known values) := by
  have flavor := checkFlavor_resolves (String.ofList literal.text)
    (literal.flavor.map String.ofList)
  have kept : (literal.flavor.map String.ofList).map String.toList = literal.flavor := by
    simp [Function.comp_def]
  have shape := (settles_of_mem member values).mapError (Error.mk (String.ofList literal.text))
  rw [kept] at flavor
  rw [Literal.geometry, mapM_number read, lowerAscii_shape member same]
  exact flavor.after shape

theorem literal_resolves {literal : Literal} {text : List Char} (written : literal.Written text)
    (source : String) :
    Resolves (Draft.literal literal).Supported ((Draft.literal literal).value source)
      (Draft.literal literal).Denotes := by
  obtain ⟨known, member, same⟩ : IsWord shapeWords literal.shape := by
    cases written with
    | parts _ isShape => exact isShape
  obtain ⟨values, read⟩ : ∃ values : List Float,
      literal.numbers.map Decimal.read? = values.map some := by
    cases written with
    | parts _ _ _ areNumbers => exact areNumbers.values
  have sameLength : values.length = literal.numbers.length := by
    simpa using (congrArg List.length read).symm
  have supported : (SupportedFlavor literal.flavor ∧ Takes known values.length) =
      (Draft.literal literal).Supported := by
    rw [Draft.Supported, sameLength]
    refine propext (and_congr_right fun _ => ⟨fun takes => ⟨known, same, takes⟩, ?_⟩)
    rintro ⟨other, otherSame, takes⟩
    rwa [← shape_unique member same takes.mem otherSame]
  rw [← supported, Draft.value]
  refine (geometry_resolves member same read).map _ fun value => ⟨?_, ?_⟩
  · intro denotes
    cases denotes with
    | @literal _ shape numbers geometry isShape otherRead depicts =>
        have sameShape := shape_unique member same depicts.mem isShape
        have sameNumbers : numbers = values := by
          have mapped := otherRead.symm.trans read
          exact (List.map_inj_right fun _ _ => Option.some.inj).mp mapped
        rw [sameShape, sameNumbers] at depicts
        exact ⟨geometry, depicts, rfl⟩
  · rintro ⟨geometry, depicts, rfl⟩
    exact .literal same read depicts

mutual

theorem Draft.Written.resolves (draft : Draft) {text : List Char} (written : draft.Written text)
    (source : String) : Resolves draft.Supported (draft.value source) draft.Denotes := by
  match draft, text, written with
  | .literal _, _, .literal _ isLiteral => exact literal_resolves isLiteral source
  | .complement operand, _, .complement _ _ _ isOperand _ =>
      rw [Draft.value, Draft.Supported]
      refine (Draft.Written.resolves operand isOperand source).map _ fun value => ⟨?_, ?_⟩
      · intro denotes
        cases denotes with
        | complement denotes => exact ⟨_, denotes, rfl⟩
      · rintro ⟨inner, denotes, rfl⟩
        exact .complement denotes
  | .combination op _ _ operands, _, @Draft.Written.combination _ _ frame flavor _ _ _ _ _ _
      _ _ _ _ _ _ areOperands _ =>
      rw [Draft.value, Draft.Supported]
      refine (checkFlavor_resolves source _).after
        ((AreWritten.resolve operands areOperands source).map _ fun value => ⟨?_, ?_⟩)
      · intro denotes
        cases denotes with
        | combination denote => exact ⟨_, denote, rfl⟩
      · rintro ⟨values, denote, rfl⟩
        exact .combination denote

theorem AreWritten.resolve (drafts : List Draft) {text : List Char}
    (areWritten : AreWritten drafts text) (source : String) :
    Resolves (Draft.AllSupported drafts) (Draft.values source drafts) (AllDenote drafts) := by
  match drafts, text, areWritten with
  | [], _, .nil =>
      refine .inl ⟨trivial, [], rfl, fun others => ⟨?_, ?_⟩⟩
      · rintro ⟨⟩
        rfl
      · rintro rfl
        exact .nil
  | draft :: drafts, _, .cons written others =>
      rw [Draft.values, Draft.AllSupported]
      refine (Draft.Written.resolves draft written source).both _
        (AreWritten.resolve drafts others source) fun values => ⟨?_, ?_⟩
      · intro all
        cases all with
        | cons denotes denote => exact ⟨_, _, denotes, denote, rfl⟩
      · rintro ⟨value, rest, denotes, denote, rfl⟩
        exact .cons denotes denote

end

end Values

section Whole

variable {cs front rest : List Char}

theorem isBlank_of_trim (empty : Text.trim rest = []) : ∀ c ∈ rest, Text.isBlank c = true := by
  obtain ⟨before, after, split, allBefore, allAfter⟩ := Text.exists_surrounded_trim rest
  rw [split, empty, List.append_nil]
  exact List.forall_mem_append.mpr ⟨allBefore, allAfter⟩

theorem eq_nil_of_trim (split : Text.trim cs = front ++ rest) (empty : Text.trim rest = []) :
    rest = [] := by
  rcases List.eq_nil_or_concat rest with isNil | ⟨init, last, rfl⟩
  · exact isNil
  · have blank : Text.isBlank last = true := isBlank_of_trim empty last (by simp)
    have reversed : (cs.dropWhile Text.isBlank).reverse.dropWhile Text.isBlank =
        last :: (front ++ init).reverse := by
      have flipped := congrArg List.reverse split
      simpa [Text.trim, Text.trimEnd] using flipped
    have first := List.head?_dropWhile_not Text.isBlank (cs.dropWhile Text.isBlank).reverse
    rw [reversed] at first
    simp [blank] at first

theorem ascii_trim (ascii : Ascii cs) : Ascii (Text.trim cs) := by
  obtain ⟨before, after, split, -, -⟩ := Text.exists_surrounded_trim cs
  rw [split, ascii_append, ascii_append] at ascii
  exact ascii.1.2

/-- A written region is taken off a text that has nothing else in it. -/
theorem takeRegion?_whole {draft : Draft} {text : List Char} (written : draft.Written text)
    (ascii : Ascii text) {levels : Nat} (shallow : draft.depth < levels) :
    takeRegion? levels text = some (draft, []) := by
  have ends : EndsNumbers [] := ⟨by simp [EndsNumber], by simp⟩
  have taken : takeRegion? levels (text ++ []) = some (draft, []) :=
    takeRegion?_complete levels written shallow (by simpa using ascii) ends
  simpa using taken

theorem Draft.Written.unique {left right : Draft} {text : List Char} (first : left.Written text)
    (second : right.Written text) (ascii : Ascii text) : left = right := by
  have leftTaken := takeRegion?_whole first ascii
    (Nat.lt_succ_of_le (Nat.le_max_left left.depth right.depth))
  have rightTaken := takeRegion?_whole second ascii
    (Nat.lt_succ_of_le (Nat.le_max_right left.depth right.depth))
  rw [leftTaken] at rightTaken
  cases rightTaken
  rfl

theorem read_of_written {draft : Draft} {text : String} (ascii : Ascii text.toList)
    (written : draft.Written (Text.trim text.toList)) :
    read text =
      if draft.depth ≤ nestingLimit then draft.value text else .error ⟨text, .nestedTooDeep⟩ := by
  rw [read_eq]
  simp only [nestingDepth_written written]
  by_cases shallow : draft.depth ≤ nestingLimit
  · have taken := takeRegion?_whole written (ascii_trim ascii) (Nat.lt_succ_of_le shallow)
    rw [if_neg (Nat.not_lt.mpr shallow), if_pos shallow, taken]
    rfl
  · rw [if_pos (Nat.lt_of_not_le shallow), if_neg shallow]

theorem written_of_read {text : String} {value : Value} (ascii : Ascii text.toList)
    (found : read text = .ok value) : ∃ draft : Draft, draft.Written (Text.trim text.toList) := by
  unfold read at found
  dsimp only at found
  split at found
  · cases found
  · split at found
    · cases found
    · next draft rest taken =>
        split at found
        · next empty =>
            obtain ⟨front, split, written⟩ := takeRegion?_sound _ (ascii_trim ascii) taken
            have nothing := eq_nil_of_trim split (List.isEmpty_iff.mp empty)
            rw [nothing, List.append_nil] at split
            rw [split]
            exact ⟨draft, written⟩
        · cases found

end Whole

/-- Reading accepts exactly the regions of the grammar whose parentheses nest at most 64 deep, whose
flavors are supported and whose literals have the right number of coordinates. The value is the one
that the region stands for. No text can be read in two ways. -/
theorem read_eq_ok_iff (text : String) (ascii : ∀ c ∈ text.toList, c.toNat < 128) :
    (∀ value, read text = .ok value ↔
      ∃ draft : Draft, draft.Written (Text.trim text.toList) ∧ draft.depth ≤ 64 ∧
        draft.Supported ∧ draft.Denotes value) ∧
    (∀ left right : Draft, left.Written (Text.trim text.toList) →
      right.Written (Text.trim text.toList) → left = right) ∧
    ∀ draft : Draft, draft.Written (Text.trim text.toList) → draft.Supported →
      ∃! value, draft.Denotes value := by
  refine ⟨fun value => ⟨?_, ?_⟩, fun left right first second => ?_, fun draft written supported => ?_⟩
  · intro found
    obtain ⟨draft, written⟩ := written_of_read ascii found
    rw [read_of_written ascii written] at found
    split at found
    · next shallow =>
        rcases Draft.Written.resolves draft written text with
          ⟨supported, result, made, unique⟩ | ⟨-, e, made⟩
        · rw [made] at found
          cases found
          exact ⟨draft, written, shallow, supported, (unique value).mpr rfl⟩
        · rw [made] at found
          cases found
    · cases found
  · rintro ⟨draft, written, shallow, supported, denotes⟩
    have within : draft.depth ≤ nestingLimit := shallow
    rw [read_of_written ascii written, if_pos within]
    rcases Draft.Written.resolves draft written text with
      ⟨-, result, made, unique⟩ | ⟨unsupported, -⟩
    · rw [made, (unique value).mp denotes]
    · cases unsupported supported
  · exact first.unique second (ascii_trim ascii)
  · rcases Draft.Written.resolves draft written text with
      ⟨-, value, -, unique⟩ | ⟨unsupported, -⟩
    · exact ⟨value, (unique value).mpr rfl, fun other denotes => (unique other).mp denotes⟩
    · cases unsupported supported

/-- The complement of a point, with a frame and numbers of two kinds. -/
theorem read_eq_ok_iff_complement : ∃ value, read "not (position ICRS 1 .5)" = .ok value := by
  have gap : IsGap Text.isBlank [' '] := ⟨by simp, List.all_eq_true.mp rfl⟩
  have one : IsNumber ['1'] :=
    @IsNumber.parts [] ['1'] [] (.inl rfl) (.whole ⟨by simp, List.all_eq_true.mp rfl⟩) .absent
  have half : IsNumber ['.', '5'] :=
    @IsNumber.parts [] ['.', '5'] [] (.inl rfl)
      (.fraction ⟨by simp, List.all_eq_true.mp rfl⟩) .absent
  have numbers : AreNumbers [['1'], ['.', '5']] [' ', '1', ' ', '.', '5'] :=
    .cons gap one (.cons gap half .nil)
  have header : IsHeader Text.isBlank (some "ICRS".toList) none (' ' :: "ICRS".toList) :=
    @IsHeader.parts _ _ none none (' ' :: "ICRS".toList) [] []
      (.present gap ⟨"ICRS", by decide, by decide⟩) .absent .absent
  have literal := @Literal.Written.parts [] "position".toList _ _ _ _ _ (by simp)
    ⟨"position", by decide, by decide⟩ header numbers (by simp)
  have written := @Draft.Written.complement _ [] "not".toList [' '] _ [] (by simp) (by decide)
    (List.all_eq_true.mp rfl) (@Draft.Written.literal _ [] _ (by simp) literal) (by simp)
  have supported : Draft.Supported (.complement (.literal
      ⟨"position".toList ++ (' ' :: "ICRS".toList ++ [' ', '1', ' ', '.', '5']), "position".toList,
        none, [['1'], ['.', '5']]⟩)) :=
    ⟨by simp [SupportedFlavor], "position", by decide, .inl ⟨rfl, rfl⟩⟩
  have ascii : ∀ c ∈ "not (position ICRS 1 .5)".toList, c.toNat < 128 := by
    have all : "not (position ICRS 1 .5)".toList.all (fun c => decide (c.toNat < 128)) = true := by
      decide
    exact fun c membership => of_decide_eq_true (List.all_eq_true.mp all c membership)
  have spec := read_eq_ok_iff "not (position ICRS 1 .5)" ascii
  obtain ⟨value, denotes, -⟩ := spec.2.2 _ written supported
  exact ⟨value, (spec.1 value).mpr ⟨_, written, by decide, supported, denotes⟩⟩

end SkySql.Stcs
