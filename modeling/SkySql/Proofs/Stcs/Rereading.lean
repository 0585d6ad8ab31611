import SkySql.Proofs.Stcs.LiteralPattern
import SkySql.Proofs.Stcs.Nesting
import SkySql.Proofs.Stcs.Region

set_option autoImplicit false

/-!
The text of a literal is taken apart twice: at the front of the input, where it tells how far the
literal goes, and once more on its own, where it tells the parts. Both times the same literal is found.
Hence the second match never fails, and the value of a region is the one that the parts of the first
match have.
-/

namespace SkySql.Stcs

section Literals

variable {cs rest : List Char} {literal : Literal} {m : Match}

theorem text_of_takeLiteral? (taken : takeLiteral? cs = some (literal, rest)) :
    literal.text = (cs.dropWhile Text.isBlank).take
      ((cs.dropWhile Text.isBlank).length - rest.length) := by
  unfold takeLiteral? at taken
  dsimp only at taken
  split at taken
  · split at taken
    · cases taken
    · cases taken
      rfl
  · cases taken

/-- A match of the literal expression has blanks at its front only. What stands after them is matched
again, from its first to its last character and with the same captures. -/
theorem blanks_of_find? (found : literalPattern.find? cs = some m) :
    ∃ blanks, m.text = blanks ++ Text.trim m.text ∧ (∀ c ∈ blanks, Text.isBlank c = true) ∧
      Text.trim (Text.trim m.text) = Text.trim m.text ∧
      literalPattern.find? (Text.trim m.text) = some { m with text := Text.trim m.text } := by
  rw [find?_literalPattern] at found
  obtain ⟨inner, foundInner, rfl⟩ := Option.map_eq_some_iff.mp found
  have blankSplit := List.span_eq_takeWhile_dropWhile Text.isBlank cs
  generalize cs.takeWhile Text.isBlank = blanks at blankSplit
  generalize cs.dropWhile Text.isBlank = start at blankSplit foundInner
  obtain ⟨-, areBlanks, stops⟩ := eq_append_of_span blankSplit
  have dropped : start.dropWhile Text.isBlank = start :=
    @dropWhile_append_of_stops Text.isBlank [] start (List.forall_mem_nil _) stops
  have skipped : start.takeWhile Text.isBlank = [] := by
    have joined := List.takeWhile_append_dropWhile (p := Text.isBlank) (l := start)
    rwa [dropped, List.append_left_eq_self] at joined
  -- Without the blanks in front the match is the same, and it finds itself again on its own text.
  have matched : literalPattern.find? start = some inner := by
    rw [find?_literalPattern, dropped, skipped, foundInner]
    rfl
  obtain ⟨rest, rfl⟩ := (Pattern.taken_of_find? matched).1
  have taken : takeLiteral? (inner.text ++ rest) = some (inner.literal, rest) := by
    rw [takeLiteral?_eq, matched, Option.map_some, List.drop_left]
  have trimmed : Text.trim inner.text = inner.text := by
    have text := text_of_takeLiteral? taken
    rwa [dropped, List.length_append, Nat.add_sub_cancel, List.take_left] at text
  have kept : Text.trim (blanks ++ inner.text) = inner.text := by
    rw [Text.trim_append_left_of_all_blank areBlanks, trimmed]
  simp only [Match.text_append, kept]
  exact ⟨blanks, rfl, areBlanks, trimmed, Pattern.find?_text matched⟩

/-- A literal that is found again in its own text, from its first to its last character. -/
def Literal.Stable (literal : Literal) : Prop := takeLiteral? literal.text = some (literal, [])

/-- The literal at the front of a text stands there after blanks, and is found again on its own. -/
theorem stable_of_takeLiteral? (taken : takeLiteral? cs = some (literal, rest)) :
    ∃ blanks, cs = blanks ++ (literal.text ++ rest) ∧ (∀ c ∈ blanks, Text.isBlank c = true) ∧
      Text.trim literal.text = literal.text ∧ literal.Stable := by
  rw [takeLiteral?_eq] at taken
  obtain ⟨m, found, same⟩ := Option.map_eq_some_iff.mp taken
  cases same
  obtain ⟨blanks, split, areBlanks, trimmed, again⟩ := blanks_of_find? found
  have same : Match.literal { m with text := Text.trim m.text } = m.literal := by
    rw [Match.literal, trimmed]
    rfl
  refine ⟨blanks, ?_, areBlanks, trimmed, ?_⟩
  · obtain ⟨rest, rfl⟩ := (Pattern.taken_of_find? found).1
    rw [List.drop_left, ← List.append_assoc, Match.literal, ← split]
  · rw [Literal.Stable, Match.literal, takeLiteral?_eq, again, Option.map_some, List.drop_length, same]
    rfl

theorem Pattern.admits_anyOf (words : List String) (c : Char) : (anyOf words).admits c =
    words.any fun known => (word known.toList).admits c := by
  induction words with
  | nil => rfl
  | cons known words inductionHypothesis => rw [anyOf, admits, inductionHypothesis, List.any_cons]

theorem Pattern.admits_header (slot : Slot) (words : List String) (c : Char) :
    (header slot words).admits c = (gap.admits c || (anyOf words).admits c) := by
  have sorted : (anyOf (longestFirst words)).admits c = (anyOf words).admits c := by
    rw [admits_anyOf, admits_anyOf, Bool.eq_iff_iff]
    simp [longestFirst, List.any_eq_true]
  rw [header, optional, admits, admits, admits, admits, sorted, Bool.or_false]

theorem not_admits_parentheses :
    literalPattern.admits '(' = false ∧ literalPattern.admits ')' = false := by
  simp only [literalPattern, Pattern.fromShape, Pattern.fromFrame, Pattern.fromPosition,
    Pattern.fromFlavor, Pattern.coordinates, Pattern.admits, Pattern.admits_header]
  decide +kernel

theorem Literal.Stable.find? (stable : literal.Stable) :
    ∃ m, literalPattern.find? literal.text = some m ∧ m.text = literal.text := by
  have found := takeLiteral?_eq literal.text
  rw [stable] at found
  obtain ⟨m, matched, same⟩ := Option.map_eq_some_iff.mp found.symm
  obtain ⟨⟨rest, joined⟩, -⟩ := Pattern.taken_of_find? matched
  have nothing : rest = [] := by
    have dropped := congrArg Prod.snd same
    rwa [← joined, List.drop_left] at dropped
  rw [nothing, List.append_nil] at joined
  exact ⟨m, matched, joined⟩

theorem Literal.Stable.plain (stable : literal.Stable) : Plain literal.text := by
  obtain ⟨m, matched, whole⟩ := stable.find?
  rw [← whole]
  exact plain_of_class literalPattern.admits (Pattern.taken_of_find? matched).2
    not_admits_parentheses.1 not_admits_parentheses.2

theorem literalGeometry_eq (stable : literal.Stable) :
    literalGeometry literal.text = literal.geometry := by
  rw [literalGeometry, stable]

end Literals

mutual

/-- How a draft lies in the text that it was taken from. Nothing but its operators has parentheses. -/
inductive Draft.Covers : Draft → List Char → Prop
  | literal {literal : Literal} {blanks : List Char}
      (areBlanks : ∀ c ∈ blanks, Text.isBlank c = true) (stable : literal.Stable) :
      Draft.Covers (.literal literal) (blanks ++ literal.text)
  | complement {operand : Draft} {front text final : List Char} (plain : Plain front)
      (covers : operand.Covers text) (areFinal : ∀ c ∈ final, isSpace c = true) :
      Draft.Covers (.complement operand) (front ++ '(' :: (text ++ (final ++ [')'])))
  | combination {op : RegionOp} {frame flavor : Option String} {operands : List Draft}
      {front text final : List Char} (plain : Plain front) (cover : AllCover operands text)
      (areFinal : ∀ c ∈ final, isSpace c = true) :
      Draft.Covers (.combination op frame flavor operands)
        (front ++ '(' :: (text ++ (final ++ [')'])))

inductive AllCover : List Draft → List Char → Prop
  | nil : AllCover [] []
  | cons {draft : Draft} {drafts : List Draft} {text rest : List Char} (covers : draft.Covers text)
      (cover : AllCover drafts rest) : AllCover (draft :: drafts) (text ++ rest)

end

/-- Whatever is taken covers the text up to the rest. -/
def Covering (operand : Taker Draft) : Prop :=
  ∀ {cs : List Char} {draft : Draft} {rest : List Char}, operand cs = some (draft, rest) →
    ∃ text, cs = text ++ rest ∧ draft.Covers text

section Covering

variable {operand : Taker Draft} {cs rest : List Char} {draft : Draft}

theorem plain_of_takeHeader {words : List String} {word : Option String}
    (taken : takeHeader words cs = (word, rest)) : ∃ text, cs = text ++ rest ∧ Plain text := by
  unfold takeHeader at taken
  rcases splitSpaces : cs.span isSpace with ⟨_ | ⟨first, spaces⟩, after⟩
  · rw [splitSpaces] at taken
    cases taken
    exact ⟨[], rfl, plain_nil⟩
  · obtain ⟨rfl, areSpaces, -⟩ := eq_append_of_span splitSpaces
    rcases splitWord : after.span isWordChar with ⟨letters, final⟩
    obtain ⟨rfl, areLetters, -⟩ := eq_append_of_span splitWord
    simp only [splitSpaces, splitWord] at taken
    split at taken
    · cases taken
      exact ⟨first :: spaces ++ letters, by simp, plain_append
        (plain_of_class isSpace areSpaces rfl rfl) (plain_of_class isWordChar areLetters rfl rfl)⟩
    · cases taken
      exact ⟨[], rfl, plain_nil⟩

/-- What stands between an operator and its operands. -/
theorem plain_of_opening (opened : afterChar? '(' (skipSpaces cs) = some rest) :
    ∃ text, cs = text ++ '(' :: rest ∧ Plain text := by
  obtain ⟨spaces, split, areSpaces⟩ := eq_append_skipSpaces cs
  rw [eq_cons_of_afterChar? opened] at split
  exact ⟨spaces, split, plain_of_class isSpace areSpaces rfl rfl⟩

theorem spaces_of_closing (closed : afterChar? ')' (skipSpaces cs) = some rest) :
    ∃ final, cs = final ++ ')' :: rest ∧ ∀ c ∈ final, isSpace c = true := by
  obtain ⟨spaces, split, areSpaces⟩ := eq_append_skipSpaces cs
  rw [eq_cons_of_afterChar? closed] at split
  exact ⟨spaces, split, areSpaces⟩

/-- An operator and its optional words, up to the operands. -/
theorem plain_of_combination {op : RegionOp} {afterWord : List Char}
    (taken : takeOperator? cs = some (op, afterWord))
    (opened : afterChar? '(' (skipSpaces (takeHeader flavorWords (takeHeader positionWords
      (takeHeader frameWords afterWord).2).2).2) = some rest) :
    ∃ text, cs = text ++ '(' :: rest ∧ Plain text := by
  obtain ⟨word, rfl, isOperator, same⟩ := operator_of_takeOperator? taken
  have plainWord : Plain word := by
    apply plain_of_sameAscii same
    rcases isOperator with rfl | rfl
    · exact List.all_eq_true.mp rfl
    · exact List.all_eq_true.mp rfl
  rcases takenFrame : takeHeader frameWords afterWord with ⟨frame, afterFrame⟩
  rw [takenFrame] at opened
  rcases takenPosition : takeHeader positionWords afterFrame with ⟨position, afterPosition⟩
  rw [takenPosition] at opened
  rcases takenFlavor : takeHeader flavorWords afterPosition with ⟨flavor, afterFlavor⟩
  rw [takenFlavor] at opened
  obtain ⟨frameText, rfl, plainFrame⟩ := plain_of_takeHeader takenFrame
  obtain ⟨positionText, rfl, plainPosition⟩ := plain_of_takeHeader takenPosition
  obtain ⟨flavorText, rfl, plainFlavor⟩ := plain_of_takeHeader takenFlavor
  obtain ⟨spaces, rfl, plainSpaces⟩ := plain_of_opening opened
  exact ⟨word ++ (frameText ++ (positionText ++ (flavorText ++ spaces))), by simp,
    plain_append plainWord (plain_append plainFrame (plain_append plainPosition
      (plain_append plainFlavor plainSpaces)))⟩

theorem plain_of_complement {afterWord : List Char} (found : afterKeyword? "NOT" cs = some afterWord)
    (opened : afterChar? '(' (skipSpaces afterWord) = some rest) :
    ∃ text, cs = text ++ '(' :: rest ∧ Plain text := by
  obtain ⟨word, rfl, same⟩ := eq_append_of_afterKeyword? found
  have plainWord : Plain word := plain_of_sameAscii same (List.all_eq_true.mp rfl)
  obtain ⟨spaces, rfl, plainSpaces⟩ := plain_of_opening opened
  exact ⟨word ++ spaces, by simp, plain_append plainWord plainSpaces⟩

theorem covers_of_takeComplement? (covering : Covering operand)
    (taken : takeComplement? operand cs = some (draft, rest)) :
    ∃ text, cs = text ++ rest ∧ draft.Covers text := by
  simp only [takeComplement?, Option.bind_eq_bind, Option.bind_eq_some_iff] at taken
  obtain ⟨first, afterWord, second, opened, ⟨inner, third⟩, takenInner, last, closed, result⟩ := taken
  cases result
  obtain ⟨front, rfl, plain⟩ := plain_of_complement afterWord opened
  obtain ⟨text, rfl, covers⟩ := covering takenInner
  obtain ⟨final, rfl, areFinal⟩ := spaces_of_closing closed
  exact ⟨front ++ '(' :: (text ++ (final ++ [')'])), by simp, .complement plain covers areFinal⟩

theorem cover_of_takeMany (covering : Covering operand) {bound : Nat} {drafts : List Draft}
    (taken : takeMany operand bound cs = (drafts, rest)) :
    ∃ text, cs = text ++ rest ∧ AllCover drafts text := by
  induction bound generalizing cs drafts with
  | zero => cases taken; exact ⟨[], rfl, .nil⟩
  | succ bound inductionHypothesis =>
      unfold takeMany at taken
      split at taken
      · cases taken; exact ⟨[], rfl, .nil⟩
      · next first after takenFirst =>
          rcases takenOthers : takeMany operand bound after with ⟨others, final⟩
          rw [takenOthers] at taken
          cases taken
          obtain ⟨text, rfl, covers⟩ := covering takenFirst
          obtain ⟨texts, rfl, cover⟩ := inductionHypothesis takenOthers
          exact ⟨text ++ texts, by simp, .cons covers cover⟩

theorem covers_of_takeCombination? (covering : Covering operand)
    (taken : takeCombination? operand cs = some (draft, rest)) :
    ∃ text, cs = text ++ rest ∧ draft.Covers text := by
  simp only [takeCombination?, Option.bind_eq_bind, Option.bind_eq_some_iff] at taken
  obtain ⟨⟨op, afterWord⟩, takenOperator, afterOpening, opened, ⟨first, afterFirst⟩, takenFirst,
    ⟨second, afterSecond⟩, takenSecond, afterClosing, closed, result⟩ := taken
  rcases takenOthers : takeMany operand afterSecond.length afterSecond with ⟨others, afterOthers⟩
  rw [takenOthers] at closed result
  cases result
  obtain ⟨front, rfl, plain⟩ := plain_of_combination takenOperator opened
  obtain ⟨firstText, rfl, coversFirst⟩ := covering takenFirst
  obtain ⟨secondText, rfl, coversSecond⟩ := covering takenSecond
  obtain ⟨otherTexts, rfl, coverOthers⟩ := cover_of_takeMany covering takenOthers
  obtain ⟨final, rfl, areFinal⟩ := spaces_of_closing closed
  exact ⟨front ++ '(' :: ((firstText ++ (secondText ++ otherTexts)) ++ (final ++ [')'])), by simp,
    .combination plain (.cons coversFirst (.cons coversSecond coverOthers)) areFinal⟩

/-- Spaces in front of a draft belong to the text that it covers. -/
theorem Draft.Covers.spaces_append {spaces text : List Char}
    (areSpaces : ∀ c ∈ spaces, isSpace c = true) (covers : draft.Covers text) :
    draft.Covers (spaces ++ text) := by
  have plainSpaces : Plain spaces := plain_of_class isSpace areSpaces rfl rfl
  cases covers with
  | literal areBlanks stable =>
      rw [← List.append_assoc]
      exact .literal (List.forall_mem_append.mpr ⟨isBlank_of_isSpaces areSpaces, areBlanks⟩) stable
  | complement plain covers areFinal =>
      rw [← List.append_assoc]
      exact .complement (plain_append plainSpaces plain) covers areFinal
  | combination plain cover areFinal =>
      rw [← List.append_assoc]
      exact .combination (plain_append plainSpaces plain) cover areFinal

theorem takeRegion?_covering (levels : Nat) : Covering (takeRegion? levels) := by
  induction levels with
  | zero => intro cs draft rest taken; cases taken
  | succ levels inductionHypothesis =>
      intro cs draft rest taken
      obtain ⟨spaces, split, areSpaces⟩ := eq_append_skipSpaces cs
      suffices core : ∃ text, skipSpaces cs = text ++ rest ∧ draft.Covers text by
        obtain ⟨text, coreSplit, covers⟩ := core
        refine ⟨spaces ++ text, ?_, covers.spaces_append areSpaces⟩
        rw [List.append_assoc, ← coreSplit]
        exact split
      simp only [takeRegion?_succ, Option.or_eq_some_iff] at taken
      rcases taken with complement | ⟨-, combination | ⟨-, other⟩⟩
      · exact covers_of_takeComplement? inductionHypothesis complement
      · exact covers_of_takeCombination? inductionHypothesis combination
      · obtain ⟨⟨literal, after⟩, takenLiteral, result⟩ := Option.map_eq_some_iff.mp other
        cases result
        obtain ⟨blanks, coreSplit, areBlanks, -, stable⟩ := stable_of_takeLiteral? takenLiteral
        exact ⟨blanks ++ literal.text, by simpa using coreSplit, .literal areBlanks stable⟩

end Covering

mutual

/-- The value that the parts of its literals give a draft, as they were found first. -/
def Draft.value (source : String) : Draft → Except Error Value
  | .literal written => do return .concrete (← written.geometry)
  | .complement operand => do return .unresolved ⟨.not, none, [← operand.value source]⟩
  | .combination op frame flavor operands => do
      checkFlavor source flavor
      return .unresolved ⟨op, frame, ← Draft.values source operands⟩

def Draft.values (source : String) : List Draft → Except Error (List Value)
  | [] => .ok []
  | draft :: rest => do return (← draft.value source) :: (← Draft.values source rest)

end

mutual

/-- Taking the literals apart once more changes nothing. -/
theorem Draft.build_eq_value (source : String) (draft : Draft) {text : List Char}
    (covers : draft.Covers text) : draft.build source = draft.value source := by
  match draft, covers with
  | .literal written, .literal _ stable =>
      rw [Draft.build, Draft.value, literalGeometry_eq stable]
  | .complement operand, .complement _ covers _ =>
      rw [Draft.build, Draft.value, operand.build_eq_value source covers]
  | .combination op frame flavor operands, .combination _ cover _ =>
      rw [Draft.build, Draft.value, Draft.buildAll_eq_values source operands cover]

theorem Draft.buildAll_eq_values (source : String) (drafts : List Draft) {text : List Char}
    (cover : AllCover drafts text) : Draft.buildAll source drafts = Draft.values source drafts := by
  match drafts, cover with
  | [], .nil => rfl
  | draft :: drafts, .cons covers cover =>
      rw [Draft.buildAll, Draft.values, draft.build_eq_value source covers,
        Draft.buildAll_eq_values source drafts cover]

end

/-- Reading gives the value that the parts of the first matches have. -/
theorem read_eq (text : String) : read text =
    if nestingLimit < nestingDepth (Text.trim text.toList) then .error ⟨text, .nestedTooDeep⟩
    else match takeRegion? (nestingLimit + 1) (Text.trim text.toList) with
      | none => .error ⟨text, .notARegion (String.ofList (Text.trim text.toList))⟩
      | some (draft, rest) =>
          if Text.trim rest = [] then draft.value text
          else .error ⟨text, .trailing (String.ofList (Text.trim rest))⟩ := by
  unfold read
  dsimp only
  split
  · rfl
  · cases taken : takeRegion? (nestingLimit + 1) (Text.trim text.toList) with
    | none => rfl
    | some parts =>
        obtain ⟨front, -, covers⟩ := takeRegion?_covering _ taken
        simp only [Draft.build_eq_value text parts.1 covers, List.isEmpty_iff]

end SkySql.Stcs
