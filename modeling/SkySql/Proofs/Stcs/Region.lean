import SkySql.Proofs.Stcs.Literal

set_option autoImplicit false

/-!
Taking a region off the front of an ASCII text agrees with the grammar in both directions. Regions
begin with different letters and never with one that could go on with a number, so neither the order
in which the kinds of region are tried nor the greed of a literal loses a region.
-/

namespace SkySql.Stcs

section Parts

variable {cs front rest : List Char} {word : String}

theorem eq_append_of_afterKeyword? (found : afterKeyword? word cs = some rest) :
    ∃ front, cs = front ++ rest ∧ Text.sameAscii front word.toList = true := by
  unfold afterKeyword? at found
  dsimp only at found
  split at found
  · next same =>
      cases found
      exact ⟨_, (List.take_append_drop _ _).symm, same⟩
  · cases found

theorem afterKeyword?_append (same : Text.sameAscii front word.toList = true) :
    afterKeyword? word (front ++ rest) = some rest := by
  have sameLength : front.length = word.toList.length := by
    simpa using congrArg List.length (eq_of_beq same)
  unfold afterKeyword?
  dsimp only
  rw [← sameLength, List.take_left, List.drop_left, if_pos same]

theorem head_of_sameAscii {known : List Char} (letter : Char) (spelled : known.head? = some letter)
    (same : Text.sameAscii front known = true) :
    ∃ c tail, front = c :: tail ∧ c.toLower = letter.toLower := by
  obtain ⟨letters, rfl⟩ := List.head?_eq_some_iff.mp spelled
  have mapped := eq_of_beq same
  cases front with
  | nil => cases mapped
  | cons c tail => exact ⟨c, tail, rfl, (List.cons.inj mapped).1⟩

theorem afterKeyword?_eq_none (letter : Char) (spelled : word.toList.head? = some letter)
    (other : ∀ c ∈ cs.head?, c.toLower ≠ letter.toLower) : afterKeyword? word cs = none := by
  cases found : afterKeyword? word cs with
  | none => rfl
  | some rest =>
      obtain ⟨front, rfl, same⟩ := eq_append_of_afterKeyword? found
      obtain ⟨c, tail, rfl, sameLetter⟩ := head_of_sameAscii letter spelled same
      cases other c rfl sameLetter

theorem eq_cons_of_afterChar? {c : Char} (found : afterChar? c cs = some rest) :
    cs = c :: rest := by
  cases cs with
  | nil => cases found
  | cons first tail =>
      rw [afterChar?] at found
      split at found
      · next same => cases found; rw [same]
      · cases found

theorem eq_append_skipSpaces (cs : List Char) :
    ∃ spaces, cs = spaces ++ skipSpaces cs ∧ ∀ c ∈ spaces, isSpace c = true :=
  ⟨cs.takeWhile isSpace, List.takeWhile_append_dropWhile.symm, fun _ => List.mem_takeWhile_imp⟩

theorem afterChar?_skipSpaces {spaces : List Char} (c : Char) (other : isSpace c = false)
    (areSpaces : ∀ d ∈ spaces, isSpace d = true) :
    afterChar? c (skipSpaces (spaces ++ c :: rest)) = some rest := by
  have skipped : skipSpaces (spaces ++ c :: rest) = c :: rest :=
    dropWhile_append_of_stops areSpaces (by rintro d ⟨⟩; exact other)
  rw [skipped, afterChar?, if_pos rfl]

end Parts

theorem takeRegion?_succ (levels : Nat) (cs : List Char) :
    takeRegion? (levels + 1) cs =
      (takeComplement? (takeRegion? levels) (skipSpaces cs)).or
        ((takeCombination? (takeRegion? levels) (skipSpaces cs)).or
          ((takeLiteral? (skipSpaces cs)).map fun (literal, rest) => (.literal literal, rest))) := by
  simp only [takeRegion?, Option.orElse_eq_orElse, Option.orElse_eq_or]

/-- Whatever is taken is a region of the grammar. -/
def Sound (operand : Taker Draft) : Prop :=
  ∀ {cs : List Char} {draft : Draft} {rest : List Char}, Ascii cs →
    operand cs = some (draft, rest) → ∃ text, cs = text ++ rest ∧ draft.Written text

section Soundness

variable {operand : Taker Draft} {cs rest : List Char} {draft : Draft}

theorem written_of_takeComplement? (sound : Sound operand) (ascii : Ascii cs)
    (taken : takeComplement? operand cs = some (draft, rest)) :
    ∃ text, cs = text ++ rest ∧ draft.Written text := by
  simp only [takeComplement?, Option.bind_eq_bind, Option.bind_eq_some_iff] at taken
  obtain ⟨first, afterWord, second, afterOpening, ⟨inner, third⟩, afterOperand, last, afterClosing,
    result⟩ := taken
  cases result
  obtain ⟨word, rfl, same⟩ := eq_append_of_afterKeyword? afterWord
  obtain ⟨spaces, split, areSpaces⟩ := eq_append_skipSpaces first
  rw [eq_cons_of_afterChar? afterOpening] at split
  subst split
  have asciiSecond : Ascii second := fun c membership => ascii c (by simp [membership])
  obtain ⟨text, rfl, written⟩ := sound asciiSecond afterOperand
  obtain ⟨final, split, areFinal⟩ := eq_append_skipSpaces third
  rw [eq_cons_of_afterChar? afterClosing] at split
  subst split
  refine ⟨[] ++ (word ++ (spaces ++ '(' :: (text ++ (final ++ [')'])))), by simp, ?_⟩
  exact .complement (by simp) same areSpaces written areFinal

theorem areWritten_of_takeMany (sound : Sound operand) {bound : Nat} {drafts : List Draft}
    (ascii : Ascii cs) (taken : takeMany operand bound cs = (drafts, rest)) :
    ∃ text, cs = text ++ rest ∧ AreWritten drafts text := by
  induction bound generalizing cs drafts with
  | zero => cases taken; exact ⟨[], rfl, .nil⟩
  | succ bound inductionHypothesis =>
      unfold takeMany at taken
      split at taken
      · cases taken; exact ⟨[], rfl, .nil⟩
      · next first after takenFirst =>
          rcases takenOthers : takeMany operand bound after with ⟨others, final⟩
          rw [takenOthers] at taken
          cases taken
          obtain ⟨text, rfl, written⟩ := sound ascii takenFirst
          obtain ⟨texts, rfl, areWritten⟩ :=
            inductionHypothesis (ascii_append.mp ascii).2 takenOthers
          exact ⟨text ++ texts, by simp, .cons written areWritten⟩

theorem operator_of_takeOperator? {op : RegionOp} (taken : takeOperator? cs = some (op, rest)) :
    ∃ word, cs = word ++ rest ∧ (op = .union ∨ op = .intersection) ∧
      Text.sameAscii word op.name.toList = true := by
  unfold takeOperator? at taken
  split at taken
  · next after found =>
      cases taken
      obtain ⟨word, rfl, same⟩ := eq_append_of_afterKeyword? found
      exact ⟨word, rfl, .inl rfl, same⟩
  · obtain ⟨after, found, result⟩ := Option.map_eq_some_iff.mp taken
    cases result
    obtain ⟨word, rfl, same⟩ := eq_append_of_afterKeyword? found
    exact ⟨word, rfl, .inr rfl, same⟩

theorem written_of_takeCombination? (sound : Sound operand) (ascii : Ascii cs)
    (taken : takeCombination? operand cs = some (draft, rest)) :
    ∃ text, cs = text ++ rest ∧ draft.Written text := by
  simp only [takeCombination?, Option.bind_eq_bind, Option.bind_eq_some_iff, takeHeader_eq] at taken
  obtain ⟨⟨op, afterWord⟩, takenOperator, taken⟩ := taken
  obtain ⟨word, rfl, isOperator, same⟩ := operator_of_takeOperator? takenOperator
  have asciiHeader := (ascii_append.mp ascii).2
  dsimp only at taken
  rcases takenFrame : takeListed isSpace isWordChar (isListed frameWords) afterWord
    with ⟨frame, afterFrame⟩
  rw [takenFrame] at taken
  dsimp only at taken
  rcases takenPosition : takeListed isSpace isWordChar (isListed positionWords) afterFrame
    with ⟨position, afterPosition⟩
  rw [takenPosition] at taken
  dsimp only at taken
  rcases takenFlavor : takeListed isSpace isWordChar (isListed flavorWords) afterPosition
    with ⟨flavor, afterFlavor⟩
  rw [takenFlavor] at taken
  dsimp only at taken
  obtain ⟨header, rfl, isHeader⟩ :=
    isHeader_of_takeListed headerScans asciiHeader takenFrame takenPosition takenFlavor
  obtain ⟨afterOpening, opened, ⟨first, afterFirst⟩, takenFirst, ⟨second, afterSecond⟩, takenSecond,
    afterClosing, closed, result⟩ := taken
  obtain ⟨spaces, split, areSpaces⟩ := eq_append_skipSpaces afterFlavor
  rw [eq_cons_of_afterChar? opened] at split
  subst split
  have asciiOperands : Ascii afterOpening := fun c membership => ascii c (by simp [membership])
  rcases takenOthers : takeMany operand afterSecond.length afterSecond with ⟨others, afterOthers⟩
  rw [takenOthers] at closed result
  obtain ⟨firstText, rfl, firstWritten⟩ := sound asciiOperands takenFirst
  have asciiSecond := (ascii_append.mp asciiOperands).2
  obtain ⟨secondText, rfl, secondWritten⟩ := sound asciiSecond takenSecond
  obtain ⟨otherTexts, rfl, othersWritten⟩ :=
    areWritten_of_takeMany sound (ascii_append.mp asciiSecond).2 takenOthers
  obtain ⟨final, split, areFinal⟩ := eq_append_skipSpaces afterOthers
  rw [eq_cons_of_afterChar? closed] at split
  subst split
  cases result
  refine ⟨[] ++ (word ++ (header ++ (spaces ++
    '(' :: ((firstText ++ (secondText ++ otherTexts)) ++ (final ++ [')']))))), by simp, ?_⟩
  exact .combination (by simp) isOperator same isHeader areSpaces (by simp)
    (.cons firstWritten (.cons secondWritten othersWritten)) areFinal

/-- Spaces in front of a region belong to it. -/
theorem Draft.Written.spaces_append {spaces text : List Char}
    (areSpaces : ∀ c ∈ spaces, isSpace c = true) (written : draft.Written text) :
    draft.Written (spaces ++ text) := by
  cases written with
  | literal areMore isLiteral =>
      rw [← List.append_assoc]
      exact .literal (List.forall_mem_append.mpr ⟨areSpaces, areMore⟩) isLiteral
  | complement areMore isWord areInner isOperand areFinal =>
      rw [← List.append_assoc]
      exact .complement (List.forall_mem_append.mpr ⟨areSpaces, areMore⟩) isWord areInner isOperand
        areFinal
  | combination areMore isOperator isWord isHeader areInner several areOperands areFinal =>
      rw [← List.append_assoc]
      exact .combination (List.forall_mem_append.mpr ⟨areSpaces, areMore⟩) isOperator isWord isHeader
        areInner several areOperands areFinal

theorem takeRegion?_sound (levels : Nat) : Sound (takeRegion? levels) := by
  induction levels with
  | zero => intro cs draft rest ascii taken; cases taken
  | succ levels inductionHypothesis =>
      intro cs draft rest ascii taken
      obtain ⟨spaces, split, areSpaces⟩ := eq_append_skipSpaces cs
      have asciiCore : Ascii (skipSpaces cs) := by
        rw [split] at ascii
        exact (ascii_append.mp ascii).2
      suffices core : ∃ text, skipSpaces cs = text ++ rest ∧ draft.Written text by
        obtain ⟨text, coreSplit, written⟩ := core
        refine ⟨spaces ++ text, ?_, written.spaces_append areSpaces⟩
        rw [List.append_assoc, ← coreSplit]
        exact split
      simp only [takeRegion?_succ, Option.or_eq_some_iff] at taken
      rcases taken with complement | ⟨-, combination | ⟨-, other⟩⟩
      · exact written_of_takeComplement? inductionHypothesis asciiCore complement
      · exact written_of_takeCombination? inductionHypothesis asciiCore combination
      · obtain ⟨⟨literal, after⟩, takenLiteral, result⟩ := Option.map_eq_some_iff.mp other
        cases result
        obtain ⟨text, coreSplit, written⟩ := written_of_takeLiteral? asciiCore takenLiteral
        have region : (Draft.literal literal).Written ([] ++ text) := .literal (by simp) written
        exact ⟨text, coreSplit, region⟩

end Soundness

/-- The letters that regions begin with. -/
def beginsRegion (c : Char) : Bool := "nuipcb".toList.contains c.toLower

section Completeness

variable {cs text rest : List Char} {draft : Draft}

theorem isBlank_of_isSpaces {spaces : List Char} (areSpaces : ∀ c ∈ spaces, isSpace c = true) :
    ∀ c ∈ spaces, Text.isBlank c = true :=
  fun c membership => isBlank_of_isSpace (areSpaces c membership)

theorem IsWord.shape_head {shape : List Char} (isShape : IsWord shapeWords shape) :
    ∃ c tail, shape = c :: tail ∧ (c.toLower = 'p' ∨ c.toLower = 'c' ∨ c.toLower = 'b') := by
  obtain ⟨known, member, same⟩ := isShape
  have spelled : shapeWords.all (fun known => known.toList.head?.any fun letter =>
      letter.toLower == 'p' || letter.toLower == 'c' || letter.toLower == 'b') = true := by decide
  obtain ⟨letter, first, isLetter⟩ :=
    (Option.any_eq_true _ _).mp (List.all_eq_true.mp spelled known member)
  simp only [Bool.or_eq_true, beq_iff_eq, or_assoc] at isLetter
  obtain ⟨c, tail, rfl, sameLetter⟩ := head_of_sameAscii letter first same
  rw [← sameLetter] at isLetter
  exact ⟨c, tail, rfl, isLetter⟩

theorem operator_head {op : RegionOp} {word : List Char}
    (isOperator : op = .union ∨ op = .intersection)
    (isWord : Text.sameAscii word op.name.toList = true) :
    ∃ c tail, word = c :: tail ∧ (c.toLower = 'u' ∨ c.toLower = 'i') := by
  rcases isOperator with rfl | rfl
  · obtain ⟨c, tail, rfl, sameLetter⟩ := head_of_sameAscii 'U' rfl isWord
    exact ⟨c, tail, rfl, .inl sameLetter⟩
  · obtain ⟨c, tail, rfl, sameLetter⟩ := head_of_sameAscii 'I' rfl isWord
    exact ⟨c, tail, rfl, .inr sameLetter⟩

/-- A region begins with one of the six letters, after blanks. -/
theorem Draft.Written.head (written : draft.Written text) :
    ∃ blanks c tail, text = blanks ++ c :: tail ∧ (∀ d ∈ blanks, Text.isBlank d = true) ∧
      beginsRegion c = true := by
  cases written with
  | @literal _ spaces text areSpaces isLiteral =>
      cases isLiteral with
      | @parts blanks shape header body frame flavor numbers areBlanks isShape =>
          obtain ⟨c, tail, rfl, letter⟩ := isShape.shape_head
          refine ⟨spaces ++ blanks, c, _, (List.append_assoc ..).symm, ?_, ?_⟩
          · exact List.forall_mem_append.mpr ⟨isBlank_of_isSpaces areSpaces, areBlanks⟩
          · rcases letter with letter | letter | letter <;> simp [beginsRegion, letter]
  | complement areSpaces isWord =>
      obtain ⟨c, tail, rfl, letter⟩ := head_of_sameAscii 'N' rfl isWord
      refine ⟨_, c, _, rfl, isBlank_of_isSpaces areSpaces, ?_⟩
      simp [beginsRegion, letter]
  | combination areSpaces isOperator isWord =>
      obtain ⟨c, tail, rfl, letter⟩ := operator_head isOperator isWord
      refine ⟨_, c, _, rfl, isBlank_of_isSpaces areSpaces, ?_⟩
      rcases letter with letter | letter <;> simp [beginsRegion, letter]

theorem beginsRegion_apart {c : Char} (cs : List Char) (ascii : c.toNat < 128)
    (begins : c = ')' ∨ beginsRegion c = true) :
    startsNumber c = false ∧ EndsNumber (c :: cs) ∧ Text.isBlank c = false := by
  have apart := of_ascii (fun c => !(c == ')' || beginsRegion c) ||
    (!startsNumber c && (!c.isDigit && c != '.' && c != 'e' && c != 'E') && !Text.isBlank c))
    (by decide) ascii
  have begins' : (c == ')' || beginsRegion c) = true := by simpa using begins
  simp only [begins', Bool.not_true, Bool.false_or, Bool.and_eq_true, Bool.not_eq_true',
    bne_iff_ne] at apart
  obtain ⟨⟨noStart, ⟨⟨noDigit, noPoint⟩, notSmall⟩, notLarge⟩, noBlank⟩ := apart
  refine ⟨noStart, ?_, noBlank⟩
  rintro d ⟨⟩
  exact ⟨noDigit, noPoint, notSmall, notLarge⟩

/-- Neither a region nor a closing parenthesis, after blanks, goes on with numbers. -/
theorem endsNumbers_of_begins {blanks : List Char} {c : Char}
    (ascii : Ascii (blanks ++ c :: cs)) (areBlanks : ∀ d ∈ blanks, Text.isBlank d = true)
    (begins : c = ')' ∨ beginsRegion c = true) : EndsNumbers (blanks ++ c :: cs) := by
  obtain ⟨noStart, ends, noBlank⟩ := beginsRegion_apart cs (ascii c (by simp)) begins
  constructor
  · cases blanks with
    | nil => exact ends
    | cons blank blanks =>
        exact endsNumber_of_isBlank (ascii blank (by simp)) (areBlanks blank (by simp))
  · rw [dropWhile_append_of_stops areBlanks (by rintro d ⟨⟩; exact noBlank)]
    rintro d ⟨⟩
    exact noStart

theorem endsNumbers_closing {spaces : List Char} (ascii : Ascii (spaces ++ ')' :: rest))
    (areSpaces : ∀ c ∈ spaces, isSpace c = true) : EndsNumbers (spaces ++ ')' :: rest) :=
  endsNumbers_of_begins ascii (isBlank_of_isSpaces areSpaces) (.inl rfl)

/-- An opening parenthesis, perhaps after spaces, ends the optional words of an operator. -/
theorem endsHeader_opening {spaces : List Char} (areSpaces : ∀ c ∈ spaces, isSpace c = true) :
    EndsHeader isSpace isWordChar (spaces ++ '(' :: rest) where
  stops := by
    cases spaces with
    | nil => rintro c ⟨⟩; rfl
    | cons space spaces =>
        rintro c ⟨⟩
        exact headerScans.not_inside_of_blank space (areSpaces space (by simp))
  noWord := by
    rw [dropWhile_append_of_stops areSpaces (by rintro c ⟨⟩; rfl)]
    rintro c ⟨⟩
    rfl

theorem Draft.Written.endsNumbers (written : draft.Written text) (ascii : Ascii (text ++ rest)) :
    EndsNumbers (text ++ rest) := by
  obtain ⟨blanks, c, tail, rfl, areBlanks, begins⟩ := written.head
  rw [List.append_assoc] at ascii ⊢
  exact endsNumbers_of_begins ascii areBlanks (.inr begins)

theorem takeRegion?_closing {spaces : List Char} (ascii : Ascii (spaces ++ ')' :: rest))
    (areSpaces : ∀ c ∈ spaces, isSpace c = true) (levels : Nat) :
    takeRegion? levels (spaces ++ ')' :: rest) = none := by
  cases taken : takeRegion? levels (spaces ++ ')' :: rest) with
  | none => rfl
  | some result =>
      obtain ⟨draft, after⟩ := result
      obtain ⟨text, split, written⟩ := takeRegion?_sound levels ascii taken
      obtain ⟨blanks, c, tail, rfl, areBlanks, begins⟩ := written.head
      have asciiFirst : c.toNat < 128 := ascii c (by rw [split]; simp)
      obtain ⟨-, -, noBlank⟩ := beginsRegion_apart tail asciiFirst (.inr begins)
      have dropped := congrArg (List.dropWhile Text.isBlank) split
      rw [dropWhile_append_of_stops (isBlank_of_isSpaces areSpaces) (by rintro d ⟨⟩; decide),
        List.append_assoc,
        dropWhile_append_of_stops areBlanks (by rintro d ⟨⟩; exact noBlank)] at dropped
      cases dropped
      cases begins

/-- What the taker takes whole: every region whose parentheses nest less than `levels` deep, in front
of a text that cannot go on with its last number. -/
def Complete (levels : Nat) (operand : Taker Draft) : Prop :=
  ∀ {draft : Draft} {text rest : List Char}, draft.Written text → draft.depth < levels →
    Ascii (text ++ rest) → EndsNumbers rest → operand (text ++ rest) = some (draft, rest)

theorem AreWritten.length_le {drafts : List Draft} (areWritten : AreWritten drafts text) :
    drafts.length ≤ text.length := by
  induction drafts generalizing text with
  | nil => simp
  | cons draft drafts inductionHypothesis =>
      cases areWritten with
      | cons written others =>
          have bound := inductionHypothesis others
          obtain ⟨blanks, c, tail, rfl, -⟩ := written.head
          simp only [List.length_cons, List.length_append]
          omega

theorem AreWritten.endsNumbers {drafts : List Draft} (areWritten : AreWritten drafts text)
    (ascii : Ascii (text ++ rest)) (ends : EndsNumbers rest) : EndsNumbers (text ++ rest) := by
  cases areWritten with
  | nil => exact ends
  | cons written _ =>
      rw [List.append_assoc] at ascii ⊢
      exact written.endsNumbers ascii

section Step

variable {levels : Nat} {operand : Taker Draft} (complete : Complete levels operand)

include complete

theorem takeMany_append {drafts : List Draft} (areWritten : AreWritten drafts text)
    (shallow : Draft.depths drafts < levels) (ascii : Ascii (text ++ rest))
    (ends : EndsNumbers rest) (closing : operand rest = none) {bound : Nat}
    (enough : drafts.length ≤ bound) : takeMany operand bound (text ++ rest) = (drafts, rest) := by
  induction drafts generalizing text bound with
  | nil =>
      cases areWritten
      cases bound with
      | zero => rfl
      | succ bound => simp [takeMany, closing]
  | cons draft drafts inductionHypothesis =>
      cases areWritten with
      | @cons _ _ text others written areWritten =>
          obtain _ | bound := bound
          · cases enough
          · rw [List.append_assoc] at ascii ⊢
            rw [Draft.depths] at shallow
            have asciiOthers := (ascii_append.mp ascii).2
            have taken := complete written (by omega) ascii (areWritten.endsNumbers asciiOthers ends)
            have rest := inductionHypothesis areWritten (by omega) asciiOthers
              (Nat.le_of_succ_le_succ enough)
            simp only [takeMany, taken, rest]

theorem takeComplement?_append {word inner final : List Char} {draft : Draft}
    (isWord : Text.sameAscii word "NOT".toList = true) (areInner : ∀ c ∈ inner, isSpace c = true)
    (written : draft.Written text) (shallow : draft.depth < levels)
    (areFinal : ∀ c ∈ final, isSpace c = true)
    (ascii : Ascii (word ++ (inner ++ '(' :: (text ++ (final ++ ')' :: rest))))) :
    takeComplement? operand (word ++ (inner ++ '(' :: (text ++ (final ++ ')' :: rest)))) =
      some (.complement draft, rest) := by
  have asciiOperand : Ascii (text ++ (final ++ ')' :: rest)) :=
    (ascii_append.mp (ascii_append.mp ascii).2).2.tail
  have ends := endsNumbers_closing (ascii_append.mp asciiOperand).2 areFinal
  have taken := complete written shallow asciiOperand ends
  simp only [takeComplement?, afterKeyword?_append isWord, afterChar?_skipSpaces '(' rfl areInner,
    taken, afterChar?_skipSpaces ')' rfl areFinal, Option.bind_eq_bind, Option.bind_some]
  rfl

omit complete in
theorem takeOperator?_append {op : RegionOp} {word : List Char}
    (isOperator : op = .union ∨ op = .intersection)
    (isWord : Text.sameAscii word op.name.toList = true) :
    takeOperator? (word ++ rest) = some (op, rest) := by
  unfold takeOperator?
  rcases isOperator with rfl | rfl
  · have found : afterKeyword? "UNION" (word ++ rest) = some rest := afterKeyword?_append isWord
    rw [found]
  · obtain ⟨c, tail, spelled, letter⟩ := head_of_sameAscii 'I' rfl isWord
    have noUnion : afterKeyword? "UNION" (word ++ rest) = none := by
      apply afterKeyword?_eq_none 'U' rfl
      rw [spelled]
      rintro d ⟨⟩
      rw [letter]
      decide
    rw [noUnion]
    exact congrArg (Option.map _) (afterKeyword?_append isWord)

theorem takeCombination?_append {op : RegionOp} {frame flavor : Option (List Char)}
    {word header inner final : List Char} {drafts : List Draft}
    (isOperator : op = .union ∨ op = .intersection)
    (isWord : Text.sameAscii word op.name.toList = true)
    (isHeader : IsHeader isSpace frame flavor header) (areInner : ∀ c ∈ inner, isSpace c = true)
    (several : 2 ≤ drafts.length) (areWritten : AreWritten drafts text)
    (shallow : Draft.depths drafts < levels) (areFinal : ∀ c ∈ final, isSpace c = true)
    (closing : ∀ {spaces rest : List Char}, Ascii (spaces ++ ')' :: rest) →
      (∀ c ∈ spaces, isSpace c = true) → operand (spaces ++ ')' :: rest) = none)
    (ascii : Ascii (word ++ (header ++ (inner ++ '(' :: (text ++ (final ++ ')' :: rest)))))) :
    takeCombination? operand
        (word ++ (header ++ (inner ++ '(' :: (text ++ (final ++ ')' :: rest))))) =
      some (.combination op (frame.map String.ofList) (flavor.map String.ofList) drafts, rest) := by
  have asciiHeader := (ascii_append.mp ascii).2
  have asciiOperands : Ascii (text ++ (final ++ ')' :: rest)) :=
    (ascii_append.mp (ascii_append.mp asciiHeader).2).2.tail
  have ends := endsNumbers_closing (ascii_append.mp asciiOperands).2 areFinal
  obtain ⟨position, second, third, takenFrame, takenPosition, takenFlavor⟩ :=
    takeListed_header headerScans isHeader asciiHeader (endsHeader_opening areInner)
  match drafts, areWritten with
  | [], _ | [_], _ => simp at several
  | first :: next :: others, @AreWritten.cons _ _ firstText _ firstWritten
      (@AreWritten.cons _ _ nextText otherTexts nextWritten othersWritten) =>
      simp only [Draft.depths] at shallow
      rw [List.append_assoc, List.append_assoc] at asciiOperands
      have asciiNext := (ascii_append.mp asciiOperands).2
      have asciiOthers := (ascii_append.mp asciiNext).2
      have takenFirst : operand (firstText ++ (nextText ++ otherTexts) ++ (final ++ ')' :: rest)) =
          some (first, nextText ++ (otherTexts ++ (final ++ ')' :: rest))) := by
        rw [List.append_assoc, List.append_assoc]
        exact complete firstWritten (by omega) asciiOperands (nextWritten.endsNumbers asciiNext)
      have takenNext := complete nextWritten (by omega) asciiNext
        (othersWritten.endsNumbers asciiOthers ends)
      have enough : others.length ≤ (otherTexts ++ (final ++ ')' :: rest)).length := by
        have bound := othersWritten.length_le
        simp only [List.length_append]
        omega
      have takenOthers := takeMany_append complete othersWritten (by omega) asciiOthers ends
        (closing (ascii_append.mp asciiOthers).2 areFinal) enough
      simp only [takeCombination?, takeOperator?_append isOperator isWord, takeHeader_eq, takenFrame,
        takenPosition, takenFlavor, afterChar?_skipSpaces '(' rfl areInner, takenFirst, takenNext,
        takenOthers, afterChar?_skipSpaces ')' rfl areFinal, Option.bind_eq_bind, Option.bind_some]
      rfl

end Step

section Choice

variable {spaces word : List Char}

theorem takeComplement?_eq_none (operand : Taker Draft)
    (other : ∀ c ∈ cs.head?, c.toLower ≠ 'n') : takeComplement? operand cs = none := by
  have noWord : afterKeyword? "NOT" cs = none := afterKeyword?_eq_none 'N' rfl other
  rw [takeComplement?, noWord]
  rfl

theorem takeComplement?_operator {operand : Taker Draft} {op : RegionOp}
    (isOperator : op = .union ∨ op = .intersection)
    (isWord : Text.sameAscii word op.name.toList = true) :
    takeComplement? operand (word ++ rest) = none := by
  obtain ⟨c, tail, rfl, letter⟩ := operator_head isOperator isWord
  apply takeComplement?_eq_none
  rintro d ⟨⟩
  rcases letter with letter | letter <;> rw [letter] <;> decide

theorem takeCombination?_eq_none (operand : Taker Draft)
    (other : ∀ c ∈ cs.head?, c.toLower ≠ 'u' ∧ c.toLower ≠ 'i') :
    takeCombination? operand cs = none := by
  have noUnion : afterKeyword? "UNION" cs = none :=
    afterKeyword?_eq_none 'U' rfl fun c first => (other c first).1
  have noIntersection : afterKeyword? "INTERSECTION" cs = none :=
    afterKeyword?_eq_none 'I' rfl fun c first => (other c first).2
  rw [takeCombination?, takeOperator?, noUnion, noIntersection]
  rfl

theorem isSpace_of_beginsRegion {c : Char} (begins : beginsRegion c = true) :
    isSpace c = false := by
  cases space : isSpace c with
  | false => rfl
  | true =>
      simp only [isSpace, Bool.or_eq_true, beq_iff_eq] at space
      rcases space with ((rfl | rfl) | rfl) | rfl <;> cases begins

/-- After its spaces are skipped, a text begins with a later blank or with its first letter. -/
theorem head_skipSpaces {blanks : List Char} {c : Char} (other : isSpace c = false) :
    ∀ d ∈ (skipSpaces (blanks ++ c :: rest)).head?, d ∈ blanks ∨ d = c := by
  induction blanks with
  | nil =>
      intro d first
      simp only [skipSpaces, List.nil_append, List.dropWhile_cons, other] at first
      cases first
      exact .inr rfl
  | cons blank blanks inductionHypothesis =>
      intro d first
      cases space : isSpace blank with
      | true =>
          simp only [skipSpaces, List.cons_append, List.dropWhile_cons, space, if_true] at first
          rcases inductionHypothesis d first with later | isFirst
          · exact .inl (.tail _ later)
          · exact .inr isFirst
      | false =>
          simp only [skipSpaces, List.cons_append, List.dropWhile_cons, space] at first
          cases first
          exact .inl (.head _)

theorem skipSpaces_word {c : Char} {tail : List Char} (spelled : word = c :: tail)
    (begins : beginsRegion c = true) (areSpaces : ∀ d ∈ spaces, isSpace d = true) :
    skipSpaces (spaces ++ (word ++ rest)) = word ++ rest := by
  subst spelled
  apply dropWhile_append_of_stops areSpaces
  rintro d ⟨⟩
  exact isSpace_of_beginsRegion begins

theorem dropWhile_skipSpaces (cs : List Char) :
    (skipSpaces cs).dropWhile Text.isBlank = cs.dropWhile Text.isBlank := by
  obtain ⟨spaces, split, areSpaces⟩ := eq_append_skipSpaces cs
  conv_rhs => rw [split, List.dropWhile_append_of_pos (isBlank_of_isSpaces areSpaces)]

/-- A literal begins with a blank or a letter of its own, not with that of an operator. -/
theorem literal_head {literal : Literal} (areSpaces : ∀ c ∈ spaces, isSpace c = true)
    (isLiteral : literal.Written text) (ascii : Ascii (spaces ++ (text ++ rest))) :
    ∀ c ∈ (skipSpaces (spaces ++ (text ++ rest))).head?,
      c.toLower ≠ 'n' ∧ c.toLower ≠ 'u' ∧ c.toLower ≠ 'i' := by
  cases isLiteral with
  | @parts blanks shape header body frame flavor numbers areBlanks isShape =>
      obtain ⟨first, tail, rfl, letter⟩ := isShape.shape_head
      have begins : beginsRegion first = true := by
        rcases letter with letter | letter | letter <;> simp [beginsRegion, letter]
      intro c isHead
      rw [List.append_assoc, ← List.append_assoc spaces] at isHead
      rcases head_skipSpaces (isSpace_of_beginsRegion begins) c isHead with blank | rfl
      · have isBlank : Text.isBlank c = true := List.forall_mem_append.mpr
          ⟨isBlank_of_isSpaces areSpaces, areBlanks⟩ c blank
        have apart := of_ascii
          (fun c => !Text.isBlank c || c.toLower != 'n' && (c.toLower != 'u' && c.toLower != 'i'))
          (by decide) (ascii c (by simp at blank ⊢; tauto))
        simpa [isBlank] using apart
      · rcases letter with letter | letter | letter <;> rw [letter] <;> decide

end Choice

theorem takeRegion?_complete (levels : Nat) : Complete levels (takeRegion? levels) := by
  induction levels with
  | zero => intro draft text rest written shallow; cases shallow
  | succ levels inductionHypothesis =>
      intro draft text rest written shallow ascii ends
      cases written with
      | @literal literal spaces text areSpaces isLiteral =>
          rw [List.append_assoc] at ascii ⊢
          have noOperator := literal_head areSpaces isLiteral ascii
          have noComplement :=
            takeComplement?_eq_none (takeRegion? levels) fun c first => (noOperator c first).1
          have noCombination :=
            takeCombination?_eq_none (takeRegion? levels) fun c first => (noOperator c first).2
          have taken : takeLiteral? (skipSpaces (spaces ++ (text ++ rest))) =
              some (literal, rest) := by
            rw [takeLiteral?_congr (dropWhile_skipSpaces _), takeLiteral?_congr
              (List.dropWhile_append_of_pos (isBlank_of_isSpaces areSpaces))]
            exact takeLiteral?_append isLiteral (ascii_append.mp ascii).2 ends
          rw [takeRegion?_succ, noComplement, noCombination, taken]
          rfl
      | complement areSpaces isWord areInner isOperand areFinal =>
          simp only [List.append_assoc, List.cons_append, List.nil_append] at ascii ⊢
          obtain ⟨c, tail, spelled, letter⟩ := head_of_sameAscii 'N' rfl isWord
          have taken := takeComplement?_append inductionHypothesis isWord areInner isOperand
            (Nat.lt_of_succ_lt_succ shallow) areFinal (ascii_append.mp ascii).2
          rw [takeRegion?_succ, skipSpaces_word spelled (by simp [beginsRegion, letter]) areSpaces,
            taken]
          rfl
      | combination areSpaces isOperator isWord isHeader areInner several areOperands areFinal =>
          simp only [List.append_assoc, List.cons_append, List.nil_append] at ascii ⊢
          obtain ⟨c, tail, spelled, letter⟩ := operator_head isOperator isWord
          have begins : beginsRegion c = true := by
            rcases letter with letter | letter <;> simp [beginsRegion, letter]
          have closing {spaces rest : List Char} (ascii : Ascii (spaces ++ ')' :: rest))
              (areSpaces : ∀ c ∈ spaces, isSpace c = true) :=
            takeRegion?_closing ascii areSpaces levels
          have taken := takeCombination?_append inductionHypothesis isOperator isWord isHeader areInner
            several areOperands (Nat.lt_of_succ_lt_succ shallow) areFinal closing
            (ascii_append.mp ascii).2
          rw [takeRegion?_succ, skipSpaces_word spelled begins areSpaces,
            takeComplement?_operator isOperator isWord, taken]
          rfl

end Completeness

end SkySql.Stcs
