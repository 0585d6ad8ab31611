import SkySql.Proofs.Stcs.Number

set_option autoImplicit false

/-!
Taking optional words off the front of an ASCII text agrees with the grammar in both directions. No
word is in two of the vocabularies, so a word that is left out is never mistaken for the next one.
-/

namespace SkySql.Stcs

/-- The vocabularies together. -/
def vocabulary : List String := frameWords ++ positionWords ++ flavorWords ++ shapeWords

section Words

variable {words : List String} {word : List Char}

theorem isWordChar_of_toLower {c : Char} (ascii : c.toNat < 128)
    (small : isWordChar c.toLower = true) : isWordChar c = true := by
  have kept := of_ascii (fun c => !isWordChar c.toLower || isWordChar c) (by decide) ascii
  simpa [small] using kept

theorem ascii_of_isWordChar {c : Char} (wordChar : isWordChar c = true) : c.toNat < 128 := by
  rcases Bool.or_eq_true_iff.mp wordChar with alphanumeric | underscore
  · rcases Bool.or_eq_true_iff.mp alphanumeric with isAlpha | isDigit
    · rcases Bool.or_eq_true_iff.mp isAlpha with isUpper | isLower
      · have last : c.val ≤ 90 := (of_decide_eq_true isUpper).2
        exact Nat.lt_of_le_of_lt last (by decide)
      · have last : c.val ≤ 122 := of_decide_eq_true (Bool.and_eq_true_iff.mp isLower).2
        exact Nat.lt_of_le_of_lt last (by decide)
    · have last : '9'.toNat = 57 := rfl
      have bounds := Char.isDigit_iff_toNat.mp isDigit
      omega
  · rw [eq_of_beq underscore]
    decide

theorem isAlpha_of_toLower {c : Char} (ascii : c.toNat < 128) (small : c.toLower.isAlpha = true) :
    c.isAlpha = true := by
  have kept := of_ascii (fun c => !c.toLower.isAlpha || c.isAlpha) (by decide) ascii
  simpa [small] using kept

theorem vocabulary_spelling : vocabulary.all (fun known =>
    known.toList.all (fun c => decide (c.toNat < 128) && isWordChar c.toLower) &&
      known.toList.head?.any fun c => c.toLower.isAlpha) = true := by
  decide +kernel

theorem vocabulary_ascii {known : String} (member : known ∈ vocabulary) : Ascii known.toList := by
  have spelled := List.all_eq_true.mp vocabulary_spelling known member
  simp only [Bool.and_eq_true, List.all_eq_true, decide_eq_true_eq] at spelled
  exact fun c membership => (spelled.1 c membership).1

theorem vocabulary_wordChars {known : String} (member : known ∈ vocabulary) :
    ∀ c ∈ known.toList, isWordChar c.toLower = true := by
  have spelled := List.all_eq_true.mp vocabulary_spelling known member
  simp only [Bool.and_eq_true, List.all_eq_true] at spelled
  exact fun c membership => (spelled.1 c membership).2

theorem vocabulary_head {known : String} (member : known ∈ vocabulary) :
    ∃ c ∈ known.toList.head?, c.toLower.isAlpha = true := by
  have spelled := List.all_eq_true.mp vocabulary_spelling known member
  simp only [Bool.and_eq_true, Option.any_eq_true] at spelled
  exact spelled.2

theorem IsWord.wordChars (isWord : IsWord words word) (included : words ⊆ vocabulary)
    (ascii : Ascii word) : ∀ c ∈ word, isWordChar c = true := by
  obtain ⟨known, member, same⟩ := isWord
  have wordChars := vocabulary_wordChars (included member)
  intro c membership
  have small : c.toLower ∈ known.toList.map Char.toLower := by
    rw [← eq_of_beq same]
    exact List.mem_map_of_mem membership
  obtain ⟨d, inKnown, sameSmall⟩ := List.mem_map.mp small
  apply isWordChar_of_toLower (ascii c membership)
  rw [← sameSmall]
  exact wordChars d inKnown

theorem IsWord.head (isWord : IsWord words word) (included : words ⊆ vocabulary)
    (ascii : Ascii word) : ∃ c tail, word = c :: tail ∧ c.isAlpha = true := by
  obtain ⟨known, member, same⟩ := isWord
  obtain ⟨first, isFirst, letter⟩ := vocabulary_head (included member)
  obtain ⟨rest, spelled⟩ := List.head?_eq_some_iff.mp isFirst
  have mapped := eq_of_beq same
  rw [spelled] at mapped
  cases word with
  | nil => cases mapped
  | cons c tail =>
      obtain ⟨sameFirst, -⟩ := List.cons.inj mapped
      refine ⟨c, tail, rfl, isAlpha_of_toLower (ascii c (by simp)) ?_⟩
      rw [sameFirst]
      exact letter

theorem IsWord.apart {others : List String} (isWord : IsWord words word)
    (disjoint : ∀ left ∈ words, ∀ right ∈ others,
      Text.sameAscii left.toList right.toList = false) : ¬IsWord others word := by
  rintro ⟨right, rightMember, sameRight⟩
  obtain ⟨left, leftMember, sameLeft⟩ := isWord
  have differ := disjoint left leftMember right rightMember
  simp only [Text.sameAscii, beq_iff_eq, beq_eq_false_iff_ne] at sameLeft sameRight differ
  exact differ (sameLeft.symm.trans sameRight)

theorem sameFolded_eq {left right : List Char} (asciiLeft : Ascii left) (asciiRight : Ascii right) :
    Text.sameFolded left right = Text.sameAscii left right := by
  have folded {cs : List Char} (ascii : Ascii cs) :
      cs.map Text.foldLetter = cs.map Char.toLower :=
    List.map_congr_left fun c membership => foldLetter_eq (ascii c membership)
  rw [Text.sameFolded, Text.sameAscii, folded asciiLeft, folded asciiRight]

theorem isAmong_iff (ascii : Ascii word) (included : words ⊆ vocabulary) :
    isAmong words word = true ↔ IsWord words word := by
  simp only [isAmong, IsWord, List.any_eq_true]
  constructor
  · rintro ⟨known, member, same⟩
    rw [sameFolded_eq ascii (vocabulary_ascii (included member))] at same
    exact ⟨known, member, same⟩
  · rintro ⟨known, member, same⟩
    rw [← sameFolded_eq ascii (vocabulary_ascii (included member))] at same
    exact ⟨known, member, same⟩

end Words

/-- A listed word after blanks; else nothing is taken. Optional words are taken like this from
literals and from headers, which differ in what is a blank and where a word ends. -/
def takeListed (blank inside : Char → Bool) (listed : List Char → Bool) (cs : List Char) :
    Option (List Char) × List Char :=
  match cs.span blank with
  | ([], _) => (none, cs)
  | (_ :: _, rest) =>
      let (word, rest) := rest.span inside
      if listed word then (some word, rest) else (none, cs)

theorem takeOptional_eq (words : List String) (cs : List Char) :
    takeOptional words cs =
      takeListed Text.isBlank (!Text.isBlank ·) (isAmong words) cs := rfl

/-- Whether a word is in a vocabulary, up to the case of a to z. -/
def isListed (words : List String) (word : List Char) : Bool :=
  words.any fun known => Text.sameAscii word known.toList

theorem takeHeader_eq (words : List String) (cs : List Char) :
    takeHeader words cs =
      ((takeListed isSpace isWordChar (isListed words) cs).1.map String.ofList,
        (takeListed isSpace isWordChar (isListed words) cs).2) := by
  unfold takeHeader takeListed isListed
  rcases cs.span isSpace with ⟨_ | ⟨first, gap⟩, rest⟩
  · rfl
  · dsimp only
    split <;> rfl

/-- What the two ways of taking optional words have in common. -/
structure Scans (blank inside : Char → Bool) (listed : List String → List Char → Bool) : Prop where
  inside_of_wordChar : ∀ c : Char, c.toNat < 128 → isWordChar c = true → inside c = true
  not_blank_of_alpha : ∀ c : Char, c.toNat < 128 → c.isAlpha = true → blank c = false
  not_inside_of_blank : ∀ c : Char, blank c = true → inside c = false
  listed_iff : ∀ words ⊆ vocabulary, ∀ word, Ascii word →
    (listed words word = true ↔ IsWord words word)

theorem literalScans : Scans Text.isBlank (!Text.isBlank ·) isAmong where
  inside_of_wordChar c ascii wordChar := by
    have apart := of_ascii (fun c => !isWordChar c || !Text.isBlank c) (by decide) ascii
    simpa [wordChar] using apart
  not_blank_of_alpha c ascii letter := by
    have apart := of_ascii (fun c => !c.isAlpha || !Text.isBlank c) (by decide) ascii
    simpa [letter] using apart
  not_inside_of_blank c blank := by simp [blank]
  listed_iff words included word ascii := isAmong_iff ascii included

theorem headerScans : Scans isSpace isWordChar isListed where
  inside_of_wordChar _ _ wordChar := wordChar
  not_blank_of_alpha c ascii letter := by
    have apart := of_ascii (fun c => !c.isAlpha || !isSpace c) (by decide) ascii
    simpa [letter] using apart
  not_inside_of_blank c space := by
    simp only [isSpace, Bool.or_eq_true, beq_iff_eq] at space
    rcases space with ((rfl | rfl) | rfl) | rfl <;> decide
  listed_iff words _ word _ := by simp [isListed, IsWord]

section Headers

variable {blank inside : Char → Bool} {listed : List String → List Char → Bool}
  {words : List String} {found : Option (List Char)} {text rest : List Char}

def nextWord (blank inside : Char → Bool) (cs : List Char) : List Char :=
  ((cs.span blank).2.span inside).1

theorem spans_of_isWord (scans : Scans blank inside listed) (included : words ⊆ vocabulary)
    {gap word : List Char} (isGap : IsGap blank gap) (isWord : IsWord words word)
    (ascii : Ascii (gap ++ (word ++ rest))) (stops : ∀ c ∈ rest.head?, inside c = false) :
    (gap ++ (word ++ rest)).span blank = (gap, word ++ rest) ∧
      (word ++ rest).span inside = (word, rest) := by
  have asciiWord : Ascii word := (ascii_append.mp (ascii_append.mp ascii).2).1
  constructor
  · apply span_append isGap.2
    obtain ⟨first, tail, rfl, letter⟩ := isWord.head included asciiWord
    rintro c ⟨⟩
    exact scans.not_blank_of_alpha first (asciiWord first (by simp)) letter
  · refine span_append (fun c membership => ?_) stops
    exact scans.inside_of_wordChar c (asciiWord c membership)
      (isWord.wordChars included asciiWord c membership)

theorem ascii_nextWord (ascii : Ascii rest) : Ascii (nextWord blank inside rest) := by
  simp only [nextWord, List.span_eq_takeWhile_dropWhile]
  intro c membership
  exact ascii c ((List.dropWhile_suffix _).subset ((List.takeWhile_prefix _).subset membership))

theorem takeListed_optional (scans : Scans blank inside listed) (included : words ⊆ vocabulary)
    (isOptional : IsOptional blank words found text) (ascii : Ascii (text ++ rest))
    (stops : ∀ c ∈ rest.head?, inside c = false)
    (apart : ¬IsWord words (nextWord blank inside rest)) :
    takeListed blank inside (listed words) (text ++ rest) = (found, rest) := by
  cases isOptional with
  | absent =>
      rw [List.nil_append] at ascii ⊢
      have unlisted : listed words (nextWord blank inside rest) = false := by
        rw [← Bool.not_eq_true, scans.listed_iff words included _ (ascii_nextWord ascii)]
        exact apart
      unfold takeListed
      split
      · rfl
      · next first gap after split =>
          simp only [nextWord, split] at unlisted
          simp only [unlisted]
          rfl
  | @present gap word isGap isWord =>
      rw [List.append_assoc] at ascii ⊢
      obtain ⟨splitGap, splitWord⟩ := spans_of_isWord scans included isGap isWord ascii stops
      have asciiWord : Ascii word := (ascii_append.mp (ascii_append.mp ascii).2).1
      have isListed : listed words word = true :=
        (scans.listed_iff words included word asciiWord).mpr isWord
      obtain ⟨first, gap, rfl⟩ := List.exists_cons_of_ne_nil isGap.1
      unfold takeListed
      simp only [splitGap, splitWord, isListed, if_true]

theorem isOptional_of_takeListed (scans : Scans blank inside listed) (included : words ⊆ vocabulary)
    {cs : List Char} (ascii : Ascii cs)
    (taken : takeListed blank inside (listed words) cs = (found, rest)) :
    ∃ text, cs = text ++ rest ∧ IsOptional blank words found text := by
  unfold takeListed at taken
  split at taken
  · cases taken; exact ⟨[], rfl, .absent⟩
  · next first gap after splitGap =>
      obtain ⟨rfl, all, -⟩ := eq_append_of_span splitGap
      cases splitWord : after.span inside with
      | mk word final =>
          obtain ⟨rfl, -, -⟩ := eq_append_of_span splitWord
          simp only [splitWord] at taken
          split at taken
          · next isListed =>
              cases taken
              have asciiWord : Ascii word := (ascii_append.mp (ascii_append.mp ascii).2).1
              refine ⟨first :: gap ++ word, by simp, .present ⟨by simp, all⟩ ?_⟩
              exact (scans.listed_iff words included word asciiWord).mp isListed
          · cases taken; exact ⟨[], rfl, .absent⟩

theorem IsOptional.stops (scans : Scans blank inside listed)
    (isOptional : IsOptional blank words found text) (stops : ∀ c ∈ rest.head?, inside c = false) :
    ∀ c ∈ (text ++ rest).head?, inside c = false := by
  cases isOptional with
  | absent => exact stops
  | present isGap =>
      obtain ⟨nonempty, all⟩ := isGap
      obtain ⟨first, gap, rfl⟩ := List.exists_cons_of_ne_nil nonempty
      rintro c ⟨⟩
      exact scans.not_inside_of_blank first (all first (by simp))

theorem IsOptional.apart (scans : Scans blank inside listed) (included : words ⊆ vocabulary)
    {others : List String} (isOptional : IsOptional blank words found text)
    (ascii : Ascii (text ++ rest)) (stops : ∀ c ∈ rest.head?, inside c = false)
    (disjoint : ∀ left ∈ words, ∀ right ∈ others,
      Text.sameAscii left.toList right.toList = false)
    (apart : ¬IsWord others (nextWord blank inside rest)) :
    ¬IsWord others (nextWord blank inside (text ++ rest)) := by
  cases isOptional with
  | absent => exact apart
  | @present gap word isGap isWord =>
      rw [List.append_assoc] at ascii ⊢
      obtain ⟨splitGap, splitWord⟩ := spans_of_isWord scans included isGap isWord ascii stops
      rw [nextWord, splitGap, splitWord]
      exact isWord.apart disjoint

/-- A text that cannot go on with the optional words before it. -/
structure EndsHeader (blank inside : Char → Bool) (rest : List Char) : Prop where
  stops : ∀ c ∈ rest.head?, inside c = false
  noWord : ∀ c ∈ (rest.dropWhile blank).head?, c.isAlpha = false

theorem EndsHeader.apart (ends : EndsHeader blank inside rest) (ascii : Ascii rest)
    (included : words ⊆ vocabulary) : ¬IsWord words (nextWord blank inside rest) := by
  intro isWord
  obtain ⟨c, tail, isNext, letter⟩ := isWord.head included (ascii_nextWord ascii)
  simp only [nextWord, List.span_eq_takeWhile_dropWhile] at isNext
  have first : (rest.dropWhile blank).head? = some c := by
    rw [← List.takeWhile_append_dropWhile (p := inside) (l := rest.dropWhile blank), isNext]
    rfl
  rw [ends.noWord c first] at letter
  cases letter

theorem vocabularies_apart :
    (∀ left ∈ positionWords, ∀ right ∈ frameWords,
      Text.sameAscii left.toList right.toList = false) ∧
    (∀ left ∈ flavorWords, ∀ right ∈ frameWords,
      Text.sameAscii left.toList right.toList = false) ∧
    (∀ left ∈ flavorWords, ∀ right ∈ positionWords,
      Text.sameAscii left.toList right.toList = false) := by
  decide +kernel

theorem vocabularies_included : frameWords ⊆ vocabulary ∧ positionWords ⊆ vocabulary ∧
    flavorWords ⊆ vocabulary ∧ shapeWords ⊆ vocabulary := by
  refine ⟨?_, ?_, ?_, ?_⟩ <;> intro word member <;> simp [vocabulary, member]

theorem takeListed_header (scans : Scans blank inside listed) {frame flavor : Option (List Char)}
    (isHeader : IsHeader blank frame flavor text) (ascii : Ascii (text ++ rest))
    (ends : EndsHeader blank inside rest) :
    ∃ position second third,
      takeListed blank inside (listed frameWords) (text ++ rest) = (frame, second) ∧
      takeListed blank inside (listed positionWords) second = (position, third) ∧
      takeListed blank inside (listed flavorWords) third = (flavor, rest) := by
  obtain ⟨frames, positions, flavors, -⟩ := vocabularies_included
  obtain ⟨positionNoFrame, flavorNoFrame, flavorNoPosition⟩ := vocabularies_apart
  cases isHeader with
  | parts isFrame isPosition isFlavor =>
      rw [List.append_assoc, List.append_assoc] at ascii ⊢
      have asciiSecond := (ascii_append.mp ascii).2
      have asciiThird := (ascii_append.mp asciiSecond).2
      have asciiRest := (ascii_append.mp asciiThird).2
      -- Whatever follows an optional word that is absent is no word of its vocabulary.
      have stopsThird := isFlavor.stops scans ends.stops
      have stopsSecond := isPosition.stops scans stopsThird
      have noFlavor := ends.apart asciiRest flavors
      have noPosition := isFlavor.apart scans flavors asciiThird ends.stops flavorNoPosition
        (ends.apart asciiRest positions)
      have noFrame := isPosition.apart scans positions asciiSecond stopsThird positionNoFrame
        (isFlavor.apart scans flavors asciiThird ends.stops flavorNoFrame
          (ends.apart asciiRest frames))
      have takenFrame := takeListed_optional scans frames isFrame ascii stopsSecond noFrame
      have takenPosition :=
        takeListed_optional scans positions isPosition asciiSecond stopsThird noPosition
      have takenFlavor :=
        takeListed_optional scans flavors isFlavor asciiThird ends.stops noFlavor
      exact ⟨_, _, _, takenFrame, takenPosition, takenFlavor⟩

theorem IsHeader.stops (scans : Scans blank inside listed) {frame flavor : Option (List Char)}
    (isHeader : IsHeader blank frame flavor text) (stops : ∀ c ∈ rest.head?, inside c = false) :
    ∀ c ∈ (text ++ rest).head?, inside c = false := by
  cases isHeader with
  | parts isFrame isPosition isFlavor =>
      rw [List.append_assoc, List.append_assoc]
      exact isFrame.stops scans (isPosition.stops scans (isFlavor.stops scans stops))

theorem isHeader_of_takeListed (scans : Scans blank inside listed)
    {frame position flavor : Option (List Char)} {first second third : List Char}
    (ascii : Ascii first)
    (takenFrame : takeListed blank inside (listed frameWords) first = (frame, second))
    (takenPosition : takeListed blank inside (listed positionWords) second = (position, third))
    (takenFlavor : takeListed blank inside (listed flavorWords) third = (flavor, rest)) :
    ∃ text, first = text ++ rest ∧ IsHeader blank frame flavor text := by
  obtain ⟨frames, positions, flavors, -⟩ := vocabularies_included
  obtain ⟨frameText, rfl, isFrame⟩ := isOptional_of_takeListed scans frames ascii takenFrame
  have asciiSecond := (ascii_append.mp ascii).2
  obtain ⟨positionText, rfl, isPosition⟩ :=
    isOptional_of_takeListed scans positions asciiSecond takenPosition
  have asciiThird := (ascii_append.mp asciiSecond).2
  obtain ⟨flavorText, rfl, isFlavor⟩ :=
    isOptional_of_takeListed scans flavors asciiThird takenFlavor
  exact ⟨frameText ++ (positionText ++ flavorText), by simp, .parts isFrame isPosition isFlavor⟩

end Headers

end SkySql.Stcs
