import SkySql.Proofs.Stcs.Literal
import SkySql.Proofs.Stcs.Pattern

set_option autoImplicit false

/-!
The notation of literals as one regular expression. The literal that is taken off the front of a text
is the match of the expression there, for every text: its words are followed by blanks and its numbers
do not begin like words, so that backtracking never finds a match that taking each part greedily would
miss.
-/

namespace SkySql.Stcs

section Characters

variable {c : Char}

/-- A property of blanks is settled by looking at each of them. -/
theorem of_isBlank (property : Char → Bool)
    (all : (Text.blankRanges.all fun range => (List.range' range.1 (range.2 + 1 - range.1)).all
      fun code => property (Char.ofNat code)) = true)
    (blank : Text.isBlank c = true) : property c = true := by
  obtain ⟨range, member, low, high⟩ := Text.exists_range_of_inRanges blank
  have listed : c.toNat ∈ List.range' range.1 (range.2 + 1 - range.1) :=
    List.mem_range'_1.mpr ⟨low, by omega⟩
  have found := List.all_eq_true.mp (List.all_eq_true.mp all range member) c.toNat listed
  rwa [Char.ofNat_toNat] at found

theorem ascii_of_toLower (small : c.toLower.toNat < 128) : c.toNat < 128 := by
  unfold Char.toLower at small
  split at small
  · next upper =>
      have last : c.val ≤ 90 := upper.2
      exact Nat.lt_of_le_of_lt last (by decide)
  · exact small

/-- A property of characters that fold to ASCII is settled by looking at each of them. -/
theorem of_foldLetter (property : Char → Bool)
    (all : (List.range 128).all (fun code => property (Char.ofNat code)) = true)
    (others : property 'ſ' = true ∧ property '\u212A' = true)
    (folded : (Text.foldLetter c).toNat < 128) : property c = true := by
  unfold Text.foldLetter at folded
  split at folded
  · next isLong => rw [isLong]; exact others.1
  · split at folded
    · next isKelvin => rw [isKelvin]; exact others.2
    · exact of_ascii property all (ascii_of_toLower folded)

end Characters

namespace Pattern

def blank : Pattern := .char Text.isBlank

def gap : Pattern := blank.some

def digit : Pattern := .char Text.isDecimalDigit

def point : Pattern := .char (· == '.')

def sign : Pattern := .char fun c => c == '+' || c == '-'

/-- Digits with an optional point and optional further digits, or a point and digits. -/
def mantissa : Pattern :=
  .choice (.sequence digit.some (.sequence point.optional digit.many)) (.sequence point digit.some)

def exponent : Pattern :=
  .sequence (.char fun c => c == 'e' || c == 'E') (.sequence sign.optional digit.some)

def number : Pattern :=
  .sequence sign.optional (.sequence mantissa exponent.optional)

def word : List Char → Pattern
  | [] => .nothing
  | known :: rest =>
      .sequence (.char fun c => Text.foldLetter c == Text.foldLetter known) (word rest)

/-- One of several words, tried in their order. -/
def anyOf : List String → Pattern
  | [] => .char fun _ => false
  | known :: rest => .choice (word known.toList) (anyOf rest)

/-- The words by length, so that none is tried before a longer one. -/
def longestFirst (words : List String) : List String :=
  words.mergeSort fun left right => right.length ≤ left.length

/-- An optional word after blanks. -/
def header (slot : Slot) (words : List String) : Pattern :=
  .optional (.sequence gap (.group slot (anyOf (longestFirst words))))

/-- The numbers of a literal, each after blanks. -/
def coordinates : Pattern := .group .numbers (.some (.sequence gap number))

/-- A literal from its flavor on. -/
def fromFlavor : Pattern := .sequence (header .flavor flavorWords) coordinates

def fromPosition : Pattern := .sequence (header .position positionWords) fromFlavor

def fromFrame : Pattern := .sequence (header .frame frameWords) fromPosition

def fromShape : Pattern := .sequence (.group .shape (anyOf shapeWords)) fromFrame

end Pattern

/-- A literal, perhaps after blanks: its shape, its optional words and its numbers. -/
def literalPattern : Pattern := .sequence (.many .blank) .fromShape

/-- The words of a text, without the blanks between them. -/
def tokens (cs : List Char) : List (List Char) := (cs.splitOnP Text.isBlank).filter (!·.isEmpty)

/-- The literal that a match stands for. -/
def Match.literal (found : Match) : Literal :=
  ⟨Text.trim found.text, (found.captured? .shape).getD [], found.captured? .flavor,
    tokens ((found.captured? .numbers).getD [])⟩

namespace Pattern

section Numbers

variable {cs taken rest : List Char}

/-- What is split off a text, in terms of taking and of dropping. -/
theorem parts_of_span {accepts : Char → Bool} (split : cs.span accepts = (taken, rest)) :
    cs.takeWhile accepts = taken ∧ cs = taken ++ rest ∧ rest.takeWhile accepts = [] := by
  obtain ⟨joined, -, stops⟩ := eq_append_of_span split
  rw [List.span_eq_takeWhile_dropWhile] at split
  refine ⟨congrArg Prod.fst split, joined, ?_⟩
  cases rest with
  | nil => rfl
  | cons c rest => simp [stops c rfl]

theorem find?_some_char {accepts : Char → Bool} : (some (char accepts)).find? cs =
    if cs.takeWhile accepts = [] then none else .some { text := cs.takeWhile accepts } := by
  cases cs with
  | nil => rfl
  | cons c rest =>
      rw [some, find?_char_sequence_cons, find?_many_char]
      cases accepted : accepts c <;> simp [accepted]

theorem eq_append_of_takeMantissa? (found : takeMantissa? cs = .some (taken, rest)) :
    cs = taken ++ rest := by
  have digits {cs taken rest : List Char} (found : takeDigits cs = (taken, rest)) :
      cs = taken ++ rest := (eq_append_of_span found).1
  unfold takeMantissa? at found
  split at found
  · split at found
    · cases found
    · next fraction after _ split =>
        cases found
        rw [digits split]
        rfl
  · cases found
  · next whole after _ _ split =>
      cases splitFraction : takeDigits after with
      | mk fraction final =>
          rw [splitFraction] at found
          cases found
          rw [digits split, digits splitFraction]
          simp
  · next whole after _ _ _ split =>
      cases found
      exact digits split

/-- A sign before what cannot begin with one. -/
theorem find?_sign_sequence {next : Pattern}
    (refuses : ∀ c rest, (c == '+' || c == '-') = true → next.find? (c :: rest) = none) :
    (sequence sign.optional next).find? cs =
      (next.find? (takeSign cs).2).map ({ text := (takeSign cs).1 } ++ ·) := by
  rw [find?_optional_sequence, sign]
  cases cs with
  | nil =>
      rw [find?_char_sequence_nil, takeSign]
      cases next.find? [] <;> rfl
  | cons c rest =>
      rw [find?_char_sequence_cons, takeSign]
      by_cases isSign : c = '+' ∨ c = '-'
      · have accepted : (c == '+' || c == '-') = true := by simpa using isSign
        rw [if_pos accepted, if_pos isSign, refuses c rest accepted, Option.or_none]
      · have refused : (c == '+' || c == '-') = false := by simpa using isSign
        rw [refused, if_neg isSign]
        cases next.find? (c :: rest) <;> rfl

theorem find?_point_digits : (sequence point.optional digit.many).find? cs =
    .some { text := match cs with
      | '.' :: rest => '.' :: rest.takeWhile Text.isDecimalDigit
      | cs => cs.takeWhile Text.isDecimalDigit } := by
  rw [find?_optional_sequence, point, digit, find?_many_char]
  cases cs with
  | nil => rfl
  | cons c rest =>
      rw [find?_char_sequence_cons, find?_many_char]
      by_cases isPoint : c = '.'
      · subst isPoint
        rfl
      · have refused : (c == '.') = false := by simpa using isPoint
        rw [refused, if_neg Bool.false_ne_true]
        split
        · next same => cases same; cases isPoint rfl
        · rfl

theorem find?_fraction : (sequence point digit.some).find? cs =
    match cs with
    | '.' :: rest => if rest.takeWhile Text.isDecimalDigit = [] then none
        else .some { text := '.' :: rest.takeWhile Text.isDecimalDigit }
    | _ => none := by
  rw [point]
  cases cs with
  | nil => rfl
  | cons c rest =>
      rw [find?_char_sequence_cons]
      by_cases isPoint : c = '.'
      · subst isPoint
        rw [digit, find?_some_char]
        by_cases none : rest.takeWhile Text.isDecimalDigit = []
        · simp [none]
        · simp only [none]
          rfl
      · have refused : (c == '.') = false := by simpa using isPoint
        rw [refused, if_neg Bool.false_ne_true]
        split
        · next same => cases same; cases isPoint rfl
        · rfl

theorem find?_mantissa :
    mantissa.find? cs = (takeMantissa? cs).map fun found => { text := found.1 } := by
  have total := (total_optional point).sequence (total_many digit)
  rw [mantissa, find?_choice, find?_sequence_of_total total, find?_fraction]
  rcases split : takeDigits cs with ⟨whole, after⟩
  obtain ⟨taken, joined, stops⟩ := parts_of_span split
  have digits : digit.some.find? cs = if whole = [] then none else .some { text := whole } := by
    rw [digit, find?_some_char, taken]
  unfold takeMantissa?
  rw [digits, split]
  cases whole with
  | nil =>
      rw [if_pos rfl, Option.bind_none, Option.none_or]
      split
      · next rest =>
          rcases splitRest : takeDigits rest with ⟨fraction, final⟩
          rw [(parts_of_span splitRest).1]
          cases fraction with
          | nil => simp [splitRest]
          | cons first others => simp [splitRest]
      · next noPoint =>
          split
          · cases noPoint _ rfl
          · rfl
          · simp_all
          · simp_all
  | cons first others =>
      have dropped : cs.drop (first :: others).length = after := by
        rw [joined]
        exact List.drop_left
      rw [if_neg (List.cons_ne_nil _ _), Option.bind_some, dropped, find?_point_digits]
      simp only [Option.map_some, Option.some_or]
      split
      · next rest =>
          rcases splitRest : takeDigits rest with ⟨fraction, final⟩
          rw [(parts_of_span splitRest).1]
          simp [splitRest]
      · next noPoint =>
          rw [stops, Match.append_empty]
          cases after <;> simp

theorem eq_append_of_takeExponent (found : takeExponent cs = (taken, rest)) :
    cs = taken ++ rest := by
  cases cs with
  | nil => cases found; rfl
  | cons mark tail =>
      rw [takeExponent] at found
      split at found
      · cases signed : takeSign tail with
        | mk sign after =>
            simp only [signed] at found
            split at found
            · cases found; rfl
            · next digits final _ split =>
                cases found
                rw [(eq_append_of_takeSign signed).1, (parts_of_span split).2.1]
                simp
      · cases found; rfl

theorem find?_exponent : exponent.optional.find? cs = .some { text := (takeExponent cs).1 } := by
  have refuses (c : Char) (rest : List Char) (isSign : (c == '+' || c == '-') = true) :
      digit.some.find? (c :: rest) = none := by
    have noDigit : Text.isDecimalDigit c = false := by
      rcases Bool.or_eq_true_iff.mp isSign with plus | minus
      · rw [eq_of_beq plus]; decide
      · rw [eq_of_beq minus]; decide
    rw [digit, find?_some_char]
    simp [noDigit]
  rw [optional, find?_choice, exponent]
  cases cs with
  | nil => rfl
  | cons mark tail =>
      rw [find?_char_sequence_cons, find?_sign_sequence refuses, takeExponent]
      rcases takeSign tail with ⟨sign, body⟩
      rcases split : takeDigits body with ⟨digits, final⟩
      have taken : digit.some.find? body =
          if digits = [] then none else .some { text := digits } := by
        rw [digit, find?_some_char, (parts_of_span split).1]
      by_cases isMark : mark = 'e' ∨ mark = 'E'
      · have accepted : (mark == 'e' || mark == 'E') = true := by simpa using isMark
        rw [accepted, if_pos rfl, if_pos isMark]
        cases digits with
        | nil => simp [taken, split]; rfl
        | cons first others => simp [taken, split]
      · have refused : (mark == 'e' || mark == 'E') = false := by simpa using isMark
        rw [refused, if_neg Bool.false_ne_true, if_neg isMark]
        rfl

theorem eq_append_of_takeNumber? (found : takeNumber? cs = .some (taken, rest)) :
    cs = taken ++ rest := by
  unfold takeNumber? at found
  rcases signed : takeSign cs with ⟨sign, body⟩
  simp only [signed, Option.bind_eq_bind, Option.bind_eq_some_iff] at found
  obtain ⟨⟨mantissa, tail⟩, measured, result⟩ := found
  rcases raised : takeExponent tail with ⟨exponent, final⟩
  rw [raised] at result
  cases result
  rw [(eq_append_of_takeSign signed).1, eq_append_of_takeMantissa? measured,
    eq_append_of_takeExponent raised]
  simp

/-- The number at the front of a text is the match of the expression for numbers. -/
theorem find?_number : number.find? cs = (takeNumber? cs).map fun found => { text := found.1 } := by
  have total := total_optional exponent
  have refuses (c : Char) (rest : List Char) (isSign : (c == '+' || c == '-') = true) :
      (sequence mantissa exponent.optional).find? (c :: rest) = none := by
    rw [find?_sequence_of_total total, find?_mantissa]
    rcases Bool.or_eq_true_iff.mp isSign with plus | minus
    · rw [eq_of_beq plus]; rfl
    · rw [eq_of_beq minus]; rfl
  rw [number, find?_sign_sequence refuses, find?_sequence_of_total total, find?_mantissa, takeNumber?]
  rcases takeSign cs with ⟨sign, body⟩
  cases measured : takeMantissa? body with
  | none => simp [measured]
  | some parts =>
      obtain ⟨mantissa, tail⟩ := parts
      have dropped : body.drop mantissa.length = tail := by
        rw [eq_append_of_takeMantissa? measured]
        exact List.drop_left
      simp [measured, dropped, find?_exponent]

end Numbers

section Words

variable {cs : List Char} {words : List String} {next : Pattern}

/-- A word is taken in one way, from a text that begins with it up to case folding. -/
theorem ways_word (known : List Char) :
    (word known).ways cs =
      if Text.sameFolded (cs.take known.length) known then [{ text := cs.take known.length }]
      else [] := by
  induction known generalizing cs with
  | nil => rfl
  | cons letter known inductionHypothesis =>
      rw [word, ways]
      cases cs with
      | nil => rfl
      | cons c rest =>
          have split : Text.sameFolded ((c :: rest).take (letter :: known).length) (letter :: known) =
              (Text.foldLetter c == Text.foldLetter letter &&
                Text.sameFolded (rest.take known.length) known) := by
            simp [Text.sameFolded]
          rw [split]
          cases same : Text.foldLetter c == Text.foldLetter letter with
          | false => simp [ways, same, continued]
          | true =>
              simp only [ways, same, if_pos, continued, List.flatMap_singleton, List.length_cons,
                List.length_nil, List.drop_succ_cons, List.drop_zero, inductionHypothesis,
                Bool.true_and]
              split <;> simp

/-- A pattern that matches only before blanks. -/
def NeedsBlank (pattern : Pattern) : Prop :=
  ∀ cs m, pattern.find? cs = .some m → ∃ c rest, cs = c :: rest ∧ Text.isBlank c = true

/-- The characters of known words are no blanks, also before case folding. -/
theorem not_isBlank_of_sameFolded {known : String} {front : List Char} (member : known ∈ vocabulary)
    (same : Text.sameFolded front known.toList = true) : ∀ c ∈ front, Text.isBlank c = false := by
  intro c inFront
  have folded : Text.foldLetter c ∈ known.toList.map Text.foldLetter := by
    rw [← eq_of_beq same]
    exact List.mem_map_of_mem inFront
  obtain ⟨d, inKnown, sameLetter⟩ := List.mem_map.mp folded
  have wordChar : isWordChar (Text.foldLetter c) = true := by
    rw [← sameLetter, foldLetter_eq (vocabulary_ascii member d inKnown)]
    exact vocabulary_wordChars member d inKnown
  rw [← Bool.not_eq_true]
  intro blank
  have apart := of_isBlank (fun c => !isWordChar (Text.foldLetter c)) (by decide) blank
  simp [wordChar] at apart

/-- A word that needs blanks after it is the word up to the next blank. -/
theorem find?_word_sequence (slot : Slot) {known : String} (member : known ∈ vocabulary)
    (needs : next.NeedsBlank) {front rest : List Char} (split : takeWord cs = (front, rest)) :
    (sequence (group slot (word known.toList)) next).find? cs =
      if Text.sameFolded front known.toList then
        (next.find? rest).map (⟨front, [(slot, front)]⟩ ++ ·)
      else none := by
  rw [find?_sequence, ways, ways_word]
  by_cases same : Text.sameFolded front known.toList = true
  · have length : known.toList.length = front.length := by
      simpa using (congrArg List.length (eq_of_beq same)).symm
    obtain ⟨rfl, -, -⟩ := eq_append_of_span split
    rw [if_pos same, length, List.take_left, if_pos same]
    simp [Match.keep]
  · rw [if_neg same]
    split
    · next found =>
        -- The known word is only the beginning of the word that stands there, so no blank follows it.
        suffices none : next.find? (cs.drop known.toList.length) = none by
          have shorter : (cs.take known.toList.length).length = known.toList.length := by
            simpa using congrArg List.length (eq_of_beq found)
          simp [Match.keep, -List.length_take, shorter, none]
        cases following : next.find? (cs.drop known.toList.length) with
        | none => rfl
        | some m =>
            obtain ⟨c, after, dropped, blank⟩ := needs _ m following
            have solid := not_isBlank_of_sameFolded member found
            have whole : takeWord cs = (cs.take known.toList.length, c :: after) := by
              conv_lhs => rw [← List.take_append_drop known.toList.length cs, dropped]
              exact span_append (fun d inWord => by simp [solid d inWord]) (by simp [blank])
            rw [whole] at split
            cases split
            cases same found
    · rfl

/-- Of several words that need blanks after them, any that matches is the word up to the next
blank, whatever their order. -/
theorem find?_anyOf_sequence (slot : Slot) (included : words ⊆ vocabulary) (needs : next.NeedsBlank)
    {front rest : List Char} (split : takeWord cs = (front, rest)) :
    (sequence (group slot (anyOf words)) next).find? cs =
      if isAmong words front then (next.find? rest).map (⟨front, [(slot, front)]⟩ ++ ·)
      else none := by
  induction words with
  | nil => cases cs <;> rfl
  | cons known words inductionHypothesis =>
      obtain ⟨member, others⟩ := List.cons_subset.mp included
      have either : (sequence (group slot (anyOf (known :: words))) next).find? cs =
          ((sequence (group slot (word known.toList)) next).find? cs).or
            ((sequence (group slot (anyOf words)) next).find? cs) := by
        simp only [find?_sequence, anyOf, ways, List.map_append, List.findSome?_append]
      rw [either, find?_word_sequence slot member needs split, inductionHypothesis others]
      have among : isAmong (known :: words) front =
          (Text.sameFolded front known.toList || isAmong words front) := rfl
      rw [among]
      cases Text.sameFolded front known.toList <;> cases isAmong words front <;> simp

end Words

section Headers

variable {cs rest : List Char} {words : List String} {next : Pattern} {found : Option (List Char)}

theorem find?_gap_sequence
    (refuses : ∀ c rest, Text.isBlank c = true → next.find? (c :: rest) = none)
    {front : List Char} (split : cs.span Text.isBlank = (front, rest)) :
    (sequence gap next).find? cs =
      if front = [] then none else (next.find? rest).map ({ text := front } ++ ·) := by
  rw [List.span_eq_takeWhile_dropWhile] at split
  obtain ⟨rfl, rfl⟩ := Prod.mk.inj split
  rw [gap, some, find?_sequence_assoc, blank]
  cases cs with
  | nil => rfl
  | cons c rest =>
      rw [find?_char_sequence_cons, find?_many_char_sequence refuses]
      cases isBlank : Text.isBlank c with
      | false => simp [isBlank]
      | true => simp [isBlank, Function.comp_def, ← Match.append_assoc]

theorem takeOptional_of_splits {front word after : List Char}
    (split : cs.span Text.isBlank = (front, after)) (splitWord : takeWord after = (word, rest)) :
    takeOptional words cs =
      if front ≠ [] ∧ isAmong words word then (.some word, rest) else (none, cs) := by
  unfold takeOptional
  rw [split]
  cases front with
  | nil => simp
  | cons first front => simp [splitWord]

/-- A pattern that matches nowhere before one of the words. -/
def RefusesWords (words : List String) (pattern : Pattern) : Prop :=
  ∀ cs word rest, takeOptional words cs = (.some word, rest) → pattern.find? cs = none

theorem isAmong_nil (included : words ⊆ vocabulary) : isAmong words [] = false := by
  rw [← Bool.not_eq_true]
  intro among
  obtain ⟨known, member, same⟩ := List.any_eq_true.mp among
  obtain ⟨first, isFirst, -⟩ := vocabulary_head (included member)
  obtain ⟨rest, spelled⟩ := List.head?_eq_some_iff.mp isFirst
  have mapped := eq_of_beq same
  rw [spelled] at mapped
  cases mapped

theorem find?_anyOf_sequence_blank (slot : Slot) (included : words ⊆ vocabulary)
    (needs : next.NeedsBlank) (c : Char) (rest : List Char) (blank : Text.isBlank c = true) :
    (sequence (group slot (anyOf words)) next).find? (c :: rest) = none := by
  have nothing : takeWord ([] ++ c :: rest) = ([], c :: rest) :=
    span_append (List.forall_mem_nil _) (by simp [blank])
  rw [List.nil_append] at nothing
  rw [find?_anyOf_sequence slot included needs nothing, isAmong_nil included]
  rfl

/-- Blanks and one of several words after them. -/
theorem find?_gap_anyOf_sequence (slot : Slot) (included : words ⊆ vocabulary)
    (needs : next.NeedsBlank) {front word after : List Char}
    (split : cs.span Text.isBlank = (front, after)) (splitWord : takeWord after = (word, rest)) :
    (sequence (sequence gap (group slot (anyOf (longestFirst words)))) next).find? cs =
      if front ≠ [] ∧ isAmong words word then
        (next.find? rest).map (⟨front ++ word, [(slot, word)]⟩ ++ ·)
      else none := by
  have sorted : longestFirst words ⊆ vocabulary :=
    fun known member => included (List.mem_mergeSort.mp member)
  have sameWords : isAmong (longestFirst words) word = isAmong words word := by
    rw [Bool.eq_iff_iff]
    simp [isAmong, longestFirst, List.any_eq_true]
  rw [find?_sequence_assoc, find?_gap_sequence (find?_anyOf_sequence_blank slot sorted needs) split,
    find?_anyOf_sequence slot sorted needs splitWord, sameWords]
  by_cases empty : front = []
  · simp [empty]
  · cases isAmong words word <;> simp [empty, Function.comp_def, ← Match.append_assoc]

/-- An optional word is taken if it is there. Nothing is gained by leaving it out, since what
follows does not match before such a word. -/
theorem find?_header_sequence (slot : Slot) (included : words ⊆ vocabulary)
    (needs : next.NeedsBlank) (refuses : next.RefusesWords words)
    (taken : takeOptional words cs = (found, rest)) :
    ∃ text, cs = text ++ rest ∧ (sequence (header slot words) next).find? cs =
      (next.find? rest).map (⟨text, (found.map (slot, ·)).toList⟩ ++ ·) := by
  rcases split : cs.span Text.isBlank with ⟨front, after⟩
  rcases splitWord : takeWord after with ⟨word, final⟩
  have described : takeOptional words cs = _ := takeOptional_of_splits split splitWord
  rw [header, find?_optional_sequence, find?_gap_anyOf_sequence slot included needs split splitWord]
  by_cases there : front ≠ [] ∧ isAmong words word = true
  · rw [if_pos there] at described ⊢
    rw [described] at taken
    obtain ⟨rfl, rfl⟩ := Prod.mk.inj taken
    refine ⟨front ++ word, ?_, ?_⟩
    · rw [List.append_assoc, ← (eq_append_of_span splitWord).1]
      exact (eq_append_of_span split).1
    · rw [refuses cs word final described, Option.or_none]
      rfl
  · rw [if_neg there] at described ⊢
    rw [described] at taken
    obtain ⟨rfl, rfl⟩ := Prod.mk.inj taken
    refine ⟨[], rfl, ?_⟩
    cases next.find? cs <;> rfl

theorem needsBlank_header_sequence (slot : Slot) (included : words ⊆ vocabulary)
    (needs : next.NeedsBlank) : (sequence (header slot words) next).NeedsBlank := by
  intro cs m matched
  rcases split : cs.span Text.isBlank with ⟨front, after⟩
  rcases splitWord : takeWord after with ⟨word, final⟩
  rw [header, find?_optional_sequence,
    find?_gap_anyOf_sequence slot included needs split splitWord] at matched
  by_cases there : front ≠ [] ∧ isAmong words word = true
  · obtain ⟨joined, blanks, -⟩ := eq_append_of_span split
    obtain ⟨c, front, rfl⟩ := List.exists_cons_of_ne_nil there.1
    exact ⟨c, front ++ after, joined, blanks c (by simp)⟩
  · rw [if_neg there, Option.none_or] at matched
    exact needs cs m matched

theorem refusesWords_header_sequence (slot : Slot) {others : List String}
    (included : words ⊆ vocabulary) (includedOthers : others ⊆ vocabulary)
    (apart : ∀ left ∈ others, ∀ right ∈ words,
      Text.sameAscii left.toList right.toList = false)
    (needs : next.NeedsBlank) (refuses : next.RefusesWords words) :
    (sequence (header slot others) next).RefusesWords words := by
  intro cs word rest taken
  rcases split : cs.span Text.isBlank with ⟨front, after⟩
  rcases splitWord : takeWord after with ⟨next, final⟩
  rw [header, find?_optional_sequence,
    find?_gap_anyOf_sequence slot includedOthers needs split splitWord, refuses cs word rest taken,
    Option.or_none]
  rw [takeOptional_of_splits split splitWord] at taken
  split at taken
  · next there =>
      rw [if_neg]
      rintro ⟨-, among⟩
      obtain ⟨right, inWords, sameRight⟩ := List.any_eq_true.mp there.2
      obtain ⟨left, inOthers, sameLeft⟩ := List.any_eq_true.mp among
      have same : Text.sameAscii left.toList right.toList = true := by
        rw [← sameFolded_eq (vocabulary_ascii (includedOthers inOthers))
          (vocabulary_ascii (included inWords)), Text.sameFolded, ← eq_of_beq sameLeft,
          ← eq_of_beq sameRight]
        exact beq_self_eq_true _
      rw [apart left inOthers right inWords] at same
      cases same
  · cases taken

end Headers

section Coordinates

variable {cs rest taken : List Char}

/-- A character that a number can begin with, in any script. -/
def startsNumeral (c : Char) : Bool :=
  Text.isDecimalDigit c || c == '.' || c == '+' || c == '-'

theorem takeNumber?_cons_eq_none {c : Char} (other : startsNumeral c = false) :
    takeNumber? (c :: rest) = none := by
  simp only [startsNumeral, Bool.or_eq_false_iff, beq_eq_false_iff_ne] at other
  obtain ⟨⟨⟨noDigit, noPoint⟩, notPlus⟩, notMinus⟩ := other
  have digits : takeDigits (c :: rest) = ([], c :: rest) := by
    rw [takeDigits, List.span_eq_takeWhile_dropWhile]
    simp [noDigit]
  simp [takeNumber?, takeSign, notPlus, notMinus, takeMantissa?, digits, noPoint]

theorem ne_nil_of_takeNumber? (found : takeNumber? cs = .some (taken, rest)) : taken ≠ [] := by
  have mantissa {cs taken rest : List Char} (found : takeMantissa? cs = .some (taken, rest)) :
      taken ≠ [] := by
    unfold takeMantissa? at found
    split at found
    · split at found
      · cases found
      · cases found
        simp
    · cases found
    · cases found
      simp
    · next nonempty _ _ _ =>
        cases found
        exact nonempty
  unfold takeNumber? at found
  simp only [Option.bind_eq_bind, Option.bind_eq_some_iff] at found
  obtain ⟨⟨number, tail⟩, measured, result⟩ := found
  cases result
  simp [mantissa measured]

theorem not_isBlank_of_takeNumber? (found : takeNumber? cs = .some (taken, rest)) :
    ∀ c ∈ taken, Text.isBlank c = false := by
  have matched : number.find? cs = .some { text := taken } := by rw [find?_number, found]; rfl
  intro c inNumber
  have admitted := (taken_of_find? matched).2 c inNumber
  rw [← Bool.not_eq_true]
  intro blank
  have apart := of_isBlank (fun c => !number.admits c) (by decide) blank
  simp [admitted] at apart

theorem find?_gap_number {front after : List Char} (split : cs.span Text.isBlank = (front, after)) :
    (sequence gap number).find? cs =
      if front = [] then none
      else (takeNumber? after).map fun found => { text := front ++ found.1 } := by
  have refuses (c : Char) (rest : List Char) (blank : Text.isBlank c = true) :
      number.find? (c :: rest) = none := by
    have other := of_isBlank (fun c => !startsNumeral c) (by decide) blank
    rw [find?_number, takeNumber?_cons_eq_none (by simpa using other)]
    rfl
  rw [find?_gap_sequence refuses split, find?_number, Option.map_map]
  rfl

theorem tokens_cons_of_isBlank {c : Char} (blank : Text.isBlank c = true) (cs : List Char) :
    tokens (c :: cs) = tokens cs := by
  have split := List.splitOnP_append_cons [] cs blank
  rw [List.nil_append] at split
  rw [tokens, split]
  simp [tokens]

theorem tokens_append_of_isBlank {front : List Char} (blanks : ∀ c ∈ front, Text.isBlank c = true)
    (cs : List Char) : tokens (front ++ cs) = tokens cs := by
  induction front with
  | nil => rfl
  | cons c front inductionHypothesis =>
      obtain ⟨blank, others⟩ := List.forall_mem_cons.mp blanks
      rw [List.cons_append, tokens_cons_of_isBlank blank, inductionHypothesis others]

theorem tokens_word_append {word : List Char} (nonempty : word ≠ [])
    (solid : ∀ c ∈ word, Text.isBlank c = false) {cs : List Char}
    (stops : ∀ c ∈ cs.head?, Text.isBlank c = true) : tokens (word ++ cs) = word :: tokens cs := by
  have single : tokens word = [word] := by
    rw [tokens, List.splitOnP_eq_singleton solid]
    simp [nonempty]
  cases cs with
  | nil => rw [List.append_nil, single]; rfl
  | cons c cs =>
      have blank := stops c rfl
      rw [tokens, List.splitOnP_append_cons word cs blank, List.filter_append]
      change tokens word ++ tokens cs = _
      rw [single, tokens_cons_of_isBlank blank]
      rfl

/-- What the repetition of numbers takes: nothing, or words that are the numbers, after blanks. -/
structure SpellsNumbers (numbers : List (List Char)) (text : List Char) : Prop where
  words : tokens text = numbers
  begins : ∀ c ∈ text.head?, Text.isBlank c = true
  ends : ∀ c ∈ text.getLast?, Text.isBlank c = false
  nothing : numbers = [] → text = []

theorem spellsNumbers_nil : SpellsNumbers [] [] :=
  ⟨by simp [tokens], by simp, by simp, fun _ => rfl⟩

theorem SpellsNumbers.cons {numbers : List (List Char)} {front number text : List Char}
    (spells : SpellsNumbers numbers text) (isGap : IsGap Text.isBlank front)
    (nonempty : number ≠ []) (solid : ∀ c ∈ number, Text.isBlank c = false) :
    SpellsNumbers (number :: numbers) (front ++ (number ++ text)) where
  words := by
    rw [tokens_append_of_isBlank isGap.2, tokens_word_append nonempty solid spells.begins,
      spells.words]
  begins := by
    obtain ⟨c, front, rfl⟩ := List.exists_cons_of_ne_nil isGap.1
    rintro c ⟨⟩
    exact isGap.2 _ (by simp)
  ends := by
    intro c isLast
    rw [List.getLast?_append_of_ne_nil _ (by simp [nonempty]), List.getLast?_append,
      Option.mem_def, Option.or_eq_some_iff] at isLast
    rcases isLast with inText | ⟨-, inNumber⟩
    · exact spells.ends c inText
    · exact solid c (List.mem_of_getLast? inNumber)
  nothing := by simp

theorem head_repeated_number {bound : Nat} {numbers : List (List Char)}
    (found : takeNumbers bound cs = (numbers, rest)) :
    ∃ text, cs = text ++ rest ∧
      (repeated (sequence gap number).ways bound cs).head? = .some { text } ∧
      SpellsNumbers numbers text := by
  have ended {cs : List Char} {bound : Nat} (refused : (sequence gap number).find? cs = none) :
      ∃ text, cs = text ++ cs ∧
        (repeated (sequence gap number).ways bound cs).head? = .some { text } ∧
        SpellsNumbers [] text :=
    ⟨[], rfl, head_repeated_of_none refused bound, spellsNumbers_nil⟩
  induction bound generalizing cs numbers with
  | zero =>
      cases found
      exact ⟨[], rfl, rfl, spellsNumbers_nil⟩
  | succ bound inductionHypothesis =>
      rcases split : cs.span Text.isBlank with ⟨front, after⟩
      have matched := find?_gap_number split
      unfold takeNumbers at found
      rw [split] at found
      cases front with
      | nil =>
          cases found
          exact ended matched
      | cons first front =>
          cases taken : takeNumber? after with
          | none =>
              simp only [taken] at found
              cases found
              rw [taken] at matched
              exact ended matched
          | some parts =>
              obtain ⟨number, final⟩ := parts
              rcases others : takeNumbers bound final with ⟨numbers, last⟩
              simp only [taken, others] at found
              cases found
              obtain ⟨text, joined, repeats, spells⟩ := inductionHypothesis others
              obtain ⟨whole, blanks, -⟩ := eq_append_of_span split
              rw [eq_append_of_takeNumber? taken] at whole
              have advanced : cs.drop (first :: front ++ number).length = final := by
                rw [whole, ← List.append_assoc, List.drop_left]
              rw [taken, if_neg (List.cons_ne_nil _ _)] at matched
              refine ⟨first :: front ++ (number ++ text), ?_, ?_, ?_⟩
              · rw [whole, joined]
                simp
              · rw [head_repeated_of_some matched (by simp) bound, advanced, repeats]
                simp
              · exact spells.cons ⟨by simp, blanks⟩ (ne_nil_of_takeNumber? taken)
                  (not_isBlank_of_takeNumber? taken)

/-- The numbers at the front of a text are the match of the expression for coordinates. -/
theorem find?_coordinates {numbers : List (List Char)}
    (found : takeNumbers cs.length cs = (numbers, rest)) :
    ∃ text, cs = text ++ rest ∧ SpellsNumbers numbers text ∧ coordinates.find? cs =
      if numbers = [] then none else .some ⟨text, [(.numbers, text)]⟩ := by
  obtain ⟨text, joined, repeats, spells⟩ := head_repeated_number found
  refine ⟨text, joined, spells, ?_⟩
  rw [coordinates, find?_group]
  cases first : (sequence gap number).find? cs with
  | none =>
      rw [head_repeated_of_none first] at repeats
      have nothing : text = [] := by cases repeats; rfl
      have none : numbers = [] := by rw [← spells.words, nothing]; simp [tokens]
      rw [if_pos none, find?_some_of_none first]
      rfl
  | some m =>
      rcases split : cs.span Text.isBlank with ⟨front, after⟩
      have matched := find?_gap_number split
      have advances : m.text ≠ [] := by
        rw [first] at matched
        split at matched
        · cases matched
        · next nonempty =>
            obtain ⟨parts, -, rfl⟩ := Option.map_eq_some_iff.mp matched.symm
            simp [nonempty]
      have many : (sequence gap number).many.find? cs = .some { text } := repeats
      -- Without numbers the repetition would have taken nothing, against its first round.
      have some : numbers ≠ [] := by
        intro none
        rw [← find?_some_of_some first advances, Pattern.some,
          find?_sequence_of_total (total_many _), first, Option.bind_some, spells.nothing none] at many
        obtain ⟨others, -, empty⟩ := Option.map_eq_some_iff.mp many
        exact advances (List.append_eq_nil_iff.mp (congrArg Match.text empty)).1
      rw [if_neg some, find?_some_of_some first advances, many]
      rfl

theorem needsBlank_coordinates : coordinates.NeedsBlank := by
  intro cs m matched
  rcases found : takeNumbers cs.length cs with ⟨numbers, rest⟩
  obtain ⟨text, joined, spells, described⟩ := find?_coordinates found
  rw [described] at matched
  split at matched
  · cases matched
  · next some =>
      cases text with
      | nil =>
          rw [← spells.words] at some
          simp [tokens] at some
      | cons c text => exact ⟨c, text ++ rest, joined, spells.begins c rfl⟩

/-- A known word begins like no number, also before case folding. -/
theorem head_of_isAmong {words : List String} {word : List Char} (included : words ⊆ vocabulary)
    (among : isAmong words word = true) :
    ∃ c tail, word = c :: tail ∧ startsNumeral c = false := by
  obtain ⟨known, member, same⟩ := List.any_eq_true.mp among
  obtain ⟨letter, isFirst, isLetter⟩ := vocabulary_head (included member)
  obtain ⟨letters, spelled⟩ := List.head?_eq_some_iff.mp isFirst
  have ascii := vocabulary_ascii (included member) letter (by rw [spelled]; simp)
  have mapped := eq_of_beq same
  rw [spelled] at mapped
  cases word with
  | nil => cases mapped
  | cons c tail =>
      obtain ⟨sameLetter, -⟩ := List.cons.inj mapped
      rw [foldLetter_eq ascii] at sameLetter
      have small : letter.toLower.toNat < 128 := by
        simpa using of_ascii (fun c => decide (c.toLower.toNat < 128)) (by decide) ascii
      have apart := of_foldLetter (fun c => !(Text.foldLetter c).isAlpha || !startsNumeral c)
        (by decide) (by decide) (by rwa [sameLetter])
      exact ⟨c, tail, rfl, by simpa [sameLetter, isLetter] using apart⟩

theorem refusesWords_coordinates {words : List String} (included : words ⊆ vocabulary) :
    coordinates.RefusesWords words := by
  intro cs word rest taken
  rcases split : cs.span Text.isBlank with ⟨front, after⟩
  rcases splitWord : takeWord after with ⟨next, final⟩
  rw [takeOptional_of_splits split splitWord] at taken
  split at taken
  · next there =>
      obtain ⟨c, tail, rfl, other⟩ := head_of_isAmong included there.2
      have noNumber : takeNumber? after = none := by
        rw [(eq_append_of_span splitWord).1]
        exact takeNumber?_cons_eq_none other
      have refused : (sequence gap number).find? cs = none := by
        rw [find?_gap_number split, noNumber]
        simp
      rw [coordinates, find?_group, find?_some_of_none refused]
      rfl
  · cases taken

end Coordinates

end Pattern

section Literals

variable {cs rest : List Char}

namespace Pattern

theorem needsBlank_fromFlavor : fromFlavor.NeedsBlank :=
  needsBlank_header_sequence .flavor vocabularies_included.2.2.1 needsBlank_coordinates

theorem needsBlank_fromPosition : fromPosition.NeedsBlank :=
  needsBlank_header_sequence .position vocabularies_included.2.1 needsBlank_fromFlavor

theorem needsBlank_fromFrame : fromFrame.NeedsBlank :=
  needsBlank_header_sequence .frame vocabularies_included.1 needsBlank_fromPosition

theorem refusesWords_fromFlavor {words : List String} (included : words ⊆ vocabulary)
    (apart : ∀ left ∈ flavorWords, ∀ right ∈ words,
      Text.sameAscii left.toList right.toList = false) : fromFlavor.RefusesWords words :=
  refusesWords_header_sequence .flavor included vocabularies_included.2.2.1 apart
    needsBlank_coordinates (refusesWords_coordinates included)

theorem find?_fromFrame {frame position flavor : Option (List Char)} {numbers : List (List Char)}
    {second third fourth : List Char} (takenFrame : takeOptional frameWords cs = (frame, second))
    (takenPosition : takeOptional positionWords second = (position, third))
    (takenFlavor : takeOptional flavorWords third = (flavor, fourth))
    (found : takeNumbers fourth.length fourth = (numbers, rest)) :
    ∃ header text, cs = header ++ (text ++ rest) ∧ SpellsNumbers numbers text ∧
      fromFrame.find? cs = if numbers = [] then none
        else .some ⟨header ++ text, (frame.map (Slot.frame, ·)).toList ++
          ((position.map (Slot.position, ·)).toList ++ ((flavor.map (Slot.flavor, ·)).toList ++
            [(.numbers, text)]))⟩ := by
  obtain ⟨frames, positions, flavors, -⟩ := vocabularies_included
  obtain ⟨positionNoFrame, flavorNoFrame, flavorNoPosition⟩ := vocabularies_apart
  have noFrame : fromPosition.RefusesWords frameWords :=
    refusesWords_header_sequence .position frames positions positionNoFrame needsBlank_fromFlavor
      (refusesWords_fromFlavor frames flavorNoFrame)
  obtain ⟨frameText, rfl, matchedFrame⟩ :=
    find?_header_sequence .frame frames needsBlank_fromPosition noFrame takenFrame
  obtain ⟨positionText, rfl, matchedPosition⟩ :=
    find?_header_sequence .position positions needsBlank_fromFlavor
      (refusesWords_fromFlavor positions flavorNoPosition) takenPosition
  obtain ⟨flavorText, rfl, matchedFlavor⟩ :=
    find?_header_sequence .flavor flavors needsBlank_coordinates (refusesWords_coordinates flavors)
      takenFlavor
  obtain ⟨text, rfl, spells, matched⟩ := find?_coordinates found
  refine ⟨frameText ++ (positionText ++ flavorText), text, by simp, spells, ?_⟩
  rw [fromFrame, matchedFrame, fromPosition, matchedPosition, fromFlavor, matchedFlavor, matched]
  split <;> simp

end Pattern

theorem trim_eq_self (begins : ∀ c ∈ cs.head?, Text.isBlank c = false)
    (ends : ∀ c ∈ cs.getLast?, Text.isBlank c = false) : Text.trim cs = cs := by
  have kept {cs : List Char} (begins : ∀ c ∈ cs.head?, Text.isBlank c = false) :
      cs.dropWhile Text.isBlank = cs :=
    @dropWhile_append_of_stops Text.isBlank [] cs (List.forall_mem_nil _) begins
  rw [Text.trim, kept begins, Text.trimEnd, kept (by rwa [List.head?_reverse]), List.reverse_reverse]

/-- What the parts of a literal are captured as. -/
def captures (shape : List Char) (frame position flavor : Option (List Char))
    (numbers : List Char) : List (Slot × List Char) :=
  (.shape, shape) :: ((frame.map (.frame, ·)).toList ++ ((position.map (.position, ·)).toList ++
    ((flavor.map (.flavor, ·)).toList ++ [(.numbers, numbers)])))

theorem literal_of_captures {blanks shape header text : List Char} {numbers : List (List Char)}
    (frame position flavor : Option (List Char)) (areBlanks : ∀ c ∈ blanks, Text.isBlank c = true)
    (nonempty : shape ≠ []) (solid : ∀ c ∈ shape, Text.isBlank c = false)
    (spells : Pattern.SpellsNumbers numbers text) (some : numbers ≠ []) :
    (Match.mk (blanks ++ (shape ++ (header ++ text)))
      (captures shape frame position flavor text)).literal =
        ⟨shape ++ (header ++ text), shape, flavor, numbers⟩ := by
  have someText : text ≠ [] := by
    rintro rfl
    rw [← spells.words] at some
    simp [tokens] at some
  have trimmed : Text.trim (blanks ++ (shape ++ (header ++ text))) = shape ++ (header ++ text) := by
    rw [Text.trim_append_left_of_all_blank areBlanks]
    apply trim_eq_self
    · intro c isFirst
      rw [List.head?_append_of_ne_nil _ nonempty] at isFirst
      exact solid c (List.mem_of_mem_head? isFirst)
    · intro c isLast
      rw [← List.append_assoc, List.getLast?_append_of_ne_nil _ someText] at isLast
      exact spells.ends c isLast
  have flavorKept : (captures shape frame position flavor text).lookup .flavor = flavor := by
    cases frame <;> cases position <;> cases flavor <;> rfl
  have numbersKept : (captures shape frame position flavor text).lookup .numbers = .some text := by
    cases frame <;> cases position <;> cases flavor <;> rfl
  rw [Match.literal, Match.captured?, Match.captured?, Match.captured?, trimmed, flavorKept,
    numbersKept, Option.getD_some, spells.words]
  rfl

/-- The blanks before a literal are taken first, and are no part of it. -/
theorem find?_literalPattern (cs : List Char) : literalPattern.find? cs =
    (Pattern.fromShape.find? (cs.dropWhile Text.isBlank)).map
      ({ text := cs.takeWhile Text.isBlank } ++ ·) := by
  obtain ⟨-, -, -, shapes⟩ := vocabularies_included
  exact Pattern.find?_many_char_sequence
    (Pattern.find?_anyOf_sequence_blank .shape shapes Pattern.needsBlank_fromFrame)

/-- The literal at the front of a text is the match of the regular expression there. -/
theorem takeLiteral?_eq (cs : List Char) :
    takeLiteral? cs = (literalPattern.find? cs).map fun found =>
      (found.literal, cs.drop found.text.length) := by
  obtain ⟨-, -, -, shapes⟩ := vocabularies_included
  have blankSplit := List.span_eq_takeWhile_dropWhile Text.isBlank cs
  rw [takeLiteral?, find?_literalPattern]
  generalize cs.takeWhile Text.isBlank = blanks at blankSplit
  generalize cs.dropWhile Text.isBlank = start at blankSplit
  obtain ⟨rfl, areBlanks, -⟩ := eq_append_of_span blankSplit
  rcases shapeSplit : takeWord start with ⟨shape, first⟩
  rcases takenFrame : takeOptional frameWords first with ⟨frame, second⟩
  rcases takenPosition : takeOptional positionWords second with ⟨position, third⟩
  rcases takenFlavor : takeOptional flavorWords third with ⟨flavor, fourth⟩
  rcases found : takeNumbers fourth.length fourth with ⟨numbers, rest⟩
  obtain ⟨header, text, rfl, spells, matchedRest⟩ :=
    Pattern.find?_fromFrame takenFrame takenPosition takenFlavor found
  rw [Pattern.fromShape,
    Pattern.find?_anyOf_sequence .shape shapes Pattern.needsBlank_fromFrame shapeSplit, matchedRest]
  obtain ⟨rfl, solid, -⟩ := eq_append_of_span shapeSplit
  simp only [takenFrame, takenPosition, takenFlavor, found]
  by_cases among : isAmong shapeWords shape = true
  · rw [if_pos among, if_pos among]
    cases numbers with
    | nil => rfl
    | cons number numbers =>
        have nonempty : shape ≠ [] := by
          rintro rfl
          rw [Pattern.isAmong_nil shapes] at among
          cases among
        have literal := @literal_of_captures _ _ header _ _ frame position flavor areBlanks nonempty
          (by simpa using solid) spells (List.cons_ne_nil _ _)
        have joined : blanks ++ (shape ++ (header ++ (text ++ rest))) =
            blanks ++ (shape ++ (header ++ text)) ++ rest := by simp
        have dropped : (blanks ++ (shape ++ (header ++ (text ++ rest)))).drop
            (blanks ++ (shape ++ (header ++ text))).length = rest := by
          rw [joined, List.drop_left]
        rw [if_neg (List.cons_ne_nil _ _)]
        simp only [take_text, ← literal, Option.map_some, Match.mk_append_mk, dropped]
        rfl
  · rw [if_neg among, if_neg among]
    rfl

end Literals

end SkySql.Stcs
