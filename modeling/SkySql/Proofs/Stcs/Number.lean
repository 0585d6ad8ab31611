import Mathlib.Data.List.TakeDrop
import Mathlib.Data.List.TakeWhile
import SkySql.Proofs.Stcs.Grammar

set_option autoImplicit false

/-!
Taking numbers off the front of an ASCII text agrees with the grammar in both directions. What is
taken is always a number of the grammar. Conversely a number is taken whole if what follows it cannot
go on with it.
-/

namespace SkySql.Stcs

def Ascii (cs : List Char) : Prop := ∀ c ∈ cs, c.toNat < 128

theorem ascii_of_all {cs : List Char} (all : cs.all (fun c => decide (c.toNat < 128)) = true) :
    Ascii cs :=
  fun c membership => of_decide_eq_true (List.all_eq_true.mp all c membership)

theorem ascii_append {front rest : List Char} :
    Ascii (front ++ rest) ↔ Ascii front ∧ Ascii rest :=
  List.forall_mem_append

theorem Ascii.tail {c : Char} {cs : List Char} (ascii : Ascii (c :: cs)) : Ascii cs :=
  (List.forall_mem_cons.mp ascii).2

/-- A property of ASCII characters is settled by looking at each of them. -/
theorem of_ascii (property : Char → Bool)
    (all : (List.range 128).all (fun code => property (Char.ofNat code)) = true) {c : Char}
    (ascii : c.toNat < 128) : property c = true := by
  have found := List.all_eq_true.mp all c.toNat (List.mem_range.mpr ascii)
  rwa [Char.ofNat_toNat] at found

theorem isDecimalDigit_eq {c : Char} (ascii : c.toNat < 128) :
    Text.isDecimalDigit c = c.isDigit := by
  simpa using of_ascii (fun c => Text.isDecimalDigit c == c.isDigit) (by decide) ascii

theorem foldLetter_eq {c : Char} (ascii : c.toNat < 128) : Text.foldLetter c = c.toLower := by
  simpa using of_ascii (fun c => Text.foldLetter c == c.toLower) (by decide) ascii

theorem isBlank_of_isSpace {c : Char} (space : isSpace c = true) : Text.isBlank c = true := by
  simp only [isSpace, Bool.or_eq_true, beq_iff_eq] at space
  rcases space with ((rfl | rfl) | rfl) | rfl <;> decide

section Span

variable {p : Char → Bool} {cs front rest : List Char}

theorem span_append (all : ∀ c ∈ front, p c = true) (stops : ∀ c ∈ rest.head?, p c = false) :
    (front ++ rest).span p = (front, rest) := by
  rw [List.span_eq_takeWhile_dropWhile, List.takeWhile_append_of_pos all,
    List.dropWhile_append_of_pos all]
  cases rest with
  | nil => simp
  | cons c rest =>
      have stop : p c = false := stops c rfl
      simp [List.takeWhile, List.dropWhile, stop]

theorem eq_append_of_span (found : cs.span p = (front, rest)) :
    cs = front ++ rest ∧ (∀ c ∈ front, p c = true) ∧ ∀ c ∈ rest.head?, p c = false := by
  rw [List.span_eq_takeWhile_dropWhile] at found
  cases found
  refine ⟨List.takeWhile_append_dropWhile.symm, fun c => List.mem_takeWhile_imp, ?_⟩
  intro c first
  have refused := List.head?_dropWhile_not p cs
  rw [Option.mem_def.mp first] at refused
  simpa using refused

theorem dropWhile_append_of_stops (all : ∀ c ∈ front, p c = true)
    (stops : ∀ c ∈ rest.head?, p c = false) : (front ++ rest).dropWhile p = rest := by
  have split := span_append all stops
  rw [List.span_eq_takeWhile_dropWhile] at split
  exact congrArg Prod.snd split

end Span

section Numbers

variable {cs rest : List Char}

theorem takeDigits_append {digits : List Char} (all : ∀ c ∈ digits, c.isDigit = true)
    (ascii : Ascii (digits ++ rest)) (stops : ∀ c ∈ rest.head?, c.isDigit = false) :
    takeDigits (digits ++ rest) = (digits, rest) := by
  obtain ⟨asciiDigits, asciiRest⟩ := ascii_append.mp ascii
  apply span_append
  · intro c membership
    rw [isDecimalDigit_eq (asciiDigits c membership)]
    exact all c membership
  · intro c first
    rw [isDecimalDigit_eq (asciiRest c (List.mem_of_mem_head? first))]
    exact stops c first

theorem eq_append_of_takeDigits {digits : List Char} (ascii : Ascii cs)
    (found : takeDigits cs = (digits, rest)) :
    cs = digits ++ rest ∧ ∀ c ∈ digits, c.isDigit = true := by
  obtain ⟨rfl, all, -⟩ := eq_append_of_span found
  refine ⟨rfl, fun c membership => ?_⟩
  rw [← isDecimalDigit_eq (ascii c (List.mem_append_left _ membership))]
  exact all c membership

/-- A text that cannot go on with the number before it. -/
def EndsNumber (rest : List Char) : Prop :=
  ∀ c ∈ rest.head?, c.isDigit = false ∧ c ≠ '.' ∧ c ≠ 'e' ∧ c ≠ 'E'

theorem takeSign_append {sign : List Char} (isSign : IsSign sign)
    (stops : ∀ c ∈ rest.head?, c ≠ '+' ∧ c ≠ '-') : takeSign (sign ++ rest) = (sign, rest) := by
  rcases isSign with rfl | rfl | rfl
  · cases rest with
    | nil => rfl
    | cons c rest =>
        obtain ⟨notPlus, notMinus⟩ := stops c rfl
        simp [takeSign, notPlus, notMinus]
  · simp [takeSign]
  · simp [takeSign]

theorem eq_append_of_takeSign {sign : List Char} (found : takeSign cs = (sign, rest)) :
    cs = sign ++ rest ∧ IsSign sign := by
  cases cs with
  | nil => cases found; exact ⟨rfl, .inl rfl⟩
  | cons c tail =>
      rw [takeSign] at found
      split at found
      · next isSign =>
          cases found
          rcases isSign with rfl | rfl
          · exact ⟨rfl, .inr (.inl rfl)⟩
          · exact ⟨rfl, .inr (.inr rfl)⟩
      · cases found
        exact ⟨rfl, .inl rfl⟩

theorem IsDigits.head {digits : List Char} (isDigits : IsDigits digits) :
    ∃ c tail, digits = c :: tail ∧ c.isDigit = true := by
  obtain ⟨nonempty, all⟩ := isDigits
  obtain ⟨c, tail, rfl⟩ := List.exists_cons_of_ne_nil nonempty
  exact ⟨c, tail, rfl, all c (by simp)⟩

theorem IsMantissa.head {mantissa : List Char} (isMantissa : IsMantissa mantissa) :
    ∃ c tail, mantissa = c :: tail ∧ (c.isDigit = true ∨ c = '.') := by
  cases isMantissa with
  | whole isWhole =>
      obtain ⟨c, tail, rfl, digit⟩ := isWhole.head
      exact ⟨c, tail, rfl, .inl digit⟩
  | pointed isWhole =>
      obtain ⟨c, tail, rfl, digit⟩ := isWhole.head
      exact ⟨c, _, rfl, .inl digit⟩
  | fraction => exact ⟨'.', _, rfl, .inr rfl⟩

theorem IsMantissa.noSign {mantissa : List Char} (isMantissa : IsMantissa mantissa)
    (rest : List Char) : ∀ c ∈ (mantissa ++ rest).head?, c ≠ '+' ∧ c ≠ '-' := by
  obtain ⟨first, tail, rfl, isFirst⟩ := isMantissa.head
  rintro c ⟨⟩
  constructor <;> rintro rfl <;> simp at isFirst

theorem takeMantissa?_append {mantissa : List Char} (isMantissa : IsMantissa mantissa)
    (ascii : Ascii (mantissa ++ rest)) (stops : ∀ c ∈ rest.head?, c.isDigit = false ∧ c ≠ '.') :
    takeMantissa? (mantissa ++ rest) = some (mantissa, rest) := by
  have noDigit : ∀ c ∈ rest.head?, c.isDigit = false := fun c first => (stops c first).1
  cases isMantissa with
  | whole isWhole =>
      have taken := takeDigits_append isWhole.2 ascii noDigit
      obtain ⟨digit, digits, rfl, -⟩ := isWhole.head
      unfold takeMantissa?
      rw [taken]
      cases rest with
      | nil => rfl
      | cons c rest =>
          have noPoint : c ≠ '.' := (stops c rfl).2
          simp [noPoint]
  | @pointed whole fraction isWhole isFraction =>
      rw [List.append_assoc, List.cons_append] at ascii ⊢
      have taken := takeDigits_append isWhole.2 ascii (by simp)
      have asciiRest : Ascii ('.' :: (fraction ++ rest)) := (ascii_append.mp ascii).2
      have takenFraction := takeDigits_append isFraction asciiRest.tail noDigit
      obtain ⟨digit, digits, rfl, -⟩ := isWhole.head
      unfold takeMantissa?
      rw [taken]
      simp [takenFraction]
  | @fraction digits isFraction =>
      rw [List.cons_append] at ascii ⊢
      have none : takeDigits ('.' :: (digits ++ rest)) = ([], '.' :: (digits ++ rest)) := rfl
      have taken := takeDigits_append isFraction.2 ascii.tail noDigit
      obtain ⟨digit, digits, rfl, -⟩ := isFraction.head
      unfold takeMantissa?
      rw [none]
      simp only [taken]

theorem isMantissa_of_takeMantissa? {mantissa : List Char} (ascii : Ascii cs)
    (found : takeMantissa? cs = some (mantissa, rest)) :
    cs = mantissa ++ rest ∧ IsMantissa mantissa := by
  unfold takeMantissa? at found
  split at found
  · split at found
    · cases found
    · next digits after nonempty taken =>
        obtain ⟨rfl, all⟩ := eq_append_of_takeDigits ascii.tail taken
        cases found
        exact ⟨rfl, .fraction ⟨nonempty, all⟩⟩
  · cases found
  · next whole after nonempty _ taken =>
      obtain ⟨rfl, all⟩ := eq_append_of_takeDigits ascii taken
      have asciiAfter : Ascii ('.' :: after) := (ascii_append.mp ascii).2
      cases takenFraction : takeDigits after with
      | mk fraction final =>
          rw [takenFraction] at found
          obtain ⟨rfl, allFraction⟩ := eq_append_of_takeDigits asciiAfter.tail takenFraction
          cases found
          exact ⟨by simp, .pointed ⟨nonempty, all⟩ allFraction⟩
  · next whole after nonempty _ _ taken =>
      obtain ⟨rfl, all⟩ := eq_append_of_takeDigits ascii taken
      cases found
      exact ⟨rfl, .whole ⟨nonempty, all⟩⟩

theorem takeExponent_append {exponent : List Char} (isExponent : IsExponent exponent)
    (ascii : Ascii (exponent ++ rest)) (ends : EndsNumber rest) :
    takeExponent (exponent ++ rest) = (exponent, rest) := by
  cases isExponent with
  | absent =>
      cases rest with
      | nil => rfl
      | cons c rest =>
          obtain ⟨-, -, notSmall, notLarge⟩ := ends c rfl
          simp [takeExponent, notSmall, notLarge]
  | @present mark sign digits isMark isSign isDigits =>
      have asciiDigits : Ascii (digits ++ rest) := fun c membership => ascii c (by simp_all)
      have taken := takeDigits_append isDigits.2 asciiDigits fun c first => (ends c first).1
      obtain ⟨digit, digits, rfl, isDigit⟩ := isDigits.head
      have noSign : ∀ c ∈ (digit :: digits ++ rest).head?, c ≠ '+' ∧ c ≠ '-' := by
        rintro c ⟨⟩
        constructor <;> rintro rfl <;> cases isDigit
      rw [List.cons_append, takeExponent, if_pos isMark, List.append_assoc,
        takeSign_append isSign noSign]
      simp only [taken]

theorem isExponent_of_takeExponent {exponent : List Char} (ascii : Ascii cs)
    (found : takeExponent cs = (exponent, rest)) :
    cs = exponent ++ rest ∧ IsExponent exponent := by
  cases cs with
  | nil => cases found; exact ⟨rfl, .absent⟩
  | cons mark tail =>
      rw [takeExponent] at found
      split at found
      · next isMark =>
          cases signed : takeSign tail with
          | mk sign after =>
              obtain ⟨rfl, isSign⟩ := eq_append_of_takeSign signed
              simp only [signed] at found
              split at found
              · cases found; exact ⟨rfl, .absent⟩
              · next digits final nonempty taken =>
                  have asciiAfter : Ascii after := fun c membership => ascii c (by simp [membership])
                  obtain ⟨rfl, all⟩ := eq_append_of_takeDigits asciiAfter taken
                  cases found
                  exact ⟨by simp, .present isMark isSign ⟨nonempty, all⟩⟩
      · cases found; exact ⟨rfl, .absent⟩

theorem takeNumber?_append {number : List Char} (isNumber : IsNumber number)
    (ascii : Ascii (number ++ rest)) (ends : EndsNumber rest) :
    takeNumber? (number ++ rest) = some (number, rest) := by
  obtain @⟨sign, mantissa, exponent, isSign, isMantissa, isExponent⟩ := isNumber
  rw [List.append_assoc, List.append_assoc] at ascii ⊢
  have asciiBody := (ascii_append.mp ascii).2
  have noDigit : ∀ c ∈ (exponent ++ rest).head?, c.isDigit = false ∧ c ≠ '.' := by
    cases isExponent with
    | absent => exact fun c first => ⟨(ends c first).1, (ends c first).2.1⟩
    | present isMark =>
        rintro c ⟨⟩
        rcases isMark with rfl | rfl <;> decide
  have exponentTaken := takeExponent_append isExponent (ascii_append.mp asciiBody).2 ends
  simp only [takeNumber?, takeSign_append isSign (isMantissa.noSign (exponent ++ rest)),
    takeMantissa?_append isMantissa asciiBody noDigit]
  simp [exponentTaken]

theorem isNumber_of_takeNumber? {number : List Char} (ascii : Ascii cs)
    (found : takeNumber? cs = some (number, rest)) : cs = number ++ rest ∧ IsNumber number := by
  unfold takeNumber? at found
  cases signed : takeSign cs with
  | mk sign body =>
      obtain ⟨rfl, isSign⟩ := eq_append_of_takeSign signed
      have asciiBody := (ascii_append.mp ascii).2
      simp only [signed] at found
      cases measured : takeMantissa? body with
      | none => rw [measured] at found; cases found
      | some parts =>
          obtain ⟨mantissa, tail⟩ := parts
          obtain ⟨rfl, isMantissa⟩ := isMantissa_of_takeMantissa? asciiBody measured
          rw [measured] at found
          cases raised : takeExponent tail with
          | mk exponent final =>
              obtain ⟨rfl, isExponent⟩ :=
                isExponent_of_takeExponent (ascii_append.mp asciiBody).2 raised
              simp only [Option.bind_eq_bind, Option.bind_some, raised] at found
              cases found
              rw [List.append_assoc sign]
              exact ⟨by simp, .parts isSign isMantissa isExponent⟩

def isNumberChar (c : Char) : Bool := c.isDigit || "+-.eE".toList.contains c

theorem IsNumber.chars {number : List Char} (isNumber : IsNumber number) :
    ∀ c ∈ number, isNumberChar c = true := by
  have digits {cs : List Char} (all : ∀ c ∈ cs, c.isDigit = true) :
      ∀ c ∈ cs, isNumberChar c = true := by
    intro c membership
    simp [isNumberChar, all c membership]
  have sign {cs : List Char} (isSign : IsSign cs) : ∀ c ∈ cs, isNumberChar c = true := by
    rcases isSign with rfl | rfl | rfl <;> exact List.all_eq_true.mp rfl
  obtain @⟨_, mantissa, exponent, isSign, isMantissa, isExponent⟩ := isNumber
  refine List.forall_mem_append.mpr ⟨sign isSign, List.forall_mem_append.mpr ⟨?_, ?_⟩⟩
  · cases isMantissa with
    | whole isWhole => exact digits isWhole.2
    | pointed isWhole isFraction =>
        exact List.forall_mem_append.mpr
          ⟨digits isWhole.2, List.forall_mem_cons.mpr ⟨rfl, digits isFraction⟩⟩
    | fraction isFraction => exact List.forall_mem_cons.mpr ⟨rfl, digits isFraction.2⟩
  · cases isExponent with
    | absent => simp
    | present isMark isSign isDigits =>
        refine List.forall_mem_cons.mpr
          ⟨?_, List.forall_mem_append.mpr ⟨sign isSign, digits isDigits.2⟩⟩
        rcases isMark with rfl | rfl <;> rfl

theorem ascii_of_isNumberChar {c : Char} (inNumber : isNumberChar c = true) : c.toNat < 128 := by
  simp only [isNumberChar, Bool.or_eq_true] at inNumber
  rcases inNumber with isDigit | isMark
  · have last : '9'.toNat = 57 := rfl
    have bounds := Char.isDigit_iff_toNat.mp isDigit
    omega
  · simp only [List.contains_eq_mem, decide_eq_true_eq] at isMark
    have marks : Ascii "+-.eE".toList := ascii_of_all rfl
    exact marks c isMark

def startsNumber (c : Char) : Bool := c.isDigit || c == '.' || c == '+' || c == '-'

theorem IsNumber.head {number : List Char} (isNumber : IsNumber number) :
    ∃ c tail, number = c :: tail ∧ startsNumber c = true := by
  obtain @⟨sign, mantissa, exponent, isSign, isMantissa, -⟩ := isNumber
  rcases isSign with rfl | rfl | rfl
  · obtain ⟨c, tail, rfl, isFirst⟩ := isMantissa.head
    refine ⟨c, tail ++ exponent, rfl, ?_⟩
    rcases isFirst with isDigit | rfl
    · simp [startsNumber, isDigit]
    · rfl
  · exact ⟨'+', _, rfl, rfl⟩
  · exact ⟨'-', _, rfl, rfl⟩

/-- A text that neither goes on with the number before it nor has one more number after blanks. -/
def EndsNumbers (rest : List Char) : Prop :=
  EndsNumber rest ∧ ∀ c ∈ (rest.dropWhile Text.isBlank).head?, startsNumber c = false

theorem takeNumber?_eq_none (ascii : Ascii cs)
    (noStart : ∀ c ∈ cs.head?, startsNumber c = false) : takeNumber? cs = none := by
  cases found : takeNumber? cs with
  | none => rfl
  | some parts =>
      obtain ⟨number, rest⟩ := parts
      obtain ⟨rfl, isNumber⟩ := isNumber_of_takeNumber? ascii found
      obtain ⟨c, tail, rfl, starts⟩ := isNumber.head
      rw [noStart c rfl] at starts
      cases starts

theorem isBlank_of_startsNumber {c : Char} (ascii : c.toNat < 128)
    (starts : startsNumber c = true) : Text.isBlank c = false := by
  have apart := of_ascii (fun c => !startsNumber c || !Text.isBlank c) (by decide) ascii
  simpa [starts] using apart

theorem endsNumber_of_isBlank {c : Char} {cs : List Char} (ascii : c.toNat < 128)
    (blank : Text.isBlank c = true) : EndsNumber (c :: cs) := by
  have apart := of_ascii
    (fun c => !Text.isBlank c || (!c.isDigit && c != '.' && c != 'e' && c != 'E'))
    (by decide) ascii
  rintro d ⟨⟩
  simpa [blank, and_assoc] using apart

/-- A number in a list of numbers ends where the blanks before the next one begin. -/
theorem AreNumbers.endsNumber {numbers : List (List Char)} {text : List Char}
    (areNumbers : AreNumbers numbers text) (ascii : Ascii text) (ends : EndsNumber rest) :
    EndsNumber (text ++ rest) := by
  cases areNumbers with
  | nil => exact ends
  | cons isGap =>
      obtain ⟨nonempty, all⟩ := isGap
      obtain ⟨c, gap, rfl⟩ := List.exists_cons_of_ne_nil nonempty
      exact endsNumber_of_isBlank (ascii c (by simp)) (all c (by simp))

theorem takeNumbers_append {numbers : List (List Char)} {text : List Char}
    (areNumbers : AreNumbers numbers text) (ascii : Ascii (text ++ rest)) (ends : EndsNumbers rest)
    {bound : Nat} (enough : numbers.length ≤ bound) :
    takeNumbers bound (text ++ rest) = (numbers, rest) := by
  induction areNumbers generalizing bound with
  | nil =>
      cases bound with
      | zero => rfl
      | succ bound =>
          unfold takeNumbers
          simp only [List.nil_append] at ascii ⊢
          split
          · rfl
          · next first gap after split =>
              rw [List.span_eq_takeWhile_dropWhile] at split
              have same : rest.dropWhile Text.isBlank = after := congrArg Prod.snd split
              have asciiAfter : Ascii after := by
                rw [← same]
                exact fun c membership => ascii c ((List.dropWhile_suffix _).subset membership)
              have none := takeNumber?_eq_none asciiAfter (by rw [← same]; exact ends.2)
              simp [none]
  | @cons gap number text numbers isGap isNumber areNumbers inductionHypothesis =>
      obtain _ | bound := bound
      · cases enough
      · rw [List.append_assoc, List.append_assoc] at ascii ⊢
        have asciiTail := (ascii_append.mp ascii).2
        have asciiText := (ascii_append.mp asciiTail).2
        have noBlank : ∀ c ∈ (number ++ (text ++ rest)).head?, Text.isBlank c = false := by
          obtain ⟨first, tail, rfl, starts⟩ := isNumber.head
          rintro c ⟨⟩
          exact isBlank_of_startsNumber (asciiTail first (by simp)) starts
        have split := span_append isGap.2 noBlank
        have taken := takeNumber?_append isNumber asciiTail
          (areNumbers.endsNumber (ascii_append.mp asciiText).1 ends.1)
        have others := inductionHypothesis asciiText (Nat.le_of_succ_le_succ enough)
        obtain ⟨first, gap, rfl⟩ := List.exists_cons_of_ne_nil isGap.1
        unfold takeNumbers
        simp only [split, taken, others]

theorem areNumbers_of_takeNumbers {numbers : List (List Char)} {bound : Nat} (ascii : Ascii cs)
    (found : takeNumbers bound cs = (numbers, rest)) :
    ∃ text, cs = text ++ rest ∧ AreNumbers numbers text := by
  induction bound generalizing cs numbers with
  | zero => cases found; exact ⟨[], rfl, .nil⟩
  | succ bound inductionHypothesis =>
      unfold takeNumbers at found
      split at found
      · cases found; exact ⟨[], rfl, .nil⟩
      · next first gap after split =>
          obtain ⟨rfl, all, -⟩ := eq_append_of_span split
          split at found
          · cases found; exact ⟨[], rfl, .nil⟩
          · next number final taken =>
              have asciiAfter := (ascii_append.mp ascii).2
              obtain ⟨rfl, isNumber⟩ := isNumber_of_takeNumber? asciiAfter taken
              cases others : takeNumbers bound final with
              | mk numbers last =>
                  rw [others] at found
                  cases found
                  obtain ⟨text, rfl, areNumbers⟩ :=
                    inductionHypothesis (ascii_append.mp asciiAfter).2 others
                  refine ⟨first :: gap ++ (number ++ text), by simp, ?_⟩
                  exact .cons ⟨by simp, all⟩ isNumber areNumbers

end Numbers

end SkySql.Stcs
