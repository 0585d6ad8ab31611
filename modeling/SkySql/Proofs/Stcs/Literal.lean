import SkySql.Proofs.Stcs.Header

set_option autoImplicit false

/-!
Taking a literal off the front of an ASCII text agrees with the grammar in both directions. However
greedy its parts are, a literal is taken whole and nothing after it, if what follows can neither go
on with its last number nor be one more number.
-/

namespace SkySql.Stcs

section Literals

variable {cs text rest : List Char} {literal : Literal}

/-- Blanks in front of a literal make no difference. -/
theorem takeLiteral?_congr {other : List Char}
    (same : cs.dropWhile Text.isBlank = other.dropWhile Text.isBlank) :
    takeLiteral? cs = takeLiteral? other := by
  rw [takeLiteral?, takeLiteral?, same]

theorem AreNumbers.length_le {numbers : List (List Char)} (areNumbers : AreNumbers numbers text) :
    numbers.length ≤ text.length := by
  induction areNumbers with
  | nil => simp
  | cons isGap _ _ inductionHypothesis =>
      have nonempty := List.length_pos_iff.mpr isGap.1
      simp only [List.length_cons, List.length_append]
      omega

/-- The first number of a literal ends its optional words. -/
theorem AreNumbers.endsHeader {numbers : List (List Char)} (areNumbers : AreNumbers numbers text)
    (some : numbers ≠ []) (ascii : Ascii (text ++ rest)) :
    EndsHeader Text.isBlank (!Text.isBlank ·) (text ++ rest) := by
  cases areNumbers with
  | nil => cases some rfl
  | @cons gap number text numbers isGap isNumber =>
      rw [List.append_assoc, List.append_assoc] at ascii ⊢
      obtain ⟨c, tail, rfl, starts⟩ := isNumber.head
      have asciiFirst : c.toNat < 128 := ascii c (by simp)
      have noBlank := isBlank_of_startsNumber asciiFirst starts
      constructor
      · obtain ⟨first, gap, rfl⟩ := List.exists_cons_of_ne_nil isGap.1
        rintro d ⟨⟩
        simpa using isGap.2 first (by simp)
      · rw [dropWhile_append_of_stops isGap.2 (by rintro d ⟨⟩; exact noBlank)]
        rintro d ⟨⟩
        have apart :=
          of_ascii (fun c => !startsNumber c || !c.isAlpha) (by decide) asciiFirst
        simpa [starts] using apart

/-- The text of a literal is what stands before the rest. -/
theorem take_text (shape header body : List Char) :
    (shape ++ (header ++ (body ++ rest))).take
      ((shape ++ (header ++ (body ++ rest))).length - rest.length) = shape ++ (header ++ body) := by
  rw [← List.append_assoc header, ← List.append_assoc shape, List.length_append,
    Nat.add_sub_cancel, List.take_left]

theorem takeLiteral?_append (written : literal.Written text) (ascii : Ascii (text ++ rest))
    (ends : EndsNumbers rest) : takeLiteral? (text ++ rest) = some (literal, rest) := by
  obtain ⟨-, -, -, shapes⟩ := vocabularies_included
  cases written with
  | @parts blanks shape header body frame flavor numbers areBlanks isShape isHeader areNumbers some =>
      rw [List.append_assoc, List.append_assoc, List.append_assoc] at ascii ⊢
      have asciiStart := (ascii_append.mp ascii).2
      obtain ⟨asciiShape, asciiHeader⟩ := ascii_append.mp asciiStart
      have asciiBody := (ascii_append.mp asciiHeader).2
      have endsHeader := areNumbers.endsHeader some asciiBody
      have start : (blanks ++ (shape ++ (header ++ (body ++ rest)))).dropWhile Text.isBlank =
          shape ++ (header ++ (body ++ rest)) := by
        apply dropWhile_append_of_stops areBlanks
        obtain ⟨first, tail, rfl, letter⟩ := isShape.head shapes asciiShape
        rintro c ⟨⟩
        exact literalScans.not_blank_of_alpha first (asciiShape first (by simp)) letter
      have shapeTaken : takeWord (shape ++ (header ++ (body ++ rest))) =
          (shape, header ++ (body ++ rest)) := by
        refine span_append (fun c membership => ?_) (isHeader.stops literalScans endsHeader.stops)
        exact literalScans.inside_of_wordChar c (asciiShape c membership)
          (isShape.wordChars shapes asciiShape c membership)
      have isAmong := (isAmong_iff asciiShape shapes).mpr isShape
      obtain ⟨position, second, third, takenFrame, takenPosition, takenFlavor⟩ :=
        takeListed_header literalScans isHeader asciiHeader endsHeader
      have enough : numbers.length ≤ (body ++ rest).length := by
        have bound := areNumbers.length_le
        simp only [List.length_append]
        omega
      have takenNumbers := takeNumbers_append areNumbers asciiBody ends enough
      unfold takeLiteral?
      simp only [start, shapeTaken, isAmong, if_true, takeOptional_eq, takenFrame, takenPosition,
        takenFlavor, takenNumbers]
      obtain ⟨number, numbers, rfl⟩ := List.exists_cons_of_ne_nil some
      rw [take_text]

theorem written_of_takeLiteral? (ascii : Ascii cs)
    (taken : takeLiteral? cs = some (literal, rest)) :
    ∃ text, cs = text ++ rest ∧ literal.Written text := by
  obtain ⟨-, -, -, shapes⟩ := vocabularies_included
  have blankSplit := List.span_eq_takeWhile_dropWhile Text.isBlank cs
  unfold takeLiteral? at taken
  generalize cs.takeWhile Text.isBlank = blanks at blankSplit
  generalize cs.dropWhile Text.isBlank = start at blankSplit taken
  obtain ⟨rfl, areBlanks, -⟩ := eq_append_of_span blankSplit
  rcases shapeSplit : takeWord start with ⟨shape, first⟩
  obtain ⟨rfl, -, -⟩ := eq_append_of_span shapeSplit
  obtain ⟨asciiShape, asciiFirst⟩ := ascii_append.mp (ascii_append.mp ascii).2
  rcases takenFrame : takeOptional frameWords first with ⟨frame, second⟩
  rcases takenPosition : takeOptional positionWords second with ⟨position, third⟩
  rcases takenFlavor : takeOptional flavorWords third with ⟨flavor, fourth⟩
  simp only [shapeSplit, takenFrame, takenPosition, takenFlavor] at taken
  split at taken
  · next isAmong =>
      have isShape := (isAmong_iff asciiShape shapes).mp isAmong
      rw [takeOptional_eq] at takenFrame takenPosition takenFlavor
      obtain ⟨header, rfl, isHeader⟩ :=
        isHeader_of_takeListed literalScans asciiFirst takenFrame takenPosition takenFlavor
      split at taken
      · cases taken
      · next numbers final some takenNumbers =>
          obtain ⟨body, rfl, areNumbers⟩ :=
            areNumbers_of_takeNumbers (ascii_append.mp asciiFirst).2 takenNumbers
          obtain ⟨rfl, rfl⟩ := Prod.mk.inj (Option.some.inj taken)
          refine ⟨blanks ++ (shape ++ (header ++ body)), by simp, ?_⟩
          rw [take_text]
          exact .parts areBlanks isShape isHeader areNumbers some
  · cases taken

end Literals

end SkySql.Stcs
