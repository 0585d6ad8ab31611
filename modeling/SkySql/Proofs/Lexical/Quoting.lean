import SkySql.Text.Quoted

set_option autoImplicit false

/-!
Reading string literals. Only the literal that is written for a value reads as that value, whatever
quotes the value begins with, ends with or has in it, and reading it stops where the literal ends.
The one thing that could go wrong is a quote right behind it, which would be taken for a second half.
-/

namespace SkySql.Lexical

/-- The value of a literal from behind its opening quote, and the text behind its closing one. Two
quotes in a row stand for a quote of the value; the first quote that is not one of two closes the
literal. A literal that is not closed has no value. -/
def scanValue? : List Char → Option (List Char × List Char)
  | [] => none
  | '\x27' :: '\x27' :: rest =>
      (scanValue? rest).map fun (value, final) => ('\x27' :: value, final)
  | '\x27' :: rest => some ([], rest)
  | c :: rest => (scanValue? rest).map fun (value, final) => (c :: value, final)

/-- The value of the literal at the front of a text, and what follows it. -/
def scanLiteral? : List Char → Option (List Char × List Char)
  | '\x27' :: rest => scanValue? rest
  | _ => none

section Values

variable {c : Char} {cs rest value : List Char}

theorem scanValue?_closing (ends : rest.head? ≠ some '\x27') :
    scanValue? ('\x27' :: rest) = some ([], rest) := by
  rw [scanValue?]
  rintro after rfl
  exact ends rfl

theorem scanValue?_other (other : c ≠ '\x27') :
    scanValue? (c :: rest) = (scanValue? rest).map fun (value, final) => (c :: value, final) := by
  rw [scanValue?]
  · exact fun _ isQuote _ => other isQuote
  · exact other

theorem scanValue?_doubleQuotes (value : List Char) (ends : rest.head? ≠ some '\x27') :
    scanValue? (Text.doubleQuotes value ++ '\x27' :: rest) = some (value, rest) := by
  induction value with
  | nil => exact scanValue?_closing ends
  | cons c value inductionHypothesis =>
      by_cases isQuote : c = '\x27'
      · rw [isQuote, Text.doubleQuotes, if_pos rfl, List.cons_append, List.cons_append, scanValue?,
          inductionHypothesis]
        rfl
      · rw [Text.doubleQuotes, if_neg isQuote, List.cons_append, scanValue?_other isQuote,
          inductionHypothesis]
        rfl

theorem eq_of_scanValue? (found : scanValue? cs = some (value, rest)) :
    cs = Text.doubleQuotes value ++ '\x27' :: rest ∧ rest.head? ≠ some '\x27' := by
  fun_induction scanValue? cs generalizing value with
  | case1 => cases found
  | case2 tail inductionHypothesis =>
      obtain ⟨⟨inner, final⟩, foundInner, same⟩ := Option.map_eq_some_iff.mp found
      cases same
      obtain ⟨rfl, ends⟩ := inductionHypothesis foundInner
      exact ⟨rfl, ends⟩
  | case3 tail single =>
      cases found
      refine ⟨rfl, fun first => ?_⟩
      obtain ⟨after, rfl⟩ := List.head?_eq_some_iff.mp first
      exact single after rfl
  | case4 c tail _ other inductionHypothesis =>
      obtain ⟨⟨inner, final⟩, foundInner, same⟩ := Option.map_eq_some_iff.mp found
      cases same
      obtain ⟨rfl, ends⟩ := inductionHypothesis foundInner
      refine ⟨?_, ends⟩
      rw [Text.doubleQuotes, if_neg other]
      rfl

end Values

/-- Reading the literal at the front of a text gives a value and stops before a rest exactly if the
text is the literal for that value and the rest, which does not begin with a quote. -/
theorem scan_eq_some_iff_quote (text value rest : String) :
    scanLiteral? text.toList = some (value.toList, rest.toList) ↔
      text = Text.quote value ++ rest ∧ rest.toList.head? ≠ some '\x27' := by
  rw [← String.toList_inj, String.toList_append, Text.toList_quote]
  constructor
  · intro found
    unfold scanLiteral? at found
    split at found
    · next body spelled =>
        obtain ⟨split, ends⟩ := eq_of_scanValue? found
        exact ⟨by simp [spelled, split], ends⟩
    · cases found
  · rintro ⟨split, ends⟩
    have spelled : text.toList =
        '\x27' :: (Text.doubleQuotes value.toList ++ '\x27' :: rest.toList) := by simp [split]
    rw [spelled]
    exact scanValue?_doubleQuotes value.toList ends

example : scanLiteral? "'''a''''', 1".toList = some ("'a''".toList, ", 1".toList) := by decide

end SkySql.Lexical
