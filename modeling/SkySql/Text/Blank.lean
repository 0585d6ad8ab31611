import SkySql.Text.Ranges

set_option autoImplicit false

/-!
White space in the sense of the Unicode property White_Space, and the two ways texts are cut at it:
trimming both ends, and taking the first word.
-/

namespace SkySql.Text

/-- The 25 code points of White_Space. -/
def blankRanges : List (Nat × Nat) :=
  [(0x9, 0xd), (0x20, 0x20), (0x85, 0x85), (0xa0, 0xa0), (0x1680, 0x1680), (0x2000, 0x200a),
   (0x2028, 0x2029), (0x202f, 0x202f), (0x205f, 0x205f), (0x3000, 0x3000)]

def isBlank (c : Char) : Bool := inRanges blankRanges c.toNat

def trimEnd (cs : List Char) : List Char := (cs.reverse.dropWhile isBlank).reverse

def trim (cs : List Char) : List Char := trimEnd (cs.dropWhile isBlank)

def firstWord (cs : List Char) : List Char := (cs.dropWhile isBlank).takeWhile (!isBlank ·)

@[simp] theorem trim_nil : trim [] = [] := rfl

theorem dropWhile_blank_append {blanks rest : List Char}
    (all : ∀ c ∈ blanks, isBlank c = true) :
    (blanks ++ rest).dropWhile isBlank = rest.dropWhile isBlank := by
  induction blanks with
  | nil => rfl
  | cons c blanks inductionHypothesis =>
      have blank : isBlank c = true := all c (by simp)
      simpa [List.dropWhile, blank] using
        inductionHypothesis fun d membership => all d (by simp [membership])

/-- Blanks put after a text are trimmed away again. -/
theorem trimEnd_append_of_all_blank {front blanks : List Char}
    (all : ∀ c ∈ blanks, isBlank c = true) : trimEnd (front ++ blanks) = trimEnd front := by
  simp only [trimEnd, List.reverse_append]
  rw [dropWhile_blank_append (by simpa using all)]

/-- Blanks put in front of a text are trimmed away again. -/
theorem trim_append_left_of_all_blank {blanks rest : List Char}
    (all : ∀ c ∈ blanks, isBlank c = true) : trim (blanks ++ rest) = trim rest := by
  rw [trim, dropWhile_blank_append all, trim]

/-- Trimming takes nothing but blanks. -/
theorem exists_surrounded_trim (cs : List Char) :
    ∃ before after, cs = before ++ trim cs ++ after ∧ (∀ c ∈ before, isBlank c = true) ∧
      ∀ c ∈ after, isBlank c = true := by
  have ends : cs.dropWhile isBlank =
      trim cs ++ ((cs.dropWhile isBlank).reverse.takeWhile isBlank).reverse := by
    rw [trim, trimEnd, ← List.reverse_append, List.takeWhile_append_dropWhile, List.reverse_reverse]
  refine ⟨cs.takeWhile isBlank, ((cs.dropWhile isBlank).reverse.takeWhile isBlank).reverse, ?_,
    List.all_eq_true.mp List.all_takeWhile, fun c membership =>
    List.all_eq_true.mp List.all_takeWhile c (List.mem_reverse.mp membership)⟩
  rw [List.append_assoc, ← ends, List.takeWhile_append_dropWhile]

end SkySql.Text
