set_option autoImplicit false

/-!
Sets of characters written as ascending, disjoint ranges of code points.
-/

namespace SkySql.Text

/-- Membership in ascending ranges. The search ends at the first range above the code. -/
def inRanges : List (Nat × Nat) → Nat → Bool
  | [], _ => false
  | (low, high) :: rest, code =>
      if code < low then false else code ≤ high || inRanges rest code

theorem inRanges_cons (low high code : Nat) (rest : List (Nat × Nat)) :
    inRanges ((low, high) :: rest) code =
      (!decide (code < low) && (decide (code ≤ high) || inRanges rest code)) := by
  by_cases below : code < low <;> simp [inRanges, below]

/-- Only a code inside one of the ranges is found. -/
theorem exists_range_of_inRanges {ranges : List (Nat × Nat)} {code : Nat}
    (found : inRanges ranges code = true) :
    ∃ range ∈ ranges, range.1 ≤ code ∧ code ≤ range.2 := by
  induction ranges with
  | nil => simp [inRanges] at found
  | cons range rest inductionHypothesis =>
      obtain ⟨low, high⟩ := range
      rw [inRanges_cons] at found
      simp only [Bool.and_eq_true, Bool.or_eq_true, Bool.not_eq_true', decide_eq_true_eq,
        decide_eq_false_iff_not] at found
      rcases found.2 with within | later
      · exact ⟨(low, high), by simp, by omega, within⟩
      · obtain ⟨range, membership, bounds⟩ := inductionHypothesis later
        exact ⟨range, by simp [membership], bounds⟩

end SkySql.Text
