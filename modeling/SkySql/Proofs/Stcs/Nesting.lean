import SkySql.Proofs.Stcs.Header

set_option autoImplicit false

/-!
The parentheses of a written region nest as deep as the region itself: none of its other parts has
parentheses in it.
-/

namespace SkySql.Stcs

def isPlain (c : Char) : Bool := c != '(' && c != ')'

def Plain (text : List Char) : Prop := ∀ c ∈ text, isPlain c = true

theorem plain_append {left right : List Char} (first : Plain left) (second : Plain right) :
    Plain (left ++ right) :=
  List.forall_mem_append.mpr ⟨first, second⟩

theorem plain_nil : Plain [] := List.forall_mem_nil _

theorem plain_of_class {text : List Char} (inside : Char → Bool)
    (all : ∀ c ∈ text, inside c = true) (opening : inside '(' = false)
    (closing : inside ')' = false) : Plain text := by
  intro c membership
  have isInside := all c membership
  have notOpening : c ≠ '(' := by
    rintro rfl
    rw [opening] at isInside
    cases isInside
  have notClosing : c ≠ ')' := by
    rintro rfl
    rw [closing] at isInside
    cases isInside
  simp [isPlain, notOpening, notClosing]

/-- Letter case aside, a word has the characters of the known one. -/
theorem plain_of_sameAscii {text known : List Char} (same : Text.sameAscii text known = true)
    (plain : Plain (known.map Char.toLower)) : Plain text := by
  have small : Plain (text.map Char.toLower) := by
    rw [eq_of_beq same]
    exact plain
  intro c membership
  have isSmall := small c.toLower (List.mem_map_of_mem membership)
  have notOpening : c ≠ '(' := by
    rintro rfl
    cases isSmall
  have notClosing : c ≠ ')' := by
    rintro rfl
    cases isSmall
  simp [isPlain, notOpening, notClosing]

theorem IsWord.plain {words : List String} {text : List Char} (isWord : IsWord words text)
    (included : words ⊆ vocabulary) : Plain text := by
  obtain ⟨known, member, same⟩ := isWord
  apply plain_of_sameAscii same
  apply plain_of_class isWordChar _ rfl rfl
  simpa using vocabulary_wordChars (included member)

theorem IsNumber.plain {text : List Char} (isNumber : IsNumber text) : Plain text :=
  plain_of_class isNumberChar isNumber.chars rfl rfl

theorem AreNumbers.plain {numbers : List (List Char)} {text : List Char}
    (areNumbers : AreNumbers numbers text) : Plain text := by
  induction areNumbers with
  | nil => exact plain_nil
  | cons isGap isNumber _ inductionHypothesis =>
      exact plain_append (plain_of_class Text.isBlank isGap.2 rfl rfl)
        (plain_append isNumber.plain inductionHypothesis)

theorem IsOptional.plain {blank : Char → Bool} {words : List String} {found : Option (List Char)}
    {text : List Char} (opening : blank '(' = false) (closing : blank ')' = false)
    (included : words ⊆ vocabulary)
    (isOptional : IsOptional blank words found text) : Plain text := by
  cases isOptional with
  | absent => exact plain_nil
  | present isGap isWord =>
      exact plain_append (plain_of_class blank isGap.2 opening closing) (isWord.plain included)

theorem IsHeader.plain {blank : Char → Bool} {frame flavor : Option (List Char)}
    {text : List Char} (opening : blank '(' = false) (closing : blank ')' = false)
    (isHeader : IsHeader blank frame flavor text) : Plain text := by
  obtain ⟨frames, positions, flavors, -⟩ := vocabularies_included
  cases isHeader with
  | parts isFrame isPosition isFlavor =>
      exact plain_append (isFrame.plain opening closing frames)
        (plain_append (isPosition.plain opening closing positions)
          (isFlavor.plain opening closing flavors))

theorem Literal.Written.plain {literal : Literal} {text : List Char}
    (written : literal.Written text) : Plain text := by
  obtain ⟨-, -, -, shapes⟩ := vocabularies_included
  cases written with
  | parts areBlanks isShape isHeader areNumbers =>
      exact plain_append (plain_of_class Text.isBlank areBlanks rfl rfl)
        (plain_append (isShape.plain shapes)
          (plain_append (isHeader.plain rfl rfl) areNumbers.plain))

theorem nestingFrom_plain {text : List Char} (plain : Plain text) (opened : Nat)
    (rest : List Char) : nestingFrom opened (text ++ rest) = nestingFrom opened rest := by
  induction text with
  | nil => rfl
  | cons c text inductionHypothesis =>
      obtain ⟨isPlain, others⟩ := List.forall_mem_cons.mp plain
      obtain ⟨notOpening, notClosing⟩ : c ≠ '(' ∧ c ≠ ')' := by simpa [Stcs.isPlain] using isPlain
      rw [List.cons_append, nestingFrom, if_neg notOpening, if_neg notClosing]
      exact inductionHypothesis others

theorem le_nestingFrom (opened : Nat) (cs : List Char) : opened ≤ nestingFrom opened cs := by
  induction cs generalizing opened with
  | nil => exact Nat.le_refl _
  | cons c rest inductionHypothesis =>
      rw [nestingFrom]
      split
      · have deeper := inductionHypothesis (opened + 1)
        omega
      · split
        · exact Nat.le_max_left ..
        · exact inductionHypothesis opened

theorem nestingFrom_parenthesized {text final rest : List Char} {opened depth : Nat}
    (areFinal : ∀ c ∈ final, isSpace c = true)
    (inside : ∀ rest, nestingFrom (opened + 1) (text ++ rest) =
      max (opened + 1 + depth) (nestingFrom (opened + 1) rest)) :
    nestingFrom opened ('(' :: (text ++ (final ++ ')' :: rest))) =
      max (opened + (depth + 1)) (nestingFrom opened rest) := by
  have opening : nestingFrom opened ('(' :: (text ++ (final ++ ')' :: rest))) =
      nestingFrom (opened + 1) (text ++ (final ++ ')' :: rest)) := rfl
  have closing : nestingFrom (opened + 1) (')' :: rest) =
      max (opened + 1) (nestingFrom opened rest) := rfl
  rw [opening, inside, nestingFrom_plain (plain_of_class isSpace areFinal rfl rfl), closing]
  omega

mutual

theorem nestingFrom_written (draft : Draft) {text : List Char} (written : draft.Written text)
    (opened : Nat) (rest : List Char) :
    nestingFrom opened (text ++ rest) = max (opened + draft.depth) (nestingFrom opened rest) := by
  match draft, written with
  | .literal _, .literal areSpaces isLiteral =>
      have plain := plain_append (plain_of_class isSpace areSpaces rfl rfl) isLiteral.plain
      rw [nestingFrom_plain plain, Draft.depth]
      exact (Nat.max_eq_right (le_nestingFrom opened rest)).symm
  | .complement operand, .complement areSpaces isWord areInner isOperand areFinal =>
      simp only [List.append_assoc, List.cons_append, List.nil_append]
      rw [nestingFrom_plain (plain_of_class isSpace areSpaces rfl rfl),
        nestingFrom_plain (plain_of_sameAscii isWord (List.all_eq_true.mp rfl)),
        nestingFrom_plain (plain_of_class isSpace areInner rfl rfl), Draft.depth]
      exact nestingFrom_parenthesized areFinal (nestingFrom_written operand isOperand (opened + 1))
  | .combination op _ _ operands, .combination areSpaces isOperator isWord isHeader areInner _
      areOperands areFinal =>
      have plainName : Plain (op.name.toList.map Char.toLower) := by
        rcases isOperator with rfl | rfl
        · exact List.all_eq_true.mp rfl
        · exact List.all_eq_true.mp rfl
      have plainWord := plain_of_sameAscii isWord plainName
      simp only [List.append_assoc, List.cons_append, List.nil_append]
      rw [nestingFrom_plain (plain_of_class isSpace areSpaces rfl rfl), nestingFrom_plain plainWord,
        nestingFrom_plain (isHeader.plain rfl rfl),
        nestingFrom_plain (plain_of_class isSpace areInner rfl rfl), Draft.depth]
      exact nestingFrom_parenthesized areFinal
        (nestingFrom_areWritten operands areOperands (opened + 1))

theorem nestingFrom_areWritten (drafts : List Draft) {text : List Char}
    (areWritten : AreWritten drafts text) (opened : Nat) (rest : List Char) :
    nestingFrom opened (text ++ rest) =
      max (opened + Draft.depths drafts) (nestingFrom opened rest) := by
  match drafts, areWritten with
  | [], .nil => exact (Nat.max_eq_right (le_nestingFrom opened rest)).symm
  | draft :: drafts, .cons written others =>
      rw [List.append_assoc, nestingFrom_written draft written, nestingFrom_areWritten drafts others,
        Draft.depths]
      omega

end

theorem nestingDepth_written {draft : Draft} {text : List Char} (written : draft.Written text) :
    nestingDepth text = draft.depth := by
  have whole := nestingFrom_written draft written 0 []
  rw [List.append_nil] at whole
  rw [nestingDepth, whole, nestingFrom]
  omega

end SkySql.Stcs
