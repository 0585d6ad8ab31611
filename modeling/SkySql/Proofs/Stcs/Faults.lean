import SkySql.Proofs.Stcs.Rereading

set_option autoImplicit false

/-!
What the errors of reading a region name: the whole input, or a literal of it that is written there as
it is named.
-/

namespace SkySql.Stcs

/-- Whether a fault is one of a value, and not of the notation. -/
def Fault.ofValue : Fault → Bool
  | .flavor _ | .badNumber _ | .wrongCount .. => true
  | .nestedTooDeep | .notARegion _ | .trailing _ | .notALiteral => false

/-- The message about a text that is no literal belongs to no other fault: each of the others has a
character that this one lacks. -/
theorem Fault.message_eq_iff (fault : Fault) :
    fault.message = "not an STC-S shape literal" ↔ fault = .notALiteral := by
  refine ⟨fun same => ?_, fun same => congrArg Fault.message same⟩
  have absent (c : Char) (lacks : c ∉ "not an STC-S shape literal".toList) :
      c ∉ fault.message.toList := by rwa [same]
  have begins (front rest : String) {c : Char} (inside : c ∈ front.toList) :
      c ∈ (front ++ rest).toList := by simp [inside]
  cases fault with
  | notALiteral => rfl
  | nestedTooDeep => cases absent 'g' (by decide) (begins _ _ (begins _ _ (by decide)))
  | notARegion found => cases absent 'x' (by decide) (begins _ _ (begins _ _ (by decide)))
  | trailing found => cases absent 'u' (by decide) (begins _ _ (begins _ _ (by decide)))
  | flavor name =>
      cases absent 'y' (by decide) (begins _ _ (begins _ _ (begins _ _ (by decide))))
  | badNumber spelling => cases absent 'b' (by decide) (begins _ _ (begins _ _ (by decide)))
  | wrongCount shape expected got => cases absent ',' (by decide) (begins _ _ (by simp))

/-- A step that fails with expected errors only. -/
def FailsWith {ε α : Type} (expected : ε → Prop) (found : Except ε α) : Prop :=
  ∀ e, found = .error e → expected e

namespace FailsWith

variable {ε φ α β : Type} {expected : ε → Prop} {found : Except ε α}

theorem ok (a : α) : FailsWith expected (.ok a : Except ε α) := by
  rintro e ⟨⟩

theorem error {e : ε} (isExpected : expected e) : FailsWith expected (.error e : Except ε α) := by
  rintro e ⟨⟩
  exact isExpected

theorem bind {next : α → Except ε β} (first : FailsWith expected found)
    (later : ∀ a, FailsWith expected (next a)) : FailsWith expected (found >>= next) := by
  cases found with
  | ok a => exact later a
  | error e => exact .error (first e rfl)

theorem mapError {better : φ → Prop} {f : ε → φ} (fails : FailsWith expected found)
    (implies : ∀ e, expected e → better (f e)) : FailsWith better (found.mapError f) := by
  cases found with
  | ok a => exact .ok a
  | error e => exact .error (implies e (fails e rfl))

theorem mono {better : ε → Prop} (fails : FailsWith expected found)
    (implies : ∀ e, expected e → better e) : FailsWith better found :=
  fun e failed => implies e (fails e failed)

theorem mapM {f : β → Except ε α} (each : ∀ b, FailsWith expected (f b)) (bs : List β) :
    FailsWith expected (bs.mapM f) := by
  induction bs with
  | nil => exact .ok []
  | cons b bs inductionHypothesis =>
      rw [List.mapM_cons]
      exact (each b).bind fun a => inductionHypothesis.bind fun as => .ok (a :: as)

end FailsWith

section Values

theorem checkFlavor_failsWith (text : String) (flavor : Option String) :
    FailsWith (fun e => e.literal = text ∧ e.fault.ofValue = true) (checkFlavor text flavor) := by
  cases flavor with
  | none => exact .ok ()
  | some word =>
      rw [checkFlavor]
      split
      · exact .ok ()
      · exact .error ⟨rfl, rfl⟩

theorem number_failsWith (spelling : List Char) :
    FailsWith (fun fault => fault.ofValue = true) (number spelling) := by
  rw [number]
  split
  · exact .ok _
  · exact .error rfl

theorem shapeGeometry_failsWith (shape : String) (numbers : List Float) :
    FailsWith (fun fault => fault.ofValue = true) (shapeGeometry shape numbers) := by
  unfold shapeGeometry
  dsimp only
  repeat' split
  all_goals first
    | exact .ok _
    | exact .error rfl

theorem geometry_failsWith (literal : Literal) :
    FailsWith (fun e => e.literal = String.ofList literal.text ∧ e.fault.ofValue = true)
      literal.geometry := by
  unfold Literal.geometry
  refine (checkFlavor_failsWith _ _).bind fun _ => ?_
  have numbers := FailsWith.mapM number_failsWith literal.numbers
  refine (numbers.mapError fun fault ofValue => ⟨rfl, ofValue⟩).bind fun values => ?_
  exact (shapeGeometry_failsWith _ values).mapError fun fault ofValue => ⟨rfl, ofValue⟩

end Values

/-- A fault of a value, named by the whole input or by a literal that stands in the text. -/
structure Error.Names (source : String) (text : List Char) (e : Error) : Prop where
  ofValue : e.fault.ofValue = true
  named : e.literal = source ∨ ∃ literal : Literal, literal.Stable ∧ literal.text <:+: text ∧
    e.literal = String.ofList literal.text

theorem Error.Names.mono {source : String} {part text : List Char} {e : Error}
    (names : e.Names source part) (inside : part <:+: text) : e.Names source text where
  ofValue := names.ofValue
  named := by
    rcases names.named with whole | ⟨literal, stable, isPart, named⟩
    · exact .inl whole
    · exact .inr ⟨literal, stable, isPart.trans inside, named⟩

theorem isInfix_parenthesized (front text final : List Char) :
    text <:+: front ++ '(' :: (text ++ (final ++ [')'])) :=
  ⟨front ++ ['('], final ++ [')'], by simp⟩

mutual

theorem Draft.Covers.failsWith (source : String) (draft : Draft) {text : List Char}
    (covers : draft.Covers text) : FailsWith (Error.Names source text) (draft.value source) := by
  match draft, covers with
  | .literal literal, @Draft.Covers.literal _ blanks _ stable =>
      rw [Draft.value]
      refine FailsWith.bind ((geometry_failsWith literal).mono ?_) fun _ => .ok _
      rintro e ⟨named, ofValue⟩
      exact ⟨ofValue, .inr ⟨literal, stable, (List.suffix_append blanks _).isInfix, named⟩⟩
  | .complement operand, .complement _ covers _ =>
      rw [Draft.value]
      refine FailsWith.bind ((Draft.Covers.failsWith source operand covers).mono ?_) fun _ => .ok _
      exact fun e names => names.mono (isInfix_parenthesized ..)
  | .combination op frame flavor operands, .combination _ cover _ =>
      rw [Draft.value]
      refine FailsWith.bind ((checkFlavor_failsWith source flavor).mono ?_) fun _ => ?_
      · rintro e ⟨named, ofValue⟩
        exact ⟨ofValue, .inl named⟩
      · refine FailsWith.bind ((AllCover.failWith source operands cover).mono ?_) fun _ => .ok _
        exact fun e names => names.mono (isInfix_parenthesized ..)

theorem AllCover.failWith (source : String) (drafts : List Draft) {text : List Char}
    (cover : AllCover drafts text) :
    FailsWith (Error.Names source text) (Draft.values source drafts) := by
  match drafts, cover with
  | [], .nil => exact .ok []
  | draft :: drafts, .cons covers cover =>
      rw [Draft.values]
      refine FailsWith.bind ((Draft.Covers.failsWith source draft covers).mono ?_) fun _ =>
        FailsWith.bind ((AllCover.failWith source drafts cover).mono ?_) fun _ => .ok _
      · exact fun e names => names.mono (List.prefix_append _ _).isInfix
      · exact fun e names => names.mono (List.suffix_append _ _).isInfix

end

theorem trim_isInfix (cs : List Char) : Text.trim cs <:+: cs := by
  obtain ⟨before, after, split, -, -⟩ := Text.exists_surrounded_trim cs
  exact ⟨before, after, split.symm⟩

/-- Reading fails with a fault of the notation, which names the input, or with one of a value. -/
theorem error_of_read (text : String) : FailsWith
    (fun e => (e.literal = text ∧ e.fault ≠ .notALiteral) ∨ e.Names text (Text.trim text.toList))
    (read text) := by
  rw [read_eq]
  split
  · exact .error (.inl ⟨rfl, by simp⟩)
  · cases taken : takeRegion? (nestingLimit + 1) (Text.trim text.toList) with
    | none => exact .error (.inl ⟨rfl, by simp⟩)
    | some parts =>
        obtain ⟨draft, rest⟩ := parts
        obtain ⟨front, split, covers⟩ := takeRegion?_covering _ taken
        dsimp only
        split
        · refine (covers.failsWith text draft).mono fun e names => .inr (names.mono ?_)
          rw [split]
          exact (List.prefix_append front rest).isInfix
        · exact .error (.inl ⟨rfl, by simp⟩)

/-- Every error of reading names the input, or a part of it that the literal expression matches from
its first to its last character and that has no blanks around it. The second match of a literal finds
what the first one found: it takes all of the text that was trimmed, has the same captures, and gives
the same shape, flavor and numbers. So no literal is refused for not being one. -/
theorem read_error_names_input (text : String) :
    (∀ e, read text = .error e →
      (e.literal = text ∨
        e.literal.toList <:+: text.toList ∧ Text.trim e.literal.toList = e.literal.toList ∧
          ∃ m, literalPattern.find? e.literal.toList = some m ∧ m.text = e.literal.toList) ∧
      e.fault.message ≠ "not an STC-S shape literal") ∧
    ∀ cs literal rest, takeLiteral? cs = some (literal, rest) →
      takeLiteral? literal.text = some (literal, []) ∧
      ∃ m, literalPattern.find? cs = some m ∧ cs = m.text ++ rest ∧ literal.text = Text.trim m.text ∧
        literalPattern.find? literal.text = some { m with text := literal.text } := by
  refine ⟨fun e failed => ?_, fun cs literal rest taken => ?_⟩
  · rw [Ne, Fault.message_eq_iff]
    rcases error_of_read text e failed with ⟨whole, other⟩ | names
    · exact ⟨.inl whole, other⟩
    · have other : e.fault ≠ .notALiteral := by
        intro same
        have ofValue := names.ofValue
        rw [same] at ofValue
        cases ofValue
      refine ⟨?_, other⟩
      rcases names.named with whole | ⟨literal, stable, inside, named⟩
      · exact .inl whole
      · obtain ⟨-, -, -, trimmed, -⟩ := stable_of_takeLiteral? stable
        rw [named, String.toList_ofList]
        exact .inr ⟨inside.trans (trim_isInfix _), trimmed, stable.find?⟩
  · obtain ⟨-, -, -, -, stable⟩ := stable_of_takeLiteral? taken
    refine ⟨stable, ?_⟩
    rw [takeLiteral?_eq] at taken
    obtain ⟨m, found, same⟩ := Option.map_eq_some_iff.mp taken
    cases same
    obtain ⟨-, -, -, -, again⟩ := blanks_of_find? found
    refine ⟨m, found, ?_, rfl, again⟩
    obtain ⟨rest, rfl⟩ := (Pattern.taken_of_find? found).1
    rw [List.drop_left]

/-- The first operand has a number too few, and is named without the blanks before it. -/
theorem read_error_names_input_operand :
    ∃ e, read "UNION( Circle 1 2 Box 1 2 3 4)" = .error e ∧ e.literal = "Circle 1 2" ∧
      e.literal.toList <:+: "UNION( Circle 1 2 Box 1 2 3 4)".toList := by
  have evaluated : (match read "UNION( Circle 1 2 Box 1 2 3 4)" with
      | .error e => some e
      | .ok _ => none) = some ⟨"Circle 1 2", .wrongCount "circle" "3" 2⟩ := by decide +kernel
  cases failed : read "UNION( Circle 1 2 Box 1 2 3 4)" with
  | ok value => simp [failed] at evaluated
  | error e =>
      simp only [failed, Option.some.injEq] at evaluated
      subst evaluated
      refine ⟨_, rfl, rfl, ?_⟩
      rcases ((read_error_names_input _).1 _ failed).1 with whole | ⟨inside, -⟩
      · exact absurd whole (by decide)
      · exact inside

end SkySql.Stcs
