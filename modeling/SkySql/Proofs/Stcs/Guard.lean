import SkySql.Proofs.Stcs.Faults
import SkySql.Proofs.Stcs.Reading

set_option autoImplicit false

/-!
The limit on nesting, and what it guards. Taking a region off a text calls itself for every operand,
and operands stand behind an opening parenthesis. The calls that are open at once are counted along a
run; at no point of any run, successful or not, are there more of them than the parentheses of the
text nest, and one more for the text itself.
-/

namespace SkySql.Stcs

/-- An answer, and the greatest number of calls that were open at once on the way to it. -/
structure Metered (α : Type) where
  answer : Option α
  calls : Nat

namespace Metered

variable {α β : Type}

def lift (answer : Option α) : Metered α := ⟨answer, 0⟩

def bind (first : Metered α) (next : α → Metered β) : Metered β :=
  match first.answer with
  | some a => ⟨(next a).answer, max first.calls (next a).calls⟩
  | none => ⟨none, first.calls⟩

instance : Monad Metered where
  pure a := lift (some a)
  bind := bind

/-- The second is tried where the first has failed. -/
def orElse (first second : Metered α) : Metered α :=
  match first.answer with
  | some _ => first
  | none => ⟨second.answer, max first.calls second.calls⟩

/-- A step that may fail. -/
def attempt (tried : Metered α) : Metered (Option α) := ⟨some tried.answer, tried.calls⟩

def call (body : Metered α) : Metered α := ⟨body.answer, body.calls + 1⟩

@[simp] theorem answer_pure (a : α) : (pure a : Metered α).answer = some a := rfl

@[simp] theorem answer_lift (answer : Option α) : (lift answer).answer = answer := rfl

@[simp] theorem answer_bind (first : Metered α) (next : α → Metered β) :
    (first >>= next).answer = first.answer.bind fun a => (next a).answer := by
  change (bind first next).answer = _
  unfold bind
  cases first.answer <;> rfl

@[simp] theorem answer_orElse (first second : Metered α) :
    (first.orElse second).answer = first.answer.or second.answer := by
  unfold orElse
  cases found : first.answer with
  | some a => simp [found]
  | none => rfl

@[simp] theorem answer_attempt (tried : Metered α) : tried.attempt.answer = some tried.answer := rfl

@[simp] theorem answer_call (body : Metered α) : body.call.answer = body.answer := rfl

/-- The same run, in which at most `bound` calls are open at once. -/
structure Agrees (bound : Nat) (left right : Metered α) : Prop where
  same : left = right
  within : left.calls ≤ bound

variable {bound : Nat} {left right : Metered α}

theorem agrees_lift (answer : Option α) : Agrees bound (lift answer) (lift answer) :=
  ⟨rfl, Nat.zero_le bound⟩

theorem agrees_pure (a : α) : Agrees bound (pure a) (pure a) := agrees_lift (some a)

theorem Agrees.bind {next other : α → Metered β} (first : Agrees bound left right)
    (later : ∀ a, left.answer = some a → Agrees bound (next a) (other a)) :
    Agrees bound (left >>= next) (right >>= other) := by
  obtain ⟨rfl, within⟩ := first
  change Agrees bound (Metered.bind left next) (Metered.bind left other)
  unfold Metered.bind
  cases found : left.answer with
  | none => exact ⟨rfl, within⟩
  | some a =>
      obtain ⟨same, withinNext⟩ := later a found
      simp only [← same]
      exact ⟨rfl, Nat.max_le.mpr ⟨within, withinNext⟩⟩

theorem Agrees.orElse {second other : Metered α} (first : Agrees bound left right)
    (later : Agrees bound second other) : Agrees bound (left.orElse second) (right.orElse other) := by
  obtain ⟨rfl, within⟩ := first
  obtain ⟨rfl, withinOther⟩ := later
  refine ⟨rfl, ?_⟩
  unfold Metered.orElse
  split
  · exact within
  · exact Nat.max_le.mpr ⟨within, withinOther⟩

theorem Agrees.attempt (tried : Agrees bound left right) :
    Agrees bound left.attempt right.attempt := by
  obtain ⟨rfl, within⟩ := tried
  exact ⟨rfl, within⟩

theorem Agrees.call (body : Agrees bound left right) :
    Agrees (bound + 1) left.call right.call := by
  obtain ⟨rfl, within⟩ := body
  exact ⟨rfl, Nat.succ_le_succ within⟩

end Metered

open Metered

/-- Takes something off the front of a text, and counts the open calls. -/
abbrev MeteredTaker (α : Type) := List Char → Metered (α × List Char)

/-- As many operands as can be taken. The call that ends them counts like the others. -/
def meteredMany (operand : MeteredTaker Draft) : Nat → MeteredTaker (List Draft)
  | 0, cs => return ([], cs)
  | bound + 1, cs => do
      match ← (operand cs).attempt with
      | none => return ([], cs)
      | some (draft, rest) =>
          let (drafts, rest) ← meteredMany operand bound rest
          return (draft :: drafts, rest)

def meteredComplement (operand : MeteredTaker Draft) : MeteredTaker Draft := fun cs => do
  let rest ← lift (afterKeyword? "NOT" cs)
  let rest ← lift (afterChar? '(' (skipSpaces rest))
  let (draft, rest) ← operand rest
  let rest ← lift (afterChar? ')' (skipSpaces rest))
  return (.complement draft, rest)

def meteredCombination (operand : MeteredTaker Draft) : MeteredTaker Draft := fun cs => do
  let (op, rest) ← lift (takeOperator? cs)
  let (frame, rest) := takeHeader frameWords rest
  let (_, rest) := takeHeader positionWords rest
  let (flavor, rest) := takeHeader flavorWords rest
  let rest ← lift (afterChar? '(' (skipSpaces rest))
  let (first, rest) ← operand rest
  let (second, rest) ← operand rest
  let (others, rest) ← meteredMany operand rest.length rest
  let rest ← lift (afterChar? ')' (skipSpaces rest))
  return (.combination op frame flavor (first :: second :: others), rest)

/-- What one call does, given what the calls inside it do. -/
def meteredBody (operand : MeteredTaker Draft) : MeteredTaker Draft := fun cs =>
  (meteredComplement operand (skipSpaces cs)).orElse
    ((meteredCombination operand (skipSpaces cs)).orElse
      (lift ((takeLiteral? (skipSpaces cs)).map fun (literal, rest) => (.literal literal, rest))))

def meteredRegion : Nat → MeteredTaker Draft
  | 0 => fun _ => call (lift none)
  | levels + 1 => fun cs => call (meteredBody (meteredRegion levels) cs)

/-- Taking a region off a text without a limit. One level for every character is more than a text can
use. -/
def unguarded : MeteredTaker Draft := fun cs => meteredRegion (cs.length + 1) cs

section Answers

variable (operand : MeteredTaker Draft)

theorem answer_meteredMany (bound : Nat) (cs : List Char) : (meteredMany operand bound cs).answer =
    some (takeMany (fun cs => (operand cs).answer) bound cs) := by
  induction bound generalizing cs with
  | zero => rfl
  | succ bound inductionHypothesis =>
      simp only [meteredMany, takeMany, answer_bind, answer_attempt, Option.bind_some]
      cases (operand cs).answer with
      | none => rfl
      | some parts => simp [inductionHypothesis]

theorem answer_meteredComplement (cs : List Char) : (meteredComplement operand cs).answer =
    takeComplement? (fun cs => (operand cs).answer) cs := by
  simp only [meteredComplement, takeComplement?, answer_bind, answer_lift]
  rfl

theorem answer_meteredCombination (cs : List Char) : (meteredCombination operand cs).answer =
    takeCombination? (fun cs => (operand cs).answer) cs := by
  simp only [meteredCombination, takeCombination?, answer_bind, answer_lift, answer_meteredMany]
  rfl

/-- Counting does not change the answer. -/
theorem answer_meteredRegion (levels : Nat) (cs : List Char) :
    (meteredRegion levels cs).answer = takeRegion? levels cs := by
  induction levels generalizing cs with
  | zero => rfl
  | succ levels inductionHypothesis =>
      have operands : (fun cs => (meteredRegion levels cs).answer) = takeRegion? levels :=
        funext inductionHypothesis
      rw [takeRegion?_succ, meteredRegion, answer_call, meteredBody, answer_orElse, answer_orElse,
        answer_meteredComplement, answer_meteredCombination, operands, answer_lift]

end Answers

section Nesting

mutual

/-- The parentheses of a text that a draft covers nest as deep as the draft. -/
theorem nestingFrom_covers (draft : Draft) {text : List Char} (covers : draft.Covers text)
    (opened : Nat) (rest : List Char) :
    nestingFrom opened (text ++ rest) = max (opened + draft.depth) (nestingFrom opened rest) := by
  match draft, covers with
  | .literal _, .literal areBlanks stable =>
      have plain := plain_append (plain_of_class Text.isBlank areBlanks rfl rfl) stable.plain
      rw [nestingFrom_plain plain, Draft.depth]
      exact (Nat.max_eq_right (le_nestingFrom opened rest)).symm
  | .complement operand, .complement plain covers areFinal =>
      simp only [List.append_assoc, List.cons_append, List.nil_append]
      rw [nestingFrom_plain plain, Draft.depth]
      exact nestingFrom_parenthesized areFinal (nestingFrom_covers operand covers (opened + 1))
  | .combination _ _ _ operands, .combination plain cover areFinal =>
      simp only [List.append_assoc, List.cons_append, List.nil_append]
      rw [nestingFrom_plain plain, Draft.depth]
      exact nestingFrom_parenthesized areFinal (nestingFrom_cover operands cover (opened + 1))

theorem nestingFrom_cover (drafts : List Draft) {text : List Char} (cover : AllCover drafts text)
    (opened : Nat) (rest : List Char) :
    nestingFrom opened (text ++ rest) =
      max (opened + Draft.depths drafts) (nestingFrom opened rest) := by
  match drafts, cover with
  | [], .nil => exact (Nat.max_eq_right (le_nestingFrom opened rest)).symm
  | draft :: drafts, .cons covers cover =>
      rw [List.append_assoc, nestingFrom_covers draft covers, nestingFrom_cover drafts cover,
        Draft.depths]
      omega

end

theorem nestingDepth_covers {draft : Draft} {text : List Char} (covers : draft.Covers text) :
    nestingDepth text = draft.depth := by
  have whole := nestingFrom_covers draft covers 0 []
  rw [List.append_nil] at whole
  rw [nestingDepth, whole, nestingFrom]
  omega

theorem nestingFrom_le (opened : Nat) (cs : List Char) :
    nestingFrom opened cs ≤ opened + cs.length := by
  induction cs generalizing opened with
  | nil => exact Nat.le_refl _
  | cons c rest inductionHypothesis =>
      rw [nestingFrom, List.length_cons]
      split
      · have deeper := inductionHypothesis (opened + 1)
        omega
      · split
        · have shallower := inductionHypothesis (opened - 1)
          omega
        · have same := inductionHypothesis opened
          omega

/-- A place of a text behind an opening parenthesis: what nests there nests one level deeper. -/
def Inside (cs rest : List Char) : Prop :=
  ∀ opened, nestingFrom (opened + 1) rest ≤ nestingFrom opened cs

variable {cs front text rest : List Char}

theorem inside_opening (plain : Plain front) : Inside (front ++ '(' :: rest) rest := by
  intro opened
  rw [nestingFrom_plain plain]
  exact Nat.le_refl _

/-- An operand after another one. -/
theorem Inside.after {draft : Draft} (inside : Inside cs (text ++ rest)) (covers : draft.Covers text) :
    Inside cs rest := by
  intro opened
  have whole := inside opened
  rw [nestingFrom_covers draft covers] at whole
  omega

theorem nestingFrom_skipSpaces (opened : Nat) (cs : List Char) :
    nestingFrom opened (skipSpaces cs) = nestingFrom opened cs := by
  obtain ⟨spaces, split, areSpaces⟩ := eq_append_skipSpaces cs
  conv_rhs => rw [split]
  rw [nestingFrom_plain (plain_of_class isSpace areSpaces rfl rfl)]

end Nesting

section Calls

variable {operand other : MeteredTaker Draft} {cs : List Char} {bound : Nat}

/-- Calls are made inside parentheses only. -/
theorem agrees_meteredMany (covering : Covering fun cs => (operand cs).answer)
    (agrees : ∀ rest, Inside cs rest → Agrees bound (operand rest) (other rest)) (rounds : Nat)
    {rest : List Char} (inside : Inside cs rest) :
    Agrees bound (meteredMany operand rounds rest) (meteredMany other rounds rest) := by
  induction rounds generalizing rest with
  | zero => exact agrees_pure _
  | succ rounds inductionHypothesis =>
      refine (agrees rest inside).attempt.bind fun found tried => ?_
      cases found with
      | none => exact agrees_pure _
      | some parts =>
          obtain ⟨draft, final⟩ := parts
          obtain ⟨text, rfl, covers⟩ := covering (Option.some.inj tried)
          exact (inductionHypothesis (inside.after covers)).bind fun _ _ => agrees_pure _

theorem agrees_meteredComplement
    (agrees : ∀ rest, Inside cs rest → Agrees bound (operand rest) (other rest)) :
    Agrees bound (meteredComplement operand cs) (meteredComplement other cs) := by
  refine (agrees_lift _).bind fun afterWord found => (agrees_lift _).bind fun afterOpening opened => ?_
  have inside : Inside cs afterOpening := by
    obtain ⟨front, rfl, plain⟩ := plain_of_complement found opened
    exact inside_opening plain
  exact (agrees afterOpening inside).bind fun _ _ => (agrees_lift _).bind fun _ _ => agrees_pure _

theorem agrees_meteredCombination (covering : Covering fun cs => (operand cs).answer)
    (agrees : ∀ rest, Inside cs rest → Agrees bound (operand rest) (other rest)) :
    Agrees bound (meteredCombination operand cs) (meteredCombination other cs) := by
  refine (agrees_lift _).bind fun parts found => (agrees_lift _).bind fun afterOpening opened => ?_
  have inside : Inside cs afterOpening := by
    obtain ⟨front, rfl, plain⟩ := plain_of_combination found opened
    exact inside_opening plain
  refine (agrees afterOpening inside).bind fun ⟨first, afterFirst⟩ takenFirst => ?_
  obtain ⟨firstText, rfl, coversFirst⟩ := covering takenFirst
  have insideFirst := inside.after coversFirst
  refine (agrees afterFirst insideFirst).bind fun ⟨second, afterSecond⟩ takenSecond => ?_
  obtain ⟨secondText, rfl, coversSecond⟩ := covering takenSecond
  have insideSecond := insideFirst.after coversSecond
  exact (agrees_meteredMany covering agrees _ insideSecond).bind fun _ _ =>
    (agrees_lift _).bind fun _ _ => agrees_pure _

theorem agrees_meteredBody (covering : Covering fun cs => (operand cs).answer)
    (agrees : ∀ rest, Inside cs rest → Agrees bound (operand rest) (other rest)) :
    Agrees bound (meteredBody operand cs) (meteredBody other cs) := by
  have agreesCore (rest : List Char) (inside : Inside (skipSpaces cs) rest) :
      Agrees bound (operand rest) (other rest) := by
    refine agrees rest fun opened => ?_
    have deeper := inside opened
    rwa [nestingFrom_skipSpaces] at deeper
  exact (agrees_meteredComplement agreesCore).orElse
    ((agrees_meteredCombination covering agreesCore).orElse (agrees_lift _))

theorem covering_meteredRegion (levels : Nat) :
    Covering fun cs => (meteredRegion levels cs).answer := by
  intro cs draft rest taken
  simp only [answer_meteredRegion] at taken
  exact takeRegion?_covering levels taken

/-- Levels beyond those that the text nests make no difference, and no more calls are open at once
than the text nests. -/
theorem agrees_meteredRegion {levels others opened bound : Nat}
    (enough : nestingFrom opened cs < opened + levels)
    (enoughOthers : nestingFrom opened cs < opened + others)
    (bounded : nestingFrom opened cs + 1 ≤ opened + bound) :
    Agrees bound (meteredRegion levels cs) (meteredRegion others cs) := by
  have reached := le_nestingFrom opened cs
  induction levels generalizing cs others opened bound with
  | zero => omega
  | succ levels inductionHypothesis =>
      obtain ⟨others, rfl⟩ : ∃ fewer, others = fewer + 1 := ⟨others - 1, by omega⟩
      obtain ⟨bound, rfl⟩ : ∃ fewer, bound = fewer + 1 := ⟨bound - 1, by omega⟩
      -- An operand has one parenthesis more before it, and one level and one call less to go.
      refine (agrees_meteredBody (covering_meteredRegion levels) fun rest inside => ?_).call
      have deeper := inside opened
      exact inductionHypothesis (by omega) (by omega) (by omega) (le_nestingFrom (opened + 1) rest)

/-- Without a limit, a call is its body with further such calls in it. -/
theorem unguarded_eq (cs : List Char) : unguarded cs = call (meteredBody unguarded cs) := by
  have agrees : Agrees cs.length (meteredBody (meteredRegion cs.length) cs)
      (meteredBody unguarded cs) := by
    refine agrees_meteredBody (covering_meteredRegion _) fun rest inside => ?_
    have deeper : nestingFrom 1 rest ≤ nestingFrom 0 cs := inside 0
    have short := nestingFrom_le 0 cs
    have shortRest := nestingFrom_le 1 rest
    exact @agrees_meteredRegion rest _ _ 1 _ (by omega) (by omega) (by omega)
  exact congrArg call agrees.same

theorem agrees_unguarded {levels : Nat} (enough : nestingDepth cs < levels) :
    Agrees (nestingDepth cs + 1) (unguarded cs) (meteredRegion levels cs) := by
  have short := nestingFrom_le 0 cs
  unfold nestingDepth at enough ⊢
  exact @agrees_meteredRegion cs _ _ 0 _ (by omega) (by omega) (by omega)

end Calls

/-- The limit guards the depth of recursion, and refuses nothing else. On every text, at most one call
more is open at once than the parentheses nest, so at most 65 of them within the limit, where the
limited run has the answer of the free one. A text that the free run takes as a whole nests as deep as
the region it is, and is refused for its depth exactly if that is over 64. -/
theorem nesting_limit_guards_recursion (text : String) :
    (unguarded (Text.trim text.toList)).calls ≤ nestingDepth (Text.trim text.toList) + 1 ∧
    (nestingDepth (Text.trim text.toList) ≤ nestingLimit →
      (unguarded (Text.trim text.toList)).calls ≤ 65 ∧
      takeRegion? (nestingLimit + 1) (Text.trim text.toList) =
        (unguarded (Text.trim text.toList)).answer) ∧
    ∀ draft rest, (unguarded (Text.trim text.toList)).answer = some (draft, rest) →
      Text.trim rest = [] →
      nestingDepth (Text.trim text.toList) = draft.depth ∧
      (read text = .error ⟨text, .nestedTooDeep⟩ ↔ 64 < draft.depth) := by
  generalize input : Text.trim text.toList = cs
  have within := (agrees_unguarded (Nat.lt_succ_self (nestingDepth cs))).within
  have sameAnswer (shallow : nestingDepth cs ≤ nestingLimit) :
      takeRegion? (nestingLimit + 1) cs = (unguarded cs).answer := by
    rw [(agrees_unguarded (Nat.lt_succ_of_le shallow)).same, answer_meteredRegion]
  refine ⟨within, fun shallow => ⟨?_, sameAnswer shallow⟩, fun draft rest taken trimmed => ?_⟩
  · exact Nat.le_trans within (Nat.succ_le_succ shallow)
  · obtain ⟨front, split, covers⟩ := covering_meteredRegion _ taken
    have nothing : rest = [] := eq_nil_of_trim (input.trans split) trimmed
    have depth : nestingDepth cs = draft.depth := by
      rw [split, nothing, List.append_nil]
      exact nestingDepth_covers covers
    refine ⟨depth, ?_⟩
    rw [read_eq, input]
    by_cases deep : nestingLimit < nestingDepth cs
    · rw [if_pos deep]
      exact ⟨fun _ => depth ▸ deep, fun _ => rfl⟩
    · rw [if_neg deep, sameAnswer (Nat.le_of_not_lt deep), taken, ← depth]
      refine ⟨fun failed => ?_, fun deeper => absurd deeper deep⟩
      -- What is taken as a whole can only have a fault of a value.
      simp only [trimmed, if_true] at failed
      cases (covers.failsWith text draft _ failed).ofValue

/-- For a complement of a literal, two calls are open at once. -/
theorem nesting_limit_guards_recursion_complement :
    (unguarded (Text.trim "NOT(Circle 1 2 3)".toList)).calls = 2 ∧
    ∃ draft, (unguarded (Text.trim "NOT(Circle 1 2 3)".toList)).answer = some (draft, []) ∧
      draft.depth = 1 ∧ read "NOT(Circle 1 2 3)" ≠ .error ⟨"NOT(Circle 1 2 3)", .nestedTooDeep⟩ := by
  have evaluated : (unguarded (Text.trim "NOT(Circle 1 2 3)".toList)).answer.map
      (fun (draft, rest) => (draft.depth, rest)) = some (1, []) := by decide +kernel
  obtain ⟨⟨draft, rest⟩, taken, same⟩ := Option.map_eq_some_iff.mp evaluated
  obtain ⟨depth, rfl⟩ := Prod.mk.inj same
  have guarded := ((nesting_limit_guards_recursion "NOT(Circle 1 2 3)").2.2 draft [] taken rfl).2
  refine ⟨by decide +kernel, draft, taken, depth, fun refused => ?_⟩
  have deep := guarded.mp refused
  omega

end SkySql.Stcs
