import Mathlib.Data.List.Basic

set_option autoImplicit false

/-!
Regular expressions, matched by backtracking at the front of a text. The ways to match are listed in
order of preference: of two alternatives the first is preferred, and a repetition prefers one more
round to none. The match is the first way on the list.

Cutting off the text after some place only removes the ways that go past it, and leaves the others
in their order. Hence a match is found again on the text that it took.
-/

namespace SkySql.Stcs

/-- The parts of a match that are kept. -/
inductive Slot where
  | shape | frame | position | flavor | numbers
  deriving Repr, DecidableEq

inductive Pattern where
  | nothing
  | char (accepts : Char → Bool)
  | sequence (first second : Pattern)
  | choice (preferred other : Pattern)
  | many (body : Pattern)
  | group (slot : Slot) (body : Pattern)

/-- A way to match: the text that it takes, and the parts of it that groups have kept. -/
structure Match where
  text : List Char := []
  captures : List (Slot × List Char) := []
  deriving Repr, DecidableEq

namespace Match

def append (first second : Match) : Match :=
  ⟨first.text ++ second.text, first.captures ++ second.captures⟩

instance : Append Match := ⟨append⟩

def keep (found : Match) (slot : Slot) : Match :=
  { found with captures := found.captures ++ [(slot, found.text)] }

def captured? (found : Match) (slot : Slot) : Option (List Char) := found.captures.lookup slot

@[simp] theorem mk_append_mk (left right : List Char) (captures more : List (Slot × List Char)) :
    Match.mk left captures ++ Match.mk right more = ⟨left ++ right, captures ++ more⟩ := rfl

@[simp] theorem text_append (first second : Match) :
    (first ++ second).text = first.text ++ second.text := rfl

@[simp] theorem empty_append (found : Match) : ({} : Match) ++ found = found := rfl

@[simp] theorem append_empty (found : Match) : found ++ ({} : Match) = found := by
  cases found
  simp

theorem append_assoc (first second third : Match) :
    first ++ second ++ third = first ++ (second ++ third) := by
  cases first
  cases second
  cases third
  simp

end Match

/-- The ways to go on after one of several ways to match the front of `cs`. -/
def continued (found : List Match) (cs : List Char) (next : List Char → List Match) : List Match :=
  found.flatMap fun first => (next (cs.drop first.text.length)).map (first ++ ·)

/-- The ways to repeat. Each round takes at least one character, so the length of the text bounds
their number. -/
def repeated (body : List Char → List Match) : Nat → List Char → List Match
  | 0, _ => [{}]
  | bound + 1, cs =>
      continued ((body cs).filter (!·.text.isEmpty)) cs (repeated body bound) ++ [{}]

namespace Pattern

/-- The ways to match the front of a text, the preferred one first. -/
def ways : Pattern → List Char → List Match
  | .nothing, _ => [{}]
  | .char _, [] => []
  | .char accepts, c :: _ => if accepts c then [{ text := [c] }] else []
  | .sequence first second, cs => continued (first.ways cs) cs second.ways
  | .choice preferred other, cs => preferred.ways cs ++ other.ways cs
  | .many body, cs => repeated body.ways cs.length cs
  | .group slot body, cs => (body.ways cs).map (·.keep slot)

/-- The match at the front of a text. -/
def find? (pattern : Pattern) (cs : List Char) : Option Match := (pattern.ways cs).head?

/-- Whether a character can stand anywhere in a match. -/
def admits : Pattern → Char → Bool
  | .nothing, _ => false
  | .char accepts, c => accepts c
  | .sequence first second, c => first.admits c || second.admits c
  | .choice preferred other, c => preferred.admits c || other.admits c
  | .many body, c => body.admits c
  | .group _ body, c => body.admits c

def some (body : Pattern) : Pattern := .sequence body (.many body)

def optional (body : Pattern) : Pattern := .choice body .nothing

end Pattern

section Ways

variable {cs : List Char} {found : List Match} {next : List Char → List Match} {m : Match}

theorem mem_continued : m ∈ continued found cs next ↔
    ∃ first ∈ found, ∃ second ∈ next (cs.drop first.text.length), first ++ second = m := by
  simp [continued]

/-- What is known of the text of both parts is known of the whole. -/
theorem taken_of_mem_continued {admits : Char → Bool}
    (first : ∀ m ∈ found, m.text <+: cs ∧ ∀ c ∈ m.text, admits c = true)
    (second : ∀ cs, ∀ m ∈ next cs, m.text <+: cs ∧ ∀ c ∈ m.text, admits c = true)
    (membership : m ∈ continued found cs next) :
    m.text <+: cs ∧ ∀ c ∈ m.text, admits c = true := by
  obtain ⟨left, inLeft, right, inRight, rfl⟩ := mem_continued.mp membership
  obtain ⟨⟨rest, rfl⟩, leftAdmitted⟩ := first left inLeft
  rw [List.drop_left] at inRight
  obtain ⟨⟨last, rfl⟩, rightAdmitted⟩ := second rest right inRight
  exact ⟨⟨last, List.append_assoc ..⟩, List.forall_mem_append.mpr ⟨leftAdmitted, rightAdmitted⟩⟩

theorem taken_of_mem_repeated {body : List Char → List Match} {admits : Char → Bool}
    (each : ∀ cs, ∀ m ∈ body cs, m.text <+: cs ∧ ∀ c ∈ m.text, admits c = true) (bound : Nat)
    (cs : List Char) : ∀ m ∈ repeated body bound cs,
      m.text <+: cs ∧ ∀ c ∈ m.text, admits c = true := by
  induction bound generalizing cs with
  | zero => simp [repeated]
  | succ bound inductionHypothesis =>
      intro m membership
      rcases List.mem_append.mp membership with again | ended
      · refine taken_of_mem_continued (fun m inBody => each cs m ?_) inductionHypothesis again
        exact (List.mem_filter.mp inBody).1
      · simp only [List.mem_singleton] at ended
        simp [ended]

/-- A way to match takes admitted characters from the front of the text. -/
theorem Pattern.taken_of_mem (pattern : Pattern) (cs : List Char) :
    ∀ m ∈ pattern.ways cs, m.text <+: cs ∧ ∀ c ∈ m.text, pattern.admits c = true := by
  induction pattern generalizing cs with
  | nothing => simp [ways]
  | char accepts =>
      cases cs with
      | nil => simp [ways]
      | cons c rest =>
          intro m membership
          rw [ways] at membership
          split at membership
          · next accepted =>
              rw [List.mem_singleton.mp membership]
              simp [admits, accepted]
          · cases membership
  | sequence first second ofFirst ofSecond =>
      intro m membership
      refine taken_of_mem_continued (fun m inFirst => ?_) (fun cs m inSecond => ?_) membership
      · obtain ⟨front, admitted⟩ := ofFirst cs m inFirst
        exact ⟨front, fun c inText => by simp [admits, admitted c inText]⟩
      · obtain ⟨front, admitted⟩ := ofSecond cs m inSecond
        exact ⟨front, fun c inText => by simp [admits, admitted c inText]⟩
  | choice preferred other ofPreferred ofOther =>
      intro m membership
      rcases List.mem_append.mp membership with inPreferred | inOther
      · obtain ⟨front, admitted⟩ := ofPreferred cs m inPreferred
        exact ⟨front, fun c inText => by simp [admits, admitted c inText]⟩
      · obtain ⟨front, admitted⟩ := ofOther cs m inOther
        exact ⟨front, fun c inText => by simp [admits, admitted c inText]⟩
  | many body ofBody => exact taken_of_mem_repeated ofBody cs.length cs
  | group slot body ofBody =>
      intro m membership
      obtain ⟨inner, inBody, rfl⟩ := List.mem_map.mp membership
      exact ofBody cs inner inBody

theorem Pattern.taken_of_find? {pattern : Pattern} (found : pattern.find? cs = .some m) :
    m.text <+: cs ∧ ∀ c ∈ m.text, pattern.admits c = true :=
  pattern.taken_of_mem cs m (List.mem_of_mem_head? found)

end Ways

section Truncation

/-- A way to match that takes at most `length` characters. -/
def Match.within (length : Nat) (m : Match) : Bool := decide (m.text.length ≤ length)

/-- Cutting off the text after `length` characters removes the ways that take more. -/
def Truncates (ways : List Char → List Match) : Prop :=
  ∀ (cs : List Char) (length : Nat), ways (cs.take length) = (ways cs).filter (·.within length)

theorem continued_take {found : List Match} {next : List Char → List Match}
    (truncates : Truncates next) (cs : List Char) (length : Nat) :
    continued (found.filter (·.within length)) (cs.take length) next =
      (continued found cs next).filter (·.within length) := by
  induction found with
  | nil => rfl
  | cons first found inductionHypothesis =>
      have split : continued (first :: found) cs next =
          (next (cs.drop first.text.length)).map (first ++ ·) ++ continued found cs next := rfl
      rw [split, List.filter_append, ← inductionHypothesis, List.filter_map]
      by_cases fits : first.text.length ≤ length
      · have same : ((·.within length) ∘ (first ++ ·)) =
            fun m : Match => m.within (length - first.text.length) := by
          funext m
          simp only [Function.comp, Match.within, Match.text_append, List.length_append,
            decide_eq_decide]
          omega
        have kept : first.within length = true := decide_eq_true fits
        rw [List.filter_cons_of_pos kept, same, ← truncates, ← List.drop_take]
        rfl
      · have none : (next (cs.drop first.text.length)).filter
            ((·.within length) ∘ (first ++ ·)) = [] := by
          rw [List.filter_eq_nil_iff]
          intro m _
          simp only [Function.comp, Match.within, Match.text_append, List.length_append,
            decide_eq_true_eq]
          omega
        have dropped : ¬first.within length = true := by simpa [Match.within] using fits
        rw [List.filter_cons_of_neg dropped, none, List.map_nil, List.nil_append]

theorem truncates_repeated {body : List Char → List Match} (truncates : Truncates body)
    (bound : Nat) : Truncates (repeated body bound) := by
  induction bound with
  | zero => intro cs length; simp [repeated, Match.within]
  | succ bound inductionHypothesis =>
      intro cs length
      have commuted : ((body cs).filter (·.within length)).filter (!·.text.isEmpty) =
          ((body cs).filter (!·.text.isEmpty)).filter (·.within length) := by
        simp only [List.filter_filter, Bool.and_comm]
      rw [repeated, repeated, List.filter_append, ← continued_take inductionHypothesis, truncates,
        commuted]
      simp [Match.within]

/-- More rounds than there are characters make no difference. -/
theorem repeated_bound {body : List Char → List Match} {cs : List Char} {bound other : Nat}
    (enough : cs.length ≤ bound) (enoughOther : cs.length ≤ other)
    (taken : ∀ cs, ∀ m ∈ body cs, m.text <+: cs) :
    repeated body bound cs = repeated body other cs := by
  have exhausted {bound : Nat} : repeated body bound [] = [{}] := by
    cases bound with
    | zero => rfl
    | succ bound =>
        have none : (body []).filter (!·.text.isEmpty) = [] := by
          rw [List.filter_eq_nil_iff]
          intro m membership
          simp [List.prefix_nil.mp (taken [] m membership)]
        rw [repeated, none]
        rfl
  induction bound generalizing cs other with
  | zero =>
      obtain rfl := List.length_eq_zero_iff.mp (Nat.le_zero.mp enough)
      rw [exhausted, exhausted]
  | succ bound inductionHypothesis =>
      cases other with
      | zero =>
          obtain rfl := List.length_eq_zero_iff.mp (Nat.le_zero.mp enoughOther)
          rw [exhausted, exhausted]
      | succ other =>
          have same : continued ((body cs).filter (!·.text.isEmpty)) cs (repeated body bound) =
              continued ((body cs).filter (!·.text.isEmpty)) cs (repeated body other) := by
            apply List.flatMap_congr
            intro first membership
            have advanced : first.text ≠ [] := by
              simpa using (List.mem_filter.mp membership).2
            have positive := List.length_pos_iff.mpr advanced
            have shorter := List.length_drop (i := first.text.length) (l := cs)
            rw [@inductionHypothesis (cs.drop first.text.length) other (by omega) (by omega)]
          rw [repeated, repeated, same]

theorem Pattern.truncates (pattern : Pattern) : Truncates pattern.ways := by
  induction pattern with
  | nothing => intro cs length; simp [ways, Match.within]
  | char accepts =>
      intro cs length
      cases cs with
      | nil => simp [ways]
      | cons c rest =>
          cases length with
          | zero =>
              simp only [List.take_zero, ways]
              split <;> simp [Match.within]
          | succ length =>
              simp only [List.take_succ_cons, ways]
              split <;> simp [Match.within]
  | sequence first second ofFirst ofSecond =>
      intro cs length
      rw [ways, ways, ofFirst]
      exact continued_take ofSecond cs length
  | choice preferred other ofPreferred ofOther =>
      intro cs length
      rw [ways, ways, ofPreferred, ofOther, List.filter_append]
  | many body ofBody =>
      intro cs length
      have taken : ∀ cs, ∀ m ∈ body.ways cs, m.text <+: cs :=
        fun cs m membership => (body.taken_of_mem cs m membership).1
      -- The shorter text allows fewer rounds, but never fewer than it has characters.
      rw [ways, ways, repeated_bound (Nat.le_refl _) (List.length_take_le' length cs) taken]
      exact truncates_repeated ofBody cs.length cs length
  | group slot body ofBody =>
      intro cs length
      rw [ways, ways, ofBody, List.filter_map]
      rfl

/-- A match is found again on the text that it took. -/
theorem Pattern.find?_text {pattern : Pattern} {cs : List Char} {m : Match}
    (found : pattern.find? cs = .some m) : pattern.find? m.text = .some m := by
  obtain ⟨rest, rfl⟩ := (taken_of_find? found).1
  have cut := pattern.truncates (m.text ++ rest) m.text.length
  rw [List.take_left] at cut
  obtain ⟨others, listed⟩ := List.head?_eq_some_iff.mp found
  have kept : m.within m.text.length = true := by simp [Match.within]
  rw [find?, cut, listed, List.filter_cons_of_pos kept]
  rfl

end Truncation

namespace Pattern

variable {cs : List Char} {first second third : Pattern} {accepts : Char → Bool}

theorem find?_sequence : (first.sequence second).find? cs =
    (first.ways cs).findSome? fun left =>
      (second.find? (cs.drop left.text.length)).map (left ++ ·) := by
  rw [find?, ways, continued, List.head?_flatMap]
  simp only [List.head?_map]
  rfl

theorem find?_choice : (first.choice second).find? cs = (first.find? cs).or (second.find? cs) :=
  List.head?_append

theorem find?_group (slot : Slot) : (group slot first).find? cs =
    (first.find? cs).map (·.keep slot) :=
  List.head?_map

theorem find?_sequence_assoc : ((first.sequence second).sequence third).find? cs =
    (first.sequence (second.sequence third)).find? cs := by
  simp only [find?, ways, continued, List.flatMap_assoc, List.flatMap_map, List.map_flatMap,
    List.map_map, Match.text_append, List.length_append, List.drop_drop, Function.comp_def,
    Match.append_assoc]

theorem find?_optional_sequence : (first.optional.sequence second).find? cs =
    ((first.sequence second).find? cs).or (second.find? cs) := by
  simp only [find?_sequence, optional, ways, List.findSome?_append, List.findSome?_singleton,
    List.length_nil, List.drop_zero, Match.empty_append, Option.map_id']

def Total (pattern : Pattern) : Prop := ∀ cs, ∃ m, pattern.find? cs = .some m

theorem total_optional (pattern : Pattern) : pattern.optional.Total := by
  intro cs
  rw [optional, find?_choice]
  cases pattern.find? cs with
  | none => exact ⟨{}, rfl⟩
  | some m => exact ⟨m, rfl⟩

theorem exists_head_repeated (body : List Char → List Match) (bound : Nat) (cs : List Char) :
    ∃ m, (repeated body bound cs).head? = .some m := by
  cases bound with
  | zero => exact ⟨{}, rfl⟩
  | succ bound =>
      rw [repeated, List.head?_append]
      cases (continued ((body cs).filter (!·.text.isEmpty)) cs (repeated body bound)).head? with
      | none => exact ⟨{}, rfl⟩
      | some m => exact ⟨m, rfl⟩

theorem head_repeated_of_none {pattern : Pattern} (refused : pattern.find? cs = none) (bound : Nat) :
    (repeated pattern.ways bound cs).head? = .some {} := by
  cases bound with
  | zero => rfl
  | succ bound =>
      rw [repeated, List.head?_eq_none_iff.mp refused]
      rfl

theorem head_repeated_of_some {pattern : Pattern} {m : Match} (found : pattern.find? cs = .some m)
    (advances : m.text ≠ []) (bound : Nat) :
    (repeated pattern.ways (bound + 1) cs).head? =
      ((repeated pattern.ways bound (cs.drop m.text.length)).head?).map (m ++ ·) := by
  obtain ⟨others, listed⟩ := List.head?_eq_some_iff.mp found
  obtain ⟨n, next⟩ := exists_head_repeated pattern.ways bound (cs.drop m.text.length)
  have kept : (m :: others).filter (!·.text.isEmpty) = m :: others.filter (!·.text.isEmpty) :=
    List.filter_cons_of_pos (by simpa using advances)
  rw [repeated, listed, kept, List.head?_append, continued, List.head?_flatMap, List.findSome?_cons,
    List.head?_map, next]
  rfl

theorem total_many (pattern : Pattern) : pattern.many.Total :=
  fun cs => exists_head_repeated pattern.ways cs.length cs

theorem Total.sequence (left : first.Total) (right : second.Total) :
    (first.sequence second).Total := by
  intro cs
  obtain ⟨m, found⟩ := left cs
  obtain ⟨others, listed⟩ := List.head?_eq_some_iff.mp found
  obtain ⟨n, next⟩ := right (cs.drop m.text.length)
  exact ⟨m ++ n, by simp [find?_sequence, listed, next]⟩

/-- What never fails takes nothing back from what stands before it. -/
theorem find?_sequence_of_total (total : second.Total) : (first.sequence second).find? cs =
    (first.find? cs).bind fun left =>
      (second.find? (cs.drop left.text.length)).map (left ++ ·) := by
  rw [find?_sequence, find?]
  cases first.ways cs with
  | nil => rfl
  | cons left others =>
      obtain ⟨m, found⟩ := total (cs.drop left.text.length)
      simp [found]

theorem find?_some_of_none {pattern : Pattern} (refused : pattern.find? cs = none) :
    pattern.some.find? cs = none := by
  rw [some, find?_sequence_of_total (total_many pattern), refused]
  rfl

/-- Where a first round succeeds, one round or more is any number of rounds. -/
theorem find?_some_of_some {pattern : Pattern} {m : Match} (found : pattern.find? cs = .some m)
    (advances : m.text ≠ []) : pattern.some.find? cs = pattern.many.find? cs := by
  have taken (cs : List Char) (m : Match) (membership : m ∈ pattern.ways cs) : m.text <+: cs :=
    (pattern.taken_of_mem cs m membership).1
  have shorter := (taken_of_find? found).1.length_le
  have positive := List.length_pos_iff.mpr advances
  obtain ⟨bound, length⟩ := Nat.exists_eq_add_of_le' (Nat.lt_of_lt_of_le positive shorter)
  have rounds : repeated pattern.ways (cs.drop m.text.length).length (cs.drop m.text.length) =
      repeated pattern.ways bound (cs.drop m.text.length) :=
    repeated_bound (Nat.le_refl _) (by rw [List.length_drop]; omega) taken
  have many : pattern.many.find? cs = (repeated pattern.ways (bound + 1) cs).head? := by
    rw [find?, ways, length]
  rw [some, find?_sequence_of_total (total_many pattern), found, many,
    head_repeated_of_some found advances, ← rounds]
  rfl

theorem find?_char_sequence_nil : ((char accepts).sequence second).find? [] = none := rfl

theorem find?_char_sequence_cons (c : Char) (rest : List Char) :
    ((char accepts).sequence second).find? (c :: rest) =
      if accepts c then (second.find? rest).map ({ text := [c] } ++ ·) else none := by
  rw [find?_sequence, ways]
  split <;> simp

theorem ways_many_char_cons (c : Char) (rest : List Char) :
    (char accepts).many.ways (c :: rest) =
      (if accepts c then ((char accepts).many.ways rest).map ({ text := [c] } ++ ·) else []) ++
        [({} : Match)] := by
  rw [ways, List.length_cons, repeated, ways]
  split <;> simp [continued, ways]

/-- A repeated character is taken as long as it stands there. -/
theorem find?_many_char : (char accepts).many.find? cs = .some { text := cs.takeWhile accepts } := by
  induction cs with
  | nil => rfl
  | cons c rest inductionHypothesis =>
      rw [find?, ways_many_char_cons, List.head?_append]
      cases accepted : accepts c with
      | false => simp [accepted]
      | true =>
          rw [find?] at inductionHypothesis
          rw [if_pos rfl, List.head?_map, inductionHypothesis, List.takeWhile_cons_of_pos accepted]
          rfl

/-- None of the characters are taken back if what follows cannot begin with one. -/
theorem find?_many_char_sequence
    (refuses : ∀ c rest, accepts c = true → second.find? (c :: rest) = none) :
    ((char accepts).many.sequence second).find? cs =
      (second.find? (cs.dropWhile accepts)).map ({ text := cs.takeWhile accepts } ++ ·) := by
  induction cs with
  | nil => simp [find?_sequence, ways, repeated]
  | cons c rest inductionHypothesis =>
      cases accepted : accepts c with
      | false =>
          simp [find?_sequence, ways_many_char_cons, accepted]
      | true =>
          have longer : ((char accepts).many.sequence second).find? (c :: rest) =
              (((char accepts).many.sequence second).find? rest).map ({ text := [c] } ++ ·) := by
            rw [find?_sequence, find?_sequence, ways_many_char_cons, accepted, if_pos rfl,
              List.findSome?_append, List.findSome?_map, List.map_findSome?]
            simp only [Function.comp_def, Match.text_append, List.length_append, List.length_cons,
              List.length_nil, List.findSome?_singleton, List.drop_zero, refuses c rest accepted,
              Option.map_none, Option.or_none, Option.map_map, Match.append_assoc]
            congr 1
            funext left
            rw [Nat.add_comm, List.drop_succ_cons]
          rw [longer, inductionHypothesis, List.dropWhile_cons_of_pos accepted,
            List.takeWhile_cons_of_pos accepted, Option.map_map]
          rfl

end Pattern

end SkySql.Stcs
