import SkySql.Statement.Render

set_option autoImplicit false

/-!
The lexical soundness of SQL text, and how it is kept when texts are put together. A scanner goes
over a text one character at a time and knows whether it is inside a string literal and which
brackets are open. A part of a text is sound if the scanner comes out of it as it went in, with the
same brackets open and outside of any literal. Two sound parts can do harm only where they meet: the
second must not make a comment of the last character of the first. Text that is put together from
sound parts and fixed characters is scanned by rewriting, one character or part after another.
-/

namespace SkySql.Lexical

/-- Where a scanner is. After a minus sign or a slash the next character can begin a comment. -/
inductive Mode where
  | code | dash | slash | literal
  deriving Repr, DecidableEq

structure Scanner where
  mode : Mode
  /-- The closing brackets that are due, the next one first. -/
  due : List Char
  deriving Repr, DecidableEq

/-- A character outside of literals. -/
def outside? (due : List Char) (c : Char) : Option Scanner :=
  match c with
  | '\x27' => some ⟨.literal, due⟩
  | '-' => some ⟨.dash, due⟩
  | '/' => some ⟨.slash, due⟩
  | '(' => some ⟨.code, ')' :: due⟩
  | '[' => some ⟨.code, ']' :: due⟩
  | ')' | ']' => if due.head? = some c then some ⟨.code, due.tail⟩ else none
  | _ => some ⟨.code, due⟩

namespace Scanner

/-- The scanner after one more character, unless that closes no open bracket or begins a comment. Of
two quotes inside a literal the first ends it and the second goes on with it. -/
def step? (scanner : Scanner) (c : Char) : Option Scanner :=
  if scanner.mode = .literal then
    some { scanner with mode := if c = '\x27' then .code else .literal }
  else if (scanner.mode = .dash ∧ c = '-') ∨ (scanner.mode = .slash ∧ c = '*') then none
  else outside? scanner.due c

def run? (scanner : Scanner) (text : List Char) : Option Scanner := text.foldlM step? scanner

end Scanner

/-- Whether in a text every literal is closed and, outside of literals, round and square brackets
match and no comment begins. -/
def isSound (text : String) : Bool :=
  match Scanner.run? ⟨.code, []⟩ text.toList with
  | some ⟨mode, []⟩ => mode != .literal
  | _ => false

example : isSound "SELECT -(-a[0]) - 1, '--''(' FROM t" = true := by decide
example : isSound "--a" = false := by decide
example : isSound "a /* b" = false := by decide
example : isSound "f(a[0)]" = false := by decide
example : isSound "'it''s" = false := by decide

/-- From code with the brackets `due` open, the scanner comes to the end of a text outside of
literals and with the brackets `left` open. -/
def Reads (due text left : List Char) : Prop :=
  ∃ mode, mode ≠ .literal ∧ Scanner.run? ⟨.code, due⟩ text = some ⟨mode, left⟩

/-- A part of a text that leaves the open brackets as they are. -/
def Scanned (text : String) : Prop := ∀ due, Reads due text.toList due

theorem isSound_of_scanned {text : String} (scanned : Scanned text) : isSound text = true := by
  obtain ⟨mode, outside, run⟩ := scanned []
  rw [isSound, run]
  exact bne_iff_ne.mpr outside

/-- A text that makes no comment with what stands before it. -/
def Mild (text : List Char) : Prop := ∀ c ∈ text.head?, c ≠ '-' ∧ c ≠ '*'

@[simp] theorem mild_nil : Mild [] := by simp [Mild]

@[simp] theorem mild_cons (c : Char) (rest : List Char) :
    Mild (c :: rest) ↔ c ≠ '-' ∧ c ≠ '*' := by
  simp [Mild]

@[simp] theorem mild_append {front rest : List Char} (first : Mild front) (second : Mild rest) :
    Mild (front ++ rest) := by
  cases front with
  | nil => exact second
  | cons c front => exact first

/-- Characters that change nothing for the scanner. -/
@[simp] def isPlain (c : Char) : Bool := ['\x27', '-', '/', '(', '[', ')', ']'].all (c != ·)

namespace Scanner

theorem run?_append (scanner : Scanner) (front text : List Char) :
    scanner.run? (front ++ text) = (scanner.run? front).bind (·.run? text) :=
  List.foldlM_append

theorem run?_cons (scanner : Scanner) (c : Char) (text : List Char) :
    scanner.run? (c :: text) = (scanner.step? c).bind (·.run? text) := rfl

theorem step?_of_noComment {mode : Mode} {c : Char} (due : List Char) (outside : mode ≠ .literal)
    (noDash : mode = .dash → c ≠ '-') (noSlash : mode = .slash → c ≠ '*') :
    step? ⟨mode, due⟩ c = outside? due c := by
  have unmarked : ¬ ((mode = .dash ∧ c = '-') ∨ (mode = .slash ∧ c = '*')) := by
    rintro (⟨dash, same⟩ | ⟨slash, same⟩)
    · exact noDash dash same
    · exact noSlash slash same
  simp only [step?, outside, unmarked, if_false]

theorem step?_code (due : List Char) (c : Char) : step? ⟨.code, due⟩ c = outside? due c :=
  step?_of_noComment due (by decide) (fun dash => by cases dash) fun slash => by cases slash

theorem outside?_of_isPlain {c : Char} (due : List Char) (plain : isPlain c = true) :
    outside? due c = some ⟨.code, due⟩ := by
  unfold outside?
  split
  case h_8 => rfl
  all_goals simp at plain

/-- Inside a literal everything but a quote is passed over. -/
theorem run?_literal {text : List Char} (due : List Char) (unquoted : '\x27' ∉ text) :
    run? ⟨.literal, due⟩ text = some ⟨.literal, due⟩ := by
  induction text with
  | nil => rfl
  | cons c rest inductionHypothesis =>
      obtain ⟨other, later⟩ := not_or.mp (mt List.mem_cons.mpr unquoted)
      rw [run?_cons, step?, if_pos rfl, if_neg (Ne.symm other)]
      exact inductionHypothesis later

theorem run?_doubleQuotes (due text : List Char) :
    run? ⟨.literal, due⟩ (Text.doubleQuotes text) = some ⟨.literal, due⟩ := by
  induction text with
  | nil => rfl
  | cons c rest inductionHypothesis =>
      by_cases isQuote : c = '\x27'
      · rw [Text.doubleQuotes, if_pos isQuote, run?_cons, step?, if_pos rfl, if_pos rfl]
        exact inductionHypothesis
      · rw [Text.doubleQuotes, if_neg isQuote, run?_cons, step?, if_pos rfl, if_neg isQuote]
        exact inductionHypothesis

end Scanner

section Reads

open Scanner

variable {due left rest : List Char} {text : String}

/-- What may follow a minus sign or a slash is scanned there as it is scanned anywhere. -/
theorem reads_of_mode {mode : Mode} (outside : mode ≠ .literal)
    (noDash : mode = .dash → rest.head? ≠ some '-')
    (noSlash : mode = .slash → rest.head? ≠ some '*') :
    (∃ last, last ≠ .literal ∧ run? ⟨mode, due⟩ rest = some ⟨last, left⟩) ↔
      Reads due rest left := by
  cases rest with
  | nil =>
      constructor
      · rintro ⟨last, _, ⟨⟩⟩
        exact ⟨.code, by decide, rfl⟩
      · rintro ⟨last, _, ⟨⟩⟩
        exact ⟨mode, outside, rfl⟩
  | cons c rest =>
      have same : step? ⟨mode, due⟩ c = step? ⟨.code, due⟩ c := by
        rw [step?_code]
        apply step?_of_noComment due outside
        · rintro dash rfl
          exact noDash dash rfl
        · rintro slash rfl
          exact noSlash slash rfl
      simp only [Reads, run?_cons, same]

@[simp] theorem reads_nil : Reads due [] left ↔ due = left := by
  constructor
  · rintro ⟨mode, _, ⟨⟩⟩
    rfl
  · rintro rfl
    exact ⟨.code, by decide, rfl⟩

theorem reads_cons {c : Char} {mode : Mode} {more : List Char}
    (step : outside? due c = some ⟨mode, more⟩) (outside : mode ≠ .literal)
    (noDash : mode = .dash → rest.head? ≠ some '-')
    (noSlash : mode = .slash → rest.head? ≠ some '*') :
    Reads due (c :: rest) left ↔ Reads more rest left := by
  rw [← reads_of_mode outside noDash noSlash]
  simp only [Reads, run?_cons, step?_code, step, Option.bind_some]

/-- A character after which the scanner is in code. -/
theorem reads_cons_code {c : Char} {more : List Char}
    (step : outside? due c = some ⟨.code, more⟩) :
    Reads due (c :: rest) left ↔ Reads more rest left :=
  reads_cons step (by decide) (fun dash => by cases dash) fun slash => by cases slash

@[simp] theorem reads_plain {c : Char} (plain : isPlain c = true) :
    Reads due (c :: rest) left ↔ Reads due rest left :=
  reads_cons_code (outside?_of_isPlain due plain)

theorem reads_plain_append {front : List Char} (plain : ∀ c ∈ front, isPlain c = true) :
    Reads due (front ++ rest) left ↔ Reads due rest left := by
  induction front with
  | nil => exact Iff.rfl
  | cons c front inductionHypothesis =>
      obtain ⟨first, later⟩ := List.forall_mem_cons.mp plain
      exact (reads_plain first).trans (inductionHypothesis later)

@[simp] theorem reads_opening : Reads due ('(' :: rest) left ↔ Reads (')' :: due) rest left :=
  reads_cons_code rfl

@[simp] theorem reads_closing : Reads (')' :: due) (')' :: rest) left ↔ Reads due rest left :=
  reads_cons_code rfl

@[simp] theorem reads_openingSquare :
    Reads due ('[' :: rest) left ↔ Reads (']' :: due) rest left :=
  reads_cons_code rfl

@[simp] theorem reads_closingSquare :
    Reads (']' :: due) (']' :: rest) left ↔ Reads due rest left :=
  reads_cons_code rfl

theorem reads_minus_of_ne (single : rest.head? ≠ some '-') :
    Reads due ('-' :: rest) left ↔ Reads due rest left :=
  reads_cons rfl (by decide) (fun _ => single) fun slash => by cases slash

@[simp] theorem reads_minus (mild : Mild rest) :
    Reads due ('-' :: rest) left ↔ Reads due rest left :=
  reads_minus_of_ne fun first => (mild _ first).1 rfl

@[simp] theorem reads_slash (mild : Mild rest) :
    Reads due ('/' :: rest) left ↔ Reads due rest left :=
  reads_cons rfl (by decide) (fun dash => by cases dash) fun _ first => (mild _ first).2 rfl

@[simp] theorem reads_scanned (scanned : Scanned text) :
    Reads due text.toList left ↔ due = left := by
  obtain ⟨mode, outside, run⟩ := scanned due
  constructor
  · rintro ⟨last, -, again⟩
    rw [run] at again
    cases again
    rfl
  · rintro rfl
    exact ⟨mode, outside, run⟩

@[simp] theorem reads_append (scanned : Scanned text) (mild : Mild rest) :
    Reads due (text.toList ++ rest) left ↔ Reads due rest left := by
  obtain ⟨mode, outside, run⟩ := scanned due
  simp only [Reads, run?_append, run, Option.bind_some]
  exact reads_of_mode outside (fun _ first => (mild _ first).1 rfl)
    fun _ first => (mild _ first).2 rfl

end Reads

section Scanned

variable {text : String}

@[simp] theorem scanned_empty : Scanned "" := by
  intro due
  simp

theorem scanned_of_plain (text : String) (plain : text.toList.all isPlain = true) :
    Scanned text := by
  intro due
  rw [← List.append_nil text.toList, reads_plain_append (List.all_eq_true.mp plain), reads_nil]

/-- A literal whose value has been put between two quotes. -/
theorem scanned_between {inside : List Char}
    (run : ∀ due, Scanner.run? ⟨.literal, due⟩ inside = some ⟨.literal, due⟩)
    (literal : text.toList = '\x27' :: (inside ++ ['\x27'])) : Scanned text := by
  intro due
  refine ⟨.code, by decide, ?_⟩
  have opened : Scanner.step? ⟨.code, due⟩ '\x27' = some ⟨.literal, due⟩ := rfl
  rw [literal, Scanner.run?_cons, opened, Option.bind_some, Scanner.run?_append, run]
  rfl

@[simp] theorem scanned_quote (value : String) : Scanned (Text.quote value) :=
  scanned_between (Scanner.run?_doubleQuotes · _) (Text.toList_quote value)

/-- A literal without quotes in it, which needs none doubled. -/
theorem scanned_unquoted (unquoted : '\x27' ∉ text.toList) : Scanned ("'" ++ text ++ "'") :=
  scanned_between (Scanner.run?_literal · unquoted) (by simp)

/-- A minus sign goes before any text, since it never meets a second one. -/
theorem scanned_negated (scanned : Scanned text) : Scanned (negated text) := by
  intro due
  unfold negated
  split
  · simp [scanned]
  · next single =>
      have alone : text.toList.head? ≠ some '-' := by
        intro first
        obtain ⟨rest, same⟩ := List.head?_eq_some_iff.mp first
        exact single rest same
      have split : ("-" ++ text).toList = '-' :: text.toList := by simp
      rw [split, reads_minus_of_ne alone]
      exact scanned due

theorem scanned_commaList {texts : List String} (each : ∀ text ∈ texts, Scanned text) :
    Scanned (Text.commaList texts) := by
  induction texts with
  | nil => exact scanned_empty
  | cons text rest inductionHypothesis =>
      obtain ⟨first, later⟩ := List.forall_mem_cons.mp each
      cases rest with
      | nil => exact first
      | cons next rest =>
          intro due
          simp [Text.commaList_cons_cons, first, inductionHypothesis later]

theorem scanned_callText {name : String} {args : List String} (isName : Scanned name)
    (each : ∀ arg ∈ args, Scanned arg) : Scanned (callText name args) := by
  intro due
  simp [callText, isName, scanned_commaList each]

end Scanned

end SkySql.Lexical
