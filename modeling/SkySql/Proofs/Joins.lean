import Mathlib.Data.List.Basic
import SkySql.Statement.Render

set_option autoImplicit false

/-!
What the text of a FROM clause keeps of the nesting of joins. A join tree is written without
parentheses: its first table, and then one step after another, which is a join with a table or the
condition of a join. The text keeps the table and the steps and nothing else. By the rules of SQL,
the steps are put together again to the tree they came from exactly if every join without a
condition is marked as such, being natural or a cross join, and has a single table on its right.
-/

namespace SkySql

/-- Names without the characters that stand between them: blanks, dots, commas and parentheses. -/
def isPlainName (name : String) : Bool := name.toList.all fun c => !" .,()".toList.contains c

structure ColumnName where
  qualifier : Option String
  name : String
  deriving DecidableEq

namespace ColumnName

/-- The column of which no more is known than its name. -/
def column (written : ColumnName) : Column :=
  { qualifier := written.qualifier, name := written.name }

def text (written : ColumnName) : String := written.column.text

def isPlain (written : ColumnName) : Bool :=
  written.qualifier.all isPlainName && isPlainName written.name

end ColumnName

def Column.written (column : Column) : ColumnName := ⟨column.qualifier, column.name⟩

/-- The conditions of joins: a comparison of two columns, a list of columns, or none at all. -/
inductive IsJoinSpec : JoinSpec → Prop
  | on {lhs rhs : Column} (op : CompareOp) (isLhs : lhs.written.isPlain = true)
      (isRhs : rhs.written.isPlain = true) :
      IsJoinSpec (.on (.comparison (.column lhs) op (.column rhs)))
  | shared {first : String} {others : List String}
      (areNames : ∀ name ∈ first :: others, isPlainName name = true) :
      IsJoinSpec (.using (first :: others))
  | natural : IsJoinSpec .natural
  | none : IsJoinSpec .none

/-- Joins of named tables, nested in any way. -/
inductive IsJoinTree : TableRef → Prop
  | table {name : String} {label : Option String} (isName : isPlainName name = true)
      (isLabel : label.all isPlainName = true) : IsJoinTree (.table name label)
  | join {left right : TableRef} {spec : JoinSpec} (kind : JoinKind) (isLeft : IsJoinTree left)
      (isRight : IsJoinTree right) (isSpec : IsJoinSpec spec) :
      IsJoinTree (.join left kind right spec)

structure Leaf where
  name : String
  label : Option String
  deriving DecidableEq

/-- A join with a table, or the condition of a join. -/
inductive JoinStep where
  | join (natural : Bool) (kind : JoinKind) (table : Leaf)
  | on (lhs : ColumnName) (op : CompareOp) (rhs : ColumnName)
  | shared (first : String) (others : List String)
  deriving DecidableEq

def JoinSpec.isNatural : JoinSpec → Bool
  | .natural => true
  | _ => false

def JoinSpec.steps : JoinSpec → List JoinStep
  | .on (.comparison (.column lhs) op (.column rhs)) => [.on lhs.written op rhs.written]
  | .using (first :: others) => [.shared first others]
  | _ => []

def TableRef.lead : TableRef → Leaf
  | .table name label => ⟨name, label⟩
  | .join left _ _ _ => left.lead
  | _ => ⟨"", none⟩

/-- What follows the first table of a join tree. -/
def TableRef.steps : TableRef → List JoinStep
  | .join left kind right spec =>
      left.steps ++ .join spec.isNatural kind right.lead :: (right.steps ++ spec.steps)
  | _ => []

section Words

def JoinKind.words : JoinKind → List String
  | .inner => ["JOIN"]
  | .left => ["LEFT", "OUTER", "JOIN"]
  | .right => ["RIGHT", "OUTER", "JOIN"]
  | .full => ["FULL", "OUTER", "JOIN"]
  | .cross => ["CROSS", "JOIN"]

def joinWords (natural : Bool) (kind : JoinKind) : List String :=
  if natural then "NATURAL" :: kind.words else kind.words

def Leaf.words (leaf : Leaf) : List String :=
  leaf.name :: leaf.label.elim [] fun label => ["AS", label]

/-- The words of a list up to its closing parenthesis; `opening` stands before the first name. -/
def listWords (opening : String) : String → List String → List String
  | first, [] => [opening ++ first ++ ")"]
  | first, next :: rest => (opening ++ first ++ ",") :: listWords "" next rest

def JoinStep.words : JoinStep → List String
  | .join natural kind table => joinWords natural kind ++ table.words
  | .on lhs op rhs => ["ON", lhs.text, op.symbol, rhs.text]
  | .shared first others => "USING" :: listWords "(" first others

def spaced (words : List String) : List Char := words.flatMap fun word => ' ' :: word.toList

theorem spaced_append (front words : List String) :
    spaced (front ++ words) = spaced front ++ spaced words :=
  List.flatMap_append

theorem append_spaced (front : List Char) (words : List String) :
    front ++ spaced words = [' '].intercalate (front :: words.map String.toList) := by
  induction words generalizing front with
  | nil => simp [spaced]
  | cons word words inductionHypothesis =>
      rw [List.map_cons, List.intercalate_cons_cons, ← inductionHypothesis]
      simp [spaced]

/-- Words without blanks can be told apart in a text. -/
theorem spaced_inj {words others : List String} (solid : ∀ word ∈ words, ' ' ∉ word.toList)
    (solidOthers : ∀ word ∈ others, ' ' ∉ word.toList) (same : spaced words = spaced others) :
    words = others := by
  have split {words : List String} (solid : ∀ word ∈ words, ' ' ∉ word.toList) :
      (spaced words).splitOn ' ' = [] :: words.map String.toList := by
    rw [← List.nil_append (spaced words), append_spaced]
    refine List.splitOn_intercalate ' ' ?_ (List.cons_ne_nil _ _)
    simpa using solid
  have parts := (split solid).symm.trans ((congrArg _ same).trans (split solidOthers))
  exact List.map_injective_iff.mpr (fun _ _ => String.toList_inj.mp) (List.cons.inj parts).2

end Words

section Decoding

variable {rest rest' : List String}

/-- The kind of a join at the front of words, and the words after it. -/
def readKind : List String → Option (JoinKind × List String)
  | "JOIN" :: rest => some (.inner, rest)
  | "LEFT" :: "OUTER" :: "JOIN" :: rest => some (.left, rest)
  | "RIGHT" :: "OUTER" :: "JOIN" :: rest => some (.right, rest)
  | "FULL" :: "OUTER" :: "JOIN" :: rest => some (.full, rest)
  | "CROSS" :: "JOIN" :: rest => some (.cross, rest)
  | _ => none

def readJoin : List String → Option (Bool × JoinKind × List String)
  | "NATURAL" :: rest => (readKind rest).map fun found => (true, found)
  | words => (readKind words).map fun found => (false, found)

theorem readJoin_append (natural : Bool) (kind : JoinKind) (rest : List String) :
    readJoin (joinWords natural kind ++ rest) = some (natural, kind, rest) := by
  cases natural <;> cases kind <;> rfl

/-- The words of a join tell its kind; what follows them is left over. -/
theorem joinWords_inj {natural natural' : Bool} {kind kind' : JoinKind}
    (same : joinWords natural kind ++ rest = joinWords natural' kind' ++ rest') :
    natural = natural' ∧ kind = kind' ∧ rest = rest' := by
  have found := congrArg readJoin same
  rw [readJoin_append, readJoin_append] at found
  simpa using found

/-- A label is told from what follows by its keyword. -/
theorem Leaf.words_inj {leaf leaf' : Leaf} (apart : rest.head? ≠ some "AS")
    (apart' : rest'.head? ≠ some "AS") (same : leaf.words ++ rest = leaf'.words ++ rest') :
    leaf = leaf' ∧ rest = rest' := by
  obtain ⟨name, label⟩ := leaf
  obtain ⟨name', label'⟩ := leaf'
  cases label with
  | none =>
      cases label' with
      | none => simpa [words] using same
      | some label' =>
          obtain ⟨-, tail⟩ := List.cons.inj same
          exact absurd (congrArg List.head? tail) apart
  | some label =>
      cases label' with
      | none =>
          obtain ⟨-, tail⟩ := List.cons.inj same
          exact absurd (congrArg List.head? tail).symm apart'
      | some label' => simpa [words, and_assoc] using same

theorem listWords_inj {opening first first' : String} {others others' : List String}
    (same : listWords opening first others ++ rest = listWords opening first' others' ++ rest') :
    first = first' ∧ others = others' ∧ rest = rest' := by
  have ends (front front' : String) : front ++ ")" ≠ front' ++ "," := by
    intro same
    have chars := congrArg (fun text : String => text.toList.getLast?) same
    simp at chars
  induction others generalizing opening first first' others' with
  | nil =>
      cases others' with
      | nil => simpa [listWords] using same
      | cons next' others' => exact absurd (List.cons.inj same).1 (ends _ _)
  | cons next others inductionHypothesis =>
      cases others' with
      | nil => exact absurd (List.cons.inj same).1.symm (ends _ _)
      | cons next' others' =>
          obtain ⟨head, tail⟩ := List.cons.inj same
          obtain ⟨isNext, areOthers, isRest⟩ := inductionHypothesis tail
          rw [isNext, areOthers, isRest]
          simpa using head

theorem not_mem_of_isPlainName {name : String} {c : Char} (isName : isPlainName name = true)
    (delimits : " .,()".toList.contains c = true) : c ∉ name.toList := by
  intro membership
  have plain := List.all_eq_true.mp isName c membership
  rw [delimits] at plain
  cases plain

theorem ColumnName.text_inj {written written' : ColumnName} (isPlain : written.isPlain = true)
    (isPlain' : written'.isPlain = true) (same : written.text = written'.text) :
    written = written' := by
  obtain ⟨qualifier, name⟩ := written
  obtain ⟨qualifier', name'⟩ := written'
  simp only [ColumnName.isPlain, Bool.and_eq_true] at isPlain isPlain'
  have dotless := not_mem_of_isPlainName (c := '.') isPlain.2 rfl
  have dotless' := not_mem_of_isPlainName (c := '.') isPlain'.2 rfl
  cases qualifier with
  | none =>
      cases qualifier' with
      | none => rw [show name = name' from same]
      | some qualifier' =>
          have dotted : '.' ∈ name.toList := by
            rw [show name = qualifier' ++ "." ++ name' from same]
            simp
          exact absurd dotted dotless
  | some qualifier =>
      cases qualifier' with
      | none =>
          have dotted : '.' ∈ name'.toList := by
            rw [show name' = qualifier ++ "." ++ name from same.symm]
            simp
          exact absurd dotted dotless'
      | some qualifier' =>
          have front : '.' ∉ qualifier.toList := not_mem_of_isPlainName isPlain.1 rfl
          have chars : qualifier.toList ++ '.' :: name.toList =
              qualifier'.toList ++ '.' :: name'.toList := by
            simpa [text, column, Column.text] using congrArg String.toList same
          obtain ⟨sameFront, -, sameName⟩ := (List.append_cons_inj_of_notMem front dotless).mp chars
          rw [String.toList_inj.mp sameFront, String.toList_inj.mp sameName]

def Leaf.isPlain (leaf : Leaf) : Bool := isPlainName leaf.name && leaf.label.all isPlainName

/-- Whether the names in a step have no delimiters in them. -/
def JoinStep.isPlain : JoinStep → Bool
  | .join _ _ table => table.isPlain
  | .on lhs _ rhs => lhs.isPlain && rhs.isPlain
  | .shared first others => isPlainName first && others.all isPlainName

theorem JoinStep.words_head (step : JoinStep) (rest : List String) :
    (step.words ++ rest).head? ≠ some "AS" := by
  cases step with
  | join natural kind => cases natural <;> cases kind <;> simp [words, joinWords, JoinKind.words]
  | on | shared => simp [words]

/-- The words of a step tell the step; what follows them is left over. -/
theorem JoinStep.words_inj {step step' : JoinStep} (isPlain : step.isPlain = true)
    (isPlain' : step'.isPlain = true) (apart : rest.head? ≠ some "AS")
    (apart' : rest'.head? ≠ some "AS") (same : step.words ++ rest = step'.words ++ rest') :
    step = step' ∧ rest = rest' := by
  have keywords := congrArg List.head? same
  cases step with
  | join natural kind table =>
      cases step' with
      | join natural' kind' table' =>
          rw [words, words, List.append_assoc, List.append_assoc] at same
          obtain ⟨rfl, rfl, later⟩ := joinWords_inj same
          obtain ⟨rfl, rfl⟩ := Leaf.words_inj apart apart' later
          exact ⟨rfl, rfl⟩
      | _ => cases natural <;> cases kind <;> simp [words, joinWords, JoinKind.words] at keywords
  | on lhs op rhs =>
      cases step' with
      | join natural' kind' =>
          cases natural' <;> cases kind' <;> simp [words, joinWords, JoinKind.words] at keywords
      | on lhs' op' rhs' =>
          simp only [JoinStep.isPlain, Bool.and_eq_true] at isPlain isPlain'
          simp only [words, List.cons_append, List.nil_append, List.cons.injEq] at same
          obtain ⟨-, sameLhs, sameOp, sameRhs, rfl⟩ := same
          have isOp : op = op' := by cases op <;> cases op' <;> simp_all [CompareOp.symbol]
          rw [ColumnName.text_inj isPlain.1 isPlain'.1 sameLhs, isOp,
            ColumnName.text_inj isPlain.2 isPlain'.2 sameRhs]
          exact ⟨rfl, rfl⟩
      | shared => simp [words] at keywords
  | shared first others =>
      cases step' with
      | join natural' kind' =>
          cases natural' <;> cases kind' <;> simp [words, joinWords, JoinKind.words] at keywords
      | on => simp [words] at keywords
      | shared first' others' =>
          obtain ⟨rfl, rfl, rfl⟩ := listWords_inj (List.cons.inj same).2
          exact ⟨rfl, rfl⟩

theorem JoinStep.words_ne_nil (step : JoinStep) (rest : List String) : step.words ++ rest ≠ [] := by
  cases step with
  | join natural kind => cases natural <;> cases kind <;> exact List.cons_ne_nil _ _
  | on | shared => exact List.cons_ne_nil _ _

theorem flatMap_words_head (steps : List JoinStep) :
    (steps.flatMap JoinStep.words).head? ≠ some "AS" := by
  cases steps with
  | nil => simp
  | cons step steps => exact step.words_head _

theorem flatMap_words_inj {steps steps' : List JoinStep}
    (arePlain : ∀ step ∈ steps, step.isPlain = true)
    (arePlain' : ∀ step ∈ steps', step.isPlain = true)
    (same : steps.flatMap JoinStep.words = steps'.flatMap JoinStep.words) : steps = steps' := by
  induction steps generalizing steps' with
  | nil =>
      cases steps' with
      | nil => rfl
      | cons step' steps' => exact absurd same.symm (step'.words_ne_nil _)
  | cons step steps inductionHypothesis =>
      cases steps' with
      | nil => exact absurd same (step.words_ne_nil _)
      | cons step' steps' =>
          obtain ⟨first, others⟩ := List.forall_mem_cons.mp arePlain
          obtain ⟨first', others'⟩ := List.forall_mem_cons.mp arePlain'
          obtain ⟨rfl, later⟩ := JoinStep.words_inj first first' (flatMap_words_head steps)
            (flatMap_words_head steps') same
          rw [inductionHypothesis others others' later]

end Decoding

section Rendering

def TableRef.words (table : TableRef) : List String :=
  table.lead.words ++ table.steps.flatMap JoinStep.words

variable {table : TableRef}

theorem IsJoinTree.lead (isTree : IsJoinTree table) : table.lead.isPlain = true := by
  induction isTree with
  | table isName isLabel => exact Bool.and_eq_true_iff.mpr ⟨isName, isLabel⟩
  | join _ _ _ _ inLeft => exact inLeft

theorem IsJoinSpec.steps {spec : JoinSpec} (isSpec : IsJoinSpec spec) :
    ∀ step ∈ spec.steps, step.isPlain = true := by
  cases isSpec with
  | on _ isLhs isRhs =>
      exact List.forall_mem_singleton.mpr (Bool.and_eq_true_iff.mpr ⟨isLhs, isRhs⟩)
  | shared areNames =>
      obtain ⟨isFirst, areOthers⟩ := List.forall_mem_cons.mp areNames
      exact List.forall_mem_singleton.mpr
        (Bool.and_eq_true_iff.mpr ⟨isFirst, List.all_eq_true.mpr areOthers⟩)
  | natural | none => exact List.forall_mem_nil _

theorem IsJoinTree.steps (isTree : IsJoinTree table) :
    ∀ step ∈ table.steps, step.isPlain = true := by
  induction isTree with
  | table => exact List.forall_mem_nil _
  | join kind _ isRight isSpec inLeft inRight =>
      refine List.forall_mem_append.mpr ⟨inLeft, List.forall_mem_cons.mpr ⟨isRight.lead, ?_⟩⟩
      exact List.forall_mem_append.mpr ⟨inRight, isSpec.steps⟩

abbrev Solid (words : List String) : Prop := ∀ word ∈ words, ' ' ∉ word.toList

theorem solid_append {front words : List String} :
    Solid (front ++ words) ↔ Solid front ∧ Solid words :=
  List.forall_mem_append

theorem solid_leaf {leaf : Leaf} (isPlain : leaf.isPlain = true) : Solid leaf.words := by
  obtain ⟨name, label⟩ := leaf
  obtain ⟨isName, isLabel⟩ := Bool.and_eq_true_iff.mp isPlain
  refine List.forall_mem_cons.mpr ⟨not_mem_of_isPlainName isName rfl, ?_⟩
  cases label with
  | none => exact List.forall_mem_nil _
  | some label =>
      refine List.forall_mem_cons.mpr ⟨by decide, List.forall_mem_singleton.mpr ?_⟩
      exact not_mem_of_isPlainName isLabel rfl

theorem solid_column {written : ColumnName} (isPlain : written.isPlain = true) :
    ' ' ∉ written.text.toList := by
  obtain ⟨qualifier, name⟩ := written
  obtain ⟨isQualifier, isName⟩ := Bool.and_eq_true_iff.mp isPlain
  have inName : ' ' ∉ name.toList := not_mem_of_isPlainName isName rfl
  cases qualifier with
  | none => exact inName
  | some qualifier =>
      have inQualifier : ' ' ∉ qualifier.toList := not_mem_of_isPlainName isQualifier rfl
      simp [ColumnName.text, ColumnName.column, Column.text, inName, inQualifier]

theorem solid_list {opening first : String} {others : List String} (opens : ' ' ∉ opening.toList)
    (isFirst : isPlainName first = true) (areOthers : ∀ name ∈ others, isPlainName name = true) :
    Solid (listWords opening first others) := by
  have inFirst : ' ' ∉ first.toList := not_mem_of_isPlainName isFirst rfl
  induction others generalizing opening first with
  | nil =>
      refine List.forall_mem_singleton.mpr ?_
      simp [opens, inFirst]
  | cons next others inductionHypothesis =>
      obtain ⟨isNext, areOthers⟩ := List.forall_mem_cons.mp areOthers
      refine List.forall_mem_cons.mpr ⟨?_, ?_⟩
      · simp [opens, inFirst]
      · exact inductionHypothesis (by simp) isNext areOthers (not_mem_of_isPlainName isNext rfl)

theorem solid_step {step : JoinStep} (isPlain : step.isPlain = true) : Solid step.words := by
  cases step with
  | join natural kind table =>
      have keywords : Solid (joinWords natural kind) := by
        cases natural <;> cases kind <;> decide
      exact solid_append.mpr ⟨keywords, solid_leaf isPlain⟩
  | on lhs op rhs =>
      obtain ⟨isLhs, isRhs⟩ := Bool.and_eq_true_iff.mp isPlain
      have symbol : ' ' ∉ op.symbol.toList := by cases op <;> decide
      simp [Solid, JoinStep.words, solid_column isLhs, solid_column isRhs, symbol]
  | shared first others =>
      obtain ⟨isFirst, areOthers⟩ := Bool.and_eq_true_iff.mp isPlain
      refine List.forall_mem_cons.mpr ⟨by decide, ?_⟩
      exact solid_list (by decide) isFirst (List.all_eq_true.mp areOthers)

theorem IsJoinTree.solid (isTree : IsJoinTree table) : Solid table.words := by
  refine solid_append.mpr ⟨solid_leaf isTree.lead, ?_⟩
  intro word membership
  obtain ⟨step, isStep, isWord⟩ := List.mem_flatMap.mp membership
  exact solid_step (isTree.steps step isStep) word isWord

theorem spaced_leaf (name : String) (label : Option String) :
    ' ' :: (labelled name label).toList = spaced (Leaf.words ⟨name, label⟩) := by
  cases label <;> simp [labelled, Leaf.words, spaced]

theorem spaced_list (opening first : String) (others : List String) :
    ' ' :: (opening ++ Text.commaList (first :: others) ++ ")").toList =
      spaced (listWords opening first others) := by
  induction others generalizing opening first with
  | nil => simp [listWords, spaced]
  | cons next others inductionHypothesis =>
      have later := inductionHypothesis "" next
      rw [Text.commaList_cons_cons, listWords]
      simp only [spaced, List.flatMap_cons] at later ⊢
      rw [← later]
      simp

theorem spaced_join (natural : Bool) (kind : JoinKind) :
    ' ' :: ((if natural then "NATURAL " else "") ++ kind.name).toList =
      spaced (joinWords natural kind) := by
  cases natural <;> cases kind <;> decide

theorem text_written (column : Column) : column.written.text = column.text := rfl

theorem IsJoinSpec.exists_text {spec : JoinSpec} (isSpec : IsJoinSpec spec) :
    ∃ text, spec.render = .ok text ∧ text.toList = spaced (spec.steps.flatMap JoinStep.words) := by
  cases isSpec with
  | @on lhs rhs op =>
      refine ⟨" ON " ++ (lhs.text ++ " " ++ op.symbol ++ " " ++ rhs.text), rfl, ?_⟩
      simp [JoinSpec.steps, JoinStep.words, spaced, text_written]
  | @shared first others =>
      refine ⟨" USING (" ++ Text.commaList (first :: others) ++ ")", rfl, ?_⟩
      have words : (JoinSpec.steps (.using (first :: others))).flatMap JoinStep.words =
          ["USING"] ++ listWords "(" first others :=
        List.flatMap_singleton _ _
      rw [words, spaced_append, ← spaced_list]
      simp [spaced]
  | natural | none => exact ⟨"", rfl, rfl⟩

theorem render_join {left right : TableRef} {kind : JoinKind} {spec : JoinSpec}
    {leftText rightText specText : String} (renderedLeft : left.render = .ok leftText)
    (renderedRight : right.render = .ok rightText) (renderedSpec : spec.render = .ok specText) :
    (TableRef.join left kind right spec).render =
      .ok (leftText ++ " " ++ ((if spec.isNatural then "NATURAL " else "") ++ kind.name) ++ " " ++
        rightText ++ specText) := by
  cases spec <;> simp only [TableRef.render, renderedLeft, renderedRight, renderedSpec] <;>
    simp [JoinSpec.isNatural, String.append_assoc] <;> rfl

/-- The text of a join tree is its words with blanks between them. -/
theorem IsJoinTree.exists_text (isTree : IsJoinTree table) :
    ∃ text, table.render = .ok text ∧ ' ' :: text.toList = spaced table.words := by
  induction isTree with
  | @table name label =>
      refine ⟨labelled name label, rfl, ?_⟩
      rw [spaced_leaf, TableRef.words]
      simp [TableRef.lead, TableRef.steps]
  | @join left right spec kind _ _ isSpec inLeft inRight =>
      obtain ⟨leftText, renderedLeft, isLeftText⟩ := inLeft
      obtain ⟨rightText, renderedRight, isRightText⟩ := inRight
      obtain ⟨specText, renderedSpec, isSpecText⟩ := isSpec.exists_text
      refine ⟨_, render_join renderedLeft renderedRight renderedSpec, ?_⟩
      have words : (TableRef.join left kind right spec).words =
          left.words ++ (joinWords spec.isNatural kind ++
            (right.words ++ spec.steps.flatMap JoinStep.words)) := by
        simp [TableRef.words, TableRef.lead, TableRef.steps, JoinStep.words]
      rw [words, spaced_append, spaced_append, spaced_append, ← isLeftText, ← spaced_join,
        ← isRightText, ← isSpecText]
      simp

/-- Two join trees have the same text exactly if they have the same first table and the same steps
after it. -/
theorem IsJoinTree.render_eq_iff {other : TableRef} (isTree : IsJoinTree table)
    (isOther : IsJoinTree other) :
    table.render = other.render ↔ table.lead = other.lead ∧ table.steps = other.steps := by
  obtain ⟨text, rendered, isText⟩ := isTree.exists_text
  obtain ⟨otherText, renderedOther, isOtherText⟩ := isOther.exists_text
  rw [rendered, renderedOther, Except.ok.injEq]
  constructor
  · rintro rfl
    have words := spaced_inj isTree.solid isOther.solid (isText.symm.trans isOtherText)
    obtain ⟨sameLead, later⟩ := Leaf.words_inj (flatMap_words_head _) (flatMap_words_head _) words
    exact ⟨sameLead, flatMap_words_inj isTree.steps isOther.steps later⟩
  · rintro ⟨sameLead, sameSteps⟩
    rw [TableRef.words, sameLead, sameSteps] at isText
    exact String.toList_inj.mp (List.cons.inj (isText.trans isOtherText.symm)).2

end Rendering

section Regrouping

def Leaf.table (leaf : Leaf) : TableRef := .table leaf.name leaf.label

/-- Joins that wait for their conditions, each with what stands on its left, and the tree read since
the last of them. -/
structure JoinReader where
  current : TableRef
  pending : List (TableRef × JoinKind)

namespace JoinReader

/-- The condition of the last join that waits for one. -/
def close? (reader : JoinReader) (spec : JoinSpec) : Option JoinReader :=
  match reader.pending with
  | [] => none
  | (left, kind) :: rest => some ⟨.join left kind reader.current spec, rest⟩

/-- By the rules of SQL, a natural join and a cross join are joins with the next table, and any
other join goes on until its condition. No join is both natural and a cross join. -/
def step? (reader : JoinReader) : JoinStep → Option JoinReader
  | .join true .cross _ => none
  | .join true kind table =>
      some { reader with current := .join reader.current kind table.table .natural }
  | .join false .cross table =>
      some { reader with current := .join reader.current .cross table.table .none }
  | .join false kind table => some ⟨table.table, (reader.current, kind) :: reader.pending⟩
  | .on lhs op rhs => reader.close? (.on (.comparison (.column lhs.column) op (.column rhs.column)))
  | .shared first others => reader.close? (.using (first :: others))

end JoinReader

/-- The join tree that SQL makes of a table and the steps after it. -/
def regroup (lead : Leaf) (steps : List JoinStep) : Option TableRef := do
  match ← steps.foldlM JoinReader.step? ⟨lead.table, []⟩ with
  | ⟨tree, []⟩ => some tree
  | _ => none

def TableRef.isTable : TableRef → Bool
  | .table .. => true
  | _ => false

/-- Whether the joins without a condition are the natural joins and the cross joins, with a single
table on their right. -/
def TableRef.isRegular : TableRef → Bool
  | .join left kind right spec =>
      left.isRegular && right.isRegular &&
        match spec with
        | .natural => kind != .cross && right.isTable
        | .none => kind == .cross && right.isTable
        | _ => kind != .cross
  | _ => true

def JoinSpec.plain : JoinSpec → JoinSpec
  | .on (.comparison (.column lhs) op (.column rhs)) =>
      .on (.comparison (.column lhs.written.column) op (.column rhs.written.column))
  | spec => spec

/-- A join tree without what is known of the columns in it, which is not written. -/
def TableRef.plain : TableRef → TableRef
  | .join left kind right spec => .join left.plain kind right.plain spec.plain
  | single => single

variable {table : TableRef}

theorem isRegular_join {left right : TableRef} {kind : JoinKind} {spec : JoinSpec} :
    (TableRef.join left kind right spec).isRegular = true ↔
      left.isRegular = true ∧ right.isRegular = true ∧
        match spec with
        | .natural => kind ≠ .cross ∧ right.isTable = true
        | .none => kind = .cross ∧ right.isTable = true
        | _ => kind ≠ .cross := by
  cases spec <;> simp [TableRef.isRegular, and_assoc]

theorem isTable_plain (table : TableRef) : table.plain.isTable = table.isTable := by
  cases table <;> rfl

theorem IsJoinTree.isRegular_plain (isTree : IsJoinTree table) :
    table.plain.isRegular = table.isRegular := by
  induction isTree with
  | table => rfl
  | @join left right spec kind _ _ isSpec inLeft inRight =>
      cases isSpec <;>
        simp [TableRef.plain, JoinSpec.plain, TableRef.isRegular, inLeft, inRight, isTable_plain]

theorem IsJoinTree.of_isTable (isTree : IsJoinTree table) (isTable : table.isTable = true) :
    table.lead.table = table.plain ∧ table.steps = [] := by
  cases isTree with
  | table => exact ⟨rfl, rfl⟩
  | join => cases isTable

namespace JoinReader

theorem step?_join {natural : Bool} {kind : JoinKind} (reader : JoinReader) (table : Leaf)
    (joins : kind ≠ .cross) :
    reader.step? (.join natural kind table) =
      some (if natural then ⟨.join reader.current kind table.table .natural, reader.pending⟩
        else ⟨table.table, (reader.current, kind) :: reader.pending⟩) := by
  cases natural <;> cases kind <;> first | exact absurd rfl joins | rfl

/-- Read after its first table, the steps of a regular tree give the tree, whatever joins wait
before it. -/
theorem foldlM_steps (isTree : IsJoinTree table) (isRegular : table.isRegular = true)
    (pending : List (TableRef × JoinKind)) :
    table.steps.foldlM step? ⟨table.lead.table, pending⟩ = some ⟨table.plain, pending⟩ := by
  induction isTree generalizing pending with
  | table => rfl
  | @join left right spec kind _ isRight isSpec inLeft inRight =>
      obtain ⟨regularLeft, regularRight, regular⟩ := isRegular_join.mp isRegular
      have start : (TableRef.join left kind right spec).steps.foldlM step?
            ⟨(TableRef.join left kind right spec).lead.table, pending⟩ =
          (step? ⟨left.plain, pending⟩ (.join spec.isNatural kind right.lead)).bind
            fun next => (right.steps ++ spec.steps).foldlM step? next := by
        rw [TableRef.steps, List.foldlM_append, TableRef.lead, inLeft regularLeft]
        rfl
      rw [start]
      cases isSpec with
      | natural =>
          obtain ⟨isTable, noSteps⟩ := isRight.of_isTable regular.2
          rw [step?_join _ _ regular.1, noSteps, isTable]
          rfl
      | none =>
          obtain ⟨rfl, isTable⟩ := regular
          obtain ⟨isTable, noSteps⟩ := isRight.of_isTable isTable
          rw [noSteps]
          exact congrArg (fun right => some (JoinReader.mk (.join left.plain .cross right .none) _))
            isTable
      | on | shared =>
          rw [step?_join _ _ regular]
          change (right.steps ++ _).foldlM step?
            ⟨right.lead.table, (left.plain, kind) :: pending⟩ = _
          rw [List.foldlM_append, inRight regularRight]
          rfl

/-- Regular trees, and joins that go on until their conditions. -/
structure IsRegular (reader : JoinReader) : Prop where
  current : reader.current.isRegular = true
  pending : ∀ entry ∈ reader.pending, entry.1.isRegular = true ∧ entry.2 ≠ .cross

theorem IsRegular.close? {reader next : JoinReader} {spec : JoinSpec} (regular : reader.IsRegular)
    (closed : reader.close? spec = some next) (isConditional : spec ≠ .natural ∧ spec ≠ .none) :
    next.IsRegular := by
  obtain ⟨current, _ | ⟨⟨left, kind⟩, pending⟩⟩ := reader
  · cases closed
  · obtain rfl := Option.some.inj closed
    obtain ⟨⟨regularLeft, joins⟩, others⟩ := List.forall_mem_cons.mp regular.pending
    refine ⟨isRegular_join.mpr ⟨regularLeft, regular.current, ?_⟩, others⟩
    cases spec with
    | on | «using» => exact joins
    | natural => exact absurd rfl isConditional.1
    | none => exact absurd rfl isConditional.2

/-- One more step keeps what is read regular. -/
theorem IsRegular.step? {reader next : JoinReader} {step : JoinStep} (regular : reader.IsRegular)
    (stepped : reader.step? step = some next) : next.IsRegular := by
  cases step with
  | join natural kind table =>
      by_cases isCross : kind = .cross
      · subst isCross
        cases natural with
        | true => cases stepped
        | false =>
            obtain rfl := Option.some.inj stepped
            exact ⟨isRegular_join.mpr ⟨regular.current, rfl, rfl, rfl⟩, regular.pending⟩
      · rw [step?_join reader table isCross] at stepped
        obtain rfl := Option.some.inj stepped
        cases natural with
        | true => exact ⟨isRegular_join.mpr ⟨regular.current, rfl, isCross, rfl⟩, regular.pending⟩
        | false =>
            refine ⟨rfl, List.forall_mem_cons.mpr ⟨?_, regular.pending⟩⟩
            exact ⟨regular.current, isCross⟩
  | on =>
      have closed : reader.close? (.on _) = some next := stepped
      exact regular.close? closed ⟨nofun, nofun⟩
  | shared =>
      have closed : reader.close? (.using _) = some next := stepped
      exact regular.close? closed ⟨nofun, nofun⟩

theorem IsRegular.foldlM {reader last : JoinReader} {steps : List JoinStep}
    (regular : reader.IsRegular) (ran : steps.foldlM JoinReader.step? reader = some last) :
    last.IsRegular := by
  induction steps generalizing reader with
  | nil =>
      obtain rfl := Option.some.inj ran
      exact regular
  | cons step steps inductionHypothesis =>
      rw [List.foldlM_cons] at ran
      obtain ⟨next, stepped, later⟩ := Option.bind_eq_some_iff.mp ran
      exact inductionHypothesis (regular.step? stepped) later

end JoinReader

/-- Whatever is read is a regular tree. -/
theorem isRegular_of_regroup {lead : Leaf} {steps : List JoinStep}
    (read : regroup lead steps = some table) : table.isRegular = true := by
  obtain ⟨⟨tree, pending⟩, ran, finished⟩ := Option.bind_eq_some_iff.mp read
  have start : JoinReader.IsRegular ⟨lead.table, []⟩ := ⟨rfl, List.forall_mem_nil _⟩
  have regular := start.foldlM ran
  cases pending with
  | nil =>
      obtain rfl := Option.some.inj finished
      exact regular.current
  | cons => cases finished

/-- The steps of a tree are put together to the tree they came from exactly if it is regular. -/
theorem IsJoinTree.regroup_eq_some_iff (isTree : IsJoinTree table) :
    regroup table.lead table.steps = some table.plain ↔ table.isRegular = true := by
  constructor
  · intro read
    rw [← isTree.isRegular_plain]
    exact isRegular_of_regroup read
  · intro regular
    rw [regroup, JoinReader.foldlM_steps isTree regular]
    rfl

end Regrouping

/-- The text of a FROM clause keeps the tables and the joins of a tree one after another, and keeps
their nesting if the joins without a condition are natural and cross joins with a single table on
their right. -/
theorem join_text_keeps_steps {table other : TableRef} (isTree : IsJoinTree table)
    (isOther : IsJoinTree other) :
    (∃ text, table.render = .ok text) ∧
      (table.render = other.render ↔ table.lead = other.lead ∧ table.steps = other.steps) ∧
      (regroup table.lead table.steps = some table.plain ↔ table.isRegular = true) ∧
      (table.isRegular = true → other.isRegular = true → table.render = other.render →
        table.plain = other.plain) := by
  obtain ⟨text, rendered, -⟩ := isTree.exists_text
  refine ⟨⟨text, rendered⟩, isTree.render_eq_iff isOther, isTree.regroup_eq_some_iff, ?_⟩
  intro regular regularOther same
  obtain ⟨sameLead, sameSteps⟩ := (isTree.render_eq_iff isOther).mp same
  have read := isTree.regroup_eq_some_iff.mpr regular
  rw [sameLead, sameSteps, isOther.regroup_eq_some_iff.mpr regularOther] at read
  exact (Option.some.inj read).symm

theorem join_text_keeps_steps_nested :
    let nested : TableRef :=
      .join (.table "a" none) .left
        (.join (.table "b" none) .inner (.table "c" none) (.using ["x"])) (.using ["y"])
    let flat : TableRef :=
      .join (.join (.table "a" none) .left (.table "b" none) (.using ["x"])) .inner
        (.table "c" none) (.using ["y"])
    nested.render = .ok "a LEFT OUTER JOIN b JOIN c USING (x) USING (y)" ∧
      regroup nested.lead nested.steps = some nested ∧ nested.render ≠ flat.render := by
  intro nested flat
  have isName (name : String) (isPlain : isPlainName name = true) : IsJoinTree (.table name none) :=
    .table isPlain rfl
  have condition (name : String) (isPlain : isPlainName name = true) : IsJoinSpec (.using [name]) :=
    .shared (List.forall_mem_singleton.mpr isPlain)
  have isNested : IsJoinTree nested :=
    .join _ (isName "a" rfl) (.join _ (isName "b" rfl) (isName "c" rfl) (condition "x" rfl))
      (condition "y" rfl)
  have isFlat : IsJoinTree flat :=
    .join _ (.join _ (isName "a" rfl) (isName "b" rfl) (condition "x" rfl)) (isName "c" rfl)
      (condition "y" rfl)
  obtain ⟨-, same, read, -⟩ := join_text_keeps_steps isNested isFlat
  refine ⟨rfl, read.mpr rfl, fun sameText => ?_⟩
  exact absurd (same.mp sameText).2 (by decide)

/-- Natural joins to the right and to the left have one text, which is read as joins to the left. -/
theorem natural_join_text_drops_nesting :
    let nested : TableRef :=
      .join (.table "a" none) .left (.join (.table "b" none) .inner (.table "c" none) .natural)
        .natural
    let flat : TableRef :=
      .join (.join (.table "a" none) .left (.table "b" none) .natural) .inner (.table "c" none)
        .natural
    IsJoinTree nested ∧ IsJoinTree flat ∧ nested ≠ flat ∧
      nested.render = .ok "a NATURAL LEFT OUTER JOIN b NATURAL JOIN c" ∧
      flat.render = nested.render ∧ regroup nested.lead nested.steps = some flat := by
  intro nested flat
  have isName (name : String) (isPlain : isPlainName name = true) : IsJoinTree (.table name none) :=
    .table isPlain rfl
  have apart : nested ≠ flat := by
    intro same
    cases (TableRef.join.inj same).2.1
  refine ⟨?_, ?_, apart, rfl, rfl, rfl⟩
  · exact .join _ (isName "a" rfl) (.join _ (isName "b" rfl) (isName "c" rfl) .natural) .natural
  · exact .join _ (.join _ (isName "a" rfl) (isName "b" rfl) .natural) (isName "c" rfl) .natural

end SkySql
