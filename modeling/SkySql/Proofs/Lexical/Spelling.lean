import SkySql.Proofs.Lexical.Scanner
import SkySql.Proofs.Stcs.Printing
import SkySql.Proofs.Walk

set_option autoImplicit false

/-!
What a statement spells out, and the soundness of its text. Names and numbers go into a text as they
are spelled, and so does text that a rule has put in; everything else is quoted or fixed. If all of
these are sound, so is the text of the statement. It is what keeps the text sound through the passes
too: each rule makes sound text of sound operands.
-/

namespace SkySql

namespace Lexical

def isNameChar (c : Char) : Bool := Stcs.isWordChar c || c == '.'

/-- Letters, digits and underscores of ASCII, and dots. -/
def isName (text : String) : Bool := text.toList.all isNameChar

theorem ascii_of_isNameChar {c : Char} (nameChar : isNameChar c = true) : c.toNat < 128 := by
  rcases Bool.or_eq_true_iff.mp nameChar with wordChar | point
  · exact Stcs.ascii_of_isWordChar wordChar
  · rw [beq_iff_eq.mp point]
    decide

/-- A property of the characters of names is settled by looking at each of them. -/
theorem of_isNameChar {c : Char} (property : Char → Bool)
    (all : (List.range 128).all (fun code =>
      !isNameChar (Char.ofNat code) || property (Char.ofNat code)) = true)
    (nameChar : isNameChar c = true) : property c = true := by
  have holds := Stcs.of_ascii (fun c => !isNameChar c || property c) all
    (ascii_of_isNameChar nameChar)
  rwa [nameChar, Bool.not_true, Bool.false_or] at holds

theorem isPlain_of_isNameChar {c : Char} (nameChar : isNameChar c = true) : isPlain c = true :=
  of_isNameChar isPlain (by decide) nameChar

section Texts

variable {text : String}

theorem scanned_name (name : isName text = true) : Scanned text := by
  apply scanned_of_plain
  rw [isName, List.all_eq_true] at name
  exact List.all_eq_true.mpr fun c membership => isPlain_of_isNameChar (name c membership)

theorem scanned_upper (name : isName text = true) : Scanned (Text.upper text) := by
  apply scanned_of_plain
  rw [isName, List.all_eq_true] at name
  rw [Text.upper, String.toList_ofList, List.all_flatMap, List.all_eq_true]
  exact fun c membership =>
    of_isNameChar (fun c => (Text.capitals c).all isPlain) (by decide) (name c membership)

theorem isPlain_of_isDigit {digits : List Char} (all : ∀ c ∈ digits, c.isDigit = true) :
    ∀ c ∈ digits, isPlain c = true := by
  intro c membership
  apply isPlain_of_isNameChar
  simp [isNameChar, Stcs.isWordChar, Char.isAlphanum, all c membership]

@[simp] theorem scanned_toString (n : Nat) : Scanned (toString n) := by
  apply scanned_of_plain
  rw [Nat.toString_eq_repr, Nat.toList_repr, List.all_eq_true]
  exact isPlain_of_isDigit (Stcs.isDigits_toDigits n).2

theorem isPlain_of_isMantissa {mantissa : List Char} (isMantissa : Stcs.IsMantissa mantissa) :
    ∀ c ∈ mantissa, isPlain c = true := by
  cases isMantissa with
  | whole isWhole => exact isPlain_of_isDigit isWhole.2
  | pointed isWhole isFraction =>
      refine List.forall_mem_append.mpr ⟨isPlain_of_isDigit isWhole.2, ?_⟩
      exact List.forall_mem_cons.mpr ⟨by decide, isPlain_of_isDigit isFraction⟩
  | fraction isFraction =>
      exact List.forall_mem_cons.mpr ⟨by decide, isPlain_of_isDigit isFraction.2⟩

/-- A sign goes before a text that begins with a digit or a point. -/
theorem reads_sign {due left sign rest : List Char} (isSign : Stcs.IsSign sign)
    (start : ∃ c tail, rest = c :: tail ∧ (c.isDigit = true ∨ c = '.')) :
    Reads due (sign ++ rest) left ↔ Reads due rest left := by
  obtain ⟨c, tail, rfl, first⟩ := start
  rcases isSign with rfl | rfl | rfl
  · exact Iff.rfl
  · exact reads_plain (by decide)
  · apply reads_minus_of_ne
    rintro ⟨⟩
    rcases first with digit | point
    · cases digit
    · cases point

theorem reads_exponent {due left exponent : List Char} (isExponent : Stcs.IsExponent exponent) :
    Reads due exponent left ↔ due = left := by
  cases isExponent with
  | absent => exact reads_nil
  | @present mark sign digits isMark isSign isDigits =>
      have plainMark : isPlain mark = true := by
        rcases isMark with rfl | rfl <;> decide
      obtain ⟨c, tail, start, digit⟩ := isDigits.head
      rw [reads_plain plainMark, reads_sign isSign ⟨c, tail, start, .inl digit⟩,
        ← List.append_nil digits, reads_plain_append (isPlain_of_isDigit isDigits.2), reads_nil]

theorem scanned_number (isNumber : Stcs.IsNumber text.toList) : Scanned text := by
  intro due
  generalize text.toList = spelling at isNumber
  cases isNumber with
  | @parts sign mantissa exponent isSign isMantissa isExponent =>
      obtain ⟨c, tail, start, first⟩ := isMantissa.head
      rw [reads_sign isSign ⟨c, tail ++ exponent, by rw [start]; rfl, first⟩,
        reads_plain_append (isPlain_of_isMantissa isMantissa), reads_exponent isExponent]

/-- Any double has sound text, also one that is not a number. -/
@[simp] theorem scanned_decimal (x : Float) : Scanned (Decimal.text x) := by
  cases finite : Decimal.isFinite x with
  | true => exact scanned_number (Stcs.isNumber_text finite)
  | false =>
      unfold Decimal.isFinite at finite
      unfold Decimal.text Decimal.Layout.text
      cases reading : Decimal.Reading.ofFloat x with
      | nan => exact scanned_of_plain _ rfl
      | infinite negative =>
          cases negative with
          | true =>
              intro due
              simp
          | false => exact scanned_of_plain _ rfl
      | finite negative size => rw [reading] at finite; cases finite

theorem scanned_operandText (expr : Expr) (scanned : Scanned text) :
    Scanned (operandText expr text) := by
  unfold operandText
  split
  · intro due
    simp [scanned]
  · exact scanned

theorem scanned_derivedText {name : String} (scanned : Scanned text) (own : isName name = true) :
    Scanned (derivedText text name) := by
  intro due
  simp [derivedText, scanned, scanned_name own]

theorem scanned_labelled {label : Option String} (scanned : Scanned text)
    (name : ∀ word ∈ label, isName word = true) : Scanned (labelled text label) := by
  cases label with
  | none => exact scanned
  | some word =>
      intro due
      simp [labelled, scanned, scanned_name (name word rfl)]

end Texts

/-- Text that goes after any sound text. -/
structure Follows (text : String) : Prop where
  scanned : Scanned text
  mild : Mild text.toList

section Seams

variable {front text : String}

theorem Scanned.append (first : Scanned front) (second : Follows text) : Scanned (front ++ text) :=
  fun due => by simp [first, second.scanned, second.mild]

theorem Scanned.spaced (first : Scanned front) (second : Scanned text) :
    Scanned (front ++ " " ++ text) :=
  fun due => by simp [first, second]

theorem scanned_operation {left symbol right : String} (lhs rhs : Expr) (isLeft : Scanned left)
    (isSymbol : Scanned symbol) (isRight : Scanned right) :
    Scanned (operandText lhs left ++ " " ++ symbol ++ " " ++ operandText rhs right) :=
  ((scanned_operandText lhs isLeft).spaced isSymbol).spaced (scanned_operandText rhs isRight)

end Seams

namespace Follows

variable {front text word : String}

theorem empty : Follows "" := ⟨scanned_empty, mild_nil⟩

theorem append (first : Follows front) (second : Follows text) : Follows (front ++ text) where
  scanned := first.scanned.append second
  mild := by simp [first.mild, second.mild]

theorem blank (scanned : Scanned text) : Follows (" " ++ text) where
  scanned due := by simp [scanned]
  mild := by simp

theorem keyword (plain : word.toList.all isPlain = true) (scanned : Scanned text) :
    Follows (" " ++ word ++ " " ++ text) where
  scanned := (blank (scanned_of_plain _ plain)).scanned.spaced scanned
  mild := by simp

theorem listClause {texts : List String} (plain : word.toList.all isPlain = true)
    (each : ∀ text ∈ texts, Scanned text) : Follows (listClause word texts) := by
  unfold SkySql.listClause
  split
  · exact empty
  · exact .keyword plain (scanned_commaList each)

theorem optionClause {option : Option String} (plain : word.toList.all isPlain = true)
    (each : ∀ text ∈ option, Scanned text) : Follows (optionClause word option) := by
  cases option with
  | none => exact empty
  | some text => exact .keyword plain (each text rfl)

theorem countClause (word : String) (plain : word.toList.all isPlain = true) (count : Option Nat) :
    Follows (SkySql.optionClause word (count.map toString)) := by
  cases count with
  | none => exact empty
  | some n => exact .keyword plain (scanned_toString n)

end Follows

structure SoundClauses (clauses : Clauses) : Prop where
  items : ∀ text ∈ clauses.items, Scanned text
  tables : ∀ text ∈ clauses.tables, Scanned text
  condition : ∀ text ∈ clauses.condition, Scanned text
  groupBy : ∀ text ∈ clauses.groupBy, Scanned text
  having : ∀ text ∈ clauses.having, Scanned text
  orderBy : ∀ text ∈ clauses.orderBy, Scanned text

namespace SoundClauses

variable {clauses : Clauses} (sound : SoundClauses clauses)

include sound

theorem body : Follows clauses.body :=
  ((((Follows.listClause rfl sound.tables).append (.optionClause rfl sound.condition)).append
    (.listClause rfl sound.groupBy)).append (.optionClause rfl sound.having)).append
      (.listClause rfl sound.orderBy)

theorem queryText {quantifier : Option String} (limit offset : Option Nat)
    (name : ∀ word ∈ quantifier, isName word = true) :
    Scanned (queryText quantifier limit offset clauses) := by
  have items := scanned_commaList sound.items
  have top := Follows.countClause "TOP" rfl limit
  have back := Follows.countClause "OFFSET" rfl offset
  have whole (front : String) (before : Follows front) :=
    (((((scanned_of_plain "SELECT" rfl).append before).append top).spaced items).append
      sound.body).append back
  cases quantifier with
  | none => exact whole "" .empty
  | some word => exact whole (" " ++ Text.upper word) (.blank (scanned_upper (name word rfl)))

end SoundClauses

/-- What of a statement goes into its text as it is spelled. -/
inductive Spelling where
  | name (text : String)
  | number (text : String)
  /-- Text that has been put in the place of a node. -/
  | verbatim (text : String)

/-- A number is what is taken whole for one. -/
theorem isNumber_iff {text : List Char} :
    Stcs.IsNumber text ↔
      text.all Stcs.isNumberChar = true ∧ Stcs.takeNumber? text = some (text, []) := by
  constructor
  · intro isNumber
    have chars := isNumber.chars
    have ascii : Stcs.Ascii (text ++ []) := by
      rw [List.append_nil]
      exact fun c membership => Stcs.ascii_of_isNumberChar (chars c membership)
    have taken := Stcs.takeNumber?_append isNumber ascii fun c first => by cases first
    rw [List.append_nil] at taken
    exact ⟨List.all_eq_true.mpr chars, taken⟩
  · rintro ⟨chars, taken⟩
    have ascii : Stcs.Ascii text := fun c membership =>
      Stcs.ascii_of_isNumberChar (List.all_eq_true.mp chars c membership)
    exact (Stcs.isNumber_of_takeNumber? ascii taken).2

instance (text : List Char) : Decidable (Stcs.IsNumber text) := decidable_of_iff' _ isNumber_iff

namespace Spelling

/-- Spellings that may stand in a query: names, numbers, and no text of rules. -/
def Plain : Spelling → Prop
  | .name text => isName text = true
  | .number text => Stcs.IsNumber text.toList
  | .verbatim _ => False

instance : DecidablePred Plain
  | .name text => inferInstanceAs (Decidable (isName text = true))
  | .number text => inferInstanceAs (Decidable (Stcs.IsNumber text.toList))
  | .verbatim _ => inferInstanceAs (Decidable False)

/-- Spellings that keep a text sound. -/
def Sound : Spelling → Prop
  | .name text => isName text = true
  | .number text => Stcs.IsNumber text.toList
  | .verbatim text => Scanned text

theorem Plain.sound {spelling : Spelling} (plain : spelling.Plain) : spelling.Sound := by
  cases spelling with
  | name | number => exact plain
  | verbatim => exact plain.elim

end Spelling

abbrev AllSound (spellings : List Spelling) : Prop := ∀ spelling ∈ spellings, spelling.Sound

theorem sound_single {spelling : Spelling} (sound : AllSound [spelling]) : spelling.Sound :=
  sound spelling (List.mem_singleton_self _)

theorem sound_verbatim {text : String} (scanned : Scanned text) : AllSound [.verbatim text] :=
  List.forall_mem_singleton.mpr (show Spelling.Sound (.verbatim text) from scanned)

theorem sound_named {name : String} {others : List Spelling} (own : isName name = true)
    (sound : AllSound others) : AllSound (.name name :: others) :=
  List.forall_mem_cons.mpr ⟨(show Spelling.Sound (.name name) from own), sound⟩

/-- The spelling of a name that need not be there. -/
def nameSpellings (name : Option String) : List Spelling := name.toList.map .name

theorem isName_of_mem {label : Option String} (sound : AllSound (nameSpellings label)) :
    ∀ word ∈ label, isName word = true := by
  rintro word rfl
  exact sound_single sound

end Lexical

open Lexical

mutual

/-- What an expression spells out. Values of strings and the names of frames are not spelled out but
quoted. -/
def Expr.spellings : Expr → List Spelling
  | .literal (.number spelling) => [.number spelling]
  | .literal _ => []
  | .column referred => nameSpellings referred.qualifier ++ [.name referred.name]
  | .geometry _ _ args => exprSpellings args
  | .predicate _ lhs rhs => lhs.spellings ++ rhs.spellings
  | .accessor _ arg => arg.spellings
  | .function name args => .name name :: exprSpellings args
  | .geometryFunction _ args => exprSpellings args
  | .comparison lhs _ rhs => lhs.spellings ++ rhs.spellings
  | .binary lhs _ rhs => lhs.spellings ++ rhs.spellings
  | .unary _ operand => operand.spellings
  | .subquery statement => statement.spellings
  | .sql fragment => [.verbatim fragment.text]
  | .region _ => []

def exprSpellings : List Expr → List Spelling
  | [] => []
  | expr :: rest => expr.spellings ++ exprSpellings rest

def optionSpellings : Option Expr → List Spelling
  | none => []
  | some expr => expr.spellings

def Statement.spellings : Statement → List Spelling
  | .select query => query.spellings
  | .setOperation _ _ lhs rhs => lhs.spellings ++ rhs.spellings
  | .sql text => [.verbatim text]

def Query.spellings : Query → List Spelling
  | { quantifier, items, tables, condition, groupBy, having, orderBy, .. } =>
      nameSpellings quantifier ++ (itemSpellings items ++ (tableSpellings tables ++
        (optionSpellings condition ++ (exprSpellings groupBy ++ (optionSpellings having ++
          orderSpellings orderBy)))))

def SelectItem.spellings : SelectItem → List Spelling
  | .star table => nameSpellings table
  | .expr expr label => expr.spellings ++ nameSpellings label

def itemSpellings : List SelectItem → List Spelling
  | [] => []
  | item :: rest => item.spellings ++ itemSpellings rest

def orderSpellings : List OrderItem → List Spelling
  | [] => []
  | { expr, .. } :: rest => expr.spellings ++ orderSpellings rest

def TableRef.spellings : TableRef → List Spelling
  | .table name label => .name name :: nameSpellings label
  | .derived statement name => statement.spellings ++ [.name name]
  | .join left _ right spec => left.spellings ++ (right.spellings ++ spec.spellings)
  | .sql text => [.verbatim text]

def tableSpellings : List TableRef → List Spelling
  | [] => []
  | table :: rest => table.spellings ++ tableSpellings rest

def JoinSpec.spellings : JoinSpec → List Spelling
  | .on condition => condition.spellings
  | .using columns => columns.map .name
  | _ => []

end

theorem Query.isName_quantifier (query : Query) (sound : AllSound query.spellings) :
    ∀ word ∈ query.quantifier, isName word = true := by
  cases query with
  | mk => exact isName_of_mem (List.forall_mem_append.mp sound).1

/-- If there is a text, it is sound. -/
abbrev Renders : Except Error String → Prop := Fitting (fun _ => True) Scanned

/-- If there are texts, each of them is sound. -/
abbrev RenderAll : Except Error (List String) → Prop :=
  Fitting (fun _ => True) fun texts => ∀ text ∈ texts, Scanned text

theorem renderAll_cons {found : Except Error String} {others : Except Error (List String)}
    (first : Renders found) (later : RenderAll others) :
    RenderAll (do return (← found) :: (← others)) := by
  apply first.bind
  intro text isText
  apply later.bind
  intro texts each
  exact List.forall_mem_cons.mpr ⟨isText, each⟩

theorem scanned_column {column : Column} (sound : AllSound (Expr.column column).spellings) :
    Scanned column.text := by
  obtain ⟨inQualifier, own⟩ := List.forall_mem_append.mp sound
  have name : Scanned column.name := scanned_name (sound_single own)
  unfold Column.text
  split
  · next qualifier found =>
      have before := scanned_name (isName_of_mem inQualifier qualifier found)
      intro due
      simp [before, name]
  · exact name

theorem scanned_call {args : List String} (word : String) (plain : word.toList.all isPlain = true)
    (each : ∀ arg ∈ args, Scanned arg) : Scanned (callText word args) :=
  scanned_callText (scanned_of_plain _ plain) each

mutual

theorem Expr.renders (expr : Expr) (sound : AllSound expr.spellings) : Renders expr.render := by
  match expr with
  | .literal (.number spelling) =>
      exact @scanned_number spelling (sound_single sound)
  | .literal (.string value) => exact scanned_quote value
  | .literal .null => exact scanned_of_plain _ rfl
  | .column referred => exact scanned_column sound
  | .sql fragment => exact sound_single sound
  | .region _ => exact trivial
  | .geometry shape frame args =>
      apply (exprs_render args sound).bind
      intro texts each
      apply scanned_call shape.name (by cases shape <;> rfl)
      refine List.forall_mem_append.mpr ⟨?_, each⟩
      -- The name of a frame can be any text, since it is quoted.
      cases frame with
      | none => exact List.forall_mem_nil _
      | some system => exact List.forall_mem_singleton.mpr (scanned_quote system)
  | .predicate test lhs rhs =>
      obtain ⟨inLeft, inRight⟩ := List.forall_mem_append.mp sound
      apply (lhs.renders inLeft).bind
      intro left isLeft
      apply (rhs.renders inRight).bind
      intro right isRight
      apply scanned_call test.name (by cases test <;> rfl)
      simp [isLeft, isRight]
  | .accessor kind arg =>
      apply (arg.renders sound).bind
      intro text isText
      apply scanned_call kind.name (by cases kind <;> rfl)
      exact List.forall_mem_singleton.mpr isText
  | .function name args =>
      obtain ⟨own, inArgs⟩ := List.forall_mem_cons.mp sound
      apply (exprs_render args inArgs).bind
      intro texts each
      exact scanned_callText (scanned_name own) each
  | .geometryFunction kind args =>
      apply (exprs_render args sound).bind
      intro texts each
      exact scanned_call kind.name (by cases kind <;> rfl) each
  | .comparison lhs op rhs =>
      obtain ⟨inLeft, inRight⟩ := List.forall_mem_append.mp sound
      apply (lhs.renders inLeft).bind
      intro left isLeft
      apply (rhs.renders inRight).bind
      intro right isRight
      have symbol : Scanned op.symbol := scanned_of_plain _ (by cases op <;> rfl)
      exact scanned_operation lhs rhs isLeft symbol isRight
  | .binary lhs op rhs =>
      obtain ⟨inLeft, inRight⟩ := List.forall_mem_append.mp sound
      apply (lhs.renders inLeft).bind
      intro left isLeft
      apply (rhs.renders inRight).bind
      intro right isRight
      -- A minus sign or a slash stands alone between blanks.
      have symbol : Scanned op.symbol := by
        intro due
        cases op <;> simp [BinaryOp.symbol]
      exact scanned_operation lhs rhs isLeft symbol isRight
  | .unary .neg operand =>
      apply (operand.renders sound).bind
      intro text isText
      exact scanned_negated (scanned_operandText operand isText)
  | .unary .not operand =>
      apply (operand.renders sound).bind
      intro text isText due
      simp [scanned_operandText operand isText]
  | .subquery statement =>
      apply (statement.renders sound).bind
      intro text isText due
      simp [isText]

theorem exprs_render (exprs : List Expr) (sound : AllSound (exprSpellings exprs)) :
    RenderAll (renderExprs exprs) := by
  match exprs with
  | [] => exact List.forall_mem_nil _
  | expr :: rest =>
      obtain ⟨inExpr, inRest⟩ := List.forall_mem_append.mp sound
      exact renderAll_cons (expr.renders inExpr) (exprs_render rest inRest)

theorem option_renders (option : Option Expr) (sound : AllSound (optionSpellings option)) :
    Fitting (fun _ => True) (fun found => ∀ text ∈ found, Scanned text) (renderOption option) := by
  match option with
  | none => simp [renderOption, Fitting]
  | some expr =>
      apply (expr.renders sound).bind
      intro text isText found same
      cases same
      exact isText

theorem Statement.renders (statement : Statement) (sound : AllSound statement.spellings) :
    Renders statement.render := by
  match statement with
  | .select query =>
      apply (query.clauses_sound sound).bind
      intro clauses isSound
      exact isSound.queryText _ _ (query.isName_quantifier sound)
  | .setOperation op all lhs rhs =>
      obtain ⟨inLeft, inRight⟩ := List.forall_mem_append.mp sound
      apply (lhs.renders inLeft).bind
      intro left isLeft
      apply (rhs.renders inRight).bind
      intro right isRight due
      cases op <;> cases all <;> simp [SetOp.name, isLeft, isRight]
  | .sql text => exact sound_single sound

theorem Query.clauses_sound (query : Query) (sound : AllSound query.spellings) :
    Fitting (fun _ => True) SoundClauses query.clauses := by
  match query with
  | { items, tables, condition, groupBy, having, orderBy, .. } =>
      obtain ⟨-, sound⟩ := List.forall_mem_append.mp sound
      obtain ⟨inItems, sound⟩ := List.forall_mem_append.mp sound
      obtain ⟨inTables, sound⟩ := List.forall_mem_append.mp sound
      obtain ⟨inCondition, sound⟩ := List.forall_mem_append.mp sound
      obtain ⟨inGroups, sound⟩ := List.forall_mem_append.mp sound
      obtain ⟨inHaving, inOrder⟩ := List.forall_mem_append.mp sound
      apply (items_render items inItems).bind
      intro items isItems
      apply (tables_render tables inTables).bind
      intro tables isTables
      apply (option_renders condition inCondition).bind
      intro condition isCondition
      apply (exprs_render groupBy inGroups).bind
      intro groupBy isGroups
      apply (option_renders having inHaving).bind
      intro having isHaving
      apply (order_renders orderBy inOrder).bind
      intro orderBy isOrder
      exact ⟨isItems, isTables, isCondition, isGroups, isHaving, isOrder⟩

theorem SelectItem.renders (item : SelectItem) (sound : AllSound item.spellings) :
    Renders item.render := by
  match item with
  | .star none => exact scanned_of_plain _ rfl
  | .star (some table) =>
      intro due
      simp [scanned_name (isName_of_mem sound table rfl)]
  | .expr expr label =>
      obtain ⟨inExpr, inLabel⟩ := List.forall_mem_append.mp sound
      apply (expr.renders inExpr).bind
      intro text isText
      exact scanned_labelled isText (isName_of_mem inLabel)

theorem items_render (items : List SelectItem) (sound : AllSound (itemSpellings items)) :
    RenderAll (renderItems items) := by
  match items with
  | [] => exact List.forall_mem_nil _
  | item :: rest =>
      obtain ⟨inItem, inRest⟩ := List.forall_mem_append.mp sound
      exact renderAll_cons (item.renders inItem) (items_render rest inRest)

theorem order_renders (order : List OrderItem) (sound : AllSound (orderSpellings order)) :
    RenderAll (renderOrder order) := by
  match order with
  | [] => exact List.forall_mem_nil _
  | { expr, descending } :: rest =>
      obtain ⟨inExpr, inRest⟩ := List.forall_mem_append.mp sound
      apply (expr.renders inExpr).bind
      intro text isText
      apply (order_renders rest inRest).bind
      intro texts each
      refine List.forall_mem_cons.mpr ⟨?_, each⟩
      intro due
      cases descending <;> simp [isText]

theorem TableRef.renders (table : TableRef) (sound : AllSound table.spellings) :
    Renders table.render := by
  match table with
  | .table name label =>
      obtain ⟨own, inLabel⟩ := List.forall_mem_cons.mp sound
      exact scanned_labelled (scanned_name own) (isName_of_mem inLabel)
  | .derived statement name =>
      obtain ⟨inside, own⟩ := List.forall_mem_append.mp sound
      apply (statement.renders inside).bind
      intro text isText
      exact scanned_derivedText isText (sound_single own)
  | .join left kind right spec =>
      obtain ⟨inLeft, sound⟩ := List.forall_mem_append.mp sound
      obtain ⟨inRight, inSpec⟩ := List.forall_mem_append.mp sound
      apply (left.renders inLeft).bind
      intro leftText isLeft
      apply (right.renders inRight).bind
      intro rightText isRight
      apply (spec.renders inSpec).bind
      intro specText isSpec due
      have word : Scanned kind.name := scanned_of_plain _ (by cases kind <;> rfl)
      cases spec <;> simp [isLeft, word, isRight, isSpec.scanned, isSpec.mild]
  | .sql text => exact sound_single sound

theorem tables_render (tables : List TableRef) (sound : AllSound (tableSpellings tables)) :
    RenderAll (renderTables tables) := by
  match tables with
  | [] => exact List.forall_mem_nil _
  | table :: rest =>
      obtain ⟨inTable, inRest⟩ := List.forall_mem_append.mp sound
      exact renderAll_cons (table.renders inTable) (tables_render rest inRest)

theorem JoinSpec.renders (spec : JoinSpec) (sound : AllSound spec.spellings) :
    Fitting (fun _ => True) Follows spec.render := by
  match spec with
  | .on condition =>
      apply (condition.renders sound).bind
      intro text isText
      exact ⟨fun due => by simp [isText], by simp⟩
  | .using columns =>
      have names := List.forall_mem_map.mp sound
      have each (column : String) (membership : column ∈ columns) : Scanned column :=
        scanned_name (names column membership)
      exact ⟨fun due => by simp [scanned_commaList each], by simp⟩
  | .natural | .none => exact .empty

end

end SkySql
