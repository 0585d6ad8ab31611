import SkySql.Dialect.Compile
import SkySql.Proofs.Lexical.Template

set_option autoImplicit false

/-!
Compiled SQL is lexically sound. Text is made in two passes, by rules that take over the texts of
their operands without reading them, so nothing but the texts themselves keeps quotes and brackets
matched and comments out. What a statement spells out stays sound from one pass to the next: a rule
either keeps its node or makes sound text of sound operands.
-/

namespace SkySql

open Lexical

/-- What is spelled out afterwards is sound if what was spelled out before is. -/
def Carried (before after : List Spelling) : Prop := AllSound before → AllSound after

theorem carried_append {before before' after after' : List Spelling}
    (first : Carried before before') (second : Carried after after') :
    Carried (before ++ after) (before' ++ after') := by
  intro sound
  obtain ⟨inFirst, inSecond⟩ := List.forall_mem_append.mp sound
  exact List.forall_mem_append.mpr ⟨first inFirst, second inSecond⟩

theorem carried_additive : Correspondence.Additive fun before after _ => Carried before after :=
  ⟨id, carried_append⟩

/-- Text that a rule puts in. -/
theorem carried_text {before : List Spelling} {found : Except Error String}
    (renders : AllSound before → Renders found) :
    Fitting (fun _ => True) (fun text => Carried before [.verbatim text]) found := by
  apply fitting_of_eq_ok fun _ => trivial
  intro text made sound
  exact sound_verbatim ((renders sound).holds made)

/-- A walk keeps what is spelled out sound. -/
def soundness : Correspondence where
  expr source result _ := Carried source.spellings result.spellings
  statement source result _ := Carried source.spellings result.spellings
  table source result _ := Carried source.spellings result.spellings

section Soundness

open Correspondence

variable {warnings : List String}

/-- Lists that are spelled out member by member. -/
theorem carried_each {α : Type} {related : α → α → List String → Prop} {sources results : List α}
    (readAll : List α → List Spelling) (read : α → List Spelling) (nil : readAll [] = [])
    (cons : ∀ a rest, readAll (a :: rest) = read a ++ readAll rest)
    (holds : ∀ source result warnings, related source result warnings →
      Carried (read source) (read result))
    (each : Each related sources results warnings) :
    Carried (readAll sources) (readAll results) := by
  rw [eq_flatMap readAll read nil cons, eq_flatMap readAll read nil cons]
  exact each.flatMap carried_additive read holds

theorem soundness_exprs {sources results : List Expr}
    (each : Each soundness.expr sources results warnings) :
    Carried (exprSpellings sources) (exprSpellings results) :=
  carried_each exprSpellings Expr.spellings rfl (fun _ _ => rfl) (fun _ _ _ inner => inner) each

theorem soundness_option {source result : Option Expr}
    (option : soundness.OfOption source result warnings) :
    Carried (optionSpellings source) (optionSpellings result) := by
  cases option with
  | none => exact id
  | some inner => exact inner

theorem soundness_query {source result : Query}
    (query : soundness.OfQuery source result warnings) :
    Carried source.spellings result.spellings := by
  have item (source result : SelectItem) (warnings : List String)
      (item : soundness.OfItem source result warnings) :
      Carried source.spellings result.spellings := by
    cases item with
    | star => exact id
    | expr _ inner => exact carried_append inner id
  have ordered (source result : OrderItem) (warnings : List String)
      (item : soundness.OfOrder source result warnings) :
      Carried source.expr.spellings result.expr.spellings := by
    cases item with
    | expr _ inner => exact inner
  cases query with
  | clauses _ _ _ _ inItems inTables inCondition inGroups inHaving inOrder =>
      have items := carried_each itemSpellings SelectItem.spellings rfl (fun _ _ => rfl)
        item inItems
      have tables := carried_each tableSpellings TableRef.spellings rfl (fun _ _ => rfl)
        (fun _ _ _ inner => inner) inTables
      have order := carried_each orderSpellings (·.expr.spellings) rfl
        (fun item _ => by cases item; rfl) ordered inOrder
      exact carried_append id (carried_append items (carried_append tables
        (carried_append (soundness_option inCondition) (carried_append (soundness_exprs inGroups)
          (carried_append (soundness_option inHaving) order)))))

theorem soundness_spec {source result : JoinSpec}
    (spec : soundness.OfSpec source result warnings) :
    Carried source.spellings result.spellings := by
  cases spec with
  | on inner => exact inner
  | _ => exact id

theorem soundness_congruent : soundness.Congruent fun _ => True where
  leaf _ _ := id
  binary _ left right := carried_append left right
  unary _ inner := inner
  subquery _ inner := inner
  setOperation left right := carried_append left right
  statementText _ := id
  table _ _ := id
  join left right spec := carried_append left (carried_append right (soundness_spec spec))
  tableText _ := id
  geometry _ each := soundness_exprs each
  accessor _ inner := inner
  function _ each := @carried_append [_] [_] _ _ id (soundness_exprs each)
  geometryFunction _ each := soundness_exprs each
  comparison _ left right _ := carried_append left right
  select inner := soundness_query inner
  derived _ inner := carried_append inner id

variable {config : DialectConfig} (names : ∀ name ∈ config.functionNames, isName name = true)

theorem soundness_comparison {lhs rhs lhs' rhs' : Expr} {first second : List String}
    (op : CompareOp) (left : soundness.expr lhs lhs' first)
    (right : soundness.expr rhs rhs' second) :
    Fitting (fun _ => True)
      (fun text => soundness.expr (.comparison lhs op rhs) (.verbatim text) warnings)
      (testCondition lhs' op rhs') := by
  apply carried_text
  intro sound
  obtain ⟨inLeft, inRight⟩ := List.forall_mem_append.mp sound
  exact testCondition_renders op (left inLeft) (right inRight)

include names

theorem soundness_indexPass :
    soundness.Closed (indexPass config) (fun _ => True) fun _ => True := by
  apply soundness_congruent.closed_indexPass
  · intro test lhs rhs lhs' rhs' first second _ left right _
    exact carried_append left right
  · intro test lhs rhs lhs' rhs' search first second _ left right asked
    apply fitting_of_eq_ok fun _ => trivial
    intro call found
    cases call with
    | none => exact carried_append left right
    | some call =>
        intro sound
        obtain ⟨inLeft, inRight⟩ := List.forall_mem_append.mp sound
        obtain ⟨-, source, target, -, -, rfl, rfl⟩ := search?_eq_some_iff.mp asked
        obtain ⟨inX, others⟩ := List.forall_mem_append.mp (left inLeft)
        obtain ⟨inY, -⟩ := List.forall_mem_append.mp others
        have scanned := (search_renders names search inX inY (right inRight)).holds found call rfl
        exact sound_verbatim scanned
  · intro lhs op rhs lhs' rhs' first second _ left right _
    exact soundness_comparison op left right

theorem soundness_dialectPass :
    soundness.Closed (dialectPass config) (fun _ => True) fun _ => True where
  toStructural := soundness_congruent.toStructural
  geometry {shape _ _ _ _} _ each := by
    apply Rule.Fits.text
    exact carried_text fun sound => geometryText_renders shape (soundness_exprs each sound)
  predicate {test _ _ _ _ _ _} _ left right := by
    apply Rule.Fits.test
    apply carried_text
    intro sound
    obtain ⟨inLeft, inRight⟩ := List.forall_mem_append.mp sound
    exact testText_renders test (left inLeft) (right inRight)
  accessor {kind _ _ _} _ inner := by
    apply Rule.Fits.text
    exact carried_text fun sound => accessorText_renders kind (inner sound)
  function {_ _ _ _} _ each := by
    apply Rule.Fits.lifted
    apply fitting_of_eq_ok fun _ => trivial
    intro rewrite made sound
    obtain ⟨own, inArgs⟩ := List.forall_mem_cons.mp sound
    exact (functionRewrite_sound own (soundness_exprs each inArgs)).holds made
  geometryFunction {kind _ _ _} _ each := by
    cases kind with
    | area =>
        apply Rule.Fits.warned
        exact soundness_exprs each
    | distance =>
        apply Rule.Fits.text
        exact carried_text fun sound => distanceText_renders names (soundness_exprs each sound)
    | centroid =>
        apply Rule.Fits.text
        exact carried_text fun sound => centroidText_renders names (soundness_exprs each sound)
    | region => exact fun earlier => ⟨.error _, [], by rw [List.append_nil]; rfl, trivial⟩
  comparison {_ op _ _ _ _ _} _ left right := by
    apply Rule.Fits.comparison rfl
    · intro _
      exact soundness_comparison op left right
    · intro _
      exact carried_append left right
  query {_ query' _} inner := by
    apply Rule.Fits.text
    exact carried_text fun sound => renderSelect_renders query' (soundness_query inner sound)
  derived {_ statement' _} name inner := by
    apply Rule.Fits.text
    apply carried_text
    intro sound
    obtain ⟨inside, own⟩ := List.forall_mem_append.mp sound
    exact renderDerived_renders statement' (sound_single own) (inner inside)

theorem soundness_pipeline :
    ∀ pass ∈ pipeline config, soundness.Closed pass (fun _ => True) fun _ => True :=
  forall_mem_pipeline (soundness_indexPass names) (soundness_dialectPass names)

end Soundness

/-- A run of passes, each of which keeps what is spelled out sound. -/
theorem Pipeline.carried_of_run {passes : Pipeline} {statement : Statement} {output : PassOutput}
    (closed : ∀ pass ∈ passes, soundness.Closed pass (fun _ => True) fun _ => True)
    (found : passes.run statement = .ok output) :
    Carried statement.spellings output.statement.spellings :=
  soundness.run_pipeline (fun _ => id) (fun first second sound => second (first sound)) closed found

/-- If a statement spells out names and numbers and no text, with the functions of the configuration
named in the same way, then its SQL closes every string literal, matches round and square brackets
outside of literals, and begins no comment there. String literals and the names of frames can be any
text. -/
theorem compile_is_lexically_sound (config : DialectConfig) (statement : Statement)
    (compiled : Compiled) (names : ∀ name ∈ config.functionNames, isName name = true)
    (plain : ∀ spelling ∈ statement.spellings, spelling.Plain)
    (found : compile config statement = .ok compiled) : isSound compiled.sql = true := by
  obtain ⟨output, ran, found⟩ := bind_eq_ok_iff.mp found
  obtain ⟨text, rendered, found⟩ := bind_eq_ok_iff.mp found
  cases found
  have before : AllSound statement.spellings := fun spelling membership =>
    (plain spelling membership).sound
  have after := Pipeline.carried_of_run (soundness_pipeline names) ran before
  exact isSound_of_scanned ((output.statement.renders after).holds rendered)

/-- A query with signs one after another, what looks like a comment or a bracket in a string and in
the name of a frame, a box with its corners worked out, a polygon, and a rotation. -/
def guardedQuery : Statement :=
  .select {
    quantifier := some "distinct"
    items := [.expr (.unary .neg (.unary .neg (.number "-1.5"))) (some "a"),
      .expr (.string "it's --") none]
    tables := [.table "t" none]
    condition := some (.binary
      (.comparison (.number "1") .eq (.predicate .contains
        (.geometry .point none
          [.accessor .coord1 (.geometry .point (some "/*'(") [.named "x", .named "y"]),
            .unary .neg (.number "-2e-3")])
        (.geometry .box none [.number "10", .number "-20", .number "2", .number "4"])))
      .or
      (.comparison (.number "0") .eq (.predicate .intersects
        (.geometry .point (some "GALACTIC") [.named "l", .named "b"])
        (.geometry .polygon (some "ICRS") [.number "1", .number "2", .unary .neg (.number "-3"),
          .number "4", .number "5", .number "6"])))) }

theorem compile_is_lexically_sound_signs :
    ∃ compiled, compile {} guardedQuery = .ok compiled ∧ isSound compiled.sql = true := by
  have succeeds : (compile {} guardedQuery).isOk = true := by decide +kernel
  cases found : compile {} guardedQuery with
  | error e =>
      rw [found] at succeeds
      cases succeeds
  | ok compiled =>
      refine ⟨compiled, rfl, ?_⟩
      exact compile_is_lexically_sound {} guardedQuery compiled (by decide) (by decide) found

end SkySql
