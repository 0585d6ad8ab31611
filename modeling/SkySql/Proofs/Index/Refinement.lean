import SkySql.Proofs.Warnings

set_option autoImplicit false

/-!
The spherical index never breaks a query. The index pass turns some geometry tests, and the
comparisons around them, into text before the dialect pass sees them. This leaves everything as it was
that the conditions of other expressions look at: numbers, coordinate systems, and which expressions
are geometry tests. So the dialect pass accepts after the index pass whatever it accepts without it,
and it warns of no other areas.
-/

namespace SkySql

/-- In a rewritten expression everything is as it was that the conditions of the expressions around it
look at. -/
structure Steady (source result : Expr) : Prop where
  number : result.asNumber? = source.asNumber?
  system : result.system? = source.system?
  test : result.isTest = source.isTest

/-- An expression that the dialect pass accepts and that has text. -/
def Expr.Sound (expr : Expr) : Prop := expr.Accepted ∧ expr.isRegion = false

/-- Expressions in the place of others: the dialect pass accepts them and warns of them no more often,
and replacing them gave no warning. -/
structure Tamed (before after : List Expr) (warnings : List String) : Prop where
  silent : warnings = []
  sound : ∀ node ∈ after, node.Sound
  areas : after.countP Expr.isArea ≤ before.countP Expr.isArea

namespace Tamed

variable {before before' after after' : List Expr} {warnings first second : List String}
  {node node' : Expr}

theorem append (start : Tamed before before' first) (rest : Tamed after after' second) :
    Tamed (before ++ after) (before' ++ after') (first ++ second) where
  silent := by rw [start.silent, rest.silent, List.append_nil]
  sound := List.forall_mem_append.mpr ⟨start.sound, rest.sound⟩
  areas := by
    rw [List.countP_append, List.countP_append]
    exact Nat.add_le_add start.areas rest.areas

theorem additive : Correspondence.Additive Tamed :=
  ⟨⟨rfl, List.forall_mem_nil _, Nat.le_refl 0⟩, append⟩

theorem kept (operands : Tamed before after warnings) (sound : node'.Sound)
    (area : node'.isArea = node.isArea) : Tamed (before ++ [node]) (after ++ [node']) warnings where
  silent := operands.silent
  sound := List.forall_mem_append.mpr ⟨operands.sound, List.forall_mem_singleton.mpr sound⟩
  areas := by
    rw [List.countP_append, List.countP_append, List.countP_singleton, List.countP_singleton, area]
    exact Nat.add_le_add_right operands.areas _

theorem text (silent : warnings = []) (fragment : Fragment) :
    Tamed before [.sql fragment] warnings where
  silent := silent
  sound := List.forall_mem_singleton.mpr ⟨trivial, rfl⟩
  areas := Nat.zero_le _

theorem regionFree (tamed : Tamed before after warnings) : RegionFree after :=
  fun node membership => (tamed.sound node membership).2

end Tamed

/-- What the index pass leaves of a statement that the dialect pass accepts. -/
def refinement : Correspondence where
  expr source result warnings := Steady source result ∧ Tamed source.nodes result.nodes warnings
  statement source result warnings := Tamed source.nodes result.nodes warnings
  table source result warnings := Tamed source.nodes result.nodes warnings

section Conditions

open Correspondence

variable {warnings first second : List String}

theorem refinement_nodes (source result : Expr) (warnings : List String)
    (inner : refinement.expr source result warnings) :
    Tamed source.nodes result.nodes warnings :=
  inner.2

theorem refinement_steady {sources results : List Expr}
    (each : Each refinement.expr sources results warnings) : List.Forall₂ Steady sources results :=
  each.forall₂ fun _ _ _ inner => inner.1

theorem refinement_exprs {sources results : List Expr}
    (each : Each refinement.expr sources results warnings) :
    Tamed (exprNodes sources) (exprNodes results) warnings :=
  each.read Tamed.additive everywhere refinement_nodes

theorem refinement_query {source result : Query}
    (query : refinement.OfQuery source result warnings) :
    Tamed source.nodes result.nodes warnings :=
  query.read Tamed.additive everywhere refinement_nodes fun _ _ _ inner => inner

theorem refinement_spec {source result : JoinSpec}
    (spec : refinement.OfSpec source result warnings) :
    Tamed (source.read everywhere) (result.read everywhere) warnings :=
  spec.read Tamed.additive everywhere refinement_nodes

theorem refinement_structural : refinement.Structural Expr.Sound where
  leaf {expr} leaf sound := by
    refine ⟨⟨rfl, rfl, rfl⟩, ⟨rfl, ?_, Nat.le_refl _⟩⟩
    cases expr with
    | literal | column | sql | region => exact List.forall_mem_singleton.mpr sound
    | _ => cases leaf
  binary _ left right := ⟨⟨rfl, rfl, rfl⟩, (left.2.append right.2).kept ⟨trivial, rfl⟩ rfl⟩
  unary {op _ _ _} _ inner := by
    refine ⟨⟨?_, rfl, rfl⟩, inner.2.kept ⟨trivial, rfl⟩ rfl⟩
    cases op with
    | neg => rw [Expr.asNumber?, Expr.asNumber?, inner.1.number]
    | not => rfl
  subquery _ inner := ⟨⟨rfl, rfl, rfl⟩, Tamed.kept inner ⟨trivial, rfl⟩ rfl⟩
  setOperation left right := Tamed.append left right
  statementText _ := Tamed.additive.nil
  table _ _ := Tamed.additive.nil
  join left right spec := Tamed.append left (Tamed.append right (refinement_spec spec))
  tableText _ := Tamed.additive.nil

theorem geometry_sound {shape : Shape} {frame : Option String} {args args' : List Expr}
    (sound : (Expr.geometry shape frame args).Sound) (steady : List.Forall₂ Steady args args') :
    (Expr.geometry shape frame args').Sound := by
  obtain ⟨⟨valid, numbers⟩, -⟩ := sound
  refine ⟨⟨?_, ?_⟩, rfl⟩
  · rw [← steady.length_eq]
    exact valid
  · intro polygon
    have taken := numbers polygon
    clear valid numbers
    induction steady with
    | nil => exact List.forall_mem_nil _
    | cons head _ inductionHypothesis =>
        obtain ⟨first, others⟩ := List.forall_mem_cons.mp taken
        rw [← head.number] at first
        exact List.forall_mem_cons.mpr ⟨first, inductionHypothesis others⟩

theorem predicate_sound {test : GeometryTest} {lhs rhs lhs' rhs' : Expr}
    (sound : (Expr.predicate test lhs rhs).Sound) (left : Steady lhs lhs')
    (right : Steady rhs rhs') : (Expr.predicate test lhs' rhs').Sound := by
  obtain ⟨accepted, -⟩ := sound
  refine ⟨?_, rfl⟩
  rw [Expr.Accepted, left.system, right.system]
  exact accepted

theorem function_sound {name : String} {args args' : List Expr}
    (sound : (Expr.function name args).Sound) (steady : List.Forall₂ Steady args args') :
    (Expr.function name args').Sound := by
  obtain ⟨accepted, -⟩ := sound
  refine ⟨?_, rfl⟩
  rw [Expr.Accepted, ← steady.length_eq]
  exact accepted

theorem geometryFunction_sound {kind : GeometryFunction} {args args' : List Expr}
    (sound : (Expr.geometryFunction kind args).Sound) (steady : List.Forall₂ Steady args args') :
    (Expr.geometryFunction kind args').Sound := by
  obtain ⟨accepted, -⟩ := sound
  refine ⟨?_, rfl⟩
  cases kind with
  | area | region => exact accepted
  | distance | centroid =>
      rw [Expr.Accepted, ← steady.length_eq]
      exact accepted

theorem geometryFunction_steady {kind : GeometryFunction} {args args' : List Expr}
    (steady : List.Forall₂ Steady args args') :
    Steady (.geometryFunction kind args) (.geometryFunction kind args') := by
  refine ⟨rfl, ?_, rfl⟩
  cases kind with
  | area | distance | region => rfl
  | centroid =>
      cases steady with
      | nil => rfl
      | cons head _ => exact head.system

theorem comparesTest_of_steady {lhs rhs lhs' rhs' : Expr} {op : CompareOp} (left : Steady lhs lhs')
    (right : Steady rhs rhs') : ComparesTest lhs' op rhs' ↔ ComparesTest lhs op rhs := by
  have truth : (if lhs'.isTest then rhs' else lhs').isTruthValue =
      (if lhs.isTest then rhs else lhs).isTruthValue := by
    rw [left.test]
    split
    · rw [Expr.isTruthValue, right.number, Expr.isTruthValue]
    · rw [Expr.isTruthValue, left.number, Expr.isTruthValue]
  rw [ComparesTest, ComparesTest, truth, left.test, right.test]

theorem comparison_sound {lhs rhs lhs' rhs' : Expr} {op : CompareOp}
    (sound : (Expr.comparison lhs op rhs).Sound) (left : Steady lhs lhs')
    (right : Steady rhs rhs') : (Expr.comparison lhs' op rhs').Sound := by
  obtain ⟨accepted, -⟩ := sound
  refine ⟨?_, rfl⟩
  rw [Expr.Accepted, comparesTest_of_steady left right, left.test, right.test]
  exact accepted

theorem refinement_congruent : refinement.Congruent Expr.Sound where
  toStructural := refinement_structural
  geometry sound each :=
    ⟨⟨rfl, rfl, rfl⟩,
      (refinement_exprs each).kept (geometry_sound sound (refinement_steady each)) rfl⟩
  accessor _ inner := ⟨⟨rfl, rfl, rfl⟩, inner.2.kept ⟨trivial, rfl⟩ rfl⟩
  function sound each :=
    ⟨⟨rfl, rfl, rfl⟩,
      (refinement_exprs each).kept (function_sound sound (refinement_steady each)) rfl⟩
  geometryFunction {kind _ _ _} sound each := by
    have steady := refinement_steady each
    refine ⟨geometryFunction_steady steady, ?_⟩
    apply (refinement_exprs each).kept (geometryFunction_sound sound steady)
    cases kind <;> rfl
  comparison sound left right _ :=
    ⟨⟨rfl, rfl, rfl⟩, (left.2.append right.2).kept (comparison_sound sound left.1 right.1) rfl⟩
  select inner := refinement_query inner
  derived _ inner := inner

theorem refinement_predicate {test : GeometryTest} {lhs rhs lhs' rhs' : Expr}
    (sound : (Expr.predicate test lhs rhs).Sound) (left : refinement.expr lhs lhs' first)
    (right : refinement.expr rhs rhs' second) :
    refinement.expr (.predicate test lhs rhs) (.predicate test lhs' rhs') (first ++ second) :=
  ⟨⟨rfl, rfl, rfl⟩, (left.2.append right.2).kept (predicate_sound sound left.1 right.1) rfl⟩

theorem Expr.isTest_of_isPredicateText {expr : Expr} (marked : expr.isPredicateText = true) :
    expr.isTest = true ∧ expr.asNumber? = none ∧ ∃ text, expr.render = .ok text := by
  cases expr with
  | sql fragment => exact ⟨marked, rfl, fragment.text, rfl⟩
  | _ => cases marked

theorem polarity?_of_isTruthValue {expr : Expr} {op : CompareOp}
    (isValue : expr.isTruthValue = true) (equality : op = .eq ∨ op = .ne) :
    ∃ truth positive, expr.asNumber? = some truth ∧ op.polarity? truth = some positive := by
  rw [Expr.isTruthValue] at isValue
  cases number : expr.asNumber? with
  | none => rw [number] at isValue; cases isValue
  | some truth =>
      rw [number] at isValue
      have polar := (op.polarity?_isSome_iff truth).mpr ⟨isValue, equality⟩
      obtain ⟨positive, known⟩ := Option.isSome_iff_exists.mp polar
      exact ⟨truth, positive, rfl, known⟩

/-- The text of a geometry test compared with 0 or 1 for equality has a condition. -/
theorem testCondition_eq_ok {lhs rhs : Expr} {op : CompareOp}
    (marked : (lhs.isPredicateText || rhs.isPredicateText) = true)
    (compares : ComparesTest lhs op rhs) : ∃ text, testCondition lhs op rhs = .ok text := by
  obtain ⟨oneTest, isValue, equality⟩ := compares
  cases left : lhs.isPredicateText with
  | true =>
      obtain ⟨isTest, noNumber, text, rendered⟩ := Expr.isTest_of_isPredicateText left
      rw [if_pos isTest] at isValue
      obtain ⟨truth, positive, number, known⟩ := polarity?_of_isTruthValue isValue equality
      simp only [testCondition, noNumber, number, left, if_true, rendered]
      cases positive <;> simp only [bind, Except.bind, known] <;> exact ⟨_, rfl⟩
  | false =>
      have right : rhs.isPredicateText = true := by simpa [left] using marked
      obtain ⟨isTest, noNumber, text, rendered⟩ := Expr.isTest_of_isPredicateText right
      have ordinary : lhs.isTest ≠ true := by rwa [isTest] at oneTest
      rw [if_neg ordinary] at isValue
      obtain ⟨truth, positive, number, known⟩ := polarity?_of_isTruthValue isValue equality
      simp only [testCondition, noNumber, number, right, if_true, rendered]
      cases positive <;> simp only [bind, Except.bind, known] <;> exact ⟨_, rfl⟩

theorem refinement_indexPass (config : DialectConfig) :
    refinement.Closed (indexPass config) Expr.Sound fun _ => False := by
  apply refinement_congruent.closed_indexPass
  · intro test lhs rhs lhs' rhs' first second sound left right _
    exact refinement_predicate sound left right
  · intro test lhs rhs lhs' rhs' search first second sound left right asked
    have quiet : first ++ second = [] := by rw [left.2.silent, right.2.silent, List.append_nil]
    have kept := refinement_predicate sound left right
    obtain ⟨-, source, target, -, valid, rfl, rfl⟩ := search?_eq_some_iff.mp asked
    -- The operands are free of regions, so the call can be rendered.
    obtain ⟨inPoint, -⟩ := List.forall_mem_append.mp left.2.regionFree
    obtain ⟨inShape, -⟩ := List.forall_mem_append.mp right.2.regionFree
    have rendered := Search.regionFree_operands_iff.mpr ⟨inPoint, fun _ => inShape⟩
    obtain ⟨call, made⟩ := (Search.call?_ok_iff config valid).mpr rendered
    rw [made]
    cases call with
    | none => exact kept
    | some call => exact ⟨⟨rfl, rfl, rfl⟩, .text quiet _⟩
  · intro lhs op rhs lhs' rhs' first second sound left right marked
    have quiet : first ++ second = [] := by rw [left.2.silent, right.2.silent, List.append_nil]
    -- A marked side is a geometry test, so the comparison is one of a test with 0 or 1 already before
    -- the walk, and neither side has changed in this.
    have tested : lhs'.isTest = true ∨ rhs'.isTest = true :=
      (Bool.or_eq_true_iff.mp marked).imp (Expr.isTest_of_isPredicateText · |>.1)
        (Expr.isTest_of_isPredicateText · |>.1)
    have compares := (comparison_sound sound left.1 right.1).1 tested
    obtain ⟨text, made⟩ := testCondition_eq_ok marked compares
    rw [made]
    exact ⟨⟨rfl, rfl, rfl⟩, .text quiet _⟩

end Conditions

/-- The index pass succeeds on every statement that the dialect pass accepts. -/
theorem indexPass_run (config : DialectConfig) {statement : Statement}
    (sound : ∀ node ∈ statement.nodes, node.Sound) :
    ∃ statement', (indexPass config).run statement = .ok ⟨statement', []⟩ ∧
      Tamed statement.nodes statement'.nodes [] := by
  have fitting := (refinement_indexPass config).run statement sound
  cases ran : (indexPass config).run statement with
  | error e =>
      rw [ran] at fitting
      exact fitting.elim
  | ok output =>
      rw [ran] at fitting
      have silent : output.warnings = [] := fitting.silent
      refine ⟨output.statement, ?_, ?_⟩
      · rw [← silent]
      · rw [← silent]
        exact fitting

/-- A statement without unresolved regions that can be compiled without the spherical index can be
compiled with it, and no warning is added. -/
theorem compile_with_index (config : DialectConfig) (statement : Statement)
    (plain : ∀ node ∈ statement.nodes, node.isRegion = false) (compiled : Compiled)
    (found : compile { config with spatialIndex := false } statement = .ok compiled) :
    ∃ indexed, compile { config with spatialIndex := true } statement = .ok indexed ∧
      indexed.warnings.Sublist compiled.warnings := by
  have direct := dialectPass_compile config statement plain
  replace found : Pipeline.compile [dialectPass config] statement = .ok compiled := found
  have accepted := (faults_eq_nil_iff config).mp (direct.ok_iff.mp ⟨compiled, found⟩)
  obtain ⟨statement', ran, tamed⟩ := indexPass_run config fun node membership =>
    ⟨accepted node membership, plain node membership⟩
  have further := dialectPass_compile config statement' tamed.regionFree
  have clear : faults config statement'.nodes = [] :=
    (faults_eq_nil_iff config).mpr fun node membership => (tamed.sound node membership).1
  obtain ⟨indexed, made⟩ := further.ok_iff.mpr clear
  refine ⟨indexed, ?_, ?_⟩
  · change Pipeline.compile [indexPass config, dialectPass config] statement = .ok indexed
    rw [Pipeline.compile_cons ran, made]
    rfl
  · rw [further.holds made, direct.holds found]
    exact (List.replicate_sublist_replicate _).mpr tamed.areas

/-- A search in a circle whose radius is an area. -/
theorem compile_with_index_circle :
    ∃ indexed,
      compile {} (.select { items := [.expr (.predicate .contains
        (.geometry .point none [.named "ra", .named "dec"])
        (.geometry .circle none [.named "x", .named "y",
          .geometryFunction .area [.named "field"]])) none] }) = .ok indexed ∧
      indexed.warnings.Sublist [planarAreaWarning] :=
  compile_with_index {} _ (by decide)
    ⟨"SELECT (POINT(ra, dec)) ~ (CIRCLE(POINT(x, y), AREA(field)))", [planarAreaWarning]⟩ rfl

end SkySql
