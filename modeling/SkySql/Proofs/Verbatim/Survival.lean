import SkySql.Dialect.Compile
import SkySql.Proofs.Rendering
import SkySql.Proofs.Verbatim.Containment

set_option autoImplicit false

/-!
Verbatim text survives. A rule that puts text in the place of a node writes the texts of all its
operands into a template, or leaves out an operand that is a number, which has no verbatim text in it;
the name of a coordinate system is the one text that is made without looking at the operand. So every
verbatim text stands in one of the texts after a pass, and in the end in the SQL.
-/

namespace SkySql

section Templates

theorem Expr.texts_of_asNumber? (expr : Expr) {value : Float}
    (number : expr.asNumber? = some value) : expr.texts = [] := by
  match expr with
  | .literal _ => rfl
  | .unary .neg operand =>
      rw [Expr.asNumber?, Option.map_eq_some_iff] at number
      obtain ⟨inner, number, -⟩ := number
      exact operand.texts_of_asNumber? number

theorem texts_of_polygonCoordinates {args : List Expr} {coordinates : List String}
    (made : polygonCoordinates args = .ok coordinates) : exprTexts args = [] := by
  induction args generalizing coordinates with
  | nil => rfl
  | cons arg rest inductionHypothesis =>
      obtain ⟨text, -, made⟩ := bind_eq_ok_iff.mp made
      cases number : arg.asNumber? with
      | none =>
          rw [number] at made
          cases made
      | some value =>
          rw [number] at made
          obtain ⟨others, later, -⟩ := bind_eq_ok_iff.mp made
          exact List.append_eq_nil_iff.mpr
            ⟨arg.texts_of_asNumber? number, inductionHypothesis later⟩

/-- A corner of a box shows its center and its extent, unless both are numbers. -/
theorem corner_covers (center extent : Expr) :
    Covers (center.texts ++ extent.texts) (below center extent).render ∧
      Covers (center.texts ++ extent.texts) (above center extent).render := by
  have symbolic (op : BinaryOp) : Covers (center.texts ++ extent.texts)
      (Expr.binary center op (.binary extent .div (.number "2"))).render := by
    rw [← List.append_nil extent.texts]
    exact (Expr.binary center op (.binary extent .div (.number "2"))).covers
  unfold below above
  cases first : center.asNumber? with
  | none => exact ⟨symbolic .sub, symbolic .add⟩
  | some c =>
      cases second : extent.asNumber? with
      | none => exact ⟨symbolic .sub, symbolic .add⟩
      | some e =>
          rw [center.texts_of_asNumber? first, extent.texts_of_asNumber? second]
          exact ⟨.nil _, .nil _⟩

theorem covered_of_corners {args : List Expr} {corners : Corners} {x0 y0 : String}
    (valid : Shape.box.takes args.length = true) (known : Shape.box.corners? args = some corners)
    (first : corners.x0.render = .ok x0) (second : corners.y0.render = .ok y0) :
    Covered (exprTexts args) [x0, y0] := by
  obtain ⟨x, y, width, height, rfl⟩ := exists_box_args valid
  cases known
  have across := (corner_covers x width).1.holds first
  have along := (corner_covers y height).1.holds second
  apply (across.cons along).of_subset
  intro text
  simp only [exprTexts, readExprs, List.mem_append, List.not_mem_nil, or_false]
  grind

theorem geometryText_covers (shape : Shape) (args : List Expr) :
    Covers (exprTexts args) (geometryText shape args) := by
  unfold geometryText
  cases valid : shape.takes args.length with
  | false => exact trivial
  | true =>
      simp only [Bool.not_true, Bool.false_eq_true, if_false]
      cases shape with
      | point =>
          obtain ⟨x, y, rfl⟩ := List.length_eq_two.mp (by simpa [Shape.takes] using valid)
          apply x.covers.bind
          intro first inFirst
          apply y.covers.bind
          intro second inSecond
          rw [exprTexts, readExprs, readExprs, readExprs, List.append_nil]
          exact (inFirst.preceded.followed.joined inSecond).followed
      | circle =>
          obtain ⟨x, y, radius, rfl⟩ := List.length_eq_three.mp (by simpa [Shape.takes] using valid)
          apply x.covers.bind
          intro first inFirst
          apply y.covers.bind
          intro second inSecond
          apply radius.covers.bind
          intro third inThird
          simp only [exprTexts, readExprs, List.append_nil, ← List.append_assoc]
          exact ((inFirst.preceded.followed.joined inSecond).followed.joined inThird).followed
      | box =>
          cases known : Shape.box.corners? args with
          | none =>
              simp only [known]
              exact trivial
          | some corners =>
              simp only [known]
              apply fitting_of_eq_ok fun _ => trivial
              intro text made
              simp only [bind_eq_ok_iff] at made
              obtain ⟨x0, first, y0, second, x1, -, y1, -, made⟩ := made
              cases made
              apply (covered_of_corners valid known first second).trans
              exact ((((Covered.refl [x0]).preceded.followed.joined
                (Covered.refl [y0])).followed.followed).followed.followed).followed
      | polygon =>
          apply fitting_of_eq_ok fun _ => trivial
          intro text made
          obtain ⟨coordinates, made, -⟩ := bind_eq_ok_iff.mp made
          rw [texts_of_polygonCoordinates made]
          exact .nil _

theorem covered_of_conform {parts : List String} {text source target turned : String}
    (covered : Covered parts [text]) (made : Frame.conform text source target = .ok turned) :
    Covered parts [turned] := by
  obtain ⟨rotation, -, made⟩ := bind_eq_ok_iff.mp made
  cases rotation with
  | none =>
      cases made
      exact covered
  | some after =>
      cases made
      exact covered.preceded.followed.followed

theorem testText_covers (test : GeometryTest) (lhs rhs : Expr) :
    Covers (lhs.texts ++ rhs.texts) (testText test lhs rhs) := by
  unfold testText
  apply lhs.covers.bind
  intro left inLeft
  apply rhs.covers.bind
  intro right inRight
  have whole (turned : String) (inTurned : Covered lhs.texts [turned]) :
      Covered (lhs.texts ++ rhs.texts)
        ["(" ++ turned ++ ") " ++ test.operator ++ " (" ++ right ++ ")"] :=
    (inTurned.preceded.followed.followed.followed.joined inRight).followed
  dsimp only
  split
  · next source target _ _ =>
      cases made : Frame.conform left source target with
      | error e => exact trivial
      | ok turned => exact whole turned (covered_of_conform inLeft made)
  · exact whole left inLeft

theorem accessorText_covers (kind : PointAccessor) (arg : Expr) :
    Covers (Expr.accessor kind arg).texts (accessorText kind arg) := by
  cases kind with
  | coord1 | coord2 =>
      apply arg.covers.bind
      intro text inText
      exact inText.preceded.followed
  | coordSystem => exact .nil _

/-- A function is kept with its arguments, or its argument is put into a template. -/
theorem functionRewrite_covers (name : String) (args : List Expr) :
    Fitting (fun _ => True)
      (fun rewrite => Covered (exprTexts args) (rewrite.settle Expr.verbatim).texts)
      (functionRewrite name args) := by
  unfold functionRewrite
  cases known : renamed? (Text.upperAscii name) with
  | some other =>
      simp only [known]
      exact .refl _
  | none =>
      simp only [known]
      split
      · match args with
        | [] => exact .nil _
        | [seed] =>
            apply seed.covers.bind
            intro text inText
            rw [exprTexts, readExprs, readExprs, List.append_nil]
            exact inText.preceded.followed.followed.followed
        | _ :: _ :: _ => exact trivial
      · split
        · match args with
          | [arg] =>
              apply arg.covers.bind
              intro text inText
              rw [exprTexts, readExprs, readExprs, List.append_nil]
              exact inText.preceded.followed
          | [] | _ :: _ :: _ => exact trivial
        · exact .refl _

theorem distanceText_covers (config : DialectConfig) (args : List Expr) :
    Covers (exprTexts args) (distanceText config args) := by
  unfold distanceText
  split
  · exact (exprs_cover args).bind fun _ inTexts => inTexts.callText _
  · exact (exprs_cover args).bind fun _ inTexts => inTexts.callText _
  · exact trivial

theorem centroidText_covers (config : DialectConfig) (args : List Expr) :
    Covers (exprTexts args) (centroidText config args) := by
  match args with
  | [arg] =>
      apply arg.covers.bind
      intro text inText
      rw [exprTexts, readExprs, readExprs, List.append_nil]
      exact inText.callText _
  | [] | _ :: _ :: _ => exact trivial

/-- The text of a test is whole in a condition on it and in the negation of that. -/
theorem polarity_covers {texts : List String} {text : String} (inText : Covered texts [text])
    (polarity : Option Bool) (e : Error) :
    Covers texts (match polarity with
      | some true => .ok text
      | some false => .ok ("NOT (" ++ text ++ ")")
      | none => .error e) := by
  cases polarity with
  | none => exact trivial
  | some positive =>
      cases positive with
      | true => exact inText
      | false => exact inText.preceded.followed

/-- Of a comparison that is dropped the text of the geometry test stays, and the other side is a
number. -/
theorem testCondition_covers (lhs : Expr) (op : CompareOp) (rhs : Expr) :
    Covers (lhs.texts ++ rhs.texts) (testCondition lhs op rhs) := by
  unfold testCondition
  dsimp only
  split
  · next number _ =>
      split
      · rw [lhs.texts_of_asNumber? number]
        exact rhs.covers.bind fun _ inText => polarity_covers inText _ _
      · exact trivial
  · next number =>
      split
      · rw [rhs.texts_of_asNumber? number, List.append_nil]
        exact lhs.covers.bind fun _ inText => polarity_covers inText _ _
      · exact trivial
  · exact trivial

theorem renderSelect_covers (query : Query) : Covers query.texts query.renderSelect := by
  apply query.clauses_cover.bind
  intro clauses inClauses
  exact (inClauses.trans (clauses.covered _)).followed.followed

theorem renderDerived_covers (statement : Statement) (name : String) :
    Covers statement.texts (renderDerived statement name) := by
  apply statement.covers.bind
  intro text inText
  exact inText.derivedText name

/-- The call of the index shows the coordinates of the point and of the shape. -/
theorem Search.call?_covers (config : DialectConfig) (search : Search)
    (valid : search.shape.takes search.args.length = true) :
    Fitting (fun _ => True)
      (fun call => ∀ text ∈ call,
        Covered (exprTexts [search.x, search.y] ++ exprTexts search.args) [text])
      (search.call? config) := by
  obtain ⟨x, y, shape, args⟩ := search
  have uncalled (parts : List String) : ∀ text ∈ (none : Option String), Covered parts [text] :=
    nofun
  apply x.covers.bind
  intro first inFirst
  apply y.covers.bind
  intro second inSecond
  have point : Covered (exprTexts [x, y]) [first, second] := by
    rw [exprTexts, readExprs, readExprs, readExprs, List.append_nil]
    exact inFirst.cons inSecond
  cases shape with
  | point => exact uncalled _
  | circle =>
      obtain ⟨centerX, centerY, radius, rfl⟩ :=
        List.length_eq_three.mp (by simpa [Shape.takes] using valid)
      apply centerX.covers.bind
      intro third inThird
      apply centerY.covers.bind
      intro fourth inFourth
      apply radius.covers.bind
      intro fifth inFifth text called
      cases called
      refine (point.append (inThird.cons (inFourth.cons (inFifth.cons ?_)))).callText _
      exact .nil _
  | box =>
      cases known : Shape.box.corners? args with
      | none =>
          simp only [known]
          exact uncalled _
      | some corners =>
          apply fitting_of_eq_ok fun _ => trivial
          simp only [known]
          intro call made text called
          simp only [bind_eq_ok_iff] at made
          obtain ⟨x0, west, y0, south, x1, -, y1, -, made⟩ := made
          cases made
          cases called
          have box := covered_of_corners valid known west south
          have listed : Covered [x0, y0] ["ARRAY[" ++
              Text.commaList [x0, y0, x0, y1, x1, y1, x1, y0] ++ "]"] :=
            ((Covered.refl _).of_subset (by simp)).commaList.preceded.followed
          exact (point.append (box.trans listed)).callText _
  | polygon =>
      have listed : Covers (exprTexts args) (renderList args) :=
        (exprs_cover args).bind fun _ inTexts => inTexts.commaList
      apply listed.bind
      intro list inList text called
      cases called
      exact (point.append inList.preceded.followed).callText _

end Templates

/-- Every verbatim text is still in one piece after a walk. -/
def survival : Correspondence where
  expr source result _ := Covered source.texts result.texts
  statement source result _ := Covered source.texts result.texts
  table source result _ := Covered source.texts result.texts

section Survival

open Correspondence

variable {warnings : List String}

theorem covered_additive : Additive fun before after _ => Covered before after :=
  ⟨.nil _, .append⟩

theorem survival_exprs {sources results : List Expr}
    (each : Each survival.expr sources results warnings) :
    Covered (exprTexts sources) (exprTexts results) :=
  each.read covered_additive verbatimTexts fun _ _ _ inner => inner

theorem survival_query {source result : Query} (query : survival.OfQuery source result warnings) :
    Covered source.texts result.texts :=
  query.read covered_additive verbatimTexts (fun _ _ _ inner => inner) fun _ _ _ inner => inner

theorem survival_spec {source result : JoinSpec} (spec : survival.OfSpec source result warnings) :
    Covered (source.read verbatimTexts) (result.read verbatimTexts) :=
  spec.read covered_additive verbatimTexts fun _ _ _ inner => inner

theorem survival_congruent : survival.Congruent fun _ => True where
  leaf _ _ := .refl _
  binary _ left right := .append left right
  unary _ inner := inner
  subquery _ inner := inner
  setOperation left right := .append left right
  statementText _ := .refl _
  table _ _ := .nil _
  join left right spec := .append left (.append right (survival_spec spec))
  tableText _ := .refl _
  geometry _ each := survival_exprs each
  accessor {kind _ _ _} _ inner := by
    cases kind with
    | coord1 | coord2 => exact inner
    | coordSystem => exact .nil _
  function _ each := survival_exprs each
  geometryFunction _ each := survival_exprs each
  comparison _ left right _ := .append left right
  select inner := survival_query inner
  derived _ inner := inner

/-- Text that a rule puts in the place of a node after its operands have been walked over. -/
theorem survival_text {before after : List String} {found : Except Error String}
    (operands : Covered before after) (covers : Covers after found) :
    Fitting (fun _ => True) (fun text => Covered before [text]) found :=
  covers.mono (fun _ => id) fun _ inText => operands.trans inText

theorem survival_indexPass (config : DialectConfig) :
    survival.Closed (indexPass config) (fun _ => True) fun _ => True := by
  apply survival_congruent.closed_indexPass
  · intro test lhs rhs lhs' rhs' first second _ left right _
    exact .append left right
  · intro test lhs rhs lhs' rhs' search first second _ left right asked
    apply fitting_of_eq_ok fun _ => trivial
    intro call found
    cases call with
    | none => exact .append left right
    | some text =>
        obtain ⟨-, source, target, -, valid, rfl, rfl⟩ := search?_eq_some_iff.mp asked
        have inCall := (search.call?_covers config valid).holds found text rfl
        exact (Covered.append left right).trans inCall
  · intro lhs op rhs lhs' rhs' first second _ left right _
    exact survival_text (.append left right) (testCondition_covers lhs' op rhs')

theorem survival_dialectPass (config : DialectConfig) :
    survival.Closed (dialectPass config) (fun _ => True) fun _ => True where
  toStructural := survival_congruent.toStructural
  geometry {shape _ _ args' _} _ each := by
    apply Rule.Fits.text
    exact survival_text (survival_exprs each) (geometryText_covers shape args')
  predicate {test _ _ lhs' rhs' _ _} _ left right := by
    apply Rule.Fits.test
    exact survival_text (.append left right) (testText_covers test lhs' rhs')
  accessor {kind arg arg' _} _ inner := by
    apply Rule.Fits.text
    exact survival_text (survival_congruent.accessor trivial inner) (accessorText_covers kind arg')
  function {name _ args' _} _ each := by
    apply Rule.Fits.lifted
    apply (functionRewrite_covers name args').mono fun _ => id
    intro rewrite inRewrite
    exact (survival_exprs each).trans inRewrite
  geometryFunction {kind _ args' _} _ each := by
    cases kind with
    | area =>
        apply Rule.Fits.warned
        exact survival_exprs each
    | distance =>
        apply Rule.Fits.text
        exact survival_text (survival_exprs each) (distanceText_covers config args')
    | centroid =>
        apply Rule.Fits.text
        exact survival_text (survival_exprs each) (centroidText_covers config args')
    | region => exact fun earlier => ⟨.error _, [], by rw [List.append_nil]; rfl, trivial⟩
  comparison {_ op _ lhs' rhs' _ _} _ left right := by
    apply Rule.Fits.comparison rfl
    · intro _
      exact survival_text (.append left right) (testCondition_covers lhs' op rhs')
    · intro _
      exact .append left right
  query {_ query' _} inner := by
    apply Rule.Fits.text
    exact survival_text (survival_query inner) (renderSelect_covers query')
  derived {_ statement' _} name inner := by
    apply Rule.Fits.text
    exact survival_text inner (renderDerived_covers statement' name)

theorem survival_pipeline (config : DialectConfig) :
    ∀ pass ∈ pipeline config, survival.Closed pass (fun _ => True) fun _ => True :=
  forall_mem_pipeline (survival_indexPass config) (survival_dialectPass config)

end Survival

/-- If a statement can be compiled, every verbatim text in it that is not inside the argument of an
accessor for the coordinate system stands in the SQL, unchanged and in one piece. -/
theorem compile_keeps_verbatim_text (config : DialectConfig) (statement : Statement)
    (compiled : Compiled) (found : compile config statement = .ok compiled) :
    ∀ text ∈ statement.texts, text.toList <:+: compiled.sql.toList := by
  obtain ⟨output, ran, found⟩ := bind_eq_ok_iff.mp found
  obtain ⟨sql, rendered, found⟩ := bind_eq_ok_iff.mp found
  cases found
  have after : Covered statement.texts output.statement.texts :=
    survival.run_pipeline (fun _ => .refl _) .trans (survival_pipeline config) ran
  have covered := after.trans (output.statement.covers.holds rendered)
  intro text membership
  obtain ⟨whole, isWhole, inside⟩ := covered text membership
  rw [List.mem_singleton.mp isWhole] at inside
  exact inside

/-- A query with verbatim text in a sub-query, as a table, in a comparison that is dropped, and as
coordinates of a search in a box. -/
def patchedQuery : Statement :=
  .select {
    items := [.expr (.subquery (.sql "TABLE u")) none]
    tables := [.sql "f(1) AS g"]
    condition := some (.binary
      (.comparison (.number "0") .eq (.sql { text := "p && q", predicate := true }))
      .and
      (.comparison (.number "1") .eq (.predicate .contains
        (.geometry .point none [.verbatim "g.x + 1", .named "dec"])
        (.geometry .box none [.verbatim "cx", .named "cy", .number "2", .number "4"])))) }

theorem compile_keeps_verbatim_text_box :
    ∃ sql, compile {} patchedQuery = .ok ⟨sql, []⟩ ∧
      ∀ text ∈ ["TABLE u", "f(1) AS g", "p && q", "g.x + 1", "cx"],
        text.toList <:+: sql.toList := by
  have found : compile {} patchedQuery = .ok ⟨"SELECT (TABLE u) FROM f(1) AS g WHERE " ++
      "NOT (p && q) AND q3c_poly_query(g.x + 1, dec, " ++
      "ARRAY[cx - (2 / 2), cy - (4 / 2), cx - (2 / 2), cy + (4 / 2), " ++
      "cx + (2 / 2), cy + (4 / 2), cx + (2 / 2), cy - (4 / 2)])", []⟩ := by
    decide +kernel
  have kept := compile_keeps_verbatim_text {} patchedQuery _ found
  have listed : patchedQuery.texts = ["TABLE u", "f(1) AS g", "p && q", "g.x + 1", "cx"] := rfl
  rw [listed] at kept
  exact ⟨_, found, kept⟩

end SkySql
