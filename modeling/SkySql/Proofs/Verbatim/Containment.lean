import SkySql.Proofs.Walk

set_option autoImplicit false

/-!
The verbatim texts in a statement, and that rendering leaves each of them in one piece. A text is
followed, preceded or joined by others on its way into larger ones; whatever is put around it, it
stays where it is in the whole.
-/

namespace SkySql

/-- Each text of the first list stands unchanged and in one piece in a text of the second. -/
def Covered (parts wholes : List String) : Prop :=
  ∀ part ∈ parts, ∃ whole ∈ wholes, part.toList <:+: whole.toList

namespace Covered

variable {parts others wholes : List String} {whole other : String}

theorem refl (texts : List String) : Covered texts texts :=
  fun part membership => ⟨part, membership, List.infix_rfl⟩

theorem nil (wholes : List String) : Covered [] wholes := List.forall_mem_nil _

theorem trans (first : Covered parts others) (second : Covered others wholes) :
    Covered parts wholes := by
  intro part membership
  obtain ⟨middle, inMiddle, inside⟩ := first part membership
  obtain ⟨whole, inWhole, around⟩ := second middle inMiddle
  exact ⟨whole, inWhole, inside.trans around⟩

theorem of_subset (subset : parts ⊆ others) (covered : Covered others wholes) :
    Covered parts wholes :=
  fun part membership => covered part (subset membership)

theorem mono (covered : Covered parts others) (subset : others ⊆ wholes) :
    Covered parts wholes :=
  covered.trans ((refl wholes).of_subset subset)

theorem append {before before' after after' : List String} (first : Covered before before')
    (second : Covered after after') : Covered (before ++ after) (before' ++ after') :=
  List.forall_mem_append.mpr
    ⟨first.mono (List.subset_append_left _ _), second.mono (List.subset_append_right _ _)⟩

theorem cons {texts : List String} (first : Covered parts [whole])
    (later : Covered others texts) : Covered (parts ++ others) (whole :: texts) :=
  first.append later

theorem of_inside (inside : whole.toList <:+: other.toList) : Covered [whole] [other] :=
  List.forall_mem_singleton.mpr ⟨other, List.mem_singleton_self other, inside⟩

theorem followed {text : String} (covered : Covered parts [whole]) :
    Covered parts [whole ++ text] := by
  apply covered.trans (of_inside _)
  rw [String.toList_append]
  exact (List.prefix_append _ _).isInfix

theorem preceded {text : String} (covered : Covered parts [whole]) :
    Covered parts [text ++ whole] := by
  apply covered.trans (of_inside _)
  rw [String.toList_append]
  exact (List.suffix_append _ _).isInfix

theorem joined (first : Covered parts [whole]) (second : Covered others [other]) :
    Covered (parts ++ others) [whole ++ other] :=
  List.forall_mem_append.mpr ⟨first.followed, second.preceded⟩

theorem commaList {texts : List String} (covered : Covered parts texts) :
    Covered parts [Text.commaList texts] := by
  apply covered.trans
  clear covered
  induction texts with
  | nil => exact nil _
  | cons text rest inductionHypothesis =>
      cases rest with
      | nil => exact refl _
      | cons next rest =>
          rw [Text.commaList_cons_cons]
          exact (refl [text]).followed.joined inductionHypothesis

theorem callText {args : List String} (name : String) (covered : Covered parts args) :
    Covered parts [callText name args] :=
  covered.commaList.preceded.followed

theorem operandText (expr : Expr) (covered : Covered parts [whole]) :
    Covered parts [operandText expr whole] := by
  unfold SkySql.operandText
  split
  · exact covered.preceded.followed
  · exact covered

theorem negated (covered : Covered parts [whole]) : Covered parts [negated whole] := by
  unfold SkySql.negated
  split
  · exact covered.preceded.followed
  · exact covered.preceded

theorem labelled (label : Option String) (covered : Covered parts [whole]) :
    Covered parts [labelled whole label] := by
  cases label with
  | none => exact covered
  | some label => exact covered.followed.followed

theorem derivedText (name : String) (covered : Covered parts [whole]) :
    Covered parts [derivedText whole name] :=
  covered.preceded.followed.followed

theorem listClause {texts : List String} (keyword : String) (covered : Covered parts texts) :
    Covered parts [listClause keyword texts] := by
  cases texts with
  | nil => exact covered.commaList
  | cons text rest => exact covered.commaList.preceded

theorem optionClause {option : Option String} (keyword : String)
    (covered : Covered parts option.toList) : Covered parts [optionClause keyword option] := by
  cases option with
  | none => exact covered.commaList
  | some text => exact covered.preceded

end Covered

/-- The verbatim texts, apart from those inside the argument of an accessor for the coordinate
system. -/
def verbatimTexts : Reading String where
  expr
    | .sql fragment, _ => [fragment.text]
    | .accessor .coordSystem _, _ => []
    | _, inside => inside
  text text := [text]

abbrev Expr.texts (expr : Expr) : List String := expr.read verbatimTexts

abbrev exprTexts (exprs : List Expr) : List String := readExprs verbatimTexts exprs

abbrev Statement.texts (statement : Statement) : List String := statement.read verbatimTexts

abbrev Query.texts (query : Query) : List String := query.read verbatimTexts

abbrev TableRef.texts (table : TableRef) : List String := table.read verbatimTexts

/-- All texts of the clauses of a query, in the order in which they are written. -/
def Clauses.texts (clauses : Clauses) : List String :=
  clauses.items ++ (clauses.tables ++ (clauses.condition.toList ++
    (clauses.groupBy ++ (clauses.having.toList ++ clauses.orderBy))))

/-- The select list, with something before it, and the other clauses after it. -/
theorem Clauses.covered (clauses : Clauses) (front : String) :
    Covered clauses.texts [front ++ Text.commaList clauses.items ++ clauses.body] := by
  have items : Covered clauses.items [front ++ Text.commaList clauses.items] :=
    (Covered.refl _).commaList.preceded
  have body := (((((Covered.refl clauses.tables).listClause "FROM").joined
    ((Covered.refl clauses.condition.toList).optionClause "WHERE")).joined
      ((Covered.refl clauses.groupBy).listClause "GROUP BY")).joined
        ((Covered.refl clauses.having.toList).optionClause "HAVING")).joined
          ((Covered.refl clauses.orderBy).listClause "ORDER BY")
  simp only [List.append_assoc] at body
  exact items.joined body

/-- If there is a text, the given ones stand in it. -/
abbrev Covers (parts : List String) : Except Error String → Prop :=
  Fitting (fun _ => True) fun text => Covered parts [text]

/-- If there are texts, each of the given ones stands in one of them. -/
abbrev CoversAll (parts : List String) : Except Error (List String) → Prop :=
  Fitting (fun _ => True) fun texts => Covered parts texts

theorem coversAll_cons {parts others : List String} {found : Except Error String}
    {later : Except Error (List String)} (first : Covers parts found)
    (rest : CoversAll others later) :
    CoversAll (parts ++ others) (do return (← found) :: (← later)) := by
  apply first.bind
  intro text inText
  apply rest.bind
  intro texts inTexts
  exact inText.cons inTexts

-- Rendering follows the data, so there is one theorem for each kind of part.
mutual

theorem Expr.covers (expr : Expr) : Covers expr.texts expr.render := by
  match expr with
  | .literal _ | .column _ => exact .nil _
  | .sql fragment => exact .refl _
  | .region _ => exact trivial
  | .geometry shape frame args =>
      apply (exprs_cover args).bind
      intro texts inTexts
      exact (inTexts.mono (List.subset_append_right _ _)).callText shape.name
  | .predicate test lhs rhs =>
      apply lhs.covers.bind
      intro left inLeft
      apply rhs.covers.bind
      intro right inRight
      exact (inLeft.cons inRight).callText test.name
  | .accessor .coordSystem arg =>
      apply arg.covers.bind
      intro text _
      exact .nil _
  | .accessor .coord1 arg | .accessor .coord2 arg =>
      apply arg.covers.bind
      intro text inText
      exact inText.callText _
  | .function name args =>
      apply (exprs_cover args).bind
      intro texts inTexts
      exact inTexts.callText name
  | .geometryFunction kind args =>
      apply (exprs_cover args).bind
      intro texts inTexts
      exact inTexts.callText kind.name
  | .comparison lhs op rhs | .binary lhs op rhs =>
      apply lhs.covers.bind
      intro left inLeft
      apply rhs.covers.bind
      intro right inRight
      exact (inLeft.operandText lhs).followed.followed.followed.joined (inRight.operandText rhs)
  | .unary .neg operand =>
      apply operand.covers.bind
      intro text inText
      exact (inText.operandText operand).negated
  | .unary .not operand =>
      apply operand.covers.bind
      intro text inText
      exact (inText.operandText operand).preceded
  | .subquery statement =>
      apply statement.covers.bind
      intro text inText
      exact inText.preceded.followed

theorem exprs_cover (exprs : List Expr) : CoversAll (exprTexts exprs) (renderExprs exprs) := by
  match exprs with
  | [] => exact .nil _
  | expr :: rest => exact coversAll_cons expr.covers (exprs_cover rest)

theorem option_covers (option : Option Expr) :
    Fitting (fun _ => True) (fun found => Covered (readOption verbatimTexts option) found.toList)
      (renderOption option) := by
  match option with
  | none => exact .nil _
  | some expr =>
      apply expr.covers.bind
      intro text inText
      exact inText

theorem Statement.covers (statement : Statement) : Covers statement.texts statement.render := by
  match statement with
  | .select query =>
      apply query.clauses_cover.bind
      intro clauses inClauses
      exact (inClauses.trans (clauses.covered _)).followed
  | .setOperation op all lhs rhs =>
      apply lhs.covers.bind
      intro left inLeft
      apply rhs.covers.bind
      intro right inRight
      exact (inLeft.preceded.followed.followed.followed.followed.joined inRight).followed
  | .sql text => exact .refl _

theorem Query.clauses_cover (query : Query) :
    Fitting (fun _ => True) (fun clauses => Covered query.texts clauses.texts) query.clauses := by
  match query with
  | { items, tables, condition, groupBy, having, orderBy, .. } =>
      apply (items_cover items).bind
      intro items inItems
      apply (tables_cover tables).bind
      intro tables inTables
      apply (option_covers condition).bind
      intro condition inCondition
      apply (exprs_cover groupBy).bind
      intro groupBy inGroups
      apply (option_covers having).bind
      intro having inHaving
      apply (order_covers orderBy).bind
      intro orderBy inOrder
      exact inItems.append (inTables.append (inCondition.append (inGroups.append
        (inHaving.append inOrder))))

theorem SelectItem.covers (item : SelectItem) : Covers (item.read verbatimTexts) item.render := by
  match item with
  | .star none | .star (some _) => exact .nil _
  | .expr expr label =>
      apply expr.covers.bind
      intro text inText
      exact inText.labelled label

theorem items_cover (items : List SelectItem) :
    CoversAll (readItems verbatimTexts items) (renderItems items) := by
  match items with
  | [] => exact .nil _
  | item :: rest => exact coversAll_cons item.covers (items_cover rest)

theorem order_covers (order : List OrderItem) :
    CoversAll (readOrder verbatimTexts order) (renderOrder order) := by
  match order with
  | [] => exact .nil _
  | { expr, descending } :: rest =>
      apply expr.covers.bind
      intro text inText
      apply (order_covers rest).bind
      intro texts inTexts
      exact inText.followed.cons inTexts

theorem TableRef.covers (table : TableRef) : Covers table.texts table.render := by
  match table with
  | .table _ _ => exact .nil _
  | .sql text => exact .refl _
  | .derived statement name =>
      apply statement.covers.bind
      intro text inText
      exact inText.derivedText name
  | .join left kind right spec =>
      apply left.covers.bind
      intro leftText inLeft
      apply right.covers.bind
      intro rightText inRight
      apply spec.covers.bind
      intro specText inSpec
      change Covered (left.texts ++ (right.texts ++ spec.read verbatimTexts)) [_]
      rw [← List.append_assoc]
      exact (inLeft.followed.followed.followed.followed.joined inRight).joined inSpec

theorem tables_cover (tables : List TableRef) :
    CoversAll (readTables verbatimTexts tables) (renderTables tables) := by
  match tables with
  | [] => exact .nil _
  | table :: rest => exact coversAll_cons table.covers (tables_cover rest)

theorem JoinSpec.covers (spec : JoinSpec) : Covers (spec.read verbatimTexts) spec.render := by
  match spec with
  | .on condition =>
      apply condition.covers.bind
      intro text inText
      exact inText.preceded
  | .using _ | .natural | .none => exact .nil _

end

end SkySql
