import DocumentQuery.Proofs.Statement.Tokens
import DocumentQuery.Regex.Standard

/-!
# The shape of a statement

Nothing in a name breaks out of its place. The tokens of a select statement
are those of its columns and of its clause between fixed keywords, and how
many there are and of which kind follows from the shape of the statement: how
many fields it has, how its conditions are joined and what they compare, and
which of its columns are virtual. No name is a part of the shape.

* `Sql.Token.Kind`, `Sql.Token.kind`: what a token is, whatever it contains;
* `ClauseShape`, `ClauseTree.shape`: a tree of conditions without its names;
* `Statement.filteredKinds`, `Statement.projectedKinds`: the kinds of tokens
  that statements of a shape have;
* `Statement.tokens_select`: the tokens of a statement, and their kinds.
-/

namespace DocumentQuery

open Sql (Token Spells)

/-! ## Kinds of tokens -/

/-- What a token is, whatever it contains. -/
inductive Sql.Token.Kind
  | word
  | name
  | string
  | placeholder
  | operator
  | openParen
  | closeParen
  | comma
  deriving DecidableEq, Repr

/-- The kind of a token. -/
def Sql.Token.kind : Token → Token.Kind
  | .word _ => .word
  | .name _ => .name
  | .string _ => .string
  | .placeholder _ => .placeholder
  | .operator _ => .operator
  | .openParen => .openParen
  | .closeParen => .closeParen
  | .comma => .comma

/-- The kinds of the tokens of a column: a name, or a call on a name and the text of a path. -/
def Sql.columnKinds (isVirtual : Bool) : List Token.Kind :=
  if isVirtual then [.name] else [.word, .openParen, .name, .comma, .string, .closeParen]

theorem ColumnRef.kind_tokens (c : ColumnRef) :
    c.tokens.map Token.kind = Sql.columnKinds c.isVirtual := by
  cases c <;> rfl

/-! ## Shapes of clauses -/

/-- A tree of conditions in which a column is only virtual or not, and has no name. -/
inductive ClauseShape
  | leaf (isVirtual : Bool) (relation : Relation)
  | join (left : ClauseShape) (op : Connective) (right : ClauseShape)
  deriving DecidableEq, Repr

/-- A tree of conditions without its names. -/
def ClauseTree.shape : ClauseTree → ClauseShape
  | .leaf column relation _ => .leaf column.isVirtual relation
  | .join left op right => .join left.shape op right.shape

/-- The kinds of the tokens after the column of a condition. -/
def Relation.kinds : Relation → List Token.Kind
  | .compare _ => [.operator, .placeholder]
  | .like => [.word, .placeholder, .word, .string]

/-- The kinds of the tokens of a clause. -/
def ClauseShape.kinds : ClauseShape → List Token.Kind
  | .leaf isVirtual relation => Sql.columnKinds isVirtual ++ relation.kinds
  | .join left _ right => .openParen :: left.kinds ++ .word :: right.kinds ++ [.closeParen]

theorem Relation.kind_tokens (relation : Relation) (placeholder : String) :
    (relation.tokens placeholder).map Token.kind = relation.kinds := by
  cases relation <;> rfl

theorem ClauseTree.kind_tokens (t : ClauseTree) : t.tokens.map Token.kind = t.shape.kinds := by
  induction t with
  | leaf column relation placeholder =>
    rw [tokens, List.map_append, column.kind_tokens, relation.kind_tokens, shape, ClauseShape.kinds]
  | join left op right ihl ihr =>
    rw [shape, ClauseShape.kinds, ← ihl, ← ihr, tokens]
    simp only [List.map_append, List.map_cons, List.map_nil, Token.kind]

/-! ## Shapes of statements -/

theorem map_intercalate {α β : Type} (f : α → β) (separator : List α) (ls : List (List α)) :
    (separator.intercalate ls).map f = (separator.map f).intercalate (ls.map (·.map f)) := by
  induction ls with
  | nil => rfl
  | cons l ls ih =>
    cases ls with
    | nil => simp only [List.map_cons, List.map_nil, List.intercalate_singleton]
    | cons m ms =>
      rw [List.intercalate_cons_cons, List.map_append, List.map_append, ih]
      simp only [List.map_cons, List.intercalate_cons_cons]

namespace Statement

/-- The kinds of the tokens of a statement for documents. -/
def filteredKinds (clause : ClauseShape) : List Token.Kind :=
  [.word, .name, .comma, .name, .word, .name, .word] ++ clause.kinds

/-- The kinds of the tokens of a statement for fields, each of which has a virtual column
or not. -/
def projectedKinds (fields : List Bool) (clause : Option ClauseShape) : List Token.Kind :=
  .word :: [Token.Kind.comma].intercalate
      (fields.map fun isVirtual => Sql.columnKinds isVirtual ++ [.word, .name]) ++
    [.word, .name] ++ clause.elim [] (.word :: ·.kinds)

/-- Whether each field of a projection has a virtual column. -/
def virtualFields (s : Settings) (columns : ColumnMap) (projection : Projection) : List Bool :=
  projection.fields.map fun field => (columns.resolve s field.2).isVirtual

theorem kind_filteredTokens (s : Settings) (table : String) (t : ClauseTree) :
    (filteredTokens s table t.tokens).map Token.kind = filteredKinds t.shape := by
  rw [filteredTokens, List.map_append, t.kind_tokens]
  rfl

theorem kind_fieldTokens (s : Settings) (columns : ColumnMap) (field : String × Path) :
    (fieldTokens s columns field).map Token.kind =
      Sql.columnKinds (columns.resolve s field.2).isVirtual ++ [.word, .name] := by
  rw [fieldTokens, List.map_append, ColumnRef.kind_tokens]
  rfl

theorem kind_projectedTokens (s : Settings) (columns : ColumnMap) (table : String)
    (projection : Projection) (tree : Option ClauseTree) :
    (projectedTokens s columns table projection.fields (tree.map ClauseTree.tokens)).map
        Token.kind =
      projectedKinds (virtualFields s columns projection) (tree.map ClauseTree.shape) := by
  have hfields : ([Token.comma].intercalate (projection.fields.map (fieldTokens s columns))).map
      Token.kind = [Token.Kind.comma].intercalate ((virtualFields s columns projection).map
        fun isVirtual => Sql.columnKinds isVirtual ++ [.word, .name]) := by
    rw [map_intercalate, virtualFields, List.map_map, List.map_map]
    refine congrArg _ (List.map_congr_left fun field _ => ?_)
    exact kind_fieldTokens s columns field
  have hclause : ((tree.map ClauseTree.tokens).elim [] (Token.word "WHERE" :: ·)).map Token.kind =
      (tree.map ClauseTree.shape).elim [] (.word :: ·.kinds) := by
    cases tree with
    | none => rfl
    | some t => exact congrArg _ t.kind_tokens
  rw [projectedTokens, List.map_append, List.map_append, List.map_cons, hfields, hclause]
  rfl

/-- The text of a statement has these tokens, and they are of these kinds. -/
def HasTokens (statement : Statement) (ts : List Token) (kinds : List Token.Kind) : Prop :=
  Sql.tokens statement.sql.toList = some ts ∧ ts.map Token.kind = kinds

/-- A select statement consists of its keywords, its columns and their names, its table and
its clause, token by token, whatever is in the names. The clause may have been compiled for
any other settings and columns. The kinds of the tokens follow from which fields have a
virtual column and from the shape of the clause, in which there are no names. -/
theorem tokens_select [RegexLibrary] {s : Settings} (hs : s.check = .ok ()) (columns : ColumnMap)
    (table : String) (projection : Projection) :
    (∀ path, Sql.tokens (columns.resolve s path).text.toList =
        some (columns.resolve s path).tokens) ∧
      (∀ statement, projected s columns table projection none = .ok statement →
        statement.HasTokens (projectedTokens s columns table projection.fields none)
          (projectedKinds (virtualFields s columns projection) none)) ∧
      ∀ s₀ columns₀ e clause, s₀.check = .ok () → Clause.ofExpr? s₀ columns₀ e = .ok clause →
        ∃ t, e.clauseTree? (columns₀.resolve s₀) s₀.parameterPrefix 0 = some t ∧
          Sql.tokens clause.text.toList = some t.tokens ∧
          (∀ statement, projected s columns table projection (some clause) = .ok statement →
            statement.HasTokens
              (projectedTokens s columns table projection.fields (some t.tokens))
              (projectedKinds (virtualFields s columns projection) (some t.shape))) ∧
          ∀ statement, filtered s table clause = .ok statement →
            statement.HasTokens (filteredTokens s table t.tokens) (filteredKinds t.shape) := by
  have hchecked := Settings.isChecked hs
  refine ⟨fun path => (columns.spells_resolve hchecked path).tokens_eq, fun statement h => ?_,
    fun s₀ columns₀ e clause hs₀ hclause => ?_⟩
  · exact ⟨(spells_projected hchecked .none h).tokens_eq,
      kind_projectedTokens s columns table projection none⟩
  · obtain ⟨f, hf, rfl⟩ := map_eq_ok.mp hclause
    have htree := (Expr.clauseTree?_of_ofExpr? (columns₀.resolve s₀) s₀.parameterPrefix hf 0).1
    have hspells := f.spells_clause (Settings.isChecked hs₀) columns₀
    refine ⟨_, htree, hspells.tokens_eq, fun statement h => ?_, fun statement h => ?_⟩
    · exact ⟨(spells_projected hchecked (.some hspells) h).tokens_eq,
        kind_projectedTokens s columns table projection (some _)⟩
    · exact ⟨(spells_filtered hspells h).tokens_eq, kind_filteredTokens s table _⟩

/-- A column whose name looks like two. -/
def hostileColumns : ColumnMap := .ofList [⟨⟨[.field "a"]⟩, "v\", \"w", .text⟩]

/-- Fields with a name that looks like another table, and with a member that looks like
another argument. -/
def hostileProjection : Projection :=
  ⟨[("x\" FROM \"secrets\" --", ⟨[.field "a"]⟩), ("it's", ⟨[.field "b', '$.c"]⟩)]⟩

/-- A condition on a member that looks like another condition. -/
def hostileFilter : Expr :=
  .compare (.member .parameter "d') OR ('1'='1") .equal (.constant (.integer 1))

def hostileClause : Clause where
  text := "json_extract(\"data\", '$.\"d'') OR (''1''=''1\"') = @p0"
  parameters := ⟨[("p0", .integer 1)]⟩

def hostileStatement : Statement where
  sql := "SELECT \"v\"\", \"\"w\" AS \"x\"\" FROM \"\"secrets\"\" --\", " ++
    "json_extract(\"data\", '$.\"b'', ''$.c\"') AS \"it's\" FROM \"docs\" WHERE " ++
    hostileClause.text
  parameters := hostileClause.parameters

theorem tokens_select_hostile :
    ({} : Settings).check = .ok () ∧
      Clause.ofExpr? {} hostileColumns hostileFilter = .ok hostileClause ∧
      projected {} hostileColumns "docs" hostileProjection hostileClause = .ok hostileStatement ∧
      Sql.tokens hostileStatement.sql.toList =
        some [.word "SELECT", .name "v\", \"w", .word "AS", .name "x\" FROM \"secrets\" --",
          .comma, .word "json_extract", .openParen, .name "data", .comma,
          .string "$.\"b', '$.c\"", .closeParen, .word "AS", .name "it's",
          .word "FROM", .name "docs", .word "WHERE",
          .word "json_extract", .openParen, .name "data", .comma,
          .string "$.\"d') OR ('1'='1\"", .closeParen, .operator "=", .placeholder "p0"] := by
  have hcheck : ({} : Settings).check = .ok () := rfl
  have hclause : Clause.ofExpr? {} hostileColumns hostileFilter = .ok hostileClause := by
    decide +kernel
  have hstatement : projected {} hostileColumns "docs" hostileProjection hostileClause =
      .ok hostileStatement := by
    decide +kernel
  obtain ⟨_, _, hselect⟩ := tokens_select hcheck hostileColumns "docs" hostileProjection
  obtain ⟨t, htree, _, hprojected, _⟩ := hselect _ _ _ _ hcheck hclause
  have ht : t = .leaf (.extract ⟨"json_extract", "data"⟩ ⟨[.field "d') OR ('1'='1"]⟩)
      (.compare .equal) "p0" := by
    refine Option.some.inj (htree.symm.trans ?_)
    decide +kernel
  subst ht
  refine ⟨hcheck, hclause, hstatement, (hprojected _ hstatement).1.trans ?_⟩
  decide +kernel

end Statement

end DocumentQuery
