import DocumentQuery.Proofs.Filter.Tree
import DocumentQuery.Proofs.Path.RoundTrip
import DocumentQuery.Regex.Standard

/-!
# The tree of a clause read back

A reader of clauses knows the tokens of query text, the two forms of
conditions, parentheses, and that AND binds more tightly than OR. It knows
neither the settings nor the columns of a table.

* `Comparison.ofSql?`, `ClauseTree.readLeaf`: the operators and the conditions;
* `ClauseTree.Level`, `ClauseTree.readFrom`: a text read from left to right;
* `ClauseTree.read`: the tree of a whole text;
* `ClauseTree.readFrom_tokens`: the tokens of a tree are read as the tree;
* `Clause.read_text`: the text of a clause is read as the tree of its expression.
-/

namespace DocumentQuery

open Sql (Token)

/-! ## Conditions -/

/-- The comparison that an operator stands for. -/
def Comparison.ofSql? (symbol : String) : Option Comparison :=
  [equal, notEqual, greater, greaterOrEqual, less, lessOrEqual].find? (·.sql == symbol)

theorem Comparison.ofSql?_sql (op : Comparison) : ofSql? op.sql = some op := by
  cases op <;> rfl

/-- The logical operator that a keyword stands for. -/
def Connective.ofSql? (keyword : String) : Option Connective :=
  [both, either].find? (·.sql == keyword)

theorem Connective.ofSql?_sql (op : Connective) : ofSql? op.sql = some op := by
  cases op <;> rfl

namespace ClauseTree

/-- The column at the start of a condition, a name or a call on a name and the text of
a path, with the tokens that follow it. -/
def readColumn : List Token → Option (ColumnRef × List Token)
  | .name column :: ts => some (.virtual column, ts)
  | .word function :: .openParen :: .name column :: .comma :: .string text :: .closeParen :: ts =>
    (Path.parse text).toOption.map fun path => (.extract ⟨function, column⟩ path, ts)
  | _ => none

/-- The relation and the placeholder after a column, with the tokens that follow them. -/
def readRelation : List Token → Option (Relation × String × List Token)
  | .operator symbol :: .placeholder p :: ts =>
    (Comparison.ofSql? symbol).map fun op => (.compare op, p, ts)
  | .word like :: .placeholder p :: .word escape :: .string _ :: ts =>
    if like = "LIKE" ∧ escape = "ESCAPE" then some (.like, p, ts) else none
  | _ => none

/-- The condition at the start of a text. -/
def readLeaf (ts : List Token) : Option (ClauseTree × List Token) := do
  let (column, ts) ← readColumn ts
  let (relation, p, ts) ← readRelation ts
  return (.leaf column relation p, ts)

theorem length_readColumn {ts : List Token} {read : ColumnRef × List Token}
    (h : readColumn ts = some read) : read.2.length < ts.length := by
  unfold readColumn at h
  split at h
  · cases h
    simp
  · obtain ⟨path, _, rfl⟩ := Option.map_eq_some_iff.mp h
    simp only [List.length_cons]
    omega
  · cases h

theorem length_readRelation {ts : List Token} {read : Relation × String × List Token}
    (h : readRelation ts = some read) : read.2.2.length < ts.length := by
  unfold readRelation at h
  split at h
  · obtain ⟨op, _, rfl⟩ := Option.map_eq_some_iff.mp h
    simp only [List.length_cons]
    omega
  · split at h
    · cases h
      simp only [List.length_cons]
      omega
    · cases h
  · cases h

theorem length_readLeaf {ts : List Token} {read : ClauseTree × List Token}
    (h : readLeaf ts = some read) : read.2.length < ts.length := by
  obtain ⟨column, hcolumn, h⟩ := Option.bind_eq_some_iff.mp h
  obtain ⟨relation, hrelation, h⟩ := Option.bind_eq_some_iff.mp h
  cases h
  exact Nat.lt_trans (length_readRelation hrelation) (length_readColumn hcolumn)

/-! ## Trees -/

/-- What was read inside the parentheses that are open, before the operand that is next. -/
structure Level where
  /-- What stands before the last OR. -/
  disjunction : Option ClauseTree := none
  /-- What stands between this and the last AND. -/
  conjunction : Option ClauseTree := none

/-- An operand together with what stands before its operator. -/
def joinAfter (before : Option ClauseTree) (op : Connective) (t : ClauseTree) : ClauseTree :=
  before.elim t (.join · op t)

namespace Level

/-- The operands that AND joins, the last one being `t`. -/
def conjoined (level : Level) (t : ClauseTree) : ClauseTree := joinAfter level.conjunction .both t

/-- Everything, the last operand being `t`. -/
def whole (level : Level) (t : ClauseTree) : ClauseTree :=
  joinAfter level.disjunction .either (level.conjoined t)

/-- What stands before the operand after `t` and an operator. AND takes the operands
since the last OR, and OR takes everything. -/
def next (level : Level) (t : ClauseTree) : Connective → Level
  | .both => { level with conjunction := level.conjoined t }
  | .either => { disjunction := level.whole t }

end Level

/-- The tree of a text from within parentheses: `outer` was read outside those that are open,
`level` inside, and `operand` last. -/
def readFrom (outer : List Level) (level : Level) (operand : Option ClauseTree)
    (ts : List Token) : Option ClauseTree :=
  match operand, ts with
  | none, .openParen :: ts => readFrom (level :: outer) {} none ts
  | none, ts =>
    match _h : readLeaf ts with
    | none => none
    | some (t, rest) => readFrom outer level (some t) rest
  | some t, .word keyword :: ts =>
    match Connective.ofSql? keyword with
    | none => none
    | some op => readFrom outer (level.next t op) none ts
  | some t, .closeParen :: ts =>
    match outer with
    | [] => none
    | level' :: outer => readFrom outer level' (some (level.whole t)) ts
  | some t, [] => if outer.isEmpty then some (level.whole t) else none
  | some _, _ => none
termination_by ts.length
decreasing_by
  all_goals first | exact length_readLeaf _h | simp

/-- The tree of a text. -/
def read (text : String) : Option ClauseTree :=
  (Sql.tokens text.toList).bind (readFrom [] {} none)

variable {outer : List Level} {level : Level} {ts : List Token}

theorem readFrom_openParen :
    readFrom outer level none (.openParen :: ts) = readFrom (level :: outer) {} none ts := by
  rw [readFrom]

theorem readFrom_leaf {t : ClauseTree} {rest : List Token} (h : readLeaf ts = some (t, rest)) :
    readFrom outer level none ts = readFrom outer level (some t) rest := by
  have hparen : ∀ us, ts ≠ .openParen :: us := by
    rintro us rfl
    cases h
  rw [readFrom]
  · split
    · rename_i hread
      rw [h] at hread
      cases hread
    · rename_i hread
      rw [h] at hread
      cases hread
      rfl
  · exact hparen

theorem readFrom_connective (t : ClauseTree) (op : Connective) :
    readFrom outer level (some t) (.word op.sql :: ts) =
      readFrom outer (level.next t op) none ts := by
  conv =>
    lhs
    rw [readFrom, op.ofSql?_sql]

theorem readFrom_closeParen (level' : Level) (t : ClauseTree) :
    readFrom (level' :: outer) level (some t) (.closeParen :: ts) =
      readFrom outer level' (some (level.whole t)) ts := by
  rw [readFrom]

theorem readFrom_nil (t : ClauseTree) : readFrom [] {} (some t) [] = some t := by
  rw [readFrom]
  rfl

/-! ## Reading back -/

/-- All paths in the tree have texts which can be read back. -/
def IsWritable : ClauseTree → Prop
  | .leaf (.virtual _) _ _ => True
  | .leaf (.extract _ path) _ _ => path.IsWritable
  | .join left _ right => left.IsWritable ∧ right.IsWritable

theorem readColumn_tokens {column : ColumnRef} {relation : Relation} {p : String}
    (h : (leaf column relation p).IsWritable) (ts : List Token) :
    readColumn (column.tokens ++ ts) = some (column, ts) := by
  cases column with
  | virtual name => rfl
  | extract call path =>
    have hpath : Path.parse path.text = .ok path := Path.parse_text h
    simp only [ColumnRef.tokens, List.cons_append, List.nil_append, readColumn, hpath]
    rfl

theorem readRelation_tokens (relation : Relation) (p : String) (ts : List Token) :
    readRelation (relation.tokens p ++ ts) = some (relation, p, ts) := by
  cases relation with
  | compare op =>
    simp only [Relation.tokens, List.cons_append, List.nil_append, readRelation, op.ofSql?_sql,
      Option.map_some]
  | like => rfl

theorem readLeaf_tokens {column : ColumnRef} {relation : Relation} {p : String}
    (h : (leaf column relation p).IsWritable) (ts : List Token) :
    readLeaf ((leaf column relation p).tokens ++ ts) = some (leaf column relation p, ts) := by
  rw [tokens, List.append_assoc, readLeaf, readColumn_tokens h]
  simp only [Option.bind_eq_bind, Option.bind_some, readRelation_tokens]
  rfl

/-- Inside parentheses of its own, an operand is joined with the one before it only. -/
theorem Level.whole_next (left right : ClauseTree) (op : Connective) :
    (({} : Level).next left op).whole right = .join left op right := by
  cases op <;> rfl

/-- The tokens of a tree are read as the tree, whatever was read before them. -/
theorem readFrom_tokens {t : ClauseTree} (h : t.IsWritable) (outer : List Level) (level : Level)
    (ts : List Token) :
    readFrom outer level none (t.tokens ++ ts) = readFrom outer level (some t) ts := by
  induction t generalizing outer level ts with
  | leaf column relation p => exact readFrom_leaf (readLeaf_tokens h ts)
  | join left op right ihl ihr =>
    -- The parentheses open a level of their own, on which nothing stands before `left`.
    have htokens : (join left op right).tokens ++ ts =
        .openParen :: (left.tokens ++ .word op.sql :: (right.tokens ++ .closeParen :: ts)) := by
      simp [tokens]
    rw [htokens, readFrom_openParen, ihl h.1, readFrom_connective, ihr h.2, readFrom_closeParen,
      Level.whole_next]

/-- The columns of an expression have paths that can be written, if the columns of
such paths do. -/
theorem isWritable_of_clauseTree? [RegexLibrary] {resolve : Path → ColumnRef} {start : String}
    (hresolve : ∀ path, path.IsWritable → ∀ relation p, (leaf (resolve path) relation p).IsWritable)
    {e : Expr} {n : Nat} {t : ClauseTree} (h : e.clauseTree? resolve start n = some t) :
    t.IsWritable := by
  fun_induction Expr.clauseTree? resolve start n e generalizing t with
  | case1 n left op right ihl ihr =>
    obtain ⟨l, hl, h⟩ := Option.bind_eq_some_iff.mp h
    obtain ⟨r, hr, h⟩ := Option.bind_eq_some_iff.mp h
    cases h
    exact ⟨ihl hl, ihr hr⟩
  | case2 | case3 | case4 =>
    obtain ⟨path, hpath, rfl⟩ := Option.map_eq_some_iff.mp h
    exact hresolve path (Expr.isWritable_path? (toOption_eq_some.mp hpath)) _ _
  | case5 => cases h

theorem isWritable_resolve (s : Settings) (columns : ColumnMap) {path : Path}
    (h : path.IsWritable) (relation : Relation) (p : String) :
    (leaf (columns.resolve s path) relation p).IsWritable := by
  unfold ColumnMap.resolve
  split
  · trivial
  · exact h

end ClauseTree

/-- The text of a clause is read as the tree of the expression that it is the clause of.
So expressions with the same text have the same tree. -/
theorem Clause.read_text [RegexLibrary] {s : Settings} {columns : ColumnMap} {e : Expr} {clause : Clause}
    (hs : s.check = .ok ()) (h : Clause.ofExpr? s columns e = .ok clause) :
    ∃ t, e.clauseTree? (columns.resolve s) s.parameterPrefix 0 = some t ∧
      ClauseTree.read clause.text = some t ∧
      ∀ e' clause', Clause.ofExpr? s columns e' = .ok clause' → clause'.text = clause.text →
        e'.clauseTree? (columns.resolve s) s.parameterPrefix 0 = some t := by
  have hread {e : Expr} {clause : Clause} (h : Clause.ofExpr? s columns e = .ok clause) :
      ∃ t, e.clauseTree? (columns.resolve s) s.parameterPrefix 0 = some t ∧
        ClauseTree.read clause.text = some t := by
    obtain ⟨f, hf, rfl⟩ := map_eq_ok.mp h
    have htree := (Expr.clauseTree?_of_ofExpr? (columns.resolve s) s.parameterPrefix hf 0).1
    have hwritable := ClauseTree.isWritable_of_clauseTree?
      (fun _ hpath => ClauseTree.isWritable_resolve s columns hpath) htree
    have htokens := (f.spells_clause (Settings.isChecked hs) columns).tokens_eq
    have hfrom := ClauseTree.readFrom_tokens hwritable [] {} []
    rw [List.append_nil, ClauseTree.readFrom_nil] at hfrom
    exact ⟨_, htree, by rw [ClauseTree.read, htokens, Option.bind_some, hfrom]⟩
  obtain ⟨t, htree, ht⟩ := hread h
  refine ⟨t, htree, ht, fun e' clause' h' htext => ?_⟩
  obtain ⟨t', htree', ht'⟩ := hread h'
  rw [htext, ht] at ht'
  cases ht'
  exact htree'

/-- A column whose name looks like two, joined by an operator. -/
def joinedColumns : ColumnMap := .ofList [⟨⟨[.field "a"]⟩, "v\" OR (\"w", .integer⟩]

/-- An OR under an AND, with a path on the right and a member that looks like an argument. -/
def joinedFilter : Expr :=
  .logical (.logical (.compare (.member .parameter "a") .equal (.constant (.integer 1))) .either
      (.call (.member .parameter "b') AND ('") "Contains" [.constant (.text "x")]))
    .both (.compare (.constant (.integer 2)) .less (.member .parameter "c"))

def joinedClause : Clause where
  text := "((\"v\"\" OR (\"\"w\" = @p0 OR " ++
    "json_extract(\"data\", '$.\"b'') AND (''\"') LIKE @p1 ESCAPE '\\') AND " ++
    "json_extract(\"data\", '$.c') > @p2)"
  parameters := ⟨[("p0", .integer 1), ("p1", .text "%x%"), ("p2", .integer 2)]⟩

theorem Clause.read_text_joined :
    ({} : Settings).check = .ok () ∧
      Clause.ofExpr? {} joinedColumns joinedFilter = .ok joinedClause ∧
      ClauseTree.read joinedClause.text =
        some (.join (.join (.leaf (.virtual "v\" OR (\"w") (.compare .equal) "p0") .either
            (.leaf (.extract ⟨"json_extract", "data"⟩ ⟨[.field "b') AND ('"]⟩) .like "p1"))
          .both (.leaf (.extract ⟨"json_extract", "data"⟩ ⟨[.field "c"]⟩)
            (.compare .greater) "p2")) := by
  have hcheck : ({} : Settings).check = .ok () := rfl
  have hclause : Clause.ofExpr? {} joinedColumns joinedFilter = .ok joinedClause :=
    toOption_eq_some.mp (by decide +kernel)
  obtain ⟨t, htree, hread, _⟩ := Clause.read_text hcheck hclause
  refine ⟨hcheck, hclause, hread.trans ?_⟩
  rw [← htree]
  decide +kernel

end DocumentQuery
