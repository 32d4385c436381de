import DocumentQuery.Proofs.Filter.Leaves
import DocumentQuery.Proofs.Filter.Reader
import DocumentQuery.Proofs.Table.ColumnMap
import DocumentQuery.Regex.Standard

/-!
# The meaning of a clause

The text of a clause has a truth value on a row, whatever the operators mean
and whatever the truth values are. The virtual columns of a table have a part
in the text only: where a condition reads the value of its path from. A row
whose virtual columns hold what their paths hold cannot tell the difference.

* `Meaning`: what operators, calls and values mean;
* `ColumnRef.value`, `ClauseTree.truth?`, `Clause.truth?`: the value of a reference
  on a row, and the truth value of a tree and of a text;
* `ColumnMap.IsFilledIn`, `ColumnMap.value_resolve`: a row that has the virtual
  columns filled in, on which a path has one value wherever it is read from;
* `Clause.Part`, `Filter.parts`: the text of a clause around its columns;
* `Filter.truth?_clause`: the truth value of a clause is that of its filter;
* `Clause.ofExpr?_columns`: what two clauses of an expression have in common that
  are compiled for different virtual columns.
-/

namespace DocumentQuery

variable {V T : Type} {e : Expr}

/-- What the parts of query text mean. The values and the truth values are of any types, so
there may be a third truth value for what the null value is compared with. -/
structure Meaning (V T : Type) where
  /-- What a value of the caller becomes. -/
  value : Value → V
  /-- The result of a function on the value of a column and a string. -/
  call : String → V → String → V
  compare : Comparison → V → V → T
  like : V → V → T
  join : Connective → T → T → T

namespace Meaning

/-- Whether a value stands in a relation to the value of the caller. -/
def holds (M : Meaning V T) : Relation → V → V → T
  | .compare op => M.compare op
  | .like => M.like

end Meaning

variable (M : Meaning V T) (row : String → V)

/-- The value of a reference on a row, which has a value for each column. -/
def ColumnRef.value : ColumnRef → V
  | .virtual column => row column
  | .extract call path => M.call call.function (row call.column) path.text

/-- The truth value of a tree on a row, if its placeholders are bound. -/
def ClauseTree.truth? (p : Parameters) : ClauseTree → Option T
  | .leaf column relation placeholder =>
    (p.get? placeholder).map fun value => M.holds relation (column.value M row) (M.value value)
  | .join left op right => do
    let l ← left.truth? p
    let r ← right.truth? p
    return M.join op l r

/-- The truth value of a clause on a row: that of the tree which its text is read as. -/
def Clause.truth? (clause : Clause) : Option T :=
  (ClauseTree.read clause.text).bind (·.truth? M row clause.parameters)

/-- The truth value of a filter whose paths have these values. -/
def Filter.truth (value : Path → V) : Filter → T
  | .condition c => M.holds c.relation (value c.path) (M.value c.value)
  | .join left op right => M.join op (left.truth value) (right.truth value)

/-! ## Rows -/

/-- Every virtual column of the row holds the value that the extraction of its path gives. -/
def ColumnMap.IsFilledIn (columns : ColumnMap) (s : Settings) : Prop :=
  ∀ path c, columns.get? path = some c →
    row c.name = (ColumnRef.extract s.extraction path).value M row

variable {M row}

theorem ColumnMap.value_resolve {columns : ColumnMap} {s : Settings}
    (h : columns.IsFilledIn M row s) (path : Path) :
    (columns.resolve s path).value M row = (ColumnRef.extract s.extraction path).value M row := by
  unfold resolve
  split
  · rename_i c hc
    exact h path c hc
  · rfl

/-! ## The text of a clause as a tree -/

/-- If the values of the filter are bound to its placeholders, its tree has its truth value. -/
theorem Filter.truth?_tree {resolve : Path → ColumnRef} {start : String} {p : Parameters}
    (f : Filter) (n : Nat)
    (hp : ∀ i < f.values.length, p.get? (Parameters.nameAt start (n + i)) = f.values[i]?) :
    (f.tree resolve start n).truth? M row p =
      some (f.truth M fun path => (resolve path).value M row) := by
  induction f generalizing n with
  | condition c =>
    have hvalue : p.get? (Parameters.nameAt start n) = some c.value := hp 0 Nat.one_pos
    rw [tree, ClauseTree.truth?, hvalue]
    rfl
  | join left op right ihl ihr =>
    have hvalues : (join left op right).values = left.values ++ right.values :=
      List.map_append
    rw [hvalues, List.length_append] at hp
    have hl := ihl n fun i hi => by
      rw [hp i (by omega), List.getElem?_append_left hi]
    have hr := ihr (n + left.size) fun i hi => by
      rw [Nat.add_assoc, ← length_values, hp _ (by omega),
        List.getElem?_append_right (Nat.le_add_right _ _), Nat.add_sub_cancel_left]
    rw [tree, ClauseTree.truth?, hl, hr]
    rfl

/-- The text of the clause of an expression is read as the tree of its filter. -/
theorem Filter.read_clause [RegexLibrary] {s : Settings} (hs : s.check = .ok ()) (columns : ColumnMap) {f : Filter}
    (h : ofExpr? e = .ok f) :
    ClauseTree.read (f.clause s columns).text =
      some (f.tree (columns.resolve s) s.parameterPrefix 0) := by
  have htree := (Expr.clauseTree?_of_ofExpr? (columns.resolve s) s.parameterPrefix h 0).1
  have hwritable := ClauseTree.isWritable_of_clauseTree?
    (fun _ hpath => ClauseTree.isWritable_resolve s columns hpath) htree
  have hfrom := ClauseTree.readFrom_tokens hwritable [] {} []
  rw [List.append_nil, ClauseTree.readFrom_nil] at hfrom
  rw [ClauseTree.read, (f.spells_clause (Settings.isChecked hs) columns).tokens_eq,
    Option.bind_some, hfrom]

/-- The truth value of a clause is that of its filter, with the paths read where the clause
reads them. -/
theorem Filter.truth?_clause [RegexLibrary] {s : Settings} (hs : s.check = .ok ()) (columns : ColumnMap)
    {f : Filter} (h : ofExpr? e = .ok f) :
    (f.clause s columns).truth? M row =
      some (f.truth M fun path => (columns.resolve s path).value M row) := by
  rw [Clause.truth?, read_clause hs columns h, Option.bind_some]
  refine truth?_tree f 0 fun i hi => ?_
  rw [Nat.zero_add, List.getElem?_eq_getElem hi]
  exact Parameters.get?_number _ _ hi

/-! ## The text around the columns -/

/-- A part of the text of a clause. -/
inductive Clause.Part
  | fixed (text : String)
  /-- Where the value of a path is read from. -/
  | column (path : Path)
  deriving DecidableEq, Repr

namespace Clause.Part

/-- The text of a part. -/
def text (resolve : Path → ColumnRef) : Part → String
  | fixed text => text
  | column path => (resolve path).text

/-- The path whose value a part is about. -/
def path? : Part → Option Path
  | fixed _ => none
  | column path => some path

end Clause.Part

/-- The text of parts. -/
def Clause.textOf (resolve : Path → ColumnRef) (parts : List Part) : String :=
  String.join (parts.map (Part.text resolve))

/-- The parts of the text of a filter whose first condition has the number `n`. -/
def Filter.parts (start : String) (n : Nat) : Filter → List Clause.Part
  | .condition c =>
    [.column c.path, .fixed (c.relation.text "" ("@" ++ Parameters.nameAt start n))]
  | .join left op right =>
    .fixed "(" :: left.parts start n ++ .fixed (" " ++ op.sql ++ " ") ::
      right.parts start (n + left.size) ++ [.fixed ")"]

theorem Relation.text_eq_append (column placeholder : String) (relation : Relation) :
    relation.text column placeholder = column ++ relation.text "" placeholder := by
  cases relation <;> simp only [text, String.append_assoc, String.empty_append]

theorem Filter.textOf_parts (resolve : Path → ColumnRef) (start : String) (n : Nat) (f : Filter) :
    Clause.textOf resolve (f.parts start n) = f.textFrom resolve start n := by
  induction f generalizing n with
  | condition c =>
    rw [textFrom, Relation.text_eq_append]
    simp [Clause.textOf, parts, Clause.Part.text]
  | join left op right ihl ihr =>
    rw [textFrom, ← ihl, ← ihr]
    simp [Clause.textOf, parts, Clause.Part.text, String.append_assoc]

theorem Filter.path?_parts (start : String) (n : Nat) (f : Filter) :
    (f.parts start n).filterMap Clause.Part.path? = f.conditions.map Condition.path := by
  induction f generalizing n with
  | condition c => rfl
  | join left op right ihl ihr =>
    rw [parts, List.filterMap_append, List.filterMap_append, List.filterMap_cons_none rfl,
      List.filterMap_cons_none rfl, ihl, ihr, conditions, List.map_append]
    exact List.append_nil _

/-! ## Other virtual columns -/

/-- Whichever virtual columns a table has, an expression either has the same error or a clause
with the same parameters, of which the text is the same but for the references to columns,
which are those of the paths of the leaves. On a row that has the virtual columns of both
tables filled in, the two clauses have the same truth value. -/
theorem Clause.ofExpr?_columns [RegexLibrary] {s : Settings} (hs : s.check = .ok ()) (columns columns' : ColumnMap)
    (e : Expr) :
    (∃ fault, ofExpr? s columns e = .error fault ∧ ofExpr? s columns' e = .error fault) ∨
      ∃ clause clause', ofExpr? s columns e = .ok clause ∧ ofExpr? s columns' e = .ok clause' ∧
        clause.parameters = clause'.parameters ∧
        (∃ parts : List Part,
          List.Forall₂ (fun leaf path => ∃ c, leaf.IsCondition c ∧ c.path = path) e.leaves
            (parts.filterMap Part.path?) ∧
          clause.text = textOf (columns.resolve s) parts ∧
          clause'.text = textOf (columns'.resolve s) parts) ∧
        ∀ {V T : Type} (M : Meaning V T) (row : String → V),
          columns.IsFilledIn M row s → columns'.IsFilledIn M row s →
            ∃ truth, clause.truth? M row = some truth ∧ clause'.truth? M row = some truth := by
  cases h : Filter.ofExpr? e with
  | error fault => exact .inl ⟨fault, ofExpr?_eq_error.mpr h, ofExpr?_eq_error.mpr h⟩
  | ok f =>
    refine .inr ⟨_, _, map_eq_ok.mpr ⟨f, h, rfl⟩, map_eq_ok.mpr ⟨f, h, rfl⟩, rfl, ?_, ?_⟩
    · refine ⟨f.parts s.parameterPrefix 0, ?_, (f.textOf_parts _ _ _).symm,
        (f.textOf_parts _ _ _).symm⟩
      rw [Filter.path?_parts, List.forall₂_map_right_iff]
      exact (Filter.isCondition_of_ofExpr? h).imp fun _ c hc => ⟨c, hc, rfl⟩
    · intro V T M row hfilled hfilled'
      let extracted (path : Path) : V := (ColumnRef.extract s.extraction path).value M row
      have htruth : (f.clause s columns).truth? M row = some (f.truth M extracted) := by
        rw [Filter.truth?_clause hs columns h, funext (ColumnMap.value_resolve hfilled)]
      have htruth' : (f.clause s columns').truth? M row = some (f.truth M extracted) := by
        rw [Filter.truth?_clause hs columns' h, funext (ColumnMap.value_resolve hfilled')]
      exact ⟨_, htruth, htruth'⟩

/-- A column for the category. -/
def categoryColumns : ColumnMap := .ofList [⟨⟨[.field "Category"]⟩, "vc_Category", .text⟩]

/-- A condition on the category and one on the price. -/
def categoryFilter : Expr :=
  .logical (.compare (.member .parameter "Category") .equal (.constant (.text "Tools"))) .both
    (.compare (.constant (.integer 20)) .less (.member .parameter "Price"))

def extractedClause : Clause where
  text := "(json_extract(\"data\", '$.Category') = @p0 AND json_extract(\"data\", '$.Price') > @p1)"
  parameters := ⟨[("p0", .text "Tools"), ("p1", .integer 20)]⟩

def acceleratedClause : Clause where
  text := "(\"vc_Category\" = @p0 AND json_extract(\"data\", '$.Price') > @p1)"
  parameters := extractedClause.parameters

/-- Documents with a category and without a price, where it is unknown how the null value
compares, and an AND is unknown unless it is false or both its operands are true. -/
def unpricedMeaning : Meaning Value (Option Bool) where
  value v := v
  call _ _ path := if path = "$.Category" then .text "Tools" else .null
  compare op a b := if a.isNull || b.isNull then none else (op.holds a b).toOption
  like _ _ := none
  join op a b :=
    let decided := op == .either
    if a = some decided ∨ b = some decided then some decided
    else if a = none ∨ b = none then none
    else some !decided

def unpricedRow (column : String) : Value := if column = "vc_Category" then .text "Tools" else .null

theorem Clause.ofExpr?_columns_unpriced :
    ({} : Settings).check = .ok () ∧
      Clause.ofExpr? {} .empty categoryFilter = .ok extractedClause ∧
      Clause.ofExpr? {} categoryColumns categoryFilter = .ok acceleratedClause ∧
      categoryColumns.IsFilledIn unpricedMeaning unpricedRow {} ∧
      extractedClause.truth? unpricedMeaning unpricedRow = some none ∧
      acceleratedClause.truth? unpricedMeaning unpricedRow = some none := by
  have hcheck : ({} : Settings).check = .ok () := rfl
  have hextracted : Clause.ofExpr? {} .empty categoryFilter = .ok extractedClause := by
    decide +kernel
  have haccelerated : Clause.ofExpr? {} categoryColumns categoryFilter = .ok acceleratedClause := by
    decide +kernel
  have hempty : ColumnMap.empty.IsFilledIn unpricedMeaning unpricedRow {} :=
    fun path c h => by cases h
  have hfilled : categoryColumns.IsFilledIn unpricedMeaning unpricedRow {} := by
    intro path c h
    obtain rfl := List.mem_singleton.mp (ColumnMap.mem_of_get? h)
    obtain rfl := ColumnMap.path_of_get? h
    decide +kernel
  have hvalue : extractedClause.truth? unpricedMeaning unpricedRow = some none := by decide +kernel
  refine ⟨hcheck, hextracted, haccelerated, hfilled, hvalue, ?_⟩
  rcases Clause.ofExpr?_columns hcheck .empty categoryColumns categoryFilter with
    ⟨fault, h, _⟩ | ⟨clause, clause', h, h', _, _, htruth⟩
  · cases hextracted.symm.trans h
  · cases hextracted.symm.trans h
    cases haccelerated.symm.trans h'
    obtain ⟨truth, hextracted, haccelerated⟩ := htruth unpricedMeaning unpricedRow hempty hfilled
    rw [haccelerated, ← hextracted, hvalue]

end DocumentQuery
