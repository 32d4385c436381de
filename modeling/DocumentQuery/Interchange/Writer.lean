import DocumentQuery.Interchange.Reader

/-!
# Writing descriptions of columns

* `Interchange.object`: a record with its fields in order;
* `pathText`, `affinityText`, `columnText`, `virtualColumnText`,
  `columnSpecText`: the descriptions as JSON.
-/

namespace DocumentQuery.Interchange

/-- An object of members whose values are JSON texts. -/
def object (members : List (String × String)) : String :=
  "\x7b" ++ ",".intercalate (members.map fun m => Json.quoted m.1 ++ ":" ++ m.2) ++ "\x7d"

/-- A step of a path. -/
def segmentText : Path.Segment → String
  | .field name => object [("Field", Json.quoted name)]
  | .index position => object [("Index", toString position.toNat)]

/-- A path. -/
def pathText (path : Path) : String :=
  object [("segments", "[" ++ ",".intercalate (path.segments.map segmentText) ++ "]")]

/-- A type. -/
def affinityText (affinity : Affinity) : String := Json.quoted (affinityName affinity)

/-- A truth value. -/
def boolText (b : Bool) : String := if b then "true" else "false"

/-- A column as a store reports it. -/
def columnText (c : Column) : String :=
  object [("name", Json.quoted c.name), ("declared_type", Json.quoted c.declaredType),
    ("is_hidden", boolText c.isHidden),
    ("generation_expression", match c.expression with
      | some expression => Json.quoted expression
      | none => "null")]

/-- A virtual column. -/
def virtualColumnText (c : VirtualColumn) : String :=
  object [("path", pathText c.path), ("column_name", Json.quoted c.name),
    ("column_type", affinityText c.affinity)]

/-- A requested virtual column. -/
def columnSpecText (spec : ColumnSpec) : String :=
  object [("path", pathText spec.path), ("column_type", affinityText spec.affinity),
    ("indexed", boolText spec.indexed)]

end DocumentQuery.Interchange
