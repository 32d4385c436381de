import DocumentQuery.Expr.Path

/-!
# Projections

An object construction whose fields all read document paths selects these
paths under the names of the fields.

* `Projection`: the fields and their paths, in the order of declaration;
* `Projection.ofExpr?`: the projection that an expression is.
-/

namespace DocumentQuery

/-- The paths that are selected, each under the name of its field. -/
structure Projection where
  fields : List (String × Path)
  deriving DecidableEq, Repr, Inhabited

namespace Projection

/-- The number of fields. -/
def size (p : Projection) : Nat := p.fields.length

/-- The names of the fields. -/
def names (p : Projection) : List String := p.fields.map (·.1)

/-- The path of a field. -/
def get? (p : Projection) (field : String) : Option Path := p.fields.lookup field

/-- Whether the name of a field can be the name of a result column. -/
def isAlias (field : String) : Bool := !field.isEmpty && !field.toList.any Text.isControl

variable [RegexLibrary]

/-- The path of a binding that comes after the fields `earlier`. -/
def bindingPath (earlier : List String) (field : String) (source : Expr) : Except Error Path :=
  if !isAlias field then .error (.projection field .unusableAlias)
  else if earlier.contains field then .error (.projection field .repeated)
  else if !source.isDocumentPath then .error (.projection field (.notPath source.kind))
  else source.path?

/-- The fields of bindings that come after the fields `earlier`. -/
def fieldsAfter (earlier : List String) :
    List (String × Expr) → Except Error (List (String × Path))
  | [] => .ok []
  | (field, source) :: rest => do
    let path ← bindingPath earlier field source
    let fields ← fieldsAfter (field :: earlier) rest
    return (field, path) :: fields

/-- The projection of an expression. The first binding that fails decides the error. -/
def ofExpr? : Expr → Except Error Projection
  | .construct _ [] => .error (.expression .noBindings)
  | .construct _ bindings => (fieldsAfter [] bindings).map (⟨·⟩)
  | e => .error (.expression (.notProjection e.kind))

end Projection

end DocumentQuery
