import DocumentQuery.Value.Basic

/-!
# Parameters

The values of a statement by name, in the order in which the names first came.

* `Parameters`: the list of names and values;
* `Parameters.bind`: a value given to a name;
* `Parameters.get?`, `Parameters.position?`: looking up a name;
* `Parameters.number`: values under numbered names.
-/

namespace DocumentQuery

/-- The values of a statement by name. -/
structure Parameters where
  entries : List (String × Value)
  deriving DecidableEq, Repr, Inhabited

namespace Parameters

/-- No parameters. -/
def empty : Parameters := ⟨[]⟩

/-- The number of parameters. -/
def size (p : Parameters) : Nat := p.entries.length

/-- The names in order. -/
def names (p : Parameters) : List String := p.entries.map (·.1)

/-- The values in order. -/
def values (p : Parameters) : List Value := p.entries.map (·.2)

/-- The value of a name. -/
def get? (p : Parameters) (name : String) : Option Value := p.entries.lookup name

/-- The position of a name, counted from zero. -/
def position? (p : Parameters) (name : String) : Option Nat := p.names.idxOf? name

/-- The entries with a value for a name: in the place of its earlier value, or at the end. -/
def bindEntry (name : String) (value : Value) : List (String × Value) → List (String × Value)
  | [] => [(name, value)]
  | (n, v) :: rest =>
    if n = name then (n, value) :: rest else (n, v) :: bindEntry name value rest

/-- The parameters with a value for a name. -/
def bind (p : Parameters) (name : String) (value : Value) : Parameters :=
  ⟨bindEntry name value p.entries⟩

/-- The parameters that result from binding each entry in turn. -/
def ofList (entries : List (String × Value)) : Parameters :=
  entries.foldl (fun p e => p.bind e.1 e.2) empty

/-- The name of the `n`-th parameter. -/
def nameAt (start : String) (n : Nat) : String := start ++ toString n

/-- Values under the names `start0`, `start1`, …. -/
def number (start : String) (values : List Value) : Parameters :=
  values.foldl (fun p value => p.bind (nameAt start p.size) value) empty

/-- Equality: the same names in the same order, with equal values. -/
def same (p q : Parameters) : Bool :=
  p.names == q.names && (List.zipWith Value.equals p.values q.values).all id

end Parameters

end DocumentQuery
