import DocumentQuery.Interchange.Writer
import DocumentQuery.Proofs.Json.Written

/-!
# Paths read back from their descriptions

Nothing is checked in a description, and every character has a place in a JSON
string, so every path has a description whatever the names in it are.

* `Interchange.writtenPath`: what the description of a path is by the grammar of JSON;
* `Interchange.spells_pathText`, `Interchange.readPath_writtenPath`: that it is one, and
  that it is read as the path;
* `Interchange.Describes`, `Interchange.describes_pathText_iff`: the texts that describe a path.
-/

namespace DocumentQuery.Interchange

open Json (Spells SpellsMember Written piece)

/-- A record by the grammar of JSON. -/
def writtenObject (members : List (String × Written)) : Written :=
  .object (members.map fun m => (m.1.toList.map piece, m.2))

/-- A step by the grammar of JSON. -/
def writtenSegment : Path.Segment → Written
  | .field name => writtenObject [("Field", .string (name.toList.map piece))]
  | .index position => writtenObject [("Index", .number (Json.naturalNumeral position.toNat))]

/-- A path by the grammar of JSON. -/
def writtenPath (p : Path) : Written :=
  writtenObject [("segments", .array (p.segments.map writtenSegment))]

/-! ## From the path to the text -/

/-- A member is written by its name and its text. -/
theorem spells_object {written : List (String × Written)} {members : List (String × String)}
    (h : List.Forall₂ (fun w m => w.1 = m.1 ∧ Spells w.2 m.2.toList) written members) :
    Spells (writtenObject written) (object members).toList := by
  have hmembers : List.Forall₂ SpellsMember (written.map fun w => (w.1.toList.map piece, w.2))
      (members.map fun m => (Json.quoted m.1).toList ++ ':' :: m.2.toList) := by
    rw [List.forall₂_map_left_iff, List.forall₂_map_right_iff]
    refine h.imp fun w m hm => ?_
    rw [← hm.1]
    exact .intro w.1 hm.2
  have htext : (object members).toList = '\x7b' :: ([','].intercalate
      (members.map fun m => (Json.quoted m.1).toList ++ ':' :: m.2.toList) ++ ['\x7d']) := by
    simp [object, String.toList_intercalate, Function.comp_def]
  rw [htext]
  exact Json.spells_object hmembers

theorem spells_segmentText (segment : Path.Segment) :
    Spells (writtenSegment segment) (segmentText segment).toList := by
  cases segment with
  | field name => exact spells_object (.cons ⟨rfl, Json.spells_quoted name⟩ .nil)
  | index position =>
    refine spells_object (.cons ⟨rfl, ?_⟩ .nil)
    rw [Nat.toString_eq_ofList_toDigits, String.toList_ofList]
    exact Json.spells_toDigits position.toNat

theorem spells_pathText (p : Path) : Spells (writtenPath p) (pathText p).toList := by
  have hitems : List.Forall₂ Spells (p.segments.map writtenSegment)
      ((p.segments.map segmentText).map String.toList) := by
    rw [List.map_map, List.forall₂_map_left_iff, List.forall₂_map_right_iff, List.forall₂_same]
    exact fun segment _ => spells_segmentText segment
  refine spells_object (.cons ⟨rfl, ?_⟩ .nil)
  simp only [String.toList_append, String.toList_intercalate]
  exact Json.spells_array hitems

/-! ## From the text to the path -/

theorem readString_written (s : String) : readString (.string (s.toList.map piece)) = some s := by
  rw [readString, Json.text?_map_piece, Option.map_some, String.ofList_toList]

theorem readNatural_written (n : UInt64) :
    readNatural (.number (Json.naturalNumeral n.toNat)) = some n := by
  rw [readNatural, Json.number?_naturalNumeral]

theorem alternative_writtenObject (name : String) (value : Written) :
    alternative (writtenObject [(name, value)]) = some (name, value) := by
  rw [writtenObject, List.map_singleton, alternative, Json.text?_map_piece, Option.map_some,
    String.ofList_toList]

theorem fieldMembers_written (fields : List String) (name : String) (value : Written) :
    fieldMembers fields [(name.toList.map piece, value)] =
      some (if fields.contains name then [(name, value)] else []) := by
  simp only [fieldMembers, Json.text?_map_piece, Option.bind_eq_bind, Option.bind_some,
    String.ofList_toList]
  cases fields.contains name <;> rfl

theorem record_writtenObject (name : String) (value : Written) :
    record [(name, false)] (writtenObject [(name, value)]) = some [value] := by
  simp [record, writtenObject, fieldMembers_written]

/-- An object with one member lacks every other field. -/
theorem record_eq_none {name other : String} (h : name ≠ other) (fields : List (String × Bool))
    (value : Written) :
    record ((name, false) :: fields) (writtenObject [(other, value)]) = none := by
  have hlookup (found : Bool) : (if found then [(other, value)] else []).lookup name = none := by
    cases found with
    | false => rfl
    | true => simp [List.lookup_cons, beq_eq_false_iff_ne.mpr h]
  simp only [record, writtenObject, List.map_singleton, fieldMembers_written, Option.bind_eq_bind,
    Option.bind_some, List.mapM_cons, hlookup]
  rfl

theorem readSegment_writtenSegment (segment : Path.Segment) :
    readSegment (writtenSegment segment) = some segment := by
  cases segment with
  | field name =>
    simp only [readSegment, writtenSegment, alternative_writtenObject, Option.bind_eq_bind,
      Option.bind_some, readString_written]
    rfl
  | index position =>
    simp only [readSegment, writtenSegment, alternative_writtenObject, Option.bind_eq_bind,
      Option.bind_some, readNatural_written]
    rfl

theorem mapM_readSegment (segments : List Path.Segment) :
    (segments.map writtenSegment).mapM readSegment = some segments := by
  induction segments with
  | nil => rfl
  | cons segment segments ih =>
    rw [List.map_cons, List.mapM_cons, readSegment_writtenSegment, ih]
    rfl

theorem readPath_writtenPath (p : Path) : readPath (writtenPath p) = some p := by
  simp only [readPath, writtenPath, record_writtenObject, Option.bind_eq_bind, Option.bind_some,
    readList, mapM_readSegment]
  rfl

/-! ## Descriptions -/

/-- A text that describes a path, or a column or a specification with the path. -/
def Describes (text : String) (p : Path) : Prop :=
  ∃ written, Written.read? text = some written ∧
    (readPath written = some p ∨ (∃ c, readVirtualColumn written = some c ∧ c.path = p) ∨
      ∃ spec, readColumnSpec written = some spec ∧ spec.path = p)

/-- Every path whatever has a description, which describes no other path. -/
theorem describes_pathText_iff {p q : Path} : Describes (pathText p) q ↔ q = p := by
  have hread := Json.read?_of_spells (spells_pathText p)
  constructor
  · rintro ⟨written, hwritten, hpath⟩
    rw [hread] at hwritten
    cases hwritten
    rcases hpath with hpath | ⟨c, hcolumn, _⟩ | ⟨spec, hspec, _⟩
    · rw [readPath_writtenPath] at hpath
      exact (Option.some.inj hpath).symm
    · rw [readVirtualColumn, writtenPath, record_eq_none (by decide)] at hcolumn
      cases hcolumn
    · rw [readColumnSpec, writtenPath, record_eq_none (by decide)] at hspec
      cases hspec
  · rintro rfl
    exact ⟨_, hread, .inl (readPath_writtenPath q)⟩

end DocumentQuery.Interchange
