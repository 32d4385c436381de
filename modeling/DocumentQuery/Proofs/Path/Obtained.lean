import DocumentQuery.Proofs.Interchange.Path
import DocumentQuery.Proofs.Path.Canonical
import DocumentQuery.Regex.Standard

/-!
# How a path can be obtained

A path is built from the root step by step, read from a text, found for an
expression, or read from its description. All of these check the names of
members but the last, which checks nothing. So a name that no text can write is
in a path only if it was in a description, and every name can be in one.

* `Path.IsObtained`: the paths to be had if only some descriptions are read;
* `Path.isObtained_iff`: a described path, or the root, with steps that were checked;
* `Path.HasQuotableNames`, `Path.isWritable_iff`: the names that a text can write;
* `Path.names_of_isObtained`: which descriptions spoil the names and the texts of paths.
-/

namespace DocumentQuery.Path

open Interchange (Describes pathText describes_pathText_iff)

variable {given : String → Prop} {p q : Path}

/-- The paths that can be obtained if of all descriptions only those given are read. -/
inductive IsObtained [RegexLibrary] (given : String → Prop) : Path → Prop
  | root : IsObtained given .root
  | field {p q : Path} {name : String} (hp : IsObtained given p) (h : p.field name = .ok q) :
    IsObtained given q
  | index {p : Path} (hp : IsObtained given p) (position : UInt64) :
    IsObtained given (p.index position)
  | parsed {text : String} {p : Path} (h : parse text = .ok p) : IsObtained given p
  | resolved {e : Expr} {p : Path} (h : e.path? = .ok p) : IsObtained given p
  | described {text : String} {p : Path} (htext : given text) (h : Describes text p) :
    IsObtained given p

/-! ## Steps that were checked -/

theorem field_eq_ok {name : String} :
    p.field name = .ok q ↔ checkName name = .ok () ∧ q = ⟨p.segments ++ [.field name]⟩ := by
  rw [field, bind_eq_ok]
  constructor
  · rintro ⟨_, hname, h⟩
    cases h
    exact ⟨hname, rfl⟩
  · rintro ⟨hname, rfl⟩
    exact ⟨(), hname, rfl⟩

/-- Any steps that a path can hold can be added to a path. -/
theorem IsObtained.append [RegexLibrary] {steps : List Segment} (h : p.IsObtained given)
    (hsteps : ∀ step ∈ steps, step.IsWritable) : IsObtained given ⟨p.segments ++ steps⟩ := by
  induction steps generalizing p with
  | nil => rwa [List.append_nil]
  | cons step steps ih =>
    obtain ⟨hstep, hsteps⟩ := List.forall_mem_cons.mp hsteps
    have hnext : IsObtained given ⟨p.segments ++ [step]⟩ := by
      cases step with
      | field name => exact .field h (field_eq_ok.mpr ⟨hstep, rfl⟩)
      | index position => exact .index h position
    have hmore := ih hnext hsteps
    rwa [List.append_assoc, List.singleton_append] at hmore

/-- The paths obtained are the described ones and the root, with any steps that a path can hold
after them. -/
theorem isObtained_iff [RegexLibrary] :
    p.IsObtained given ↔
      ∃ start steps, (start = .root ∨ ∃ text, given text ∧ Describes text start) ∧
        (∀ step ∈ steps, step.IsWritable) ∧ p = ⟨start.segments ++ steps⟩ := by
  constructor
  · intro h
    induction h with
    | root => exact ⟨.root, [], .inl rfl, List.forall_mem_nil _, rfl⟩
    | field _ h ih =>
      obtain ⟨start, steps, hstart, hsteps, rfl⟩ := ih
      obtain ⟨hname, rfl⟩ := field_eq_ok.mp h
      refine ⟨start, steps ++ [_], hstart, ?_, by rw [List.append_assoc]⟩
      exact List.forall_mem_append.mpr ⟨hsteps, List.forall_mem_singleton.mpr hname⟩
    | index _ position ih =>
      obtain ⟨start, steps, hstart, hsteps, rfl⟩ := ih
      refine ⟨start, steps ++ [.index position], hstart, ?_, by rw [index, List.append_assoc]⟩
      exact List.forall_mem_append.mpr ⟨hsteps, List.forall_mem_singleton.mpr trivial⟩
    | @parsed text p h => exact ⟨.root, p.segments, .inl rfl, isWritable_of_parse h, rfl⟩
    | @resolved e p h => exact ⟨.root, p.segments, .inl rfl, Expr.isWritable_path? h, rfl⟩
    | @described text p htext h =>
      refine ⟨p, [], .inr ⟨text, htext, h⟩, List.forall_mem_nil _, ?_⟩
      rw [List.append_nil]
  · rintro ⟨start, steps, hstart, hsteps, rfl⟩
    rcases hstart with rfl | ⟨text, htext, h⟩
    · exact IsObtained.root.append hsteps
    · exact (IsObtained.described htext h).append hsteps

/-! ## The names -/

/-- Every member name of a path can stand between the quotes of its text. -/
def HasQuotableNames (p : Path) : Prop :=
  ∀ name, .field name ∈ p.segments →
    name ≠ "" ∧ ∀ c ∈ name.toList, c ≠ '"' ∧ Text.isControl c = false

theorem isWritable_iff : p.IsWritable ↔ p.HasQuotableNames := by
  have hname (name : String) : checkName name = .ok () ↔
      name ≠ "" ∧ ∀ c ∈ name.toList, c ≠ '"' ∧ Text.isControl c = false := by
    rw [checkName_eq_ok, isName, Bool.and_eq_true, List.all_eq_true, Bool.not_eq_true',
      List.isEmpty_eq_false_iff, ne_eq, String.toList_eq_nil_iff]
    simp only [isNameChar, Bool.and_eq_true, bne_iff_ne, Bool.not_eq_true']
  constructor
  · exact fun h name hmem => (hname name).mp (h _ hmem)
  · intro h segment hmem
    cases segment with
    | field name => exact (hname name).mpr (h name hmem)
    | index position => exact trivial

/-- If all paths in descriptions can be written, all that are obtained can. -/
theorem IsObtained.isWritable [RegexLibrary] (h : p.IsObtained given)
    (hgiven : ∀ text q, given text → Describes text q → q.HasQuotableNames) : p.IsWritable := by
  obtain ⟨start, steps, hstart, hsteps, rfl⟩ := isObtained_iff.mp h
  refine List.forall_mem_append.mpr ⟨?_, hsteps⟩
  rcases hstart with rfl | ⟨text, htext, h⟩
  · exact List.forall_mem_nil _
  · exact isWritable_iff.mpr (hgiven text start htext h)

theorem eq_of_text_eq (hp : p.IsWritable) (hq : q.IsWritable) (h : p.text = q.text) : p = q := by
  have hparse := parse_text hp
  rw [h, parse_text hq] at hparse
  exact (Except.ok.inj hparse).symm

/-- The paths obtained have names that can stand between quotes exactly if all paths described have,
and no two of them then have one text. Without descriptions all such paths are obtained and no
others. But every path is obtained from a description of its own, whatever its names are. -/
theorem names_of_isObtained [RegexLibrary] (given : String → Prop) :
    ((∀ p : Path, p.IsObtained given → p.HasQuotableNames) ↔
        ∀ text p, given text → Describes text p → p.HasQuotableNames) ∧
      ((∀ text p, given text → Describes text p → p.HasQuotableNames) →
        ∀ p q : Path, p.IsObtained given → q.IsObtained given → p ≠ q → p.text ≠ q.text) ∧
      (∀ p : Path, p.IsObtained (fun _ => False) ↔ p.HasQuotableNames) ∧
      ∀ p : Path, p.IsObtained (· = pathText p) := by
  refine ⟨⟨fun h text p htext hp => h p (.described htext hp), ?_⟩, ?_, fun p => ?_,
    fun p => ?_⟩
  · exact fun hgiven p hp => isWritable_iff.mp (hp.isWritable hgiven)
  · exact fun hgiven p q hp hq hne htext =>
      hne (eq_of_text_eq (hp.isWritable hgiven) (hq.isWritable hgiven) htext)
  · rw [← isWritable_iff]
    constructor
    · exact fun h => h.isWritable fun _ _ hnone => hnone.elim
    · exact fun h => isObtained_iff.mpr ⟨.root, p.segments, .inl rfl, h, rfl⟩
  · exact .described rfl (describes_pathText_iff.mpr rfl)

/-- Two members, whose names stand between quotes. -/
def quotedPath : Path := ⟨[.field "a b", .field "c d"]⟩

/-- A description of a path with names that can stand between quotes. -/
theorem names_of_isObtained_quoted :
    (∀ text p, text = pathText quotedPath → Describes text p → p.HasQuotableNames) ∧
      quotedPath.IsObtained (· = pathText quotedPath) ∧
      (quotedPath.index 0).IsObtained (· = pathText quotedPath) ∧
      quotedPath.text ≠ (quotedPath.index 0).text := by
  obtain ⟨_, hdistinct, _, hown⟩ := names_of_isObtained (· = pathText quotedPath)
  have hgiven : ∀ text p, text = pathText quotedPath → Describes text p → p.HasQuotableNames := by
    rintro _ p rfl hp
    cases describes_pathText_iff.mp hp
    exact isWritable_iff.mp (by decide)
  have hquoted := hown quotedPath
  exact ⟨hgiven, hquoted, hquoted.index 0,
    hdistinct hgiven _ _ hquoted (hquoted.index 0) (by decide)⟩

/-- One member with quotes in its name. -/
def quotingPath : Path := ⟨[.field "a b\".\"c d"]⟩

/-- Its description. -/
def quotingText : String := "\x7b\"segments\":[\x7b\"Field\":\"a b\\\".\\\"c d\"\x7d]\x7d"

/-- A description brings in a name with quotes, and the path has the text of another. -/
theorem isObtained_quotingPath :
    Describes quotingText quotingPath ∧
      quotingPath.IsObtained (fun _ => True) ∧ ¬quotingPath.HasQuotableNames ∧
      parse "$.\"a b\".\"c d\"" = .ok quotedPath ∧ quotedPath.IsObtained (fun _ => True) ∧
      quotingPath ≠ quotedPath ∧ quotingPath.text = quotedPath.text := by
  have htext : pathText quotingPath = quotingText := rfl
  have hdescribed : Describes quotingText quotingPath := by
    rw [← htext]
    exact describes_pathText_iff.mpr rfl
  have hparse : parse quotedPath.text = .ok quotedPath := parse_text (by decide)
  refine ⟨hdescribed, .described trivial hdescribed, fun h => ?_, hparse, .parsed hparse,
    by decide, rfl⟩
  exact absurd (isWritable_iff.mpr h) (by decide)

end DocumentQuery.Path
