import DocumentQuery.Expr.Path
import DocumentQuery.Path.Printer
import DocumentQuery.Proofs.Path.Grammar

/-!
# Paths read back from their text

The text of a path is read back as the same path, as long as a path can hold
the names of its members. The paths of expressions hold no others.

* `Path.IsWritable`: every member name can be written between quotes;
* `Path.spelledAs_map_chars`: the text of a path spells each step;
* `Path.parse_text`: the path that is read back;
* `Expr.isWritable_path?`, `Expr.isDocumentPath_of_path?`: the path of an expression,
  and the expressions that have one.
-/

namespace DocumentQuery

namespace Path

/-! ## One step -/

/-- A step that a path can hold: the name of a member can stand between quotes. -/
def Segment.IsWritable : Segment → Prop
  | .field name => checkName name = .ok ()
  | .index _ => True

instance : DecidablePred Segment.IsWritable
  | .field name => inferInstanceAs (Decidable (checkName name = .ok ()))
  | .index _ => .isTrue trivial

theorem Segment.not_isBlank_getLast?_chars (segment : Segment) :
    ∀ c ∈ segment.chars.getLast?, Text.isBlank c = false := by
  cases segment with
  | field name =>
    rw [chars]
    split
    · rename_i hword
      intro c hc
      rcases List.mem_cons.mp (List.mem_of_getLast? hc) with rfl | hc
      · decide
      · exact Text.not_isBlank_of_wordChar (Text.isWordChar_of_mem hword hc)
    · intro c hc
      rw [List.getLast?_concat] at hc
      cases hc
      decide
  | index position =>
    intro c hc
    rw [chars, List.getLast?_concat] at hc
    cases hc
    decide

/-- The text of a step is one of its spellings. -/
theorem Segment.spelledAs_chars {segment : Segment} (h : segment.IsWritable) :
    segment.SpelledAs segment.chars := by
  cases segment with
  | field name =>
    have hname := checkName_eq_ok.mp h
    rw [chars]
    split
    · rename_i hword
      exact .bare hname (Text.not_mem_of_isWord hword (by decide))
        (Text.not_mem_of_isWord hword (by decide))
    · exact .quoted hname
  | index position =>
    exact @Segment.SpelledAs.index position [] _ (.inl rfl) Nat.toDigits_ne_nil
      (Text.all_isDigit_toDigits _) Nat.ofDigitChars_ten_toDigits

/-- A path can hold every name that is spelled in a text. -/
theorem Segment.SpelledAs.isWritable {segment : Segment} {spelling : List Char}
    (h : segment.SpelledAs spelling) : segment.IsWritable := by
  cases h with
  | quoted hname => exact checkName_eq_ok.mpr hname
  | bare hname _ _ => exact checkName_eq_ok.mpr hname
  | index _ _ _ _ => exact trivial

/-! ## Whole paths -/

theorem spelledAs_map_chars {segments : List Segment}
    (h : ∀ segment ∈ segments, segment.IsWritable) :
    List.Forall₂ Segment.SpelledAs segments (segments.map Segment.chars) := by
  rw [List.forall₂_map_right_iff, List.forall₂_same]
  exact fun segment hmem => Segment.spelledAs_chars (h segment hmem)

/-- A path that has a text which can be read back. -/
def IsWritable (p : Path) : Prop := ∀ segment ∈ p.segments, segment.IsWritable

instance : DecidablePred IsWritable :=
  fun p => inferInstanceAs (Decidable (∀ segment ∈ p.segments, segment.IsWritable))

theorem not_isBlank_getLast?_chars (p : Path) :
    ∀ c ∈ p.chars.getLast?, Text.isBlank c = false := by
  have h (segments : List Segment) :
      ∀ c ∈ (segments.flatMap Segment.chars).getLast?, Text.isBlank c = false := by
    induction segments with
    | nil => exact fun c hc => nomatch hc
    | cons segment segments ih =>
      intro c hc
      rw [List.flatMap_cons, List.getLast?_append, Option.mem_def, Option.or_eq_some_iff] at hc
      rcases hc with hc | ⟨_, hc⟩
      · exact ih c hc
      · exact segment.not_isBlank_getLast?_chars c hc
  intro c hc
  rw [chars, List.getLast?_cons] at hc
  cases hlast : (p.segments.flatMap Segment.chars).getLast? with
  | none =>
    rw [hlast] at hc
    cases hc
    decide
  | some d =>
    rw [hlast] at hc
    cases hc
    exact h _ d hlast

/-- The text of a path is read back as the path. -/
theorem parse_text {p : Path} (h : p.IsWritable) : parse p.text = .ok p := by
  have htrim : Text.trim p.text.toList = '$' :: (p.segments.map Segment.chars).flatten := by
    rw [text, String.toList_ofList, Text.trim_eq_self _ p.not_isBlank_getLast?_chars, chars,
      List.flatMap_def]
    exact fun c hc => by cases hc; decide
  rw [parse, htrim]
  exact map_eq_ok.mpr ⟨p.segments, readSegments_eq_ok.mpr ⟨_, rfl, spelledAs_map_chars h⟩, rfl⟩

end Path

/-- The path of an expression has only member names that were checked. -/
theorem Expr.isWritable_path? [RegexLibrary] {e : Expr} {p : Path} (h : e.path? = .ok p) : p.IsWritable := by
  suffices hfrom : ∀ (whole e : Expr) (steps : List Path.Segment),
      (∀ segment ∈ steps, segment.IsWritable) → pathFrom whole e steps = .ok p → p.IsWritable from
    hfrom e e [] (fun _ hs => nomatch hs) h
  intro whole e steps hsteps h
  fun_induction pathFrom whole e steps with
  | case1 steps =>
    cases h
    exact hsteps
  | case2 => cases h
  | case3 steps target name hname ih => exact ih (List.forall_mem_cons.mpr ⟨hname, hsteps⟩) h
  | case4 => cases h
  | case5 steps target index position _ ih =>
    exact ih (List.forall_mem_cons.mpr ⟨trivial, hsteps⟩) h
  | case6 => cases h

/-- Only a chain of accesses to the document has a path. -/
theorem Expr.isDocumentPath_of_path? [RegexLibrary] {e : Expr} {p : Path} (h : e.path? = .ok p) :
    e.isDocumentPath = true := by
  suffices hfrom : ∀ (whole e : Expr) (steps : List Path.Segment),
      pathFrom whole e steps = .ok p → e.isDocumentPath = true from hfrom e e [] h
  intro whole e steps h
  fun_induction pathFrom whole e steps with
  | case1 => rfl
  | case2 => cases h
  | case3 steps target name _ ih => exact ih h
  | case4 => cases h
  | case5 steps target index position _ ih => exact ih h
  | case6 => cases h

end DocumentQuery
