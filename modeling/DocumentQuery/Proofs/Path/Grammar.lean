import DocumentQuery.Path.Parser
import DocumentQuery.Proofs.Result
import DocumentQuery.Proofs.Text.Words

/-!
# The grammar of paths

The texts of a path are a dollar sign and a spelling of each step, with any
blanks around it all. A member can be spelled with quotes and, if no step can
begin inside its name, without; a position with a plus sign and zeros before
its digits.

* `Path.Segment.SpelledAs`: the spellings of a step;
* `Path.exists_spelling`, `Path.Segment.SpelledAs.readSegments`: what is read at one
  step is a spelling of it, and every spelling is read;
* `Path.readSegments_eq_ok`: the same step by step;
* `Path.parse_eq_ok_iff_spelled`: the texts of a path are those that are read as it.
-/

namespace DocumentQuery.Path

variable {fault : PathCause → Error} {c : Char} {cs rest spelling : List Char} {segment : Segment}

/-- The spellings of a step. A name that is not in quotes would end at a dot or an opening
bracket. -/
inductive Segment.SpelledAs : Segment → List Char → Prop
  | quoted {name : String} (hname : isName name.toList = true) :
    SpelledAs (.field name) ('.' :: '"' :: name.toList ++ ['"'])
  | bare {name : String} (hname : isName name.toList = true) (hdot : '.' ∉ name.toList)
    (hbracket : '[' ∉ name.toList) : SpelledAs (.field name) ('.' :: name.toList)
  | index {position : UInt64} {plus digits : List Char} (hplus : plus = [] ∨ plus = ['+'])
    (hne : digits ≠ []) (hdigits : digits.all Char.isDigit = true)
    (hvalue : Nat.ofDigitChars 10 digits 0 = position.toNat) :
    SpelledAs (.index position) ('[' :: (plus ++ digits) ++ [']'])

/-! ## Names -/

theorem checkName_eq_ok {name : String} : checkName name = .ok () ↔ isName name.toList = true := by
  have hempty : name.toList.isEmpty = name.isEmpty := by
    rw [Bool.eq_iff_iff, List.isEmpty_iff, String.isEmpty_iff, String.toList_eq_nil_iff]
  rw [checkName, isName, hempty]
  cases name.isEmpty <;> cases name.toList.all isNameChar <;> simp

theorem memberStep_eq_ok {name : List Char} {step : Segment × List Char} :
    memberStep name rest = .ok step ↔
      isName name = true ∧ step = (.field (String.ofList name), rest) := by
  have hname := @checkName_eq_ok (String.ofList name)
  rw [String.toList_ofList] at hname
  rw [memberStep, bind_eq_ok, ← hname]
  constructor
  · rintro ⟨_, hcheck, ⟨⟩⟩
    exact ⟨hcheck, rfl⟩
  · rintro ⟨hcheck, rfl⟩
    exact ⟨(), hcheck, rfl⟩

theorem ne_quote_of_isName {name : List Char} (h : isName name = true) : ∀ d ∈ name, d ≠ '"' := by
  intro d hd
  have hall := List.all_eq_true.mp (Bool.and_eq_true_iff.mp h).2 d hd
  exact bne_iff_ne.mp (Bool.and_eq_true_iff.mp hall).1

theorem memberStep_toList {name : String} (h : isName name.toList = true) (rest : List Char) :
    memberStep name.toList rest = .ok (.field name, rest) :=
  memberStep_eq_ok.mpr ⟨h, by rw [String.ofList_toList]⟩

theorem isBreak_iff : isBreak c = true ↔ c = '.' ∨ c = '[' := by
  rw [isBreak, Bool.or_eq_true, beq_iff_eq, beq_iff_eq]

/-! ## One step -/

/-- A step that is read is spelled by what was read. -/
theorem exists_spelling {step : Segment × List Char} (h : readSegment fault c cs = .ok step) :
    ∃ spelling, step.1.SpelledAs spelling ∧ c :: cs = spelling ++ step.2 := by
  unfold readSegment at h
  split at h
  · rename_i hdot
    subst hdot
    split at h
    -- A member in quotes.
    · rename_i cs
      split at h
      · cases h
      · rename_i d rest hrest
        obtain ⟨hname, rfl⟩ := memberStep_eq_ok.mp h
        have hspelled := @Segment.SpelledAs.quoted (String.ofList (cs.takeWhile (· != '"')))
          (by rwa [String.toList_ofList])
        refine ⟨_, hspelled, ?_⟩
        conv_lhs => rw [Text.eq_append_of_dropWhile hrest]
        simp
    -- A member without quotes: it has none of the characters at which a step can begin.
    · split at h
      · cases h
      · obtain ⟨hname, rfl⟩ := memberStep_eq_ok.mp h
        have hspelled := @Segment.SpelledAs.bare (String.ofList (cs.takeWhile (!isBreak ·)))
          (by rwa [String.toList_ofList])
        rw [String.toList_ofList] at hspelled
        have hbreak {d : Char} (hd : isBreak d = true) : d ∉ cs.takeWhile (!isBreak ·) := by
          intro hmem
          have hnot := List.all_eq_true.mp List.all_takeWhile d hmem
          rw [hd] at hnot
          cases hnot
        refine ⟨_, hspelled (hbreak rfl) (hbreak rfl), ?_⟩
        rw [List.cons_append, List.takeWhile_append_dropWhile]
  · split at h
    · rename_i hbracket
      subst hbracket
      split at h
      · cases h
      · rename_i d rest hrest
        split at h
        · cases h
        · rename_i position hposition
          cases h
          obtain ⟨plus, digits, hread, hplus, hne, hdigits, hvalue⟩ :=
            Text.natural64?_eq_some.mp hposition
          refine ⟨_, .index hplus hne hdigits hvalue, ?_⟩
          conv_lhs => rw [Text.eq_append_of_dropWhile hrest, hread]
          simp
    · cases h

theorem readSegment_quoted {name : String} (h : isName name.toList = true) (rest : List Char) :
    readSegment fault '.' ('"' :: (name.toList ++ '"' :: rest)) = .ok (.field name, rest) := by
  have hall : name.toList.all (· != '"') = true :=
    List.all_eq_true.mpr fun d hd => bne_iff_ne.mpr (ne_quote_of_isName h d hd)
  have hquote : ∀ d ∈ ('"' :: rest).head?, (d != '"') = false := by simp
  simp only [readSegment, if_pos, Text.dropWhile_run hall hquote, Text.takeWhile_run hall hquote,
    memberStep_toList h]

theorem readSegment_bare {name : String} (h : isName name.toList = true)
    (hname : ∀ d ∈ name.toList, isBreak d = false) (hrest : ∀ d ∈ rest.head?, isBreak d = true) :
    readSegment fault '.' (name.toList ++ rest) = .ok (.field name, rest) := by
  have hall : name.toList.all (!isBreak ·) = true :=
    List.all_eq_true.mpr fun d hd => by rw [hname d hd, Bool.not_false]
  have hbreak : ∀ d ∈ rest.head?, (!isBreak d) = false := fun d hd => by
    rw [hrest d hd, Bool.not_true]
  have hdrop := Text.dropWhile_run hall hbreak
  have htake := Text.takeWhile_run hall hbreak
  have hstep := memberStep_toList h rest
  cases hl : name.toList with
  | nil =>
    rw [hl] at h
    cases h
  | cons d ds =>
    have hd : d ≠ '"' := ne_quote_of_isName h d (by rw [hl]; exact List.mem_cons_self)
    rw [hl] at hdrop htake hstep
    rw [List.cons_append] at hdrop htake ⊢
    simp [readSegment, hd, htake, hdrop, hstep]

theorem readSegment_index {digits : List Char} {position : UInt64}
    (h : Text.natural64? digits = some position) (hclose : ∀ d ∈ digits, d ≠ ']')
    (rest : List Char) :
    readSegment fault '[' (digits ++ ']' :: rest) = .ok (.index position, rest) := by
  have hall : digits.all (· != ']') = true :=
    List.all_eq_true.mpr fun d hd => bne_iff_ne.mpr (hclose d hd)
  have hstop : ∀ d ∈ (']' :: rest).head?, (d != ']') = false := by simp
  simp only [readSegment, Text.dropWhile_run hall hstop, Text.takeWhile_run hall hstop, h]
  rfl

/-! ## Step by step -/

theorem readSegments_cons (h : readSegment fault c cs = .ok (segment, rest)) :
    readSegments fault (c :: cs) = (readSegments fault rest).map (segment :: ·) := by
  rw [readSegments]
  split
  · rename_i hread
    rw [h] at hread
    cases hread
  · rename_i hread
    rw [h] at hread
    cases hread
    rfl

/-- Every spelling of a step is read where the text ends or the next step begins. -/
theorem Segment.SpelledAs.readSegments (h : segment.SpelledAs spelling)
    (hrest : ∀ d ∈ rest.head?, isBreak d = true) :
    readSegments fault (spelling ++ rest) = (readSegments fault rest).map (segment :: ·) := by
  cases h with
  | @quoted name hname =>
    rw [List.cons_append, List.cons_append, List.append_assoc]
    exact readSegments_cons (readSegment_quoted hname rest)
  | @bare name hname hdot hbracket =>
    refine readSegments_cons (readSegment_bare hname (fun d hd => ?_) hrest)
    rw [Bool.eq_false_iff, ne_eq, isBreak_iff]
    rintro (rfl | rfl)
    · exact hdot hd
    · exact hbracket hd
  | @index position plus digits hplus hne hdigits hvalue =>
    have hread : Text.natural64? (plus ++ digits) = some position :=
      Text.natural64?_eq_some.mpr ⟨plus, digits, rfl, hplus, hne, hdigits, hvalue⟩
    have hclose : ∀ d ∈ plus ++ digits, d ≠ ']' := by
      rintro d hd rfl
      rcases List.mem_append.mp hd with hd | hd
      · rcases hplus with rfl | rfl <;> revert hd <;> decide
      · cases List.all_eq_true.mp hdigits _ hd
    rw [List.cons_append, List.cons_append, List.append_assoc]
    exact readSegments_cons (readSegment_index hread hclose rest)

/-- Every step begins with a dot or an opening bracket. -/
theorem Segment.SpelledAs.isBreak_head? (h : segment.SpelledAs spelling) (rest : List Char) :
    ∀ d ∈ (spelling ++ rest).head?, isBreak d = true := by
  cases h <;> exact fun d hd => by cases hd; rfl

theorem isBreak_head?_flatten {segments : List Segment} {spellings : List (List Char)}
    (h : List.Forall₂ Segment.SpelledAs segments spellings) :
    ∀ d ∈ spellings.flatten.head?, isBreak d = true := by
  cases h with
  | nil => exact fun d hd => by cases hd
  | cons h _ => exact h.isBreak_head? _

/-- A text is read as steps exactly if it is a spelling of each, one after the other. -/
theorem readSegments_eq_ok {segments : List Segment} :
    readSegments fault cs = .ok segments ↔
      ∃ spellings, cs = spellings.flatten ∧ List.Forall₂ Segment.SpelledAs segments spellings := by
  constructor
  · intro h
    fun_induction readSegments fault cs generalizing segments with
    | case1 =>
      cases h
      exact ⟨[], rfl, .nil⟩
    | case2 c cs e hread => cases h
    | case3 c cs step hread ih =>
      obtain ⟨more, hmore, rfl⟩ := map_eq_ok.mp h
      obtain ⟨spelling, hspelling, htext⟩ := exists_spelling hread
      obtain ⟨spellings, hrest, hspellings⟩ := ih hmore
      exact ⟨spelling :: spellings, by rw [htext, hrest, List.flatten_cons],
        .cons hspelling hspellings⟩
  · rintro ⟨spellings, rfl, hspellings⟩
    induction hspellings with
    | nil => rw [List.flatten_nil, readSegments]
    | cons h hspellings ih =>
      rw [List.flatten_cons, h.readSegments (isBreak_head?_flatten hspellings), ih]
      rfl

/-! ## Whole texts -/

/-- A text is read as a path exactly if, without the blanks around it, it is a dollar sign and
then a spelling of each step of this path in turn. -/
theorem parse_eq_ok_iff_spelled (text : String) (p : Path) :
    parse text = .ok p ↔ ∃ spellings, Text.IsTrimOf ('$' :: spellings.flatten) text.toList ∧
      List.Forall₂ Segment.SpelledAs p.segments spellings := by
  constructor
  · intro h
    unfold parse at h
    split at h
    · rename_i cs htrim
      obtain ⟨segments, hsegments, rfl⟩ := map_eq_ok.mp h
      obtain ⟨spellings, rfl, hspellings⟩ := readSegments_eq_ok.mp hsegments
      exact ⟨spellings, Text.trim_eq_iff.mp htrim, hspellings⟩
    · cases h
  · rintro ⟨spellings, htrim, hspellings⟩
    rw [parse, Text.trim_eq_iff.mpr htrim]
    exact map_eq_ok.mpr ⟨p.segments, readSegments_eq_ok.mpr ⟨spellings, rfl, hspellings⟩, rfl⟩

end DocumentQuery.Path
