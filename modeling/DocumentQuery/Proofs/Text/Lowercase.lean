import DocumentQuery.Proofs.Text.CaseFold
import Mathlib.Data.List.Basic

/-!
# Lower case and folding

Lower case does not change what a character folds to, the dotted capital I
apart, and makes and loses no percent sign. How a part of a text is written
in lower case depends on the rest of the text by the capital sigmas alone.

* `IsLowered`: a character and its lower case, with the run that moves the one
  to the other;
* `foldChar_lowerChar`: a character and its lower case fold to the same;
* `lowercaseBetween`: the lower case of a part of a text;
* `lowercaseBetween_of_notMem`: without capital sigmas the rest does not matter;
* `lowercase_frame`: percent signs at the ends do not matter;
* `map_foldChar_lowercase`: the folding of a text in lower case;
* `lowercase_of_ascii`: the lower case of an ASCII text.
-/

namespace DocumentQuery.Text

variable {run : CaseRun} {c d : Char}

/-! ## Characters -/

/-- The capitals of Cherokee. They fold to themselves, and their small letters to them. -/
def cherokeeRuns : List CaseRun := [⟨0x13A0, 0x13EF, 1, 38864⟩, ⟨0x13F0, 0x13F5, 1, 8⟩]

/-- The other characters that have a lower case. -/
def plainRuns : List CaseRun := lowerRuns.filter (!cherokeeRuns.contains ·)

theorem isSound_lowerRuns : lowerRuns.all CaseRun.isSound = true := by decide +kernel

/-- Apart from Cherokee, folding moves neither a character that has a lower case nor that
lower case, and lower case does not move it either. No lower case is a percent sign. -/
theorem tableCodes_plainRuns :
    tableCodes (plainRuns ++ plainRuns.map CaseRun.image) &&& tableCodes foldRuns = 0 ∧
      tableCodes (plainRuns.map CaseRun.image) &&& tableCodes lowerRuns = 0 ∧
      (tableCodes (lowerRuns.map CaseRun.image)).testBit 0x25 = false := by
  decide +kernel

theorem exists_foldRuns_of_cherokee (h : run ∈ cherokeeRuns) :
    ∃ keep back, foldRuns.find? (run.codes &&& ·.codes != 0) = some keep ∧
      run.within keep = true ∧ keep.shift = 0 ∧
      foldRuns.find? (run.image.codes &&& ·.codes != 0) = some back ∧
      run.image.within back = true ∧ back.shift = -run.shift := by
  simp only [cherokeeRuns, List.mem_cons, List.not_mem_nil, or_false] at h
  rcases h with rfl | rfl
  · exact ⟨⟨0x13A0, 0x13F5, 1, 0⟩, ⟨0xAB70, 0xABBF, 1, -38864⟩, by decide +kernel⟩
  · exact ⟨⟨0x13A0, 0x13F5, 1, 0⟩, ⟨0x13F8, 0x13FD, 1, -8⟩, by decide +kernel⟩

/-- How lower case moves one character to another. -/
structure IsLowered (run : CaseRun) (c d : Char) : Prop where
  mem : run ∈ lowerRuns
  covers : run.covers c.toNat = true
  positive : 0 ≤ (run.first : Int) + run.shift
  toNat_eq : d.toNat = run.move c.toNat
  image_covers : run.image.covers d.toNat = true

theorem exists_isLowered (h : mapCase? lowerRuns c = some d) : ∃ run, IsLowered run c d := by
  obtain ⟨run, hrun, hcovers, rfl⟩ := mapCase?_eq_some h
  have hsound := List.all_eq_true.mp isSound_lowerRuns run hrun
  have hcode := CaseRun.toNat_move hsound hcovers
  refine ⟨run, hrun, hcovers, of_decide_eq_true (Bool.and_eq_true_iff.mp hsound).1, hcode, ?_⟩
  rw [hcode]
  exact CaseRun.covers_move hsound hcovers

/-- A small letter of Cherokee folds back to its capital, which folds to itself. -/
theorem IsLowered.foldChar_of_cherokee (h : IsLowered run c d) (hrun : run ∈ cherokeeRuns) :
    foldChar d = foldChar c := by
  obtain ⟨keep, back, hkeep, hwithin, hzero, hback, hwithinImage, hshift⟩ :=
    exists_foldRuns_of_cherokee hrun
  have hfirst := (CaseRun.covers_eq_true.mp h.covers).1
  have hpositive := h.positive
  have hstays : keep.move c.toNat = c.toNat := by
    simp only [CaseRun.move]
    omega
  have hreturns : back.move d.toNat = c.toNat := by
    rw [h.toNat_eq]
    simp only [CaseRun.move]
    omega
  rw [foldChar, mapCase?_of_within hback hwithinImage h.image_covers, foldChar,
    mapCase?_of_within hkeep hwithin h.covers, hstays, hreturns]
  rfl

/-- Any other small letter stays, and its capital folds to it. -/
theorem IsLowered.foldChar_of_plain (h : IsLowered run c d) (hrun : run ∉ cherokeeRuns) :
    foldChar d = d ∧ foldChar c = lowerChar c := by
  have hplain : run ∈ plainRuns := List.mem_filter.mpr ⟨h.mem, by simpa using hrun⟩
  have himage : run.image ∈ plainRuns.map CaseRun.image := List.mem_map_of_mem hplain
  obtain ⟨hfold, hlower, _⟩ := tableCodes_plainRuns
  have hfoldSource := testBit_eq_false hfold
    (testBit_tableCodes (List.mem_append_left _ hplain) h.covers)
  have hfoldImage := testBit_eq_false hfold
    (testBit_tableCodes (List.mem_append_right _ himage) h.image_covers)
  have hlowerImage := testBit_eq_false hlower (testBit_tableCodes himage h.image_covers)
  constructor
  · rw [foldChar_of_testBit hfoldImage, lowerChar_of_testBit hlowerImage]
  · exact foldChar_of_testBit hfoldSource

/-- A character and its lower case fold to the same. -/
theorem foldChar_lowerChar (c : Char) : foldChar (lowerChar c) = foldChar c := by
  cases hlower : mapCase? lowerRuns c with
  | none => rw [lowerChar, hlower, Option.getD_none]
  | some d =>
    have hd : lowerChar c = d := by rw [lowerChar, hlower, Option.getD_some]
    obtain ⟨run, h⟩ := exists_isLowered hlower
    by_cases hrun : run ∈ cherokeeRuns
    · rw [hd, h.foldChar_of_cherokee hrun]
    · obtain ⟨himage, hsource⟩ := h.foldChar_of_plain hrun
      rw [hd, himage, hsource, hd]

theorem lowerChar_percent : lowerChar '%' = '%' := lowerChar_of_ascii (by decide)

/-- Lower case makes a percent sign of nothing else. -/
theorem lowerChar_eq_percent : lowerChar c = '%' ↔ c = '%' := by
  constructor
  · intro h
    cases hlower : mapCase? lowerRuns c with
    | none => rwa [lowerChar, hlower, Option.getD_none] at h
    | some d =>
      rw [lowerChar, hlower, Option.getD_some] at h
      obtain ⟨run, hd⟩ := exists_isLowered hlower
      have hbit := testBit_tableCodes (List.mem_map_of_mem hd.mem) hd.image_covers
      rw [h] at hbit
      cases hbit.symm.trans tableCodes_plainRuns.2.2
  · rintro rfl
    exact lowerChar_percent

/-! ## Parts of a text -/

/-- The lower case of a character between two texts, the first of them read backwards. -/
def lowerForm (before : List Char) (c : Char) (after : List Char) : List Char :=
  if c = 'Σ' then [if endsWord before after then 'ς' else 'σ']
  else if c = 'İ' then ['i', '\u0307']
  else [lowerChar c]

/-- The lower case of a part of a text between two others, the first of them read backwards. -/
def lowercaseBetween (before after : List Char) : List Char → List Char
  | [] => []
  | c :: cs => lowerForm before c (cs ++ after) ++ lowercaseBetween (c :: before) after cs

variable {cs before after : List Char}

theorem lowercase_eq (cs : List Char) : lowercase cs = lowercaseBetween [] [] cs := by
  have h (before : List Char) : lowercaseAfter before cs = lowercaseBetween before [] cs := by
    induction cs generalizing before with
    | nil => rfl
    | cons c cs ih =>
      rw [lowercaseAfter, lowercaseBetween, ih, lowerForm, List.append_nil]
  exact h []

theorem lowercaseBetween_append (before after xs ys : List Char) :
    lowercaseBetween before after (xs ++ ys) =
      lowercaseBetween before (ys ++ after) xs ++
        lowercaseBetween (xs.reverse ++ before) after ys := by
  induction xs generalizing before with
  | nil => rfl
  | cons c xs ih =>
    rw [List.cons_append, lowercaseBetween, ih, lowercaseBetween, List.reverse_cons,
      List.append_assoc, List.append_assoc, List.append_assoc, List.singleton_append]

/-- Without capital sigmas in it, the lower case of a part does not depend on the rest. -/
theorem lowercaseBetween_of_notMem (h : 'Σ' ∉ cs) (before after : List Char) :
    lowercaseBetween before after cs = lowercase cs := by
  have hform {c : Char} (hc : c ≠ 'Σ') (before after before' after' : List Char) :
      lowerForm before c after = lowerForm before' c after' := by
    rw [lowerForm, lowerForm, if_neg hc, if_neg hc]
  have hall (before' after' : List Char) :
      lowercaseBetween before after cs = lowercaseBetween before' after' cs := by
    induction cs generalizing before before' with
    | nil => rfl
    | cons c cs ih =>
      rw [List.mem_cons, not_or] at h
      rw [lowercaseBetween, lowercaseBetween, ih h.2, hform (Ne.symm h.1)]
  rw [lowercase_eq, hall]

theorem meetsCased_cons (c : Char) (cs : List Char) :
    meetsCased (c :: cs) = if isCaseIgnorable c then meetsCased cs else isCased c := by
  cases hc : isCaseIgnorable c with
  | true => rw [meetsCased, List.dropWhile_cons_of_pos hc, if_pos rfl, meetsCased]
  | false => rw [meetsCased, List.dropWhile_cons_of_neg (by simp [hc])]; rfl

/-- Whether no letter of a text is seen by what comes before it, or, read backwards, after it. -/
def ShowsNoLetter (rest : List Char) : Prop := ∀ cs, meetsCased (cs ++ rest) = meetsCased cs

theorem showsNoLetter_of_percents {percents : List Char} (h : ∀ c ∈ percents, c = '%') :
    ShowsNoLetter percents := by
  intro cs
  cases percents with
  | nil => rw [List.append_nil]
  | cons c percents =>
    obtain rfl := h c List.mem_cons_self
    have hpercent : meetsCased ('%' :: percents) = false := by
      have hclass : isCaseIgnorable '%' = false ∧ isCased '%' = false := by decide +kernel
      rw [meetsCased_cons, hclass.1, hclass.2]
      rfl
    induction cs with
    | nil => exact hpercent
    | cons c cs ih => rw [List.cons_append, meetsCased_cons, meetsCased_cons, ih]

/-- Between texts that show no letter, a part is written as if it stood alone. -/
theorem lowercaseBetween_of_showsNoLetter (hbefore : ShowsNoLetter before)
    (hafter : ShowsNoLetter after) (cs : List Char) :
    lowercaseBetween before after cs = lowercase cs := by
  have hform (start : List Char) (c : Char) (rest : List Char) :
      lowerForm (start ++ before) c (rest ++ after) = lowerForm start c rest := by
    rw [lowerForm, endsWord, hbefore, hafter, lowerForm, endsWord]
  -- what was read so far stands before the text that shows no letter
  have hall (start : List Char) :
      lowercaseBetween (start ++ before) after cs = lowercaseBetween start [] cs := by
    induction cs generalizing start with
    | nil => rfl
    | cons c cs ih =>
      rw [lowercaseBetween, lowercaseBetween, hform, ← List.cons_append, ih, List.append_nil]
  rw [lowercase_eq, ← hall, List.nil_append]

theorem lowercaseBetween_percents {percents : List Char} (h : ∀ c ∈ percents, c = '%')
    (before after : List Char) : lowercaseBetween before after percents = percents := by
  induction percents generalizing before with
  | nil => rfl
  | cons c percents ih =>
    obtain ⟨rfl, hrest⟩ := List.forall_mem_cons.mp h
    rw [lowercaseBetween, ih hrest, lowerForm, if_neg (by decide), if_neg (by decide),
      lowerChar_percent, List.singleton_append]

/-- Percent signs at the ends of a text stay, and do not change the rest. -/
theorem lowercase_frame (hbefore : ∀ c ∈ before, c = '%') (hafter : ∀ c ∈ after, c = '%')
    (cs : List Char) : lowercase (before ++ (cs ++ after)) = before ++ (lowercase cs ++ after) := by
  have hreverse : ∀ c ∈ before.reverse, c = '%' := fun c hc =>
    hbefore c (List.mem_reverse.mp hc)
  rw [lowercase_eq, lowercaseBetween_append, lowercaseBetween_append,
    lowercaseBetween_percents hbefore, lowercaseBetween_percents hafter, List.append_nil,
    List.append_nil, lowercaseBetween_of_showsNoLetter (showsNoLetter_of_percents hreverse)
      (showsNoLetter_of_percents hafter)]

/-! ## Characters of a text in lower case -/

theorem percent_mem_lowerForm (c : Char) (before after : List Char) :
    '%' ∈ lowerForm before c after ↔ c = '%' := by
  rw [lowerForm]
  split
  · rename_i hc
    subst hc
    split <;> decide
  · split
    · rename_i hc
      subst hc
      decide
    · rw [List.mem_singleton, eq_comm, lowerChar_eq_percent]

theorem percent_mem_lowercase : '%' ∈ lowercase cs ↔ '%' ∈ cs := by
  have h (before : List Char) : '%' ∈ lowercaseBetween before [] cs ↔ '%' ∈ cs := by
    induction cs generalizing before with
    | nil => rfl
    | cons c cs ih =>
      rw [lowercaseBetween, List.mem_append, percent_mem_lowerForm, ih, List.mem_cons, eq_comm]
  rw [lowercase_eq, h]

theorem lowerForm_ne_nil (before : List Char) (c : Char) (after : List Char) :
    lowerForm before c after ≠ [] := by
  rw [lowerForm]
  split
  · exact List.cons_ne_nil _ _
  · split <;> exact List.cons_ne_nil _ _

theorem not_percent_head?_lowercase (h : ∀ c ∈ cs.head?, c ≠ '%') :
    ∀ d ∈ (lowercase cs).head?, d ≠ '%' := by
  rw [lowercase_eq]
  cases cs with
  | nil => exact fun d hd => by cases hd
  | cons c cs =>
    rintro d hd rfl
    rw [lowercaseBetween, List.head?_append_of_ne_nil _ (lowerForm_ne_nil _ _ _)] at hd
    exact h c rfl ((percent_mem_lowerForm _ _ _).mp (List.mem_of_mem_head? hd))

theorem not_percent_getLast?_lowercase (h : ∀ c ∈ cs.getLast?, c ≠ '%') :
    ∀ d ∈ (lowercase cs).getLast?, d ≠ '%' := by
  rw [lowercase_eq]
  rcases List.eq_nil_or_concat cs with rfl | ⟨cs, c, rfl⟩
  · exact fun d hd => by cases hd
  · rintro d hd rfl
    rw [List.concat_eq_append] at h
    simp only [List.concat_eq_append, lowercaseBetween_append, lowercaseBetween,
      List.append_nil] at hd
    rw [List.getLast?_append_of_ne_nil _ (lowerForm_ne_nil _ _ _)] at hd
    exact h c List.getLast?_concat
      ((percent_mem_lowerForm _ _ _).mp (List.mem_of_mem_getLast? hd))

theorem lowercase_of_ascii (h : ∀ c ∈ cs, c.toNat < 128) : lowercase cs = cs.map Char.toLower := by
  have hform {c : Char} (hc : c.toNat < 128) (before after : List Char) :
      lowerForm before c after = [c.toLower] := by
    have hsigma : c ≠ 'Σ' := fun h => absurd hc (h ▸ by decide)
    have hdotted : c ≠ 'İ' := fun h => absurd hc (h ▸ by decide)
    rw [lowerForm, if_neg hsigma, if_neg hdotted, lowerChar_of_ascii hc]
  have hall (before : List Char) : lowercaseBetween before [] cs = cs.map Char.toLower := by
    induction cs generalizing before with
    | nil => rfl
    | cons c cs ih =>
      obtain ⟨hc, hrest⟩ := List.forall_mem_cons.mp h
      rw [lowercaseBetween, hform hc, ih hrest, List.map_cons, List.singleton_append]
  rw [lowercase_eq, hall]

theorem foldChar_of_mem_lowercase (h : ∀ c ∈ cs, c.toNat < 128) (hd : d ∈ lowercase cs) :
    foldChar d = d := by
  rw [lowercase_of_ascii h] at hd
  obtain ⟨c, hc, rfl⟩ := List.mem_map.mp hd
  have hascii := h c hc
  rw [← lowerChar_of_ascii hascii, foldChar_lowerChar, foldChar_of_ascii hascii,
    lowerChar_of_ascii hascii]

/-- Lower case changes the folding of no text that has no dotted capital I. -/
theorem map_foldChar_lowercase (h : 'İ' ∉ cs) : (lowercase cs).map foldChar = cs.map foldChar := by
  have hform {c : Char} (hc : c ≠ 'İ') (before after : List Char) :
      (lowerForm before c after).map foldChar = [foldChar c] := by
    rw [lowerForm]
    split
    · rename_i hsigma
      subst hsigma
      split <;> decide
    · rw [List.map_singleton, foldChar_lowerChar]
  have hall (before : List Char) :
      (lowercaseBetween before [] cs).map foldChar = cs.map foldChar := by
    induction cs generalizing before with
    | nil => rfl
    | cons c cs ih =>
      rw [List.mem_cons, not_or] at h
      rw [lowercaseBetween, List.map_append, hform (Ne.symm h.1), ih h.2, List.map_cons,
        List.singleton_append]
  rw [lowercase_eq, hall]

end DocumentQuery.Text
