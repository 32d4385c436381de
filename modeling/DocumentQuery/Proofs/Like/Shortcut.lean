import DocumentQuery.Proofs.Like.Regex
import DocumentQuery.Proofs.Text.Lowercase

/-!
# The shortcut for patterns of a common shape

The shortcut takes exactly the patterns with percent signs at their ends alone,
and looks for the needle between them in lower case. The regular expression
looks for the same needle up to case. The two can differ only where lower case
and folding do: a sigma has two small letters that fold to one, and so has the
letter s.

* `shortcut?_frame`, `exists_frame_of_shortcut?`: the patterns of the shortcut;
* `matches_frame_of_plain`: what they match up to case;
* `shortcut?_agrees`: where the shortcut and the expression agree;
* `holds?_ascii`: in ASCII they always do.
-/

namespace DocumentQuery.Like

open Text (lowercase foldChar sameFolded)

variable {text pattern needle before after : List Char} {b : Bool}

/-! ## Patterns of a common shape -/

theorem core_frame (hbefore : ∀ c ∈ before, c = '%') (hafter : ∀ c ∈ after, c = '%')
    (hfirst : ∀ c ∈ needle.head?, c ≠ '%') (hlast : ∀ c ∈ needle.getLast?, c ≠ '%') :
    core (before ++ (needle ++ after)) = needle :=
  Text.dropWhile_ends (fun c hc => beq_iff_eq.mpr (hbefore c hc))
    (fun c hc => beq_iff_eq.mpr (hafter c hc)) (fun c hc => beq_false_of_ne (hfirst c hc))
    fun c hc => beq_false_of_ne (hlast c hc)

theorem exists_core (pattern : List Char) :
    ∃ before needle after, pattern = before ++ (needle ++ after) ∧ (∀ c ∈ before, c = '%') ∧
      (∀ c ∈ after, c = '%') ∧ (∀ c ∈ needle.head?, c ≠ '%') ∧
      ∀ c ∈ needle.getLast?, c ≠ '%' := by
  obtain ⟨before, needle, after, htext, _, hbefore, hafter, hfirst, hlast⟩ :=
    Text.exists_ends (· == '%') pattern
  exact ⟨before, needle, after, htext, fun c hc => beq_iff_eq.mp (hbefore c hc),
    fun c hc => beq_iff_eq.mp (hafter c hc), fun c hc => ne_of_beq_false (hfirst c hc),
    fun c hc => ne_of_beq_false (hlast c hc)⟩

theorem stands_whole : Stands (· = ·) True True needle text ↔ text = needle := by
  rw [stands_eq]
  constructor
  · rintro ⟨first, last, rfl, hfirst, hlast⟩
    rw [hfirst trivial, hlast trivial, List.append_nil, List.nil_append]
  · rintro rfl
    exact ⟨[], [], (List.append_nil _).symm, fun _ => rfl, fun _ => rfl⟩

theorem stands_start : Stands (· = ·) True False needle text ↔ needle <+: text := by
  rw [stands_eq]
  constructor
  · rintro ⟨first, last, rfl, hfirst, _⟩
    rw [hfirst trivial]
    exact ⟨last, rfl⟩
  · rintro ⟨last, rfl⟩
    exact ⟨[], last, rfl, fun _ => rfl, False.elim⟩

theorem stands_end : Stands (· = ·) False True needle text ↔ needle <:+ text := by
  rw [stands_eq]
  constructor
  · rintro ⟨first, last, rfl, _, hlast⟩
    rw [hlast trivial]
    exact ⟨first, (List.append_nil _).symm⟩
  · rintro ⟨first, rfl⟩
    exact ⟨first, [], (List.append_nil _).symm, False.elim, fun _ => rfl⟩

theorem stands_inside : Stands (· = ·) False False needle text ↔ needle <:+: text := by
  rw [stands_eq]
  constructor
  · rintro ⟨first, last, rfl, _, _⟩
    exact ⟨first, last, rfl⟩
  · rintro ⟨first, last, rfl⟩
    exact ⟨first, last, rfl, False.elim, False.elim⟩

/-- Nothing stands in every text, but at both ends of the empty one alone. -/
theorem stands_nil {atStart atEnd : Prop} (h : ¬(atStart ∧ atEnd)) :
    Stands (· = ·) atStart atEnd [] text := by
  rw [stands_eq]
  by_cases hstart : atStart
  · exact ⟨[], text, rfl, fun _ => rfl, fun hend => absurd ⟨hstart, hend⟩ h⟩
  · exact ⟨text, [], by simp, fun h => absurd h hstart, fun _ => rfl⟩

theorem head?_frame (hbefore : ∀ c ∈ before, c = '%') (hempty : needle ≠ [])
    (hpercent : '%' ∉ needle) :
    ((before ++ (needle ++ after)).head? == some '%') = !before.isEmpty := by
  cases before with
  | nil =>
    obtain ⟨d, ds, rfl⟩ := List.exists_cons_of_ne_nil hempty
    have hd : '%' ≠ d := fun h => hpercent (h ▸ List.mem_cons_self)
    simpa using hd.symm
  | cons c before =>
    rw [hbefore c List.mem_cons_self]
    rfl

theorem getLast?_frame (hafter : ∀ c ∈ after, c = '%') (hempty : needle ≠ [])
    (hpercent : '%' ∉ needle) :
    ((before ++ (needle ++ after)).getLast? == some '%') = !after.isEmpty := by
  have h := @head?_frame needle.reverse after.reverse before.reverse
    (fun c hc => hafter c (List.mem_reverse.mp hc)) (by simpa using hempty)
    (by simpa using hpercent)
  rw [List.getLast?_eq_head?_reverse, List.reverse_append, List.reverse_append, List.append_assoc,
    h, List.isEmpty_reverse]

/-- Both ends of a pattern of percent signs are percent signs. -/
theorem ends_of_percents (hall : ∀ c ∈ pattern, c = '%') (hne : pattern ≠ []) :
    (pattern.head? == some '%') = true ∧ (pattern.getLast? == some '%') = true := by
  constructor
  · rw [List.head?_eq_some_head hne, hall _ (List.head_mem hne)]
    rfl
  · rw [List.getLast?_eq_some_getLast hne, hall _ (List.getLast_mem hne)]
    rfl

theorem contains_escape_eq_false {p : List Char} :
    (p.contains escapeChar || p.contains '_') = false ↔ '\\' ∉ p ∧ '_' ∉ p := by
  simp [escapeChar]

theorem contains_escape_frame (hbefore : ∀ c ∈ before, c = '%') (hafter : ∀ c ∈ after, c = '%')
    (hplain : ∀ c ∈ needle, isSpecial c = false) :
    ((before ++ (needle ++ after)).contains escapeChar ||
      (before ++ (needle ++ after)).contains '_') = false := by
  have hnot {d : Char} (hd : d ≠ '%') (hspecial : isSpecial d = true) :
      d ∉ before ++ (needle ++ after) := by
    rw [List.mem_append, List.mem_append]
    rintro (h | h | h)
    · exact hd (hbefore d h)
    · exact Bool.false_ne_true ((hplain d h).symm.trans hspecial)
    · exact hd (hafter d h)
  exact contains_escape_eq_false.mpr ⟨hnot (by decide) rfl, hnot (by decide) rfl⟩

theorem contains_percent_frame (hbefore : ∀ c ∈ before, c = '%') (hafter : ∀ c ∈ after, c = '%')
    (hbare : ¬(before = [] ∧ after = [])) : (before ++ (needle ++ after)).contains '%' = true := by
  rw [List.contains_iff_mem, List.mem_append, List.mem_append]
  rcases not_and_or.mp hbare with hne | hne
  · obtain ⟨c, hc⟩ := List.exists_mem_of_ne_nil _ hne
    exact .inl (hbefore c hc ▸ hc)
  · obtain ⟨c, hc⟩ := List.exists_mem_of_ne_nil _ hne
    exact .inr (.inr (hafter c hc ▸ hc))

/-- The shortcut looks for the needle in lower case between the percent signs, in the text in
lower case. -/
theorem shortcut?_frame (hbefore : ∀ c ∈ before, c = '%') (hafter : ∀ c ∈ after, c = '%')
    (hplain : ∀ c ∈ needle, isSpecial c = false) (text : List Char) :
    ∃ b, shortcut? text (before ++ (needle ++ after)) = some b ∧
      (b = true ↔
        Stands (· = ·) (before = []) (after = []) (lowercase needle) (lowercase text)) := by
  have hpercent : '%' ∉ lowercase needle := fun h =>
    (isSpecial_eq_false.mp (hplain '%' (Text.percent_mem_lowercase.mp h))).1 rfl
  have hcore : core (before ++ (lowercase needle ++ after)) = lowercase needle :=
    core_frame hbefore hafter (fun c hc h => hpercent (h ▸ List.mem_of_mem_head? hc))
      fun c hc h => hpercent (h ▸ List.mem_of_mem_getLast? hc)
  have hneedle : (lowercase needle).contains '%' = false := by simpa using hpercent
  rw [shortcut?, contains_escape_frame hbefore hafter hplain, Text.lowercase_frame hbefore hafter]
  simp only [hcore, hneedle, Bool.false_eq_true, if_false]
  generalize lowercase needle = needle at hpercent
  by_cases hbare : before = [] ∧ after = []
  · obtain ⟨rfl, rfl⟩ := hbare
    refine ⟨lowercase text == needle, ?_, ?_⟩
    · simp [hpercent]
    · simp only [stands_whole, beq_iff_eq]
  rw [contains_percent_frame hbefore hafter hbare]
  simp only [Bool.not_true, Bool.false_eq_true, if_false]
  by_cases hempty : needle = []
  · -- both ends of such a pattern are percent signs, even if all of them stand on one side
    subst hempty
    obtain ⟨hfirst, hlast⟩ := @ends_of_percents (before ++ after)
      (List.forall_mem_append.mpr ⟨hbefore, hafter⟩) (by simpa using hbare)
    rw [List.nil_append, hfirst, hlast]
    exact ⟨_, rfl, iff_of_true (Text.occursIn_iff.mpr List.nil_infix) (stands_nil hbare)⟩
  · rw [head?_frame hbefore hempty hpercent, getLast?_frame hafter hempty hpercent]
    cases before with
    | nil =>
      cases after with
      | nil => exact absurd ⟨rfl, rfl⟩ hbare
      | cons d after =>
        exact ⟨_, rfl, by simp only [List.isPrefixOf_iff_prefix, reduceCtorEq, stands_start]⟩
    | cons c before =>
      cases after with
      | nil => exact ⟨_, rfl, by simp only [List.isSuffixOf_iff_suffix, reduceCtorEq, stands_end]⟩
      | cons d after =>
        exact ⟨_, rfl, by simp only [Text.occursIn_iff, reduceCtorEq, stands_inside]⟩

/-- Only patterns with percent signs at their ends alone, and without escapes and underscores,
take the shortcut. -/
theorem exists_frame_of_shortcut? (h : shortcut? text pattern = some b) :
    ∃ before needle after, pattern = before ++ (needle ++ after) ∧ (∀ c ∈ before, c = '%') ∧
      (∀ c ∈ after, c = '%') ∧ ∀ c ∈ needle, isSpecial c = false := by
  obtain ⟨before, needle, after, rfl, hbefore, hafter, hfirst, hlast⟩ := exists_core pattern
  refine ⟨before, needle, after, rfl, hbefore, hafter, fun c hc => ?_⟩
  have hcore : core (lowercase (before ++ (needle ++ after))) = lowercase needle := by
    rw [Text.lowercase_frame hbefore hafter]
    exact core_frame hbefore hafter (Text.not_percent_head?_lowercase hfirst)
      (Text.not_percent_getLast?_lowercase hlast)
  rw [shortcut?] at h
  split at h
  · cases h
  rename_i hguard
  obtain ⟨hescape, hunderscore⟩ := contains_escape_eq_false.mp (Bool.eq_false_iff.mpr hguard)
  have hmem : c ∈ before ++ (needle ++ after) :=
    List.mem_append_right _ (List.mem_append_left _ hc)
  refine isSpecial_eq_false.mpr
    ⟨?_, fun hc => hunderscore (hc ▸ hmem), fun hc => hescape (hc ▸ hmem)⟩
  rintro rfl
  have hpattern : (lowercase (before ++ (needle ++ after))).contains '%' = true :=
    List.contains_iff_mem.mpr (Text.percent_mem_lowercase.mpr hmem)
  have hneedle : (lowercase needle).contains '%' = true :=
    List.contains_iff_mem.mpr (Text.percent_mem_lowercase.mpr hc)
  simp only [hpattern, hcore, hneedle, Bool.not_true, Bool.false_eq_true, if_false, if_true] at h
  cases h

/-! ## Agreement with the regular expression -/

theorem escape_eq_self (hplain : ∀ c ∈ needle, isSpecial c = false) : escape needle = needle := by
  induction needle with
  | nil => rfl
  | cons c needle ih =>
    obtain ⟨hc, hrest⟩ := List.forall_mem_cons.mp hplain
    have ih : needle.flatMap (fun c => if isSpecial c then [escapeChar, c] else [c]) = needle :=
      ih hrest
    simp [escape, hc, ih]

theorem matches_frame_of_plain (hbefore : ∀ c ∈ before, c = '%') (hafter : ∀ c ∈ after, c = '%')
    (hplain : ∀ c ∈ needle, isSpecial c = false) (text : List Char) :
    Matches (sameFolded · ·) (before ++ (needle ++ after)) text ↔
      Stands (fun c d => foldChar c = foldChar d) (before = []) (after = []) needle text := by
  have hframe := @matches_frame (sameFolded · ·) text needle before after hbefore hafter
  rw [escape_eq_self hplain] at hframe
  rw [hframe]
  simp only [sameFolded, beq_iff_eq]

/-- Where a needle stands up to case can be read off the two texts in lower case. -/
theorem stands_lowercase {atStart atEnd : Prop} (hneedle : 'İ' ∉ needle) (htext : 'İ' ∉ text) :
    Stands (fun c d => foldChar c = foldChar d) atStart atEnd (lowercase needle) (lowercase text) ↔
      Stands (fun c d => foldChar c = foldChar d) atStart atEnd needle text := by
  have hmap (needle text : List Char) := @stands_map text needle foldChar atStart atEnd
  rw [hmap, hmap, Text.map_foldChar_lowercase hneedle, Text.map_foldChar_lowercase htext]

/-- The shortcut looks for the needle of the pattern in the text, both in lower case, with equal
characters, and to match up to case is to look for it with characters that fold to the same. -/
theorem exists_stands_of_shortcut? (htext : 'İ' ∉ text) (hpattern : 'İ' ∉ pattern)
    (h : shortcut? text pattern = some b) :
    ∃ (atStart atEnd : Prop) (needle : List Char), (∀ c ∈ needle, c ∈ lowercase pattern) ∧
      (b = true ↔ Stands (· = ·) atStart atEnd needle (lowercase text)) ∧
      (Matches (sameFolded · ·) pattern text ↔
        Stands (fun c d => foldChar c = foldChar d) atStart atEnd needle (lowercase text)) := by
  obtain ⟨before, needle, after, rfl, hbefore, hafter, hplain⟩ := exists_frame_of_shortcut? h
  have hneedle : 'İ' ∉ needle := fun hmem =>
    hpattern (List.mem_append_right _ (List.mem_append_left _ hmem))
  obtain ⟨answer, hanswer, hstands⟩ := shortcut?_frame hbefore hafter hplain text
  obtain rfl : answer = b := Option.some.inj (hanswer.symm.trans h)
  refine ⟨before = [], after = [], lowercase needle, fun c hc => ?_, hstands, ?_⟩
  · rw [Text.lowercase_frame hbefore hafter]
    exact List.mem_append_right _ (List.mem_append_left _ hc)
  · rw [stands_lowercase hneedle htext]
    exact matches_frame_of_plain hbefore hafter hplain text

theorem matches_of_shortcut? (htext : 'İ' ∉ text) (hpattern : 'İ' ∉ pattern)
    (h : shortcut? text pattern = some true) : Matches (sameFolded · ·) pattern text := by
  obtain ⟨_, _, needle, _, hshortcut, hmatches⟩ := exists_stands_of_shortcut? htext hpattern h
  exact hmatches.mpr ((hshortcut.mp rfl).imp fun c _ d _ hcd => congrArg foldChar hcd)

/-- The shortcut answers whether the pattern matches up to case unless there are different
characters in the two texts in lower case that are the same up to case. -/
theorem matches_iff_of_shortcut? (htext : 'İ' ∉ text) (hpattern : 'İ' ∉ pattern)
    (h : shortcut? text pattern = some b)
    (heq : ∀ c ∈ lowercase pattern, ∀ d ∈ lowercase text, sameFolded c d = true → c = d) :
    Matches (sameFolded · ·) pattern text ↔ b = true := by
  obtain ⟨_, _, needle, hmem, hshortcut, hmatches⟩ := exists_stands_of_shortcut? htext hpattern h
  rw [hmatches, hshortcut]
  constructor
  · intro hstands
    exact hstands.imp fun c hc d hd hcd => heq c (hmem c hc) d hd (beq_iff_eq.mpr hcd)
  · intro hstands
    exact hstands.imp fun c _ d _ hcd => congrArg foldChar hcd

section Library

variable [RegexLibrary] {fits : Regex.Options → List Char → Prop}

/-- In what the shortcut accepts the expression of the pattern is found, and its answer is that
of the expression unless there are different characters in the two texts in lower case that are
the same up to case, as the two small sigmas are. The dotted capital I is the same as no other
character, but its lower case is two characters, of which the first is the letter i. -/
theorem shortcut?_agrees (hdoc : RegexLibrary.IsDocumented fits) {regex : RegexLibrary.Compiled}
    (hregex : RegexLibrary.build regexOptions (regexText pattern) = .ok regex)
    (htext : 'İ' ∉ text) (hpattern : 'İ' ∉ pattern) (h : shortcut? text pattern = some b) :
    (b = true → RegexLibrary.isMatch regex text = true) ∧
      ((∀ c ∈ lowercase pattern, ∀ d ∈ lowercase text, sameFolded c d = true → c = d) →
        RegexLibrary.isMatch regex text = b) := by
  have hmatch := isMatch_iff hdoc hregex text
  refine ⟨fun hb => ?_, fun heq => ?_⟩
  · subst hb
    exact hmatch.mpr (matches_of_shortcut? htext hpattern h)
  · exact Bool.eq_iff_iff.mpr (hmatch.trans (matches_iff_of_shortcut? htext hpattern h heq))

end Library

/-- Both words end in a final sigma, in capitals and in lower case. -/
theorem shortcut?_agrees_sigma :
    (∃ regex, RegexLibrary.build regexOptions (regexText "%ΔΟΣ".toList) = .ok regex ∧
      RegexLibrary.isMatch regex "ΟΔΟΣ".toList = true) ∧
    ∃ regex, RegexLibrary.build regexOptions (regexText "%ΔΟ".toList) = .ok regex ∧
      RegexLibrary.isMatch regex "ΟΔΟΣ".toList = false := by
  have hdoc := Regex.isDocumented_standard
  have hfound : shortcut? "ΟΔΟΣ".toList "%ΔΟΣ".toList = some true := by decide +kernel
  have hmissed : shortcut? "ΟΔΟΣ".toList "%ΔΟ".toList = some false := by decide +kernel
  have hdistinct : ((lowercase "%ΔΟ".toList).all fun c => (lowercase "ΟΔΟΣ".toList).all fun d =>
      !sameFolded c d || c == d) = true := by decide +kernel
  obtain ⟨first, hfirst⟩ := exists_regex "%ΔΟΣ".toList hdoc trivial
  obtain ⟨second, hsecond⟩ := exists_regex "%ΔΟ".toList hdoc trivial
  refine ⟨⟨first, hfirst, (shortcut?_agrees hdoc hfirst (by decide) (by decide) hfound).1 rfl⟩,
    second, hsecond, ?_⟩
  refine (shortcut?_agrees hdoc hsecond (by decide) (by decide) hmissed).2 fun c hc d hd hcd => ?_
  simpa [hcd] using List.all_eq_true.mp (List.all_eq_true.mp hdistinct c hc) d hd

/-- The sigma that ends the needle is a final one in lower case, that of the text is not. -/
theorem shortcut?_misses_sigma :
    shortcut? "ΑΣΑ".toList "ΑΣ%".toList = some false ∧
      ∃ regex, RegexLibrary.build regexOptions (regexText "ΑΣ%".toList) = .ok regex ∧
        RegexLibrary.isMatch regex "ΑΣΑ".toList = true := by
  refine ⟨by decide +kernel, ?_⟩
  have hdoc := Regex.isDocumented_standard
  obtain ⟨regex, hregex⟩ := exists_regex "ΑΣ%".toList hdoc trivial
  refine ⟨regex, hregex, (isMatch_iff hdoc hregex _).mpr ?_⟩
  exact ⟨_, _, rfl, rfl, _, _, rfl, rfl, ['Α'], [], rfl, rfl⟩

/-! ## ASCII -/

theorem dottedCapital_notMem_of_ascii {cs : List Char} (h : ∀ c ∈ cs, c.toNat < 128) : 'İ' ∉ cs :=
  fun hmem => absurd (h 'İ' hmem) (by decide)

theorem matches_iff_of_ascii (htext : ∀ c ∈ text, c.toNat < 128)
    (hpattern : ∀ c ∈ pattern, c.toNat < 128) :
    Matches (sameFolded · ·) pattern text ↔
      Matches (fun c d => c.toLower = d.toLower) pattern text := by
  have hsame (c : Char) (hc : c ∈ pattern) (d : Char) (hd : d ∈ text) :
      sameFolded c d = true ↔ c.toLower = d.toLower := by
    rw [sameFolded, beq_iff_eq, Text.foldChar_of_ascii (hpattern c hc),
      Text.foldChar_of_ascii (htext d hd)]
  constructor
  · intro h
    exact h.imp fun c hc d hd => (hsame c hc d hd).mp
  · intro h
    exact h.imp fun c hc d hd => (hsame c hc d hd).mpr

theorem shortcut?_iff_of_ascii (htext : ∀ c ∈ text, c.toNat < 128)
    (hpattern : ∀ c ∈ pattern, c.toNat < 128) (h : shortcut? text pattern = some b) :
    Matches (sameFolded · ·) pattern text ↔ b = true := by
  refine matches_iff_of_shortcut? (dottedCapital_notMem_of_ascii htext)
    (dottedCapital_notMem_of_ascii hpattern) h fun c hc d hd hcd => ?_
  have hfold : foldChar c = foldChar d := beq_iff_eq.mp hcd
  rwa [Text.foldChar_of_mem_lowercase hpattern hc, Text.foldChar_of_mem_lowercase htext hd] at hfold

/-- In ASCII a text matches a pattern up to the case of letters, and the shortcut and the
expression of the pattern answer alike. -/
theorem holds?_ascii [RegexLibrary] {fits : Regex.Options → List Char → Prop}
    (hdoc : RegexLibrary.IsDocumented fits) (hfits : fits regexOptions (regexText pattern))
    (htext : ∀ c ∈ text, c.toNat < 128) (hpattern : ∀ c ∈ pattern, c.toNat < 128) :
    ∃ b, holds? text pattern = .ok b ∧
      (b = true ↔ Matches (fun c d => c.toLower = d.toLower) pattern text) ∧
      (∀ answer, shortcut? text pattern = some answer → answer = b) ∧
      ∃ regex, RegexLibrary.build regexOptions (regexText pattern) = .ok regex ∧
        RegexLibrary.isMatch regex text = b := by
  obtain ⟨regex, hregex⟩ := exists_regex pattern hdoc hfits
  have hmatch := isMatch_iff hdoc hregex text
  have hshortcut (answer : Bool) (h : shortcut? text pattern = some answer) :
      answer = RegexLibrary.isMatch regex text := by
    rw [Bool.eq_iff_iff, hmatch, shortcut?_iff_of_ascii htext hpattern h]
  refine ⟨RegexLibrary.isMatch regex text, ?_, ?_, hshortcut, regex, hregex, rfl⟩
  · cases h : shortcut? text pattern with
    | none => exact holds?_of_build h hregex
    | some answer => rw [holds?_of_shortcut? h, hshortcut answer h]
  · rw [hmatch, matches_iff_of_ascii htext hpattern]

/-- A percent sign takes a line break, an escaped one itself, and a backslash at the end
nothing. -/
theorem holds?_ascii_lines :
    Matches (fun c d => c.toLower = d.toLower) "%0\\% _%W\\".toList "50% off\nnow".toList ∧
      ∃ regex, RegexLibrary.build regexOptions (regexText "%NOW".toList) = .ok regex ∧
        RegexLibrary.isMatch regex "50% off\nnow".toList = true := by
  have hascii (s : String) (h : s.toList.all (decide <| ·.toNat < 128) = true) :
      ∀ c ∈ s.toList, c.toNat < 128 := fun c hc => of_decide_eq_true (List.all_eq_true.mp h c hc)
  have htext := hascii "50% off\nnow" (by decide +kernel)
  have hdoc := Regex.isDocumented_standard
  have hholds : holds "50% off\nnow".toList "%0\\% _%W\\".toList = true := by decide +kernel
  have hshortcut : shortcut? "50% off\nnow".toList "%NOW".toList = some true := by decide +kernel
  obtain ⟨b, hb, hmatches, _⟩ :=
    holds?_ascii hdoc trivial htext (hascii "%0\\% _%W\\" (by decide +kernel))
  obtain ⟨d, _, _, hd, hregex⟩ := holds?_ascii hdoc trivial htext (hascii "%NOW" (by decide +kernel))
  rw [holds?_eq_holds, hholds] at hb
  rw [← hd true hshortcut] at hregex
  exact ⟨hmatches.mp (Except.ok.inj hb).symm, hregex⟩

end DocumentQuery.Like
