import DocumentQuery.Expr.Evaluate
import DocumentQuery.Proofs.Like.Shortcut

/-!
# Needles that stand in a constant

A string predicate over two constants is true of every text that passes it
character by character if the needle has no capital sigma, or has a special
character, as no shortcut is taken then, and the library does not refuse the
regular expression. Needles without special characters are looked for in lower
case, which for a capital sigma depends on its neighbours.

* `Like.stands_lowercase_of_notMem`: what stands in a text does so in lower case;
* `TextTest.shortcut?_of_special`, `TextTest.exists_holds?_of_plain`: the two ways;
* `Expr.testOf`, `Expr.evaluate_passes`: a predicate over two constants, and its value.
-/

namespace DocumentQuery

open Text (lowercase sameFolded)

namespace Like

variable {text pattern needle : List Char}

theorem shortcut?_of_escape (h : escapeChar ∈ pattern) : shortcut? text pattern = none := by
  have hguard : (pattern.contains escapeChar || pattern.contains '_') = true :=
    Bool.or_eq_true_iff.mpr (.inl (List.contains_iff_mem.mpr h))
  rw [shortcut?, hguard]
  rfl

theorem escapeChar_mem_escape (h : ∃ c ∈ needle, isSpecial c = true) :
    escapeChar ∈ escape needle := by
  obtain ⟨c, hc, hspecial⟩ := h
  refine List.mem_flatMap.mpr ⟨c, hc, ?_⟩
  rw [if_pos hspecial]
  exact List.mem_cons_self

/-- A needle without capital sigmas that stands in a text stands in it in lower case. -/
theorem stands_lowercase_of_notMem {atStart atEnd : Prop} (hsigma : 'Σ' ∉ needle)
    (h : Stands (· = ·) atStart atEnd needle text) :
    Stands (· = ·) atStart atEnd (lowercase needle) (lowercase text) := by
  rw [stands_eq] at h ⊢
  obtain ⟨first, last, rfl, hfirst, hlast⟩ := h
  refine ⟨Text.lowercaseBetween [] (needle ++ last) first,
    Text.lowercaseBetween (needle.reverse ++ first.reverse) [] last, ?_, fun h => ?_, fun h => ?_⟩
  · rw [List.append_assoc, Text.lowercase_eq, Text.lowercaseBetween_append,
      Text.lowercaseBetween_append, Text.lowercaseBetween_of_notMem hsigma, List.append_nil,
      List.append_nil, List.append_assoc]
  · rw [hfirst h]
    rfl
  · rw [hlast h]
    rfl

end Like

namespace TextTest

variable {test : TextTest}

theorem shortcut?_of_special (test : TextTest) (text : List Char) {needle : List Char}
    (hspecial : ∃ c ∈ needle, Like.isSpecial c = true) :
    Like.shortcut? text (test.pattern needle) = none := by
  obtain ⟨before, after, _, _, _, _, hpattern⟩ := test.exists_frame
  refine Like.shortcut?_of_escape ?_
  rw [hpattern]
  exact List.mem_append_right _ (List.mem_append_left _ (Like.escapeChar_mem_escape hspecial))

/-- The pattern of a string predicate matches up to case what passes character by character. -/
theorem matches_of_passes {text needle : List Char} (h : test.Passes (· = ·) needle text) :
    Like.Matches (sameFolded · ·) (test.pattern needle) text := by
  refine matches_pattern_iff.mpr ((passes_iff.mp h).imp fun c _ d _ hcd => ?_)
  rw [hcd]
  exact Text.sameFolded_self d

variable [RegexLibrary] {needle : String}

/-- A needle without special characters is looked for in lower case. -/
theorem exists_holds?_of_plain (test : TextTest) (text : String)
    (hplain : ∀ c ∈ needle.toList, Like.isSpecial c = false) :
    ∃ b, test.holds? text needle = .ok b ∧
      (b = true ↔ test.Passes (· = ·) (lowercase needle.toList) (lowercase text.toList)) := by
  obtain ⟨before, after, hbefore, hafter, hstart, hend, hpattern⟩ := test.exists_frame
  obtain ⟨b, hb, hstands⟩ := Like.shortcut?_frame hbefore hafter hplain text.toList
  refine ⟨b, Like.holds?_of_shortcut? ?_, ?_⟩
  · rw [hpattern, Like.escape_eq_self hplain, hb]
  · rw [hstands, passes_iff, hstart, hend]

end TextTest

namespace Expr

/-- A string predicate over two constants. -/
def testOf (method text needle : String) : Expr :=
  .call (.constant (.text text)) method [.constant (.text needle)]

theorem evaluate_testOf [RegexLibrary] {method : String} {test : TextTest}
    (hmethod : TextTest.ofMethod? method = some test) (text needle : String) :
    (testOf method text needle).evaluate = (test.holds? text needle).map .boolean := by
  simp only [testOf, evaluate, hmethod]
  rfl

/-- The value of a string predicate over two constants that the text passes character by
character. A needle without special characters gives a value, which is false only if it has a
capital sigma and is not found in lower case. A needle with a special character gives true
unless the library refuses the expression, as it may if that is too large. -/
theorem evaluate_passes [RegexLibrary] {fits : Regex.Options → List Char → Prop}
    (hdoc : RegexLibrary.IsDocumented fits) {method : String} {test : TextTest}
    {text needle : String} (hmethod : TextTest.ofMethod? method = some test)
    (hpasses : test.Passes (· = ·) needle.toList text.toList) :
    ((∀ c ∈ needle.toList, Like.isSpecial c = false) →
      ∃ b, (testOf method text needle).evaluate = .ok (.boolean b) ∧
        (b = true ↔ test.Passes (· = ·) (lowercase needle.toList) (lowercase text.toList)) ∧
        ('Σ' ∉ needle.toList → b = true)) ∧
    ((∃ c ∈ needle.toList, Like.isSpecial c = true) →
      (fits Like.regexOptions (Like.regexText (test.pattern needle.toList)) →
        (testOf method text needle).evaluate = .ok (.boolean true)) ∧
      (∀ regex, RegexLibrary.build Like.regexOptions
          (Like.regexText (test.pattern needle.toList)) = .ok regex →
        (testOf method text needle).evaluate = .ok (.boolean true)) ∧
      ∀ reason, RegexLibrary.build Like.regexOptions
          (Like.regexText (test.pattern needle.toList)) = .error reason →
        (testOf method text needle).evaluate = .error (.expression (.badPattern reason))) := by
  rw [evaluate_testOf hmethod]
  refine ⟨fun hplain => ?_, fun hspecial => ?_⟩
  · obtain ⟨b, hb, hvalue⟩ := test.exists_holds?_of_plain text hplain
    refine ⟨b, by rw [hb]; rfl, hvalue, fun hsigma => hvalue.mpr (TextTest.passes_iff.mpr ?_)⟩
    exact Like.stands_lowercase_of_notMem hsigma (TextTest.passes_iff.mp hpasses)
  · have hshortcut := test.shortcut?_of_special text.toList hspecial
    have htrue (regex : RegexLibrary.Compiled)
        (hregex : RegexLibrary.build Like.regexOptions
          (Like.regexText (test.pattern needle.toList)) = .ok regex) :
        (test.holds? text needle).map Value.boolean = .ok (.boolean true) := by
      rw [TextTest.holds?, Like.holds?_of_build hshortcut hregex,
        (Like.isMatch_iff hdoc hregex _).mpr (TextTest.matches_of_passes hpasses)]
      rfl
    refine ⟨fun hfits => ?_, htrue, fun reason hreason => ?_⟩
    · obtain ⟨regex, hregex⟩ := Like.exists_regex _ hdoc hfits
      exact htrue regex hregex
    · rw [TextTest.holds?, Like.holds?_of_refused hshortcut hreason]
      rfl

/-- A needle with a percent sign is found in spite of its sigma, and one without a sigma in
spite of that of the text. -/
theorem evaluate_passes_either :
    (testOf "Contains" "5% ΑΣΑ" "% ΑΣ").evaluate = .ok (.boolean true) ∧
      (testOf "StartsWith" "İΣΑ" "İ").evaluate = .ok (.boolean true) := by
  have hdoc := Regex.isDocumented_standard
  have hmethod : TextTest.ofMethod? "StartsWith" = some .startsWith := by decide
  have hcontains : TextTest.contains.Passes (· = ·) "% ΑΣ".toList "5% ΑΣΑ".toList :=
    ⟨"% ΑΣ".toList, ⟨['5'], ['Α'], rfl⟩, List.forall₂_refl _⟩
  have hstarts : TextTest.startsWith.Passes (· = ·) "İ".toList "İΣΑ".toList :=
    ⟨"İ".toList, ⟨['Σ', 'Α'], rfl⟩, List.forall₂_refl _⟩
  have hspecial : ∃ c ∈ "% ΑΣ".toList, Like.isSpecial c = true := ⟨'%', by decide, rfl⟩
  have hplain : ∀ c ∈ ['İ'], Like.isSpecial c = false := List.forall_mem_singleton.mpr rfl
  obtain ⟨b, hvalue, _, hb⟩ := (evaluate_passes hdoc hmethod hstarts).1 hplain
  refine ⟨((evaluate_passes hdoc (by decide) hcontains).2 hspecial).1 trivial, ?_⟩
  rw [hvalue, hb (by decide)]

/-- The sigma at the end of the needle is a final one in lower case, that of the text is not. -/
theorem evaluate_passes_sigma :
    (testOf "StartsWith" "ΑΣΑ" "ΑΣ").evaluate = .ok (.boolean false) ∧
      TextTest.startsWith.Passes (· = ·) "ΑΣ".toList "ΑΣΑ".toList := by
  have hmethod : TextTest.ofMethod? "StartsWith" = some .startsWith := by decide
  have hholds : Like.holds "ΑΣΑ".toList (TextTest.startsWith.pattern "ΑΣ".toList) = false := by
    decide +kernel
  refine ⟨?_, "ΑΣ".toList, ⟨['Α'], rfl⟩, List.forall₂_refl _⟩
  rw [evaluate_testOf hmethod, TextTest.holds?, Like.holds?_eq_holds, hholds]
  rfl

end Expr

end DocumentQuery
