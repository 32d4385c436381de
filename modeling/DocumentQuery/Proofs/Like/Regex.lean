import DocumentQuery.Proofs.Like.Matches
import DocumentQuery.Proofs.Regex.Standard

/-!
# The regular expression of a pattern

The expression is spelled as documented, whatever characters the pattern has, as
each that could be taken for something else is escaped. It is found in exactly
the texts that the pattern matches up to case: between the two ends of a text
nothing is left over.

* `Like.exists_pieces`: the pieces of an expression ask what the pattern asks;
* `Like.isMatch_iff`, `Like.exists_regex`: the compiled expression;
* `Like.holds?_eq_holds`: the standard library refuses none.
-/

namespace DocumentQuery.Like

open Regex (Piece Follows Spells)
open Text (sameFolded)

variable {text pattern : List Char}

theorem takes_any (d : Char) : Regex.CharClass.any.takes regexOptions d = true := rfl

theorem takes_exactly (c d : Char) :
    (Regex.CharClass.exactly c).takes regexOptions d = sameFolded c d := rfl

section Library

variable [RegexLibrary] {fits : Regex.Options → List Char → Prop} {b : Bool}

theorem regexBody_plain {c : Char} (hc : isSpecial c = false) (cs : List Char) :
    regexBody (c :: cs) = RegexLibrary.escape [c] ++ regexBody cs := by
  obtain ⟨hpercent, hunderscore, hescape⟩ := isSpecial_eq_false.mp hc
  rw [regexBody]
  · exact hpercent
  · exact hunderscore
  · exact fun h _ => hescape h
  · exact fun _ _ h _ => hescape h

/-- An escaped character before an expression stands for one that is the same up to case. -/
theorem exists_pieces_escape (hdoc : RegexLibrary.IsDocumented fits) (c : Char) {cs : List Char}
    (h : ∃ ps, Spells (regexBody cs ++ ['$']) ps ∧
      ∀ before text, Follows regexOptions ps before text ↔ Matches (sameFolded · ·) cs text) :
    ∃ ps, Spells (RegexLibrary.escape [c] ++ regexBody cs ++ ['$']) ps ∧
      ∀ before text, Follows regexOptions ps before text ↔
        ∃ d rest, text = d :: rest ∧ sameFolded c d = true ∧ Matches (sameFolded · ·) cs rest := by
  obtain ⟨ps, hspells, hfollows⟩ := h
  refine ⟨.one (.exactly c) :: ps, ?_, fun before text => ?_⟩
  · rw [List.append_assoc]
    exact .one (hdoc.escape c) hspells
  · simp only [Follows, hfollows, takes_exactly]

/-- What a pattern says up to the end of a text is spelled as documented, and asks what the
pattern asks. -/
theorem exists_pieces (hdoc : RegexLibrary.IsDocumented fits) (pattern : List Char) :
    ∃ ps, Spells (regexBody pattern ++ ['$']) ps ∧
      ∀ before text, Follows regexOptions ps before text ↔
        Matches (sameFolded · ·) pattern text := by
  induction pattern using pattern_induction with
  | nil | lone => exact ⟨[.textEnd], .textEnd .nil, fun _ _ => and_iff_left trivial⟩
  | anyRun cs ih =>
    obtain ⟨ps, hspells, hfollows⟩ := ih
    refine ⟨.run .any :: ps, .run .any hspells, fun before text => ?_⟩
    simp only [Follows, Matches, hfollows, takes_any, implies_true, true_and]
  | anyOne cs ih =>
    obtain ⟨ps, hspells, hfollows⟩ := ih
    have hspells : Spells (['.'] ++ (regexBody cs ++ ['$'])) (.one .any :: ps) := .one .any hspells
    refine ⟨.one .any :: ps, hspells, fun before text => ?_⟩
    simp only [Follows, Matches, hfollows, takes_any, true_and]
  | escaped c cs ih =>
    simp only [regexBody, Matches]
    exact exists_pieces_escape hdoc c ih
  | plain c cs hc ih =>
    simp only [regexBody_plain hc, matches_plain hc]
    exact exists_pieces_escape hdoc c ih

theorem exists_spells (hdoc : RegexLibrary.IsDocumented fits) (pattern : List Char) :
    ∃ ps, Spells (regexText pattern) ps ∧
      ∀ text, Regex.Finds regexOptions ps text ↔ Matches (sameFolded · ·) pattern text := by
  obtain ⟨ps, hspells, hfollows⟩ := exists_pieces hdoc pattern
  refine ⟨.textStart :: ps, .textStart hspells, fun text => ?_⟩
  constructor
  · rintro ⟨_, after, rfl, rfl, h⟩
    exact (hfollows [] after).mp h
  · exact fun h => ⟨[], text, rfl, rfl, (hfollows [] text).mpr h⟩

/-- The expression of a pattern is found in the texts that the pattern matches up to case. -/
theorem isMatch_iff (hdoc : RegexLibrary.IsDocumented fits) {regex : RegexLibrary.Compiled}
    (hregex : RegexLibrary.build regexOptions (regexText pattern) = .ok regex) (text : List Char) :
    RegexLibrary.isMatch regex text = true ↔ Matches (sameFolded · ·) pattern text := by
  obtain ⟨ps, hspells, hfinds⟩ := exists_spells hdoc pattern
  rw [hdoc.isMatch hspells hregex, hfinds]

theorem exists_regex (pattern : List Char) (hdoc : RegexLibrary.IsDocumented fits)
    (hfits : fits regexOptions (regexText pattern)) :
    ∃ regex, RegexLibrary.build regexOptions (regexText pattern) = .ok regex := by
  obtain ⟨_, hspells, _⟩ := exists_spells hdoc pattern
  exact hdoc.build hspells hfits

/-! ## The two ways -/

theorem holds?_of_shortcut? (h : shortcut? text pattern = some b) : holds? text pattern = .ok b := by
  rw [holds?, h]

theorem holds?_of_build (h : shortcut? text pattern = none) {regex : RegexLibrary.Compiled}
    (hregex : RegexLibrary.build regexOptions (regexText pattern) = .ok regex) :
    holds? text pattern = .ok (RegexLibrary.isMatch regex text) := by
  rw [holds?, h]
  simp only [hregex]

theorem holds?_of_refused (h : shortcut? text pattern = none) {reason : String}
    (hreason : RegexLibrary.build regexOptions (regexText pattern) = .error reason) :
    holds? text pattern = .error (.expression (.badPattern reason)) := by
  rw [holds?, h]
  simp only [hreason]

end Library

/-- There is no pattern that the standard library refuses. -/
theorem holds?_eq_holds : holds? text pattern = .ok (holds text pattern) := by
  have hholds : ∃ b, holds? text pattern = .ok b := by
    cases h : shortcut? text pattern with
    | some b => exact ⟨b, holds?_of_shortcut? h⟩
    | none =>
      obtain ⟨regex, hregex⟩ := exists_regex pattern Regex.isDocumented_standard trivial
      exact ⟨_, holds?_of_build h hregex⟩
  obtain ⟨b, hb⟩ := hholds
  rw [holds, hb]
  rfl

end DocumentQuery.Like
