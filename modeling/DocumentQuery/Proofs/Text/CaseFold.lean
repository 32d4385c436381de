import DocumentQuery.Proofs.Text.CaseRun
import DocumentQuery.Proofs.Text.Words
import DocumentQuery.Text.Case

/-!
# Characters that are the same up to case

An ASCII character folds to its lower case and a blank to itself. So an ASCII
character is the same as no other ASCII character that is no letter, and unless
it is blank it is the same as no blank.

* `lowerChar_of_ascii`, `foldChar_of_ascii`, `foldChar_of_isBlank`: what the tables do to
  these characters;
* `toLower_of_sameFolded`, `eq_of_sameFolded`, `isBlank_of_sameFolded`,
  `isWordChar_of_sameFolded`: what an ASCII character is the same as;
* `isWord_of_sameIgnoringCase`: what is the same as a word.
-/

namespace DocumentQuery.Text

variable {c d : Char}

theorem sameFolded_self (c : Char) : sameFolded c c = true := beq_self_eq_true _

/-- What holds of the first 128 characters holds of every ASCII character. -/
theorem forall_ascii {P : Char → Prop} (h : ∀ n < 128, P (Char.ofNat n)) (hc : c.toNat < 128) :
    P c := by
  rw [← Char.ofNat_toNat c]
  exact h c.toNat hc

theorem toNat_lt_of_isWordChar (h : isWordChar c = true) : c.toNat < 128 := by
  rw [isWordChar, Bool.or_eq_true, beq_iff_eq] at h
  rcases h with h | rfl
  · exact Nat.lt_of_le_of_lt (toNat_of_isAlphanum h).2 (by decide)
  · decide

theorem foldChar_of_testBit (h : (tableCodes foldRuns).testBit c.toNat = false) :
    foldChar c = lowerChar c := by
  rw [foldChar, mapCase?_eq_none h, Option.getD_none]

theorem lowerChar_of_testBit (h : (tableCodes lowerRuns).testBit c.toNat = false) :
    lowerChar c = c := by
  rw [lowerChar, mapCase?_eq_none h, Option.getD_none]

/-- The code points of ASCII. -/
def asciiRun : CaseRun := ⟨0, 127, 1, 0⟩

/-- The code points of the blanks. -/
def blankRuns : List CaseRun :=
  [⟨9, 13, 1, 0⟩, ⟨0x20, 0x20, 1, 0⟩, ⟨0x85, 0x85, 1, 0⟩, ⟨0xA0, 0xA0, 1, 0⟩,
   ⟨0x1680, 0x1680, 1, 0⟩, ⟨0x2000, 0x200A, 1, 0⟩, ⟨0x2028, 0x2029, 1, 0⟩, ⟨0x202F, 0x202F, 1, 0⟩,
   ⟨0x205F, 0x205F, 1, 0⟩, ⟨0x3000, 0x3000, 1, 0⟩]

theorem testBit_blankRuns (h : isBlank c = true) :
    (tableCodes blankRuns).testBit c.toNat = true := by
  have hany : blankRuns.any (·.covers c.toNat) = true := by
    simp only [isBlank, Bool.or_eq_true, Bool.and_eq_true, decide_eq_true_eq, beq_iff_eq] at h
    simp only [blankRuns, List.any_cons, List.any_nil, Bool.or_eq_true, CaseRun.covers_eq_true,
      Nat.mod_one, and_true]
    grind
  obtain ⟨run, hrun, hcovers⟩ := List.any_eq_true.mp hany
  exact testBit_tableCodes hrun hcovers

/-- The table of folding has neither ASCII nor blanks, that of lower case no blanks. -/
theorem tableCodes_blankRuns :
    tableCodes (asciiRun :: blankRuns) &&& tableCodes foldRuns = 0 ∧
      tableCodes blankRuns &&& tableCodes lowerRuns = 0 := by
  decide +kernel

/-- Of ASCII the table of lower case has the capital letters alone. -/
theorem lowerChar_of_ascii (hc : c.toNat < 128) : lowerChar c = c.toLower := by
  have hall : ∀ n < 128, if (tableCodes lowerRuns).testBit n then
      lowerChar (Char.ofNat n) = (Char.ofNat n).toLower else
      (Char.ofNat n).toLower = Char.ofNat n := by
    decide +kernel
  have h := hall c.toNat hc
  rw [Char.ofNat_toNat] at h
  split at h
  · exact h
  · rename_i hbit
    rw [lowerChar_of_testBit (Bool.eq_false_iff.mpr hbit), h]

theorem foldChar_of_ascii (hc : c.toNat < 128) : foldChar c = c.toLower := by
  have hcovers : asciiRun.covers c.toNat = true :=
    CaseRun.covers_eq_true.mpr ⟨Nat.zero_le _, Nat.le_of_lt_succ hc, Nat.mod_one _⟩
  have hbit := @testBit_tableCodes (asciiRun :: blankRuns) _ _ List.mem_cons_self hcovers
  rw [foldChar_of_testBit (testBit_eq_false tableCodes_blankRuns.1 hbit), lowerChar_of_ascii hc]

theorem foldChar_of_isBlank (hc : isBlank c = true) : foldChar c = c := by
  have hlower := testBit_blankRuns hc
  have hfold : (tableCodes (asciiRun :: blankRuns)).testBit c.toNat = true := by
    rw [tableCodes, List.foldr_cons, Nat.testBit_or, Bool.or_eq_true]
    exact .inr hlower
  rw [foldChar_of_testBit (testBit_eq_false tableCodes_blankRuns.1 hfold),
    lowerChar_of_testBit (testBit_eq_false tableCodes_blankRuns.2 hlower)]

/-- What the lower case of an ASCII character has in common with it. -/
theorem toLower_ascii (hc : c.toNat < 128) :
    c.toLower.isAlpha = c.isAlpha ∧ isBlank c.toLower = isBlank c ∧
      isWordChar c.toLower = isWordChar c ∧ (c.isAlpha = false → c.toLower = c) := by
  revert hc
  exact forall_ascii (P := fun c => c.toLower.isAlpha = c.isAlpha ∧
    isBlank c.toLower = isBlank c ∧ isWordChar c.toLower = isWordChar c ∧
    (c.isAlpha = false → c.toLower = c)) (by decide +kernel)

theorem sameFolded_ascii (hc : c.toNat < 128) (hd : d.toNat < 128) :
    sameFolded c d = (c.toLower == d.toLower) := by
  rw [sameFolded, foldChar_of_ascii hc, foldChar_of_ascii hd]

theorem toLower_of_sameFolded (hc : c.toNat < 128) (hd : d.toNat < 128)
    (h : sameFolded c d = true) : c.toLower = d.toLower := by
  rwa [sameFolded_ascii hc hd, beq_iff_eq] at h

theorem eq_of_sameFolded (hc : c.toNat < 128) (hd : d.toNat < 128) (hletter : d.isAlpha = false)
    (h : sameFolded c d = true) : c = d := by
  have hsame := toLower_of_sameFolded hc hd h
  obtain ⟨hcAlpha, _, _, hcSelf⟩ := toLower_ascii hc
  obtain ⟨hdAlpha, _, _, hdSelf⟩ := toLower_ascii hd
  have hc : c.isAlpha = false := by rw [← hcAlpha, hsame, hdAlpha, hletter]
  rw [← hcSelf hc, hsame, hdSelf hletter]

theorem sameFolded_eq_false (hc : c.toNat < 128) (hd : d.toNat < 128) (hletter : d.isAlpha = false)
    (hne : c ≠ d) : sameFolded c d = false := by
  rw [Bool.eq_false_iff]
  exact fun hsame => hne (eq_of_sameFolded hc hd hletter hsame)

/-- Only a blank is the same as a blank. -/
theorem isBlank_of_sameFolded (hc : c.toNat < 128) (hd : isBlank d = true)
    (h : sameFolded c d = true) : isBlank c = true := by
  obtain ⟨_, hblank, _, _⟩ := toLower_ascii hc
  rw [sameFolded, beq_iff_eq, foldChar_of_ascii hc, foldChar_of_isBlank hd] at h
  rw [← hblank, h, hd]

/-- Only a character of words is the same as one. -/
theorem isWordChar_of_sameFolded (hc : c.toNat < 128) (hd : isWordChar d = true)
    (h : sameFolded c d = true) : isWordChar c = true := by
  have hd' := toNat_lt_of_isWordChar hd
  obtain ⟨_, _, hcWord, _⟩ := toLower_ascii hc
  obtain ⟨_, _, hdWord, _⟩ := toLower_ascii hd'
  rw [← hcWord, toLower_of_sameFolded hc hd' h, hdWord, hd]

/-! ## Words up to the case of ASCII letters -/

theorem toLower_of_not_ascii (hc : 128 ≤ c.toNat) : c.toLower = c := by
  unfold Char.toLower
  rw [dif_neg]
  rintro ⟨_, h⟩
  have : c.toNat ≤ 90 := h
  omega

/-- Only an ASCII letter becomes another character, and this is a letter again. -/
theorem isWord_toLower (c : Char) :
    isWordStart c.toLower = isWordStart c ∧ isWordChar c.toLower = isWordChar c := by
  by_cases hc : c.toNat < 128
  · obtain ⟨halpha, _, hword, hself⟩ := toLower_ascii hc
    refine ⟨?_, hword⟩
    cases ha : c.isAlpha with
    | false => rw [hself ha]
    | true =>
      rw [ha] at halpha
      rw [isWordStart, halpha, isWordStart, ha]
      rfl
  · rw [toLower_of_not_ascii (Nat.le_of_not_lt hc)]
    exact ⟨rfl, rfl⟩

theorem isWord_map_toLower (cs : List Char) : isWord (cs.map Char.toLower) = isWord cs := by
  cases cs with
  | nil => rfl
  | cons c cs =>
    rw [List.map_cons, isWord, isWord, List.all_map, (isWord_toLower c).1]
    exact congrArg (isWordStart c && cs.all ·) (funext fun d => (isWord_toLower d).2)

/-- A text that is a word up to case is a word. -/
theorem isWord_of_sameIgnoringCase {a b : List Char} (h : sameIgnoringCase a b = true)
    (hb : isWord b = true) : isWord a = true := by
  rw [← isWord_map_toLower, eq_of_beq h, isWord_map_toLower, hb]

end DocumentQuery.Text
