import DocumentQuery.Proofs.Text.Runs
import DocumentQuery.Text.Basic

/-!
# Words, digits and blanks

No character of a word is blank, and the digits of a number are read back as
the number.

* `isWordChar_of_mem`, `not_isBlank_of_wordChar`: the characters of words;
* `natural64?_eq_some`: the texts of a number below `2 ^ 64`;
* `IsTrimOf`, `trim_eq_iff`: what is left of a text without the blanks around it;
* `trim_eq_self`, `exists_trim`: a text that has no blanks around it, and one
  that has some.
-/

namespace DocumentQuery.Text

/-! ## Words -/

/-- The first character of a word is one of the others, too. -/
theorem isWordChar_of_wordStart {c : Char} (h : isWordStart c = true) : isWordChar c = true := by
  simp only [isWordStart, isWordChar, Char.isAlphanum, Bool.or_eq_true] at h ⊢
  exact h.imp .inl id

theorem isWordChar_of_mem {cs : List Char} (h : isWord cs = true) {c : Char} (hc : c ∈ cs) :
    isWordChar c = true := by
  cases cs with
  | nil => cases hc
  | cons d ds =>
    rw [isWord, Bool.and_eq_true] at h
    rcases List.mem_cons.mp hc with rfl | hc
    · exact isWordChar_of_wordStart h.1
    · exact List.all_eq_true.mp h.2 c hc

theorem isWord_append {cs ds : List Char} (h : isWord cs = true)
    (hds : ds.all isWordChar = true) : isWord (cs ++ ds) = true := by
  cases cs with
  | nil => cases h
  | cons c cs =>
    rw [isWord, Bool.and_eq_true] at h
    rw [List.cons_append, isWord, List.all_append, h.1, h.2, hds]
    rfl

theorem ne_of_isWordChar {c d : Char} (h : isWordChar c = true) (hd : isWordChar d = false) :
    c ≠ d := by
  rintro rfl
  rw [h] at hd
  cases hd

theorem not_mem_of_isWord {cs : List Char} (h : isWord cs = true) {d : Char}
    (hd : isWordChar d = false) : d ∉ cs :=
  fun hmem => ne_of_isWordChar (isWordChar_of_mem h hmem) hd rfl

theorem head?_isWordChar {cs : List Char} (h : isWord cs = true) (rest : List Char) :
    ∀ c ∈ (cs ++ rest).head?, isWordChar c = true := by
  cases cs with
  | nil => cases h
  | cons c cs =>
    intro d hd
    cases hd
    exact isWordChar_of_mem h List.mem_cons_self

theorem sameIgnoringCase_self (cs : List Char) : sameIgnoringCase cs cs = true :=
  beq_self_eq_true _

theorem toNat_of_isAlphanum {c : Char} (h : c.isAlphanum = true) :
    48 ≤ c.toNat ∧ c.toNat ≤ 122 := by
  have hclass : ((65 ≤ c.toNat ∧ c.toNat ≤ 90) ∨ (97 ≤ c.toNat ∧ c.toNat ≤ 122)) ∨
      (48 ≤ c.toNat ∧ c.toNat ≤ 57) := by
    rcases Bool.or_eq_true_iff.mp h with h | h
    · rcases Bool.or_eq_true_iff.mp h with h | h
      · exact .inl (.inl (of_decide_eq_true h))
      · have h := Bool.and_eq_true_iff.mp h
        exact .inl (.inr ⟨of_decide_eq_true h.1, of_decide_eq_true h.2⟩)
    · exact .inr (Char.isDigit_iff_toNat.mp h)
  omega

theorem not_isBlank_of_wordChar {c : Char} (h : isWordChar c = true) : isBlank c = false := by
  have hrange : 48 ≤ c.toNat ∧ c.toNat ≤ 122 := by
    rw [isWordChar, Bool.or_eq_true, beq_iff_eq] at h
    rcases h with h | rfl
    · exact toNat_of_isAlphanum h
    · decide
  rw [Bool.eq_false_iff]
  intro h
  simp only [isBlank, Bool.or_eq_true, Bool.and_eq_true, decide_eq_true_eq, beq_iff_eq] at h
  omega

/-! ## Digits -/

theorem naturalOfDigits_eq (digits : List Char) :
    naturalOfDigits digits = Nat.ofDigitChars 10 digits 0 := by
  rw [naturalOfDigits, Nat.ofDigitChars]
  refine congrArg (fun f => List.foldl f 0 digits) ?_
  funext n c
  rw [Nat.mul_comm]
  rfl

theorem all_isDigit_toDigits (n : Nat) : (Nat.toDigits 10 n).all Char.isDigit = true :=
  List.all_eq_true.mpr fun _ => Nat.isDigit_of_mem_toDigits (by decide) (by decide)

theorem isWordChar_of_mem_toDigits {n : Nat} {c : Char} (h : c ∈ Nat.toDigits 10 n) :
    isWordChar c = true := by
  have hdigit := List.all_eq_true.mp (all_isDigit_toDigits n) c h
  simp [isWordChar, Char.isAlphanum, hdigit]

theorem dropPlus_of_all_isDigit {cs : List Char} (h : cs.all Char.isDigit = true) :
    dropPlus cs = cs := by
  unfold dropPlus
  split
  · cases h
  · rfl

theorem exists_dropPlus (cs : List Char) :
    ∃ plus, (plus = [] ∨ plus = ['+']) ∧ cs = plus ++ dropPlus cs := by
  unfold dropPlus
  split
  · exact ⟨['+'], .inr rfl, rfl⟩
  · exact ⟨[], .inl rfl, rfl⟩

/-- A number below `2 ^ 64` is written by its digits, with any zeros and perhaps a plus sign
before them. -/
theorem natural64?_eq_some {cs : List Char} {n : UInt64} :
    natural64? cs = some n ↔ ∃ plus digits, cs = plus ++ digits ∧ (plus = [] ∨ plus = ['+']) ∧
      digits ≠ [] ∧ digits.all Char.isDigit = true ∧ Nat.ofDigitChars 10 digits 0 = n.toNat := by
  constructor
  · intro h
    obtain ⟨plus, hplus, hcs⟩ := exists_dropPlus cs
    rw [natural64?] at h
    split at h
    · cases h
    · rename_i hread
      simp only [Bool.or_eq_true, Bool.not_eq_true', decide_eq_true_eq, not_or, List.isEmpty_iff,
        Bool.not_eq_false, Nat.not_le] at hread
      obtain ⟨⟨hne, hall⟩, hlt⟩ := hread
      cases h
      refine ⟨plus, dropPlus cs, hcs, hplus, hne, hall, ?_⟩
      rw [← naturalOfDigits_eq]
      exact (UInt64.toNat_ofNat_of_lt' hlt).symm
  · rintro ⟨plus, digits, rfl, hplus, hne, hall, hvalue⟩
    have hdrop : dropPlus (plus ++ digits) = digits := by
      rcases hplus with rfl | rfl
      · exact dropPlus_of_all_isDigit hall
      · rfl
    have hempty : digits.isEmpty = false := List.isEmpty_eq_false_iff.mpr hne
    have hlt : ¬ UInt64.size ≤ n.toNat := Nat.not_le.mpr n.toNat_lt
    rw [natural64?, hdrop, naturalOfDigits_eq, hvalue, if_neg]
    · rw [UInt64.ofNat_toNat]
    · simp [hall, hempty, hlt]

/-! ## Blanks -/

theorem skipBlank_eq_self {cs : List Char} (h : ∀ c ∈ cs.head?, isBlank c = false) :
    skipBlank cs = cs :=
  dropWhile_eq_self h

/-- What is left of a text without the blanks around it, of which it neither starts nor ends
with one. -/
def IsTrimOf (inner cs : List Char) : Prop :=
  ∃ before after, cs = before ++ (inner ++ after) ∧ (∀ c ∈ before, isBlank c = true) ∧
    (∀ c ∈ after, isBlank c = true) ∧ (∀ c ∈ inner.head?, isBlank c = false) ∧
    ∀ c ∈ inner.getLast?, isBlank c = false

theorem trim_eq_iff {cs inner : List Char} : trim cs = inner ↔ IsTrimOf inner cs := by
  constructor
  · rintro rfl
    obtain ⟨before, middle, after, htext, htrim, hends⟩ := exists_ends isBlank cs
    have htrim : trim cs = middle := htrim
    rw [htrim]
    exact ⟨before, after, htext, hends⟩
  · rintro ⟨before, after, rfl, hbefore, hafter, hfirst, hlast⟩
    exact dropWhile_ends hbefore hafter hfirst hlast

/-- A text that has no blank at either end. -/
theorem trim_eq_self {cs : List Char} (hfirst : ∀ c ∈ cs.head?, isBlank c = false)
    (hlast : ∀ c ∈ cs.getLast?, isBlank c = false) : trim cs = cs :=
  trim_eq_iff.mpr ⟨[], [], by simp, List.forall_mem_nil _, List.forall_mem_nil _, hfirst, hlast⟩

/-- There are only blanks before what is left of a text. -/
theorem exists_trim (cs : List Char) :
    ∃ blanks more, cs = blanks ++ (trim cs ++ more) ∧ ∀ c ∈ blanks, isBlank c = true := by
  obtain ⟨before, after, htext, hbefore, _⟩ := trim_eq_iff.mp (rfl : trim cs = trim cs)
  exact ⟨before, after, htext, hbefore⟩

end DocumentQuery.Text
