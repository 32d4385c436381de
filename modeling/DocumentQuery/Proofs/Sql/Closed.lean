import DocumentQuery.Proofs.Text.CaseFold
import DocumentQuery.Proofs.Text.Words
import DocumentQuery.Sql.SourcePath

/-!
# Texts whose parentheses match

Parentheses are counted outside string literals, to find out whether a pair of
them encloses all of a text and to find the end of an expression. Whatever
counts them passes over a text whose parentheses match and has as many of them
open after it as before.

* `Sql.IsClosed`: these texts, put together of other characters, string literals
  and parentheses around such texts;
* `Sql.isClosed_enclose`, `Sql.isClosed_of_isBlank`, `Sql.isClosed_of_isWord`: literals
  with delimiters inside, blanks and names;
* `Sql.IsClosed.isBalanced`: they do not change whether a text is balanced.
-/

namespace DocumentQuery.Sql

variable {cs : List Char}

/-- A text whose parentheses match, those in string literals apart. -/
inductive IsClosed : List Char → Prop
  | nil : IsClosed []
  | append {cs ds : List Char} (hcs : IsClosed cs) (hds : IsClosed ds) : IsClosed (cs ++ ds)
  | char {c : Char} (hquote : c ≠ '\'') (hopen : c ≠ '(') (hclose : c ≠ ')') : IsClosed [c]
  | literal {string : List Char} (h : '\'' ∉ string) : IsClosed ('\'' :: (string ++ ['\'']))
  | parens {cs : List Char} (h : IsClosed cs) : IsClosed ('(' :: (cs ++ [')']))

theorem isClosed_of_plain (h : ∀ c ∈ cs, c ≠ '\'' ∧ c ≠ '(' ∧ c ≠ ')') : IsClosed cs := by
  induction cs with
  | nil => exact .nil
  | cons c cs ih =>
    obtain ⟨⟨hquote, hopen, hclose⟩, h⟩ := List.forall_mem_cons.mp h
    exact (IsClosed.char hquote hopen hclose).append (ih h)

theorem isClosed_of_isBlank (h : ∀ c ∈ cs, Text.isBlank c = true) : IsClosed cs := by
  have hne {c d : Char} (hc : c ∈ cs) (hd : Text.isBlank d = false) : c ≠ d := by
    rintro rfl
    rw [h c hc] at hd
    cases hd
  exact isClosed_of_plain fun c hc =>
    ⟨hne hc (by decide), hne hc (by decide), hne hc (by decide)⟩

theorem isClosed_of_isWord (h : Text.isWord cs = true) : IsClosed cs :=
  isClosed_of_plain fun c hc =>
    have hc := Text.isWordChar_of_mem h hc
    ⟨Text.ne_of_isWordChar hc (by decide), Text.ne_of_isWordChar hc (by decide),
      Text.ne_of_isWordChar hc (by decide)⟩

/-- A literal with delimiters inside is several literals, one after the other. -/
theorem isClosed_enclose (string : List Char) : IsClosed (Text.enclose '\'' string) := by
  -- What was read of the current literal, up to the next delimiter.
  suffices h : ∀ read, '\'' ∉ read →
      IsClosed ('\'' :: (read ++ (Text.double '\'' string ++ ['\'']))) from h [] List.not_mem_nil
  induction string with
  | nil =>
    intro read hread
    exact .literal hread
  | cons c string ih =>
    intro read hread
    rw [Text.double]
    split
    · have h := (IsClosed.literal hread).append (ih [] List.not_mem_nil)
      simpa using h
    · rename_i hc
      have hread : '\'' ∉ read ++ [c] := by simp [hread, Ne.symm hc]
      have h := ih (read ++ [c]) hread
      simpa using h

/-! ## Balanced texts -/

theorem isBalanced_inString {string : List Char} (h : '\'' ∉ string) (depth : Nat)
    (rest : List Char) :
    isBalanced depth true (string ++ '\'' :: rest) = isBalanced depth false rest := by
  induction string with
  | nil => rw [List.nil_append, isBalanced, if_pos rfl, Bool.not_true]
  | cons c string ih =>
    rw [List.mem_cons, not_or] at h
    rw [List.cons_append, isBalanced, if_neg (Ne.symm h.1), if_pos rfl, ih h.2]

theorem IsClosed.isBalanced (h : IsClosed cs) (depth : Nat) (rest : List Char) :
    Sql.isBalanced depth false (cs ++ rest) = Sql.isBalanced depth false rest := by
  induction h generalizing depth rest with
  | nil => rfl
  | append _ _ ihc ihd => rw [List.append_assoc, ihc, ihd]
  | char hquote hopen hclose =>
    rw [List.singleton_append, Sql.isBalanced, if_neg hquote, if_neg (by decide), if_neg hopen,
      if_neg hclose]
  | literal h =>
    rw [List.cons_append, List.append_assoc, Sql.isBalanced, if_pos rfl]
    exact isBalanced_inString h depth rest
  | parens _ ih =>
    rw [List.cons_append, List.append_assoc, Sql.isBalanced, if_neg (by decide),
      if_neg (by decide), if_pos rfl, ih, List.singleton_append, Sql.isBalanced]
    simp

end DocumentQuery.Sql
