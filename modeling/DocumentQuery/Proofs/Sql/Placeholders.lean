import DocumentQuery.Proofs.Sql.Piece
import DocumentQuery.Proofs.Sql.Token
import DocumentQuery.Proofs.Text.Words

/-!
# Placeholders among tokens

The numbering of placeholders knows quotes that no doubling continues, of four
kinds. Where a text consists of tokens the two ways to read it agree on its
placeholders: a doubled delimiter ends a quoted part and starts the next one.

* `placeholders_tokens`: a text that consists of tokens has the placeholders among
  them.
-/

namespace DocumentQuery.Sql

/-- The characters that neither quotes nor placeholders start with. -/
def isPlain (c : Char) : Bool := (quotes.lookup c).isNone && c != '@'

theorem isPlain_iff {c : Char} : isPlain c = true ↔ quotes.lookup c = none ∧ c ≠ '@' := by
  simp only [isPlain, Bool.and_eq_true, Option.isNone_iff_eq_none, bne_iff_ne]

theorem placeholders_plain {c : Char} (h : isPlain c = true) (cs : List Char) :
    placeholders (c :: cs) = placeholders cs := by
  obtain ⟨hquote, hat⟩ := isPlain_iff.mp h
  rw [placeholders, pieces_plain hquote (by simp [hat])]
  rfl

theorem placeholders_run {p : Char → Bool} (hp : ∀ c, p c = true → isPlain c = true)
    (cs : List Char) : placeholders (cs.dropWhile p) = placeholders cs := by
  induction cs with
  | nil => rfl
  | cons c cs ih =>
    rw [List.dropWhile_cons]
    split
    · rename_i hc
      rw [ih, placeholders_plain (hp c hc)]
    · rfl

theorem placeholders_quote {c close : Char} (h : quotes.lookup c = some close) (cs : List Char) :
    placeholders (c :: cs) = placeholders (afterClose close cs) := by
  rw [placeholders, pieces_quote h]
  rfl

/-- A delimited text holds no placeholder: each doubled delimiter ends a quoted part
and starts the next one. -/
theorem placeholders_delimited {d : Char} (hd : quotes.lookup d = some d) {cs text rest : List Char}
    (h : Text.unenclose d cs = some (text, rest)) : placeholders (d :: cs) = placeholders rest := by
  fun_induction Text.unenclose d cs generalizing text with
  | case1 => cases h
  | case2 =>
    cases h
    rw [placeholders_quote hd]
    simp [afterClose]
  | case3 => cases h
  | case4 cs ih =>
    obtain ⟨⟨text, rest⟩, hu, heq⟩ := Option.map_eq_some_iff.mp h
    cases heq
    rw [placeholders_quote hd, afterClose, if_pos rfl, ih hu]
  | case5 e cs he =>
    cases h
    rw [placeholders_quote hd, afterClose, if_pos rfl]
  | case6 c e cs hc ih =>
    obtain ⟨⟨text, rest⟩, hu, heq⟩ := Option.map_eq_some_iff.mp h
    cases heq
    rw [placeholders_quote hd, afterClose, if_neg hc, ← placeholders_quote hd, ih hu]

theorem isPlain_of_operatorChar (c : Char) (h : isOperatorChar c = true) : isPlain c = true := by
  simp only [isOperatorChar, Bool.or_eq_true, beq_iff_eq] at h
  rcases h with (rfl | rfl) | rfl <;> rfl

theorem isPlain_of_wordChar (c : Char) (h : Text.isWordChar c = true) : isPlain c = true := by
  have hne (d : Char) (hd : Text.isWordChar d = false) : c ≠ d := by
    rintro rfl
    rw [h] at hd
    cases hd
  simp [isPlain, quotes, List.lookup_cons, beq_eq_false_iff_ne.2, hne '\'' rfl, hne '"' rfl,
    hne '\x60' rfl, hne '[' rfl, hne '@' rfl]

/-- A placeholder that is a token is a piece. -/
theorem placeholders_placeholderToken {cs rest : List Char} {token : Token}
    (h : placeholderToken cs = some (token, rest)) :
    placeholders ('@' :: cs) = token.placeholder?.toList ++ placeholders rest := by
  cases cs with
  | nil => cases h
  | cons c cs =>
    rw [placeholderToken] at h
    split at h
    · rename_i hc
      cases h
      have hword := Text.isWordChar_of_wordStart hc
      rw [placeholders, pieces_placeholder (show startsWord (c :: cs) = true from hc),
        List.takeWhile_cons_of_pos hword, List.dropWhile_cons_of_pos hword]
      rfl
    · cases h

/-- A token has the placeholders that the pieces at its place have. -/
theorem placeholders_readToken {c : Char} {cs rest : List Char} {token : Token}
    (h : readToken c cs = some (token, rest)) :
    placeholders (c :: cs) = token.placeholder?.toList ++ placeholders rest := by
  unfold readToken at h
  split at h
  · rename_i hc
    obtain ⟨⟨text, rest⟩, hu, heq⟩ := Option.map_eq_some_iff.mp h
    cases heq
    rw [hc, placeholders_delimited rfl hu]
    rfl
  split at h
  · rename_i hc
    obtain ⟨⟨text, rest⟩, hu, heq⟩ := Option.map_eq_some_iff.mp h
    cases heq
    rw [hc, placeholders_delimited rfl hu]
    rfl
  iterate 3
    split at h
    · rename_i hc
      cases h
      rw [hc, placeholders_plain rfl]
      rfl
  split at h
  · rename_i hc
    rw [hc]
    exact placeholders_placeholderToken h
  split at h
  · rename_i hc
    cases h
    rw [placeholders_plain (isPlain_of_operatorChar c hc), placeholders_run isPlain_of_operatorChar]
    rfl
  split at h
  · rename_i hc
    cases h
    rw [placeholders_plain (isPlain_of_wordChar c (Text.isWordChar_of_wordStart hc)),
      placeholders_run isPlain_of_wordChar]
    rfl
  cases h

theorem isPlain_of_isWhitespace {c : Char} (h : c.isWhitespace = true) : isPlain c = true := by
  simp only [Char.isWhitespace, Bool.or_eq_true, decide_eq_true_eq] at h
  rcases h with ((rfl | rfl) | rfl) | rfl <;> rfl

/-- A text that consists of tokens has the placeholders among them. -/
theorem placeholders_tokens {cs : List Char} {ts : List Token} (h : tokens cs = some ts) :
    placeholders cs = ts.filterMap Token.placeholder? := by
  fun_induction tokens cs generalizing ts with
  | case1 =>
    cases h
    rw [placeholders, pieces_nil]
    rfl
  | case2 c cs hc ih => rw [placeholders_plain (isPlain_of_isWhitespace hc), ih h]
  | case3 c cs hc hr => cases h
  | case4 c cs hc token rest hr ih =>
    obtain ⟨ts, hts, rfl⟩ := Option.map_eq_some_iff.mp h
    rw [placeholders_readToken hr, ih hts]
    cases token <;> rfl

end DocumentQuery.Sql
