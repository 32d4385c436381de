import DocumentQuery.Proofs.Text.Runs
import DocumentQuery.Text.Basic

/-!
# Tokens of query text

Query text as SQL splits it: words, names between double quotes, strings
between apostrophes, placeholders, operators, parentheses and commas. A
delimiter inside a name or a string is written twice; no character has any
other meaning there.

* `Token`, `tokens`: the tokens of a text;
* `Spells`: a text has these tokens wherever a separator follows it;
* `Spells.append`, `Spells.spaced` and the like: texts put together;
* `spells_word`, `spells_name`, `spells_string`, `spells_placeholder`,
  `spells_operator`: the text of each kind of token.
-/

namespace DocumentQuery.Sql

/-- A token of query text. -/
inductive Token
  /-- A keyword or a bare name. -/
  | word (text : String)
  /-- What stands between double quotes, where two of them are one. -/
  | name (text : String)
  /-- What stands between apostrophes, where two of them are one. -/
  | string (text : String)
  /-- The name after an at sign. -/
  | placeholder (name : String)
  | operator (symbol : String)
  | openParen
  | closeParen
  | comma
  deriving DecidableEq, Repr

/-- The name of a placeholder. -/
def Token.placeholder? : Token → Option String
  | .placeholder n => some n
  | _ => none

/-- The characters of operators. -/
def isOperatorChar (c : Char) : Bool := c == '=' || c == '<' || c == '>'

/-- A token that is a run of characters of a class, the first of them read already. -/
def runToken (make : String → Token) (p : Char → Bool) (c : Char) (cs : List Char) :
    Token × List Char :=
  (make (String.ofList (c :: cs.takeWhile p)), cs.dropWhile p)

/-- A token that ends at a delimiter which is not doubled. -/
def delimitedToken (make : String → Token) (d : Char) (cs : List Char) :
    Option (Token × List Char) :=
  (Text.unenclose d cs).map fun (text, rest) => (make (String.ofList text), rest)

/-- A placeholder after its at sign. -/
def placeholderToken : List Char → Option (Token × List Char)
  | [] => none
  | c :: cs => if Text.isWordStart c then runToken .placeholder Text.isWordChar c cs else none

/-- The token at the start of a text whose first character is `c`, and what follows it. -/
def readToken (c : Char) (cs : List Char) : Option (Token × List Char) :=
  if c = '"' then delimitedToken .name '"' cs
  else if c = '\'' then delimitedToken .string '\'' cs
  else if c = '(' then some (.openParen, cs)
  else if c = ')' then some (.closeParen, cs)
  else if c = ',' then some (.comma, cs)
  else if c = '@' then placeholderToken cs
  else if isOperatorChar c then runToken .operator isOperatorChar c cs
  else if Text.isWordStart c then runToken .word Text.isWordChar c cs
  else none

theorem length_delimitedToken {make : String → Token} {d : Char} {cs : List Char}
    {read : Token × List Char} (h : delimitedToken make d cs = some read) :
    read.2.length ≤ cs.length := by
  obtain ⟨⟨text, rest⟩, hu, rfl⟩ := Option.map_eq_some_iff.mp h
  exact Nat.le_of_lt (Text.length_unenclose hu)

theorem length_runToken (make : String → Token) (p : Char → Bool) (c : Char) (cs : List Char) :
    (runToken make p c cs).2.length ≤ cs.length :=
  (List.dropWhile_suffix p).length_le

theorem length_placeholderToken {cs : List Char} {read : Token × List Char}
    (h : placeholderToken cs = some read) : read.2.length ≤ cs.length := by
  cases cs with
  | nil => cases h
  | cons c cs =>
    rw [placeholderToken] at h
    split at h
    · cases h
      exact Nat.le_succ_of_le (length_runToken ..)
    · cases h

/-- A token takes at least its first character. -/
theorem length_readToken {c : Char} {cs : List Char} {read : Token × List Char}
    (h : readToken c cs = some read) : read.2.length ≤ cs.length := by
  unfold readToken at h
  split at h
  · exact length_delimitedToken h
  split at h
  · exact length_delimitedToken h
  iterate 3
    split at h
    · cases h
      exact Nat.le_refl _
  split at h
  · exact length_placeholderToken h
  iterate 2
    split at h
    · cases h
      exact length_runToken ..
  cases h

/-- The tokens of a text, if it consists of tokens and blanks between them. -/
def tokens : List Char → Option (List Token)
  | [] => some []
  | c :: cs =>
    if c.isWhitespace then tokens cs
    else
      match _h : readToken c cs with
      | none => none
      | some (token, rest) => (tokens rest).map (token :: ·)
termination_by cs => cs.length
decreasing_by
  · simp
  · have := length_readToken _h
    simp only [List.length_cons] at *
    omega

theorem tokens_nil : tokens [] = some [] := by
  rw [tokens]

theorem tokens_blank (cs : List Char) : tokens (' ' :: cs) = tokens cs := by
  rw [tokens]
  exact if_pos rfl

theorem tokens_cons {c : Char} {cs rest : List Char} {token : Token}
    (hc : c.isWhitespace = false) (h : readToken c cs = some (token, rest)) :
    tokens (c :: cs) = (tokens rest).map (token :: ·) := by
  rw [tokens, if_neg (by simp [hc])]
  split
  · rename_i hn
    rw [hn] at h
    cases h
  · rename_i hs
    rw [hs] at h
    cases h
    rfl

/-! ## Texts and their tokens -/

/-- The characters after which no token goes on. -/
def isSeparator (c : Char) : Bool := c == ' ' || c == '(' || c == ')' || c == ','

/-- A text before which every token ends. -/
def Separated (rest : List Char) : Prop := ∀ c ∈ rest.head?, isSeparator c = true

/-- A text has these tokens, whatever comes after a separator that follows it. -/
def Spells (cs : List Char) (ts : List Token) : Prop :=
  ∀ rest, Separated rest → tokens (cs ++ rest) = (tokens rest).map (ts ++ ·)

theorem separated_nil : Separated [] := fun _ h => nomatch h

theorem separated_cons {c : Char} (h : isSeparator c = true) (cs : List Char) :
    Separated (c :: cs) := by
  intro e he
  cases he
  exact h

/-- Separators belong to none of the classes that tokens consist of. -/
theorem Separated.not_class {rest : List Char} (h : Separated rest) {p : Char → Bool}
    (hp : ∀ c, isSeparator c = true → p c = false) : ∀ c ∈ rest.head?, p c = false :=
  fun c hc => hp c (h c hc)

theorem not_wordChar_of_separator (c : Char) (h : isSeparator c = true) :
    Text.isWordChar c = false := by
  simp only [isSeparator, Bool.or_eq_true, beq_iff_eq] at h
  rcases h with ((rfl | rfl) | rfl) | rfl <;> decide

theorem not_operatorChar_of_separator (c : Char) (h : isSeparator c = true) :
    isOperatorChar c = false := by
  simp only [isSeparator, Bool.or_eq_true, beq_iff_eq] at h
  rcases h with ((rfl | rfl) | rfl) | rfl <;> decide

theorem Separated.ne_delimiter {rest : List Char} (h : Separated rest) {d : Char}
    (hd : isSeparator d = false) : ∀ c ∈ rest.head?, c ≠ d := by
  rintro c hc rfl
  rw [h c hc] at hd
  cases hd

namespace Spells

variable {a b : List Char} {ts us : List Token}

/-- The tokens of a whole text. -/
theorem tokens_eq (h : Spells a ts) : tokens a = some ts := by
  have := h [] separated_nil
  rwa [List.append_nil, tokens_nil, Option.map_some, List.append_nil] at this

theorem nil : Spells [] [] := by
  intro rest _
  simp

/-- Two texts, the second of which starts with a separator if it is not empty. -/
theorem append (ha : Spells a ts) (hb : Spells b us) (hsep : Separated b) :
    Spells (a ++ b) (ts ++ us) := by
  intro rest hrest
  have hnext : Separated (b ++ rest) := by
    cases b with
    | nil => exact hrest
    | cons c cs => exact separated_cons (hsep c rfl) _
  rw [List.append_assoc, ha _ hnext, hb _ hrest, Option.map_map]
  simp [Function.comp_def]

theorem blank (h : Spells a ts) : Spells (' ' :: a) ts := by
  intro rest hrest
  rw [List.cons_append, tokens_blank, h rest hrest]

/-- A token that ends by itself, in front of a text. -/
theorem cons {c : Char} {token : Token} (hc : c.isWhitespace = false)
    (hread : ∀ cs, readToken c cs = some (token, cs)) (h : Spells a ts) :
    Spells (c :: a) (token :: ts) := by
  intro rest hrest
  rw [List.cons_append, tokens_cons hc (hread _), h rest hrest, Option.map_map]
  rfl

theorem openParen (h : Spells a ts) : Spells ('(' :: a) (.openParen :: ts) :=
  h.cons rfl fun _ => rfl

theorem closeParen (h : Spells a ts) : Spells (')' :: a) (.closeParen :: ts) :=
  h.cons rfl fun _ => rfl

theorem comma (h : Spells a ts) : Spells (',' :: a) (.comma :: ts) :=
  h.cons rfl fun _ => rfl

/-- Two texts with a blank between them. -/
theorem spaced (ha : Spells a ts) (hb : Spells b us) : Spells (a ++ ' ' :: b) (ts ++ us) :=
  ha.append hb.blank (separated_cons rfl _)

/-- Two texts with a comma between them. -/
theorem listed (ha : Spells a ts) (hb : Spells b us) :
    Spells (a ++ ',' :: ' ' :: b) (ts ++ .comma :: us) :=
  ha.append hb.blank.comma (separated_cons rfl _)

/-- A text before a closing parenthesis. -/
theorem closed (ha : Spells a ts) : Spells (a ++ [')']) (ts ++ [.closeParen]) :=
  ha.append (.closeParen .nil) (separated_cons rfl _)

end Spells

/-! ## The text of a token -/

/-- A token that a reader gets back before a separator. -/
theorem spells_of_readToken {c : Char} {cs : List Char} {token : Token}
    (hc : c.isWhitespace = false)
    (h : ∀ rest, Separated rest → readToken c (cs ++ rest) = some (token, rest)) :
    Spells (c :: cs) [token] := by
  intro rest hrest
  rw [List.cons_append, tokens_cons hc (h rest hrest)]
  rfl

theorem runToken_append {make : String → Token} {p : Char → Bool} (c : Char) {cs rest : List Char}
    (hcs : cs.all p = true) (hrest : ∀ c ∈ rest.head?, p c = false) :
    runToken make p c (cs ++ rest) = (make (String.ofList (c :: cs)), rest) := by
  rw [runToken, Text.takeWhile_run hcs hrest, Text.dropWhile_run hcs hrest]

theorem delimitedToken_double {make : String → Token} {d : Char} (text : String)
    {rest : List Char} (hrest : ∀ c ∈ rest.head?, c ≠ d) :
    delimitedToken make d (Text.double d text.toList ++ [d] ++ rest) = some (make text, rest) := by
  rw [delimitedToken, List.append_assoc, List.singleton_append,
    Text.unenclose_double d text.toList hrest, Option.map_some]
  simp only [String.ofList_toList]

/-- A name between double quotes, whatever it contains. -/
theorem spells_name (text : String) :
    Spells (Text.enclose '"' text.toList) [.name text] :=
  spells_of_readToken rfl fun _ hrest =>
    delimitedToken_double text (hrest.ne_delimiter (by decide))

/-- A string between apostrophes, whatever it contains. -/
theorem spells_string (text : String) :
    Spells (Text.enclose '\'' text.toList) [.string text] :=
  spells_of_readToken rfl fun _ hrest =>
    delimitedToken_double text (hrest.ne_delimiter (by decide))

/-- The characters that start a word start no other token. -/
theorem readToken_word {c : Char} (hc : Text.isWordStart c = true) (cs : List Char) :
    readToken c cs = some (runToken .word Text.isWordChar c cs) := by
  have hne (d : Char) (hd : Text.isWordStart d = false) : c ≠ d := by
    rintro rfl
    rw [hc] at hd
    cases hd
  have hop : isOperatorChar c = false := by
    simp [isOperatorChar, hne '=' (by decide), hne '<' (by decide), hne '>' (by decide)]
  rw [readToken, if_neg (hne _ (by decide)), if_neg (hne _ (by decide)),
    if_neg (hne _ (by decide)), if_neg (hne _ (by decide)), if_neg (hne _ (by decide)),
    if_neg (hne _ (by decide)), if_neg (by simp [hop]), if_pos hc]

theorem not_isWhitespace_of_wordStart {c : Char} (hc : Text.isWordStart c = true) :
    c.isWhitespace = false := by
  rw [Bool.eq_false_iff]
  intro hw
  simp only [Char.isWhitespace, Bool.or_eq_true, decide_eq_true_eq] at hw
  rcases hw with ((rfl | rfl) | rfl) | rfl <;> revert hc <;> decide

theorem spells_word (text : String) (h : Text.isWord text.toList = true) :
    Spells text.toList [.word text] := by
  cases hl : text.toList with
  | nil =>
    rw [hl] at h
    cases h
  | cons c cs =>
    rw [hl, Text.isWord, Bool.and_eq_true] at h
    refine spells_of_readToken (not_isWhitespace_of_wordStart h.1) fun rest hrest => ?_
    rw [readToken_word h.1, runToken_append c h.2 (hrest.not_class not_wordChar_of_separator),
      ← hl, String.ofList_toList]

/-- The characters of operators start no other token. -/
theorem spells_operator {c : Char} {cs : List Char} (hc : isOperatorChar c = true)
    (hcs : cs.all isOperatorChar = true) :
    Spells (c :: cs) [.operator (String.ofList (c :: cs))] := by
  have hread (ds : List Char) : readToken c ds = some (runToken .operator isOperatorChar c ds) := by
    simp only [isOperatorChar, Bool.or_eq_true, beq_iff_eq] at hc
    rcases hc with (rfl | rfl) | rfl <;> rfl
  have hblank : c.isWhitespace = false := by
    simp only [isOperatorChar, Bool.or_eq_true, beq_iff_eq] at hc
    rcases hc with (rfl | rfl) | rfl <;> rfl
  refine spells_of_readToken hblank fun rest hrest => ?_
  rw [hread, runToken_append c hcs (hrest.not_class not_operatorChar_of_separator)]

theorem spells_placeholder {name : String} (h : Text.isWord name.toList = true) :
    Spells ('@' :: name.toList) [.placeholder name] := by
  cases hl : name.toList with
  | nil =>
    rw [hl] at h
    cases h
  | cons c cs =>
    rw [hl, Text.isWord, Bool.and_eq_true] at h
    refine spells_of_readToken rfl fun rest hrest => ?_
    have hread : readToken '@' (c :: cs ++ rest) =
        some (runToken .placeholder Text.isWordChar c (cs ++ rest)) := if_pos h.1
    rw [hread, runToken_append c h.2 (hrest.not_class not_wordChar_of_separator), ← hl,
      String.ofList_toList]

end DocumentQuery.Sql
