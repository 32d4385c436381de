import DocumentQuery.Proofs.Result
import DocumentQuery.Sql.Placeholder

/-!
# Pieces of a statement text

A statement text consists of quoted parts, of placeholders outside them and of
other characters. A part starts with any of four quotes and goes on to the
first matching one, or to the end of the text.

* `Piece`, `pieces`: the pieces of a text, which together are the text
  (`flatMap_chars_pieces`);
* `placeholders`: the names of the placeholders, from left to right;
* `numberFrom_eq`: numbering a text is numbering its pieces;
* `inOrder`, `numberPieces_inOrder`: a text with its placeholders numbered one
  after another, and when it is what numbering gives.
-/

namespace DocumentQuery.Sql

/-- A piece of a statement text. -/
inductive Piece
  /-- A character outside quotes that belongs to no placeholder. -/
  | plain (c : Char)
  /-- From a quote to the one that matches it, both included. -/
  | quoted (text : List Char)
  /-- A name after an at sign. -/
  | placeholder (name : String)
  deriving DecidableEq, Repr

/-- The quotes, each with the one that matches it. -/
def quotes : List (Char × Char) := [('\'', '\''), ('"', '"'), ('\x60', '\x60'), ('[', ']')]

/-- The text up to a closing quote, which it includes. -/
def throughClose (close : Char) : List Char → List Char
  | [] => []
  | c :: cs => if c = close then [c] else c :: throughClose close cs

/-- The text after a closing quote. -/
def afterClose (close : Char) : List Char → List Char
  | [] => []
  | c :: cs => if c = close then cs else afterClose close cs

theorem throughClose_append_afterClose (close : Char) (cs : List Char) :
    throughClose close cs ++ afterClose close cs = cs := by
  induction cs with
  | nil => rfl
  | cons c cs ih =>
    rw [throughClose, afterClose]
    split
    · rfl
    · rw [List.cons_append, ih]

theorem length_afterClose_le (close : Char) (cs : List Char) :
    (afterClose close cs).length ≤ cs.length := by
  have h := congrArg List.length (throughClose_append_afterClose close cs)
  rw [List.length_append] at h
  omega

/-- Whether a text starts with a letter or an underscore. -/
def startsWord (cs : List Char) : Bool := cs.head?.any Text.isWordStart

/-- The pieces of a text. -/
def pieces : List Char → List Piece
  | [] => []
  | c :: cs =>
    match quotes.lookup c with
    | some close => .quoted (c :: throughClose close cs) :: pieces (afterClose close cs)
    | none =>
      if c = '@' && startsWord cs then
        .placeholder (String.ofList (cs.takeWhile Text.isWordChar)) ::
          pieces (cs.dropWhile Text.isWordChar)
      else .plain c :: pieces cs
termination_by cs => cs.length
decreasing_by
  · have := length_afterClose_le close cs
    simp only [List.length_cons]
    omega
  · have := (List.dropWhile_suffix Text.isWordChar (l := cs)).length_le
    simp only [List.length_cons]
    omega
  · simp

/-- The characters of a piece. -/
def Piece.chars : Piece → List Char
  | .plain c => [c]
  | .quoted text => text
  | .placeholder name => '@' :: name.toList

/-- The name of a placeholder. -/
def Piece.name? : Piece → Option String
  | .placeholder name => some name
  | _ => none

/-- The names of the placeholders of a text from left to right. -/
def placeholders (cs : List Char) : List String := (pieces cs).filterMap Piece.name?

/-! ## The pieces at the start of a text -/

theorem pieces_nil : pieces [] = [] := by
  rw [pieces]

theorem pieces_quote {c close : Char} (h : quotes.lookup c = some close) (cs : List Char) :
    pieces (c :: cs) = .quoted (c :: throughClose close cs) :: pieces (afterClose close cs) := by
  rw [pieces, h]

theorem pieces_placeholder {cs : List Char} (h : startsWord cs = true) :
    pieces ('@' :: cs) =
      .placeholder (String.ofList (cs.takeWhile Text.isWordChar)) ::
        pieces (cs.dropWhile Text.isWordChar) := by
  rw [pieces]
  exact if_pos (by simp [h])

theorem pieces_plain {c : Char} {cs : List Char} (hq : quotes.lookup c = none)
    (hp : (c = '@' && startsWord cs) = false) : pieces (c :: cs) = .plain c :: pieces cs := by
  rw [pieces, hq]
  exact if_neg (by simp [hp])

/-- The pieces together are the text. -/
theorem flatMap_chars_pieces (cs : List Char) : (pieces cs).flatMap Piece.chars = cs := by
  fun_induction pieces cs with
  | case1 => rfl
  | case2 c cs close _ ih =>
    rw [List.flatMap_cons, ih, Piece.chars, List.cons_append, throughClose_append_afterClose]
  | case3 c cs _ h ih =>
    rw [Bool.and_eq_true, decide_eq_true_eq] at h
    rw [List.flatMap_cons, ih, Piece.chars, String.toList_ofList, List.cons_append,
      List.takeWhile_append_dropWhile, h.1]
  | case4 c cs _ _ ih =>
    rw [List.flatMap_cons, ih]
    rfl

/-! ## Numbering piece by piece -/

/-- A piece with a name turned into its position. -/
def Piece.number (p : Parameters) : Piece → Except Error (List Char)
  | .placeholder name =>
    match p.position? name with
    | none => .error (.storage (.unboundParameter name))
    | some position => .ok ('?' :: Nat.toDigits 10 (position + 1))
  | piece => .ok piece.chars

/-- Pieces with their names turned into positions. The first name that has none
decides the error. -/
def numberPieces (p : Parameters) : List Piece → Except Error (List Char)
  | [] => .ok []
  | piece :: rest => do
    let chars ← piece.number p
    let numbered ← numberPieces p rest
    return chars ++ numbered

theorem closing?_eq_lookup (c : Char) : closing? c = quotes.lookup c := by
  by_cases hc : c = '\'' ∨ c = '"' ∨ c = '\x60' ∨ c = '['
  · rcases hc with rfl | rfl | rfl | rfl <;> rfl
  · simp only [not_or] at hc
    simp [closing?, quotes, List.lookup_cons, hc, beq_eq_false_iff_ne.2]

theorem startsName_eq_startsWord (cs : List Char) : startsName cs = startsWord cs := by
  cases cs <;> rfl

/-- A text after an opening quote is copied through the closing one. -/
theorem numberFrom_quoted (p : Parameters) (close : Char) (cs : List Char) :
    numberFrom p (some close) cs =
      (numberFrom p none (afterClose close cs)).map (throughClose close cs ++ ·) := by
  induction cs with
  | nil => simp [numberFrom, throughClose, afterClose, Except.map]
  | cons c cs ih =>
    rw [numberFrom, throughClose, afterClose]
    split
    · rename_i h
      simp [h]
    · rename_i h
      rw [ih]
      cases numberFrom p none (afterClose close cs) <;> rfl

/-- Numbering a text is numbering its pieces. -/
theorem numberFrom_eq (p : Parameters) (cs : List Char) :
    numberFrom p none cs = numberPieces p (pieces cs) := by
  fun_induction pieces cs with
  | case1 => rw [numberFrom, numberPieces]
  | case2 c cs close hq ih =>
    have hc : c ≠ '@' := by
      rintro rfl
      cases hq
    rw [numberFrom, if_neg (by simp [hc]), closing?_eq_lookup, hq, numberFrom_quoted, ih,
      numberPieces]
    cases numberPieces p (pieces (afterClose close cs)) <;> rfl
  | case3 c cs hq h ih =>
    rw [numberFrom, startsName_eq_startsWord, if_pos h, numberPieces, Piece.number]
    dsimp only
    cases p.position? (String.ofList (cs.takeWhile Text.isWordChar)) with
    | none => rfl
    | some position =>
      rw [ih]
      cases numberPieces p (pieces (cs.dropWhile Text.isWordChar)) <;> rfl
  | case4 c cs hq h ih =>
    rw [numberFrom, startsName_eq_startsWord, if_neg h, closing?_eq_lookup, hq, ih, numberPieces]
    cases numberPieces p (pieces cs) <;> rfl

/-! ## Placeholders in order -/

/-- Pieces with the placeholders numbered one after another from `n` on, whatever
their names. -/
def inOrder (n : Nat) : List Piece → List Char
  | [] => []
  | .placeholder _ :: rest => '?' :: Nat.toDigits 10 n ++ inOrder (n + 1) rest
  | piece :: rest => piece.chars ++ inOrder n rest

/-- The position of a name is where it stands, if no name is there twice. -/
theorem position?_eq {p : Parameters} (hp : p.names.Nodup) {k : Nat} (hk : k < p.names.length)
    {name : String} (hname : name = p.names[k]) : p.position? name = some k := by
  rw [Parameters.position?, List.idxOf?_eq_some_iff]
  refine ⟨hk, hname.symm, fun j hj heq => ?_⟩
  exact List.pairwise_iff_getElem.mp hp j k (Nat.lt_trans hj hk) hk hj (heq.trans hname)

/-- If the placeholders are the names of the parameters in order, numbering gives
them the numbers in order. -/
theorem numberPieces_inOrder {p : Parameters} (hp : p.names.Nodup) {ps : List Piece} {k : Nat}
    (h : ps.filterMap Piece.name? = p.names.drop k) :
    numberPieces p ps = .ok (inOrder (k + 1) ps) := by
  induction ps generalizing k with
  | nil => rfl
  | cons piece ps ih =>
    cases piece with
    | plain c =>
      rw [numberPieces, ih h]
      rfl
    | quoted text =>
      rw [numberPieces, ih h]
      rfl
    | placeholder name =>
      have hk : k < p.names.length := by
        refine Nat.lt_of_not_le fun hle => ?_
        rw [List.drop_of_length_le hle] at h
        cases h
      rw [List.drop_eq_getElem_cons hk] at h
      obtain ⟨hname, hrest⟩ := List.cons_eq_cons.mp h
      rw [numberPieces, ih hrest, Piece.number, position?_eq hp hk hname]
      rfl

end DocumentQuery.Sql
