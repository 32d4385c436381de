import DocumentQuery.Regex.Standard

/-!
# The library of regular expressions does what is documented

What it reads of a text are the pieces that the text spells. The rows are right
end by end: what a piece asks of an end of a text is answered by what the rest
of the expression asks of the same end and of shorter ones.

* `Regex.read_eq_some`: the reader gives the pieces that are spelled;
* `Regex.Answers`, `Regex.row_answers`: the row of an expression;
* `Regex.isDocumented_standard`: the library is documented, and refuses nothing that is spelled.
-/

namespace DocumentQuery.Regex

/-! ## Reading -/

variable {cs spelling : List Char} {k : CharClass} {ps : List Piece}

theorem symbols_cons {c : Char} (hc : c ≠ '\\') (cs : List Char) :
    symbols (c :: cs) = (symbol? c).bind fun s => (symbols cs).map (s :: ·) := by
  rw [symbols]
  · cases symbol? c <;> rfl
  · exact fun _ _ h _ => hc h

theorem symbol?_of_plain {c : Char} (hc : isMeta c = false) :
    symbol? c = some (.single (.exactly c)) := by
  have hne {d : Char} (hd : isMeta d = true) : c ≠ d := fun h =>
    Bool.false_ne_true ((h ▸ hc).symm.trans hd)
  rw [symbol?, if_neg (hne rfl), if_neg (hne rfl), if_neg (hne rfl), if_neg (hne rfl), hc]
  rfl

theorem symbols_spelling (h : k.IsSpelled spelling) (cs : List Char) :
    symbols (spelling ++ cs) = (symbols cs).map (.single k :: ·) := by
  cases h with
  | any => exact symbols_cons (by decide) cs
  | @plain c hc =>
    have hne : c ≠ '\\' := fun h => Bool.false_ne_true ((h ▸ hc).symm.trans rfl)
    rw [List.singleton_append, symbols_cons hne, symbol?_of_plain hc]
    rfl
  | @escaped c hc =>
    rw [List.cons_append, List.singleton_append, symbols, if_pos hc]

theorem pieces_single {ss : List Symbol} (h : ss.head? ≠ some .star) :
    pieces (.single k :: ss) = (pieces ss).map (.one k :: ·) := by
  rw [pieces]
  rintro ss rfl
  exact h rfl

/-- What is spelled does not begin with a star, so a star is never read as one of what stands
before it. -/
theorem exists_symbols (h : Spells cs ps) :
    ∃ ss, symbols cs = some ss ∧ pieces ss = some ps ∧ ss.head? ≠ some .star := by
  induction h with
  | nil => exact ⟨[], rfl, rfl, nofun⟩
  | @textStart cs ps _ ih =>
    obtain ⟨ss, hss, hps, _⟩ := ih
    refine ⟨.textStart :: ss, ?_, by rw [pieces, hps]; rfl, nofun⟩
    rw [symbols_cons (by decide), hss]
    rfl
  | @textEnd cs ps _ ih =>
    obtain ⟨ss, hss, hps, _⟩ := ih
    refine ⟨.textEnd :: ss, ?_, by rw [pieces, hps]; rfl, nofun⟩
    rw [symbols_cons (by decide), hss]
    rfl
  | @one k spelling cs ps hk _ ih =>
    obtain ⟨ss, hss, hps, hstar⟩ := ih
    refine ⟨.single k :: ss, ?_, by rw [pieces_single hstar, hps]; rfl, nofun⟩
    rw [symbols_spelling hk, hss]
    rfl
  | @run k spelling cs ps hk _ ih =>
    obtain ⟨ss, hss, hps, _⟩ := ih
    refine ⟨.single k :: .star :: ss, ?_, by rw [pieces, hps]; rfl, nofun⟩
    rw [symbols_spelling hk, symbols_cons (by decide), hss]
    rfl

/-- The pieces that a text spells are read. -/
theorem read_eq_some (h : Spells cs ps) : read cs = some ps := by
  obtain ⟨ss, hss, hps, _⟩ := exists_symbols h
  rw [read, hss, Option.bind_some, hps]

/-! ## Rows -/

variable {P : List Char → List Char → Prop} {before text : List Char} {bs : List Bool}
  {takes : Char → Bool}

/-- A row answers a question for each end of a text that comes after `before`. -/
inductive Answers (P : List Char → List Char → Prop) : List Char → List Char → List Bool → Prop
  | nil {before : List Char} {b : Bool} (h : b = true ↔ P before []) : Answers P before [] [b]
  | cons {before text : List Char} {c : Char} {b : Bool} {bs : List Bool}
    (h : b = true ↔ P before (c :: text)) (hbs : Answers P (before ++ [c]) text bs) :
    Answers P before (c :: text) (b :: bs)

namespace Answers

theorem exists_cons (h : Answers P before text bs) :
    ∃ b rest, bs = b :: rest ∧ (b = true ↔ P before text) := by
  cases h with
  | nil h => exact ⟨_, _, rfl, h⟩
  | cons h _ => exact ⟨_, _, rfl, h⟩

/-- Some end is answered with yes just if the question holds of one. -/
theorem any_eq_true (h : Answers P before text bs) :
    bs.any id = true ↔ ∃ first rest, text = first ++ rest ∧ P (before ++ first) rest := by
  induction h with
  | @nil before b h =>
    rw [List.any_cons, List.any_nil, Bool.or_false, id, h]
    constructor
    · exact fun hP => ⟨[], [], rfl, by rwa [List.append_nil]⟩
    · rintro ⟨first, rest, htext, hP⟩
      obtain ⟨rfl, rfl⟩ := List.nil_eq_append_iff.mp htext
      rwa [List.append_nil] at hP
  | @cons before text c b bs h _ ih =>
    rw [List.any_cons, Bool.or_eq_true, id, h, ih]
    constructor
    · rintro (hP | ⟨first, rest, rfl, hP⟩)
      · exact ⟨[], c :: text, rfl, by rwa [List.append_nil]⟩
      · exact ⟨c :: first, rest, rfl, by rwa [List.append_assoc] at hP⟩
    · rintro ⟨first, rest, htext, hP⟩
      cases first with
      | nil =>
        rw [List.append_nil, ← show c :: text = rest from htext] at hP
        exact .inl hP
      | cons d first =>
        cases htext
        exact .inr ⟨first, rest, rfl, by rwa [List.append_assoc]⟩

theorem all_true (before text : List Char) :
    Answers (fun _ _ => True) before text (true :: text.map fun _ => true) := by
  induction text generalizing before with
  | nil => exact .nil (iff_of_true rfl trivial)
  | cons c text ih => exact .cons (iff_of_true rfl trivial) (ih _)

/-- Something stands before every end but the first. -/
theorem all_false (hne : before ≠ []) (h : Answers P before text bs) :
    Answers (fun first rest => first = [] ∧ P first rest) before text (bs.map fun _ => false) := by
  induction h with
  | nil _ => exact .nil (iff_of_false Bool.false_ne_true fun h => hne h.1)
  | cons _ _ ih =>
    exact .cons (iff_of_false Bool.false_ne_true fun h => hne h.1) (ih (by simp))

theorem startRow (h : Answers P [] text bs) :
    Answers (fun first rest => first = [] ∧ P first rest) [] text (startRow bs) := by
  cases h with
  | nil h => exact .nil (h.trans (and_iff_right rfl).symm)
  | cons h hbs => exact .cons (h.trans (and_iff_right rfl).symm) (hbs.all_false (by simp))

theorem endRow (h : Answers P before text bs) :
    Answers (fun first rest => rest = [] ∧ P first rest) before text (endRow bs) := by
  induction h with
  | nil h => exact .nil (h.trans (and_iff_right rfl).symm)
  | cons _ hbs ih =>
    obtain ⟨b, rest, rfl, _⟩ := hbs.exists_cons
    exact .cons (iff_of_false Bool.false_ne_true fun h => List.cons_ne_nil _ _ h.1) ih

theorem stepRow (h : Answers P before text bs) :
    Answers (fun first rest => ∃ d more, rest = d :: more ∧ takes d = true ∧
      P (first ++ [d]) more) before text (stepRow takes text bs) := by
  induction h with
  | nil _ => exact .nil (iff_of_false Bool.false_ne_true (by simp))
  | @cons before text c b bs _ hbs ih =>
    obtain ⟨b, rest, rfl, hb⟩ := hbs.exists_cons
    refine .cons ?_ ih
    rw [Bool.and_eq_true, hb]
    constructor
    · exact fun ⟨hc, hP⟩ => ⟨c, text, rfl, hc, hP⟩
    · rintro ⟨_, _, ⟨rfl, rfl⟩, hc, hP⟩
      exact ⟨hc, hP⟩

/-- A run is empty, or its first character is taken and the others are a run of a shorter end. -/
theorem runRow (h : Answers P before text bs) :
    Answers (fun first rest => ∃ run more, rest = run ++ more ∧ (∀ d ∈ run, takes d = true) ∧
      P (first ++ run) more) before text (runRow takes text bs) := by
  induction h with
  | @nil before b h =>
    refine .nil (h.trans ⟨fun hP => ⟨[], [], rfl, nofun, by rwa [List.append_nil]⟩, ?_⟩)
    rintro ⟨run, more, hrest, _, hP⟩
    obtain ⟨rfl, rfl⟩ := List.nil_eq_append_iff.mp hrest
    rwa [List.append_nil] at hP
  | @cons before text c b bs h _ ih =>
    refine .cons ?_ ih
    obtain ⟨later, rest, hlater, hiff⟩ := ih.exists_cons
    rw [hlater, List.headD_cons, Bool.or_eq_true, Bool.and_eq_true, h, hiff]
    constructor
    · rintro (hP | ⟨hc, run, more, rfl, hrun, hP⟩)
      · exact ⟨[], c :: text, rfl, nofun, by rwa [List.append_nil]⟩
      · refine ⟨c :: run, more, rfl, List.forall_mem_cons.mpr ⟨hc, hrun⟩, ?_⟩
        rwa [List.append_assoc] at hP
    · rintro ⟨run, more, hrest, hrun, hP⟩
      cases run with
      | nil =>
        rw [List.append_nil, ← show c :: text = more from hrest] at hP
        exact .inl hP
      | cons d run =>
        cases hrest
        obtain ⟨hc, hrun⟩ := List.forall_mem_cons.mp hrun
        exact .inr ⟨hc, run, more, rfl, hrun, by rwa [List.append_assoc]⟩

end Answers

theorem row_answers (o : Options) (text : List Char) (ps : List Piece) :
    Answers (Follows o ps) [] text (row o text ps) := by
  induction ps with
  | nil => exact .all_true [] text
  | cons p ps ih =>
    cases p with
    | textStart => exact ih.startRow
    | textEnd => exact ih.endRow
    | one k => exact ih.stepRow
    | run k => exact ih.runRow

theorem any_row (o : Options) (text : List Char) (ps : List Piece) :
    (row o text ps).any id = true ↔ Finds o ps text := (row_answers o text ps).any_eq_true

/-! ## The library -/

theorem escape_isSpelled (c : Char) : (CharClass.exactly c).IsSpelled (escape [c]) := by
  rw [escape, List.flatMap_singleton]
  split
  · rename_i hc
    exact .escaped hc
  · rename_i hc
    exact .plain (Bool.eq_false_iff.mpr hc)

theorem compile_eq_ok (h : Spells cs ps) (o : Options) : compile o cs = .ok (o, ps) := by
  rw [compile, read_eq_some h]

/-- The library does what is documented, and no expression is too large for it. -/
theorem isDocumented_standard : RegexLibrary.IsDocumented fun _ _ => True where
  escape := escape_isSpelled
  build h o _ := ⟨_, compile_eq_ok h o⟩
  isMatch {_ ps} h {o _} hregex text := by
    obtain rfl := Except.ok.inj ((compile_eq_ok h o).symm.trans hregex)
    exact any_row o text ps

end DocumentQuery.Regex
