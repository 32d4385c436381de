import DocumentQuery.Proofs.Result
import DocumentQuery.Proofs.Sql.Closed
import DocumentQuery.Proofs.Sql.Parameters

/-!
# The grammar of extraction calls

An expression exposes a path if it is a call of the extraction function on the
document column and a literal of the path, with blanks between the parts and
any number of parentheses and blanks around it all. The names may differ in
case, and the column may stand in any of the quotes that names can have.

* `Sql.Wraps`: a text with parentheses and blanks around it;
* `Sql.stripParens_of_wraps`, `Sql.wraps_stripParens`: taking them away;
* `Sql.ColumnSpelledAs`, `Sql.IsCall`: the texts of a call;
* `Sql.readCall_of_isCall`, `Sql.exists_isCall_of_readCall`: its parts;
* `Extraction.sourcePath?_eq_some_iff`: the expressions that expose a path.
-/

namespace DocumentQuery

namespace Sql

variable {cs rest inner function column string : List Char}

/-! ## Blanks and parentheses around a text -/

/-- A text with any number of parentheses around it, and blanks around each of them. -/
inductive Wraps (inner : List Char) : List Char → Prop
  | self : Wraps inner inner
  | blanks {before cs after : List Char} (hbefore : ∀ c ∈ before, Text.isBlank c = true)
    (hafter : ∀ c ∈ after, Text.isBlank c = true) (h : Wraps inner cs) :
    Wraps inner (before ++ (cs ++ after))
  | parens {cs : List Char} (h : Wraps inner cs) : Wraps inner ('(' :: (cs ++ [')']))

theorem Wraps.trans {outer : List Char} (h : Wraps inner cs) (houter : Wraps cs outer) :
    Wraps inner outer := by
  induction houter with
  | self => exact h
  | blanks hbefore hafter _ ih => exact .blanks hbefore hafter ih
  | parens _ ih => exact .parens ih

theorem Wraps.isClosed (h : Wraps inner cs) (hinner : IsClosed inner) : IsClosed cs := by
  induction h with
  | self => exact hinner
  | blanks hbefore hafter _ ih =>
    exact (isClosed_of_isBlank hbefore).append (ih.append (isClosed_of_isBlank hafter))
  | parens _ ih => exact ih.parens

/-! ## Taking them away -/

theorem unwrap?_eq_some : unwrap? cs = some inner ↔
    cs = '(' :: (inner ++ [')']) ∧ isBalanced 0 false inner = true := by
  constructor
  · intro h
    unfold unwrap? at h
    split at h
    · split at h
      · rename_i rest hends
        rw [Bool.and_eq_true, decide_eq_true_eq, List.getLast?_eq_some_iff] at hends
        obtain ⟨⟨more, rfl⟩, hbalanced⟩ := hends
        rw [List.dropLast_concat] at h hbalanced
        cases h
        exact ⟨rfl, hbalanced⟩
      · cases h
    · cases h
  · rintro ⟨rfl, hbalanced⟩
    simp [unwrap?, hbalanced]

theorem stripParens_eq (cs : List Char) : stripParens cs =
    match unwrap? (Text.trim cs) with
    | some inner => stripParens inner
    | none => Text.trim cs := by
  rw [stripParens]
  split <;> rename_i h <;> rw [h]

theorem trim_blanks {before after : List Char} (hbefore : ∀ c ∈ before, Text.isBlank c = true)
    (hafter : ∀ c ∈ after, Text.isBlank c = true) (cs : List Char) :
    Text.trim (before ++ (cs ++ after)) = Text.trim cs := by
  obtain ⟨first, last, htext, hfirst, hlast, hends⟩ :=
    Text.trim_eq_iff.mp (rfl : Text.trim cs = Text.trim cs)
  refine Text.trim_eq_iff.mpr ⟨before ++ first, last ++ after, ?_, ?_, ?_, hends⟩
  · calc before ++ (cs ++ after)
        = before ++ (first ++ (Text.trim cs ++ last) ++ after) := by rw [← htext]
      _ = before ++ first ++ (Text.trim cs ++ (last ++ after)) := by simp only [List.append_assoc]
  · exact List.forall_mem_append.mpr ⟨hbefore, hfirst⟩
  · exact List.forall_mem_append.mpr ⟨hlast, hafter⟩

/-- What is within the parentheses and blanks is left, if no more of these are around it. -/
theorem stripParens_of_wraps (h : Wraps inner cs) (hclosed : IsClosed inner)
    (htrim : Text.trim inner = inner) (hopen : inner.head? ≠ some '(') :
    stripParens cs = inner := by
  induction h with
  | self =>
    have hunwrap : unwrap? inner = none := by
      cases hu : unwrap? inner with
      | none => rfl
      | some more =>
        obtain ⟨rfl, _⟩ := unwrap?_eq_some.mp hu
        exact absurd rfl hopen
    rw [stripParens_eq, htrim, hunwrap]
  | @blanks before cs after hbefore hafter _ ih =>
    rw [stripParens_eq, trim_blanks hbefore hafter, ← stripParens_eq, ih]
  | @parens cs h ih =>
    have htrimmed : Text.trim ('(' :: (cs ++ [')'])) = '(' :: (cs ++ [')']) := by
      refine Text.trim_eq_self (fun c hc => by cases hc; decide) fun c hc => ?_
      rw [← List.cons_append, List.getLast?_concat] at hc
      cases hc
      decide
    have hbalanced : isBalanced 0 false cs = true := by
      have := (h.isClosed hclosed).isBalanced 0 []
      rwa [List.append_nil] at this
    rw [stripParens_eq, htrimmed, unwrap?_eq_some.mpr ⟨rfl, hbalanced⟩]
    exact ih

theorem wraps_trim (cs : List Char) : Wraps (Text.trim cs) cs := by
  obtain ⟨before, after, htext, hbefore, hafter, _⟩ :=
    Text.trim_eq_iff.mp (rfl : Text.trim cs = Text.trim cs)
  have h := Wraps.blanks hbefore hafter (@Wraps.self (Text.trim cs))
  rwa [← htext] at h

/-- Nothing but blanks and parentheses is taken away. -/
theorem wraps_stripParens (cs : List Char) : Wraps (stripParens cs) cs := by
  -- What is within a pair of parentheses is shorter, and the same holds of it.
  fun_induction stripParens cs with
  | case1 cs inner hunwrap ih =>
    have h := Wraps.parens ih
    rw [← (unwrap?_eq_some.mp hunwrap).1] at h
    exact h.trans (wraps_trim cs)
  | case2 cs _ => exact wraps_trim cs

/-! ## The texts of a call -/

/-- The name of a column, bare or in any of the quotes that names can have. -/
inductive ColumnSpelledAs (column : List Char) : List Char → Prop
  | bare : ColumnSpelledAs column column
  | brackets : ColumnSpelledAs column ('[' :: (column ++ [']']))
  | doubleQuotes : ColumnSpelledAs column ('"' :: (column ++ ['"']))
  | backquotes : ColumnSpelledAs column ('\x60' :: (column ++ ['\x60']))

/-- The calls of a function on a column and a string literal, with any blanks between their
parts. -/
inductive IsCall (function column string : List Char) : List Char → Prop
  | intro {spelling b₁ b₂ b₃ b₄ b₅ : List Char} (hspelling : ColumnSpelledAs column spelling)
    (h₁ : ∀ c ∈ b₁, Text.isBlank c = true) (h₂ : ∀ c ∈ b₂, Text.isBlank c = true)
    (h₃ : ∀ c ∈ b₃, Text.isBlank c = true) (h₄ : ∀ c ∈ b₄, Text.isBlank c = true)
    (h₅ : ∀ c ∈ b₅, Text.isBlank c = true) :
    IsCall function column string
      (function ++ b₁ ++ ['('] ++ b₂ ++ spelling ++ b₃ ++ [','] ++ b₄ ++
        Text.enclose '\'' string ++ b₅ ++ [')'])

theorem ColumnSpelledAs.isClosed {spelling : List Char} (h : ColumnSpelledAs column spelling)
    (hcolumn : Text.isWord column = true) : IsClosed spelling := by
  have hword := isClosed_of_isWord hcolumn
  have hquoted {d e : Char} (hd : IsClosed [d]) (he : IsClosed [e]) :
      IsClosed (d :: (column ++ [e])) := hd.append (hword.append he)
  cases h with
  | bare => exact hword
  | brackets => exact hquoted (isClosed_of_plain (by simp)) (isClosed_of_plain (by simp))
  | doubleQuotes => exact hquoted (isClosed_of_plain (by simp)) (isClosed_of_plain (by simp))
  | backquotes => exact hquoted (isClosed_of_plain (by simp)) (isClosed_of_plain (by simp))

theorem IsCall.isClosed (h : IsCall function column string cs)
    (hfunction : Text.isWord function = true) (hcolumn : Text.isWord column = true) :
    IsClosed cs := by
  cases h with
  | @intro spelling b₁ b₂ b₃ b₄ b₅ hspelling h₁ h₂ h₃ h₄ h₅ =>
    have hcomma : IsClosed [','] := isClosed_of_plain (by simp)
    have harguments : IsClosed (b₂ ++ (spelling ++ (b₃ ++ ([','] ++ (b₄ ++
        (Text.enclose '\'' string ++ b₅)))))) :=
      (isClosed_of_isBlank h₂).append <| (hspelling.isClosed hcolumn).append <|
        (isClosed_of_isBlank h₃).append <| hcomma.append <| (isClosed_of_isBlank h₄).append <|
        (isClosed_enclose string).append (isClosed_of_isBlank h₅)
    have hcall := (isClosed_of_isWord hfunction).append <|
      (isClosed_of_isBlank h₁).append harguments.parens
    simpa using hcall

/-! ## Reading a call -/

theorem skipBlank_blanks {blanks : List Char} (h : ∀ c ∈ blanks, Text.isBlank c = true)
    (hrest : ∀ c ∈ rest.head?, Text.isBlank c = false) :
    Text.skipBlank (blanks ++ rest) = rest :=
  Text.dropWhile_run (List.all_eq_true.mpr h) hrest

theorem exists_blanks (h : Text.skipBlank cs = rest) :
    ∃ blanks, (∀ c ∈ blanks, Text.isBlank c = true) ∧ cs = blanks ++ rest := by
  refine ⟨cs.takeWhile Text.isBlank, fun c hc => List.all_eq_true.mp List.all_takeWhile c hc, ?_⟩
  rw [← h]
  exact List.takeWhile_append_dropWhile.symm

theorem readUpTo_word {name : List Char} {d : Char} (h : Text.isWord name = true)
    (hd : Text.isWordChar d = false) : readUpTo d (name ++ d :: rest) = some (name, rest) := by
  have hall : name.all (· != d) = true := by
    refine List.all_eq_true.mpr fun c hc => bne_iff_ne.mpr ?_
    exact Text.ne_of_isWordChar (Text.isWordChar_of_mem h hc) hd
  have hclose : ∀ c ∈ (d :: rest).head?, (c != d) = false := by simp
  rw [readUpTo, Text.takeWhile_run hall hclose, Text.dropWhile_run hall hclose]
  cases name with
  | nil => cases h
  | cons c cs => rfl

theorem eq_append_of_readUpTo {d : Char} {name : List Char}
    (h : readUpTo d cs = some (name, rest)) : cs = name ++ d :: rest := by
  unfold readUpTo at h
  split at h
  · cases h
  · cases h
  · rename_i hdrop _
    cases h
    exact Text.eq_append_of_dropWhile hdrop

theorem readBareName_word {name : List Char} (h : Text.isWord name = true)
    (hrest : ∀ c ∈ rest.head?, Text.isWordChar c = false ∧ isLetterVariant c = false) :
    readBareName (name ++ rest) = some (name, rest) := by
  cases name with
  | nil => cases h
  | cons c cs =>
    rw [Text.isWord, Bool.and_eq_true] at h
    have hall : cs.all (fun c => Text.isWordChar c || isLetterVariant c) = true :=
      List.all_eq_true.mpr fun d hd => by rw [List.all_eq_true.mp h.2 d hd, Bool.true_or]
    have hstop : ∀ d ∈ rest.head?, (Text.isWordChar d || isLetterVariant d) = false := by
      intro d hd
      rw [(hrest d hd).1, (hrest d hd).2, Bool.or_false]
    rw [List.cons_append, readBareName, h.1, Bool.true_or, if_pos rfl,
      Text.takeWhile_run hall hstop, Text.dropWhile_run hall hstop]

theorem eq_append_of_readBareName {name : List Char} (h : readBareName cs = some (name, rest)) :
    cs = name ++ rest := by
  cases cs with
  | nil => cases h
  | cons c cs =>
    rw [readBareName] at h
    split at h
    · cases h
      rw [List.cons_append, List.takeWhile_append_dropWhile]
    · cases h

/-- A name ends at a blank or at a character that is no part of names. -/
theorem stops_of_head? {blanks : List Char} {d : Char}
    (h : ∀ c ∈ blanks, Text.isBlank c = true) (hd : Text.isWordChar d = false)
    (hd' : isLetterVariant d = false) :
    ∀ c ∈ (blanks ++ d :: rest).head?, Text.isWordChar c = false ∧ isLetterVariant c = false := by
  intro c hc
  cases blanks with
  | nil =>
    cases hc
    exact ⟨hd, hd'⟩
  | cons b blanks =>
    obtain rfl : b = c := Option.some.inj hc
    have hb := h b List.mem_cons_self
    constructor
    · rw [Bool.eq_false_iff]
      intro hword
      rw [Text.not_isBlank_of_wordChar hword] at hb
      cases hb
    · rw [Bool.eq_false_iff]
      intro hvariant
      rw [isLetterVariant, Bool.or_eq_true, beq_iff_eq, beq_iff_eq] at hvariant
      rcases hvariant with rfl | rfl <;> revert hb <;> decide

theorem ColumnSpelledAs.not_isBlank_head? {spelling : List Char}
    (h : ColumnSpelledAs column spelling) (hcolumn : Text.isWord column = true)
    (rest : List Char) : ∀ c ∈ (spelling ++ rest).head?, Text.isBlank c = false := by
  cases h with
  | bare =>
    exact fun c hc => Text.not_isBlank_of_wordChar (Text.head?_isWordChar hcolumn rest c hc)
  | brackets => exact fun c hc => by cases hc; decide
  | doubleQuotes => exact fun c hc => by cases hc; decide
  | backquotes => exact fun c hc => by cases hc; decide

theorem readColumnName_spelling {spelling : List Char} (h : ColumnSpelledAs column spelling)
    (hcolumn : Text.isWord column = true)
    (hrest : ∀ c ∈ rest.head?, Text.isWordChar c = false ∧ isLetterVariant c = false) :
    readColumnName (spelling ++ rest) = some (column, rest) := by
  have hquoted (d : Char) (hd : Text.isWordChar d = false) :
      readUpTo d (column ++ [d] ++ rest) = some (column, rest) := by
    rw [List.append_assoc]
    exact readUpTo_word hcolumn hd
  cases h with
  | bare =>
    have hbare := readBareName_word hcolumn hrest
    have hword := Text.head?_isWordChar hcolumn rest
    unfold readColumnName
    split
    · cases hword _ (by rename_i htext; rw [htext]; rfl)
    · cases hword _ (by rename_i htext; rw [htext]; rfl)
    · cases hword _ (by rename_i htext; rw [htext]; rfl)
    · exact hbare
  | brackets => exact hquoted ']' (by decide)
  | doubleQuotes => exact hquoted '"' (by decide)
  | backquotes => exact hquoted '\x60' (by decide)

theorem exists_spelling_of_readColumnName (h : readColumnName cs = some (column, rest)) :
    ∃ spelling, ColumnSpelledAs column spelling ∧ cs = spelling ++ rest := by
  unfold readColumnName at h
  split at h
  · refine ⟨_, .brackets, ?_⟩
    rw [eq_append_of_readUpTo h]
    simp
  · refine ⟨_, .doubleQuotes, ?_⟩
    rw [eq_append_of_readUpTo h]
    simp
  · refine ⟨_, .backquotes, ?_⟩
    rw [eq_append_of_readUpTo h]
    simp
  · exact ⟨_, .bare, eq_append_of_readBareName h⟩

/-- The parts of a call are read one after the other, up to the end of the text. -/
theorem readCall_eq_some : readCall cs = some (function, column, string) ↔
    ∃ cs₁ cs₂ cs₃ cs₄ cs₅ cs₆ cs₇,
      readBareName (Text.skipBlank cs) = some (function, cs₁) ∧ Text.skipBlank cs₁ = '(' :: cs₂ ∧
      readColumnName (Text.skipBlank cs₂) = some (column, cs₃) ∧ Text.skipBlank cs₃ = ',' :: cs₄ ∧
      Text.skipBlank cs₄ = '\'' :: cs₅ ∧ Text.unenclose '\'' cs₅ = some (string, cs₆) ∧
      Text.skipBlank cs₆ = ')' :: cs₇ ∧ Text.skipBlank cs₇ = [] := by
  constructor
  · intro h
    obtain ⟨⟨_, cs₁⟩, hname, h⟩ := Option.bind_eq_some_iff.mp h
    dsimp only at h
    split at h
    swap
    · cases h
    rename_i cs₂ hopen
    obtain ⟨⟨_, cs₃⟩, hcolumn, h⟩ := Option.bind_eq_some_iff.mp h
    dsimp only at h
    split at h
    swap
    · cases h
    rename_i cs₄ hcomma
    split at h
    swap
    · cases h
    rename_i cs₅ hquote
    obtain ⟨⟨_, cs₆⟩, hstring, h⟩ := Option.bind_eq_some_iff.mp h
    dsimp only at h
    split at h
    swap
    · cases h
    rename_i cs₇ hclose
    split at h
    swap
    · cases h
    rename_i hend
    cases h
    exact ⟨cs₁, cs₂, cs₃, cs₄, cs₅, cs₆, cs₇, hname, hopen, hcolumn, hcomma, hquote, hstring,
      hclose, hend⟩
  · rintro ⟨cs₁, cs₂, cs₃, cs₄, cs₅, cs₆, cs₇, hname, hopen, hcolumn, hcomma, hquote, hstring,
      hclose, hend⟩
    simp only [readCall, Option.bind_eq_bind, hname, Option.bind_some, hopen, hcolumn, hcomma,
      hquote, hstring, hclose, hend]
    rfl

/-- The parts of a call are read. -/
theorem readCall_of_isCall (h : IsCall function column string cs)
    (hfunction : Text.isWord function = true) (hcolumn : Text.isWord column = true) :
    readCall cs = some (function, column, string) := by
  cases h with
  | @intro spelling b₁ b₂ b₃ b₄ b₅ hspelling h₁ h₂ h₃ h₄ h₅ =>
    have hname (rest : List Char) :
        readBareName (Text.skipBlank (function ++ (b₁ ++ '(' :: rest))) =
          some (function, b₁ ++ '(' :: rest) := by
      rw [Text.skipBlank_eq_self fun c hc =>
        Text.not_isBlank_of_wordChar (Text.head?_isWordChar hfunction _ c hc)]
      exact readBareName_word hfunction (stops_of_head? h₁ (by decide) (by decide))
    have hquoted (rest : List Char) :
        readColumnName (Text.skipBlank (b₂ ++ (spelling ++ (b₃ ++ ',' :: rest)))) =
          some (column, b₃ ++ ',' :: rest) := by
      rw [skipBlank_blanks h₂ (hspelling.not_isBlank_head? hcolumn _)]
      exact readColumnName_spelling hspelling hcolumn (stops_of_head? h₃ (by decide) (by decide))
    have hstring : Text.unenclose '\'' (Text.double '\'' string ++ '\'' :: (b₅ ++ [')'])) =
        some (string, b₅ ++ [')']) := by
      refine Text.unenclose_double '\'' string fun c hc => ?_
      rcases List.mem_append.mp (List.mem_of_head? hc) with hc | hc
      · rintro rfl
        cases h₅ _ hc
      · rw [List.mem_singleton.mp hc]
        decide
    have hskip {blanks : List Char} (h : ∀ c ∈ blanks, Text.isBlank c = true) {d : Char}
        (hd : Text.isBlank d = false) (rest : List Char) :
        Text.skipBlank (blanks ++ d :: rest) = d :: rest :=
      skipBlank_blanks h fun c hc => by cases hc; exact hd
    simp only [Text.enclose, List.append_assoc, List.cons_append, List.nil_append]
    exact readCall_eq_some.mpr ⟨_, _, _, _, _, _, _, hname _, hskip h₁ (by decide) _, hquoted _,
      hskip h₃ (by decide) _, hskip h₄ (by decide) _, hstring, hskip h₅ (by decide) _, rfl⟩

/-- What is read is a call with blanks around it. -/
theorem exists_isCall_of_readCall (h : readCall cs = some (function, column, string)) :
    ∃ call, IsCall function column string call ∧ Wraps call cs := by
  obtain ⟨cs₁, cs₂, cs₃, cs₄, cs₅, cs₆, cs₇, hname, hopen, hcolumn, hcomma, hquote, hstring,
    hclose, hend⟩ := readCall_eq_some.mp h
  obtain ⟨b₁, h₁, rfl⟩ := exists_blanks hopen
  obtain ⟨b₃, h₃, rfl⟩ := exists_blanks hcomma
  obtain ⟨b₄, h₄, rfl⟩ := exists_blanks hquote
  obtain ⟨b₅, h₅, rfl⟩ := exists_blanks hclose
  obtain ⟨spelling, hspelling, harguments⟩ := exists_spelling_of_readColumnName hcolumn
  obtain ⟨b₂, h₂, rfl⟩ := exists_blanks harguments
  obtain ⟨before, hbefore, rfl⟩ := exists_blanks (eq_append_of_readBareName hname)
  obtain ⟨after, hafter, rfl⟩ := exists_blanks hend
  refine ⟨_, .intro hspelling h₁ h₂ h₃ h₄ h₅, ?_⟩
  have hwraps := Wraps.blanks hbefore hafter (@Wraps.self
    (function ++ b₁ ++ ['('] ++ b₂ ++ spelling ++ b₃ ++ [','] ++ b₄ ++
        Text.enclose '\'' string ++ b₅ ++ [')']))
  rw [Text.eq_append_of_unenclose hstring]
  simpa [Text.enclose] using hwraps

theorem IsCall.trim (h : IsCall function column string cs)
    (hfunction : Text.isWord function = true) : Text.trim cs = cs := by
  cases h with
  | @intro spelling b₁ b₂ b₃ b₄ b₅ hspelling h₁ h₂ h₃ h₄ h₅ =>
    refine Text.trim_eq_self (fun c hc => ?_) fun c hc => ?_
    · simp only [List.append_assoc] at hc
      exact Text.not_isBlank_of_wordChar (Text.head?_isWordChar hfunction _ c hc)
    · rw [List.getLast?_concat] at hc
      cases hc
      decide

theorem IsCall.head?_ne (h : IsCall function column string cs)
    (hfunction : Text.isWord function = true) : cs.head? ≠ some '(' := by
  cases h with
  | @intro spelling b₁ b₂ b₃ b₄ b₅ hspelling h₁ h₂ h₃ h₄ h₅ =>
    intro hopen
    simp only [List.append_assoc] at hopen
    cases Text.head?_isWordChar hfunction _ _ hopen

/-- A call is read exactly if it is all that a text has within parentheses and blanks. -/
theorem readCall_stripParens (hfunction : Text.isWord function = true)
    (hcolumn : Text.isWord column = true) :
    readCall (stripParens cs) = some (function, column, string) ↔
      ∃ call, IsCall function column string call ∧ Wraps call cs := by
  constructor
  · intro h
    obtain ⟨call, hcall, hwraps⟩ := exists_isCall_of_readCall h
    exact ⟨call, hcall, hwraps.trans (wraps_stripParens cs)⟩
  · rintro ⟨call, hcall, hwraps⟩
    rw [stripParens_of_wraps hwraps (hcall.isClosed hfunction hcolumn) (hcall.trim hfunction)
      (hcall.head?_ne hfunction), readCall_of_isCall hcall hfunction hcolumn]

end Sql

/-- An expression exposes a path exactly if, within any parentheses and blanks, it is a call of
the function on the column and a literal that is read as the path. The names of the function
and the column count up to the case of ASCII letters. -/
theorem Extraction.sourcePath?_eq_some_iff {e : Extraction}
    (hfunction : Sql.checkName e.function = .ok ()) (hcolumn : Sql.checkName e.column = .ok ())
    (expression : String) (p : Path) :
    e.sourcePath? expression = some p ↔ ∃ function column string call,
      Text.sameIgnoringCase function e.function.toList = true ∧
      Text.sameIgnoringCase column e.column.toList = true ∧
      Sql.IsCall function column string call ∧ Sql.Wraps call expression.toList ∧
      Path.parse (String.ofList string) = .ok p := by
  have hword {name : List Char} {known : String} (hknown : Sql.checkName known = .ok ())
      (h : Text.sameIgnoringCase name known.toList = true) : Text.isWord name = true :=
    Text.isWord_of_sameIgnoringCase h (Sql.isWord_of_checkName hknown)
  constructor
  · intro h
    obtain ⟨⟨function, column, string⟩, hcall, h⟩ := Option.bind_eq_some_iff.mp h
    dsimp only at h
    split at h
    · rename_i hnames
      obtain ⟨hf, hc⟩ := Bool.and_eq_true_iff.mp hnames
      obtain ⟨call, hcall, hwraps⟩ :=
        (Sql.readCall_stripParens (hword hfunction hf) (hword hcolumn hc)).mp hcall
      exact ⟨function, column, string, call, hf, hc, hcall, hwraps, toOption_eq_some.mp h⟩
    · cases h
  · rintro ⟨function, column, string, call, hf, hc, hcall, hwraps, hparse⟩
    have hread := (Sql.readCall_stripParens (hword hfunction hf) (hword hcolumn hc)).mpr
      ⟨call, hcall, hwraps⟩
    rw [sourcePath?, hread, Option.bind_eq_bind, Option.bind_some]
    simp only [hf, hc, Bool.and_self, if_pos, hparse]
    rfl

/-- A call in two pairs of parentheses, with blanks and names in other cases. Its literal holds
an apostrophe and parentheses that do not match. -/
def spacedText : String := "\u00a0( (JSON_extract ( [DATA] ,\n'$.\"a)''(\"[+01]' )\t))"

theorem Extraction.sourcePath?_eq_some_iff_spaced :
    Sql.checkName ({} : Settings).extraction.function = .ok () ∧
      Sql.checkName ({} : Settings).extraction.column = .ok () ∧
      ({} : Settings).extraction.sourcePath? spacedText =
        some ⟨[.field "a)'(", .index 1]⟩ := by
  have hfunction : Sql.checkName ({} : Settings).extraction.function = .ok () := rfl
  have hcolumn : Sql.checkName ({} : Settings).extraction.column = .ok () := rfl
  have hspace : ∀ c ∈ [' '], Text.isBlank c = true := List.all_eq_true.mp rfl
  have hline : ∀ c ∈ ['\n'], Text.isBlank c = true := List.all_eq_true.mp rfl
  have hcall := @Sql.IsCall.intro "JSON_extract".toList "DATA".toList "$.\"a)'(\"[+01]".toList
    _ [' '] [' '] [' '] ['\n'] [' '] .brackets hspace hspace hspace hline hspace
  have hwraps (call : List Char) :
      Sql.Wraps call ('\u00a0' :: ("( (".toList ++ (call ++ "\t))".toList))) := by
    have hnone : ∀ c ∈ ([] : List Char), Text.isBlank c = true := List.forall_mem_nil _
    have htab : ∀ c ∈ ['\t'], Text.isBlank c = true := List.all_eq_true.mp rfl
    have hfixed : ∀ c ∈ ['\u00a0'], Text.isBlank c = true := List.all_eq_true.mp rfl
    have hinner := (Sql.Wraps.blanks hnone htab (@Sql.Wraps.self call)).parens
    have houter := (Sql.Wraps.blanks hspace hnone hinner).parens
    have hall := Sql.Wraps.blanks hfixed hnone houter
    simpa using hall
  exact ⟨hfunction, hcolumn, (sourcePath?_eq_some_iff hfunction hcolumn spacedText _).mpr
    ⟨_, _, _, _, by decide +kernel, by decide +kernel, hcall, hwraps _, by decide +kernel⟩⟩

end DocumentQuery
