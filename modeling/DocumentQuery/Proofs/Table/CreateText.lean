import DocumentQuery.Proofs.Text.CaseFold
import DocumentQuery.Table.CreateText

/-!
# Where the search for a definition stops

The search for the definition of a column goes over the text of its table from
left to right. No name and no AS has an apostrophe in it, so what is found
before an apostrophe does not depend on what follows it, as long as there is no
AS with a parenthesis that could still belong to it. Other text is passed
unless it has the name after a parenthesis or a comma.

* `CreateText.inDefinition?_eq`: the blanks before a name do not matter;
* `inDefinition?_quote`, `inDefinition?_word`: a quoted name and a bare word;
* `findDefinition?_plain`, `findDefinition?_apostrophe`: text that is passed,
  and text up to an apostrophe;
* `isClear`, `afterNextAs?_clear`: text in which no AS begins.
-/

namespace DocumentQuery.CreateText

variable {name ws cs rest tail : List Char} {c d w : Char}

/-! ## Words up to case -/

theorem afterWord?_self (ws rest : List Char) : afterWord? ws (ws ++ rest) = some rest := by
  induction ws with
  | nil => rfl
  | cons w ws ih => rw [List.cons_append, afterWord?, if_pos (Text.sameFolded_self w), ih]

theorem afterWord?_append (ws vs cs : List Char) :
    afterWord? (ws ++ vs) cs = (afterWord? ws cs).bind (afterWord? vs) := by
  induction ws generalizing cs with
  | nil => rfl
  | cons w ws ih =>
    cases cs with
    | nil => rfl
    | cons c cs =>
      rw [List.cons_append, afterWord?, afterWord?]
      split
      · exact ih cs
      · rfl

/-- What follows a word that is found where another word stands, if it does not go on there. -/
theorem eq_of_afterWord? {word found : List Char} (hname : name.all Text.isWordChar = true)
    (hword : word.all Text.isWordChar = true)
    (hrest : ∀ c ∈ rest.head?, c.toNat < 128 ∧ Text.isWordChar c = false)
    (hfound : ∀ c ∈ found.head?, Text.isWordChar c = false)
    (h : afterWord? name (word ++ rest) = some found) :
    Text.sameIgnoringCase name word = true ∧ found = rest := by
  induction name generalizing word with
  | nil =>
    cases h
    cases word with
    | nil => exact ⟨rfl, rfl⟩
    | cons c word =>
      rw [List.all_cons, hfound c rfl] at hword
      cases hword
  | cons w name ih =>
    rw [List.all_cons, Bool.and_eq_true] at hname
    have hascii := Text.toNat_lt_of_isWordChar hname.1
    cases word with
    | nil =>
      cases rest with
      | nil => cases h
      | cons d rest =>
        obtain ⟨hd, hnot⟩ := hrest d rfl
        rw [List.nil_append, afterWord?] at h
        split at h
        · rename_i hsame
          have hletter : d.isAlpha = false := by
            simp only [Text.isWordChar, Char.isAlphanum, Bool.or_eq_false_iff] at hnot
            exact hnot.1.1
          obtain rfl := Text.eq_of_sameFolded hascii hd hletter hsame
          cases hname.1.symm.trans hnot
        · cases h
    | cons c word =>
      rw [List.all_cons, Bool.and_eq_true] at hword
      rw [List.cons_append, afterWord?] at h
      split at h
      · rename_i hsame
        have hlower := Text.toLower_of_sameFolded hascii (Text.toNat_lt_of_isWordChar hword.1) hsame
        obtain ⟨hmore, rfl⟩ := ih hname.2 hword.2 h
        rw [Text.sameIgnoringCase, beq_iff_eq] at hmore ⊢
        rw [List.map_cons, List.map_cons, hlower, hmore]
        exact ⟨rfl, rfl⟩
      · cases h

/-- A word is found where another word stands only if they are the same ignoring case. -/
theorem afterSpelling?_word {word : List Char} (hname : Text.isWord name = true)
    (hword : Text.isWord word = true) (hd : d.toNat < 128) (hnot : Text.isWordChar d = false)
    (hother : Text.isBlank d = true → Text.sameIgnoringCase name word = false) :
    afterSpelling? (word ++ d :: rest) name = none := by
  rw [afterSpelling?]
  split
  · rename_i c found h
    split
    · rename_i hblank
      have hc : Text.isWordChar c = false := by
        rw [Bool.eq_false_iff]
        intro hc
        rw [Text.not_isBlank_of_wordChar hc] at hblank
        cases hblank
      obtain ⟨hsame, hrest⟩ := eq_of_afterWord?
        (List.all_eq_true.mpr fun _ => Text.isWordChar_of_mem hname)
        (List.all_eq_true.mpr fun _ => Text.isWordChar_of_mem hword)
        (by simpa using ⟨hd, hnot⟩) (by simpa using hc) h
      cases hrest
      cases hsame.symm.trans (hother hblank)
    · rfl
  · rfl

/-! ## Spellings of a name -/

/-- The characters that a spelling of a name can start with. -/
def IsOpening (w : Char) : Prop := w = '[' ∨ w = '"' ∨ w = '\x60' ∨ Text.isWordChar w = true

theorem IsOpening.toNat_lt (h : IsOpening w) : w.toNat < 128 := by
  rcases h with rfl | rfl | rfl | h
  · decide
  · decide
  · decide
  · exact Text.toNat_lt_of_isWordChar h

theorem IsOpening.not_isBlank (h : IsOpening w) : Text.isBlank w = false := by
  rcases h with rfl | rfl | rfl | h
  · decide
  · decide
  · decide
  · exact Text.not_isBlank_of_wordChar h

theorem afterSpelling?_cons_of_ne (h : Text.sameFolded w c = false) (ws cs : List Char) :
    afterSpelling? (c :: cs) (w :: ws) = none := by
  rw [afterSpelling?, afterWord?, if_neg (by simp [h])]

/-- No spelling of a name is found where no spelling can start. -/
theorem findSome?_spellings_eq_none (hname : Text.isWord name = true)
    (h : ∀ w, IsOpening w → Text.sameFolded w c = false) (cs : List Char) :
    (spellings name).findSome? (afterSpelling? (c :: cs)) = none := by
  cases name with
  | nil => cases hname
  | cons n name =>
    have hn := Text.isWordChar_of_mem hname List.mem_cons_self
    simp only [spellings, List.findSome?_cons, List.findSome?_nil, List.cons_append,
      afterSpelling?_cons_of_ne (h _ (.inl rfl)),
      afterSpelling?_cons_of_ne (h _ (.inr (.inl rfl))),
      afterSpelling?_cons_of_ne (h _ (.inr (.inr (.inl rfl)))),
      afterSpelling?_cons_of_ne (h _ (.inr (.inr (.inr hn))))]

/-- The blanks before a name do not matter, since no spelling starts with one. -/
theorem inDefinition?_eq (hname : Text.isWord name = true) (cs : List Char) :
    inDefinition? name cs = (spellings name).findSome? (afterSpelling? (Text.skipBlank cs)) := by
  rw [inDefinition?]
  induction cs with
  | nil => simp [withoutBlanks, Text.skipBlank]
  | cons c cs ih =>
    rw [withoutBlanks]
    split
    · rename_i hblank
      have hnone : (spellings name).findSome? (afterSpelling? (c :: cs)) = none := by
        refine findSome?_spellings_eq_none hname (fun w hw => ?_) cs
        rw [Bool.eq_false_iff]
        intro hsame
        have := Text.isBlank_of_sameFolded hw.toNat_lt hblank hsame
        cases this.symm.trans hw.not_isBlank
      rw [List.findSome?_append, ih, List.findSome?_singleton, hnone, Option.or_none,
        Text.skipBlank, Text.skipBlank, List.dropWhile_cons_of_pos hblank]
    · rename_i hblank
      rw [List.findSome?_singleton, Text.skipBlank, List.dropWhile_cons_of_neg hblank]

theorem inDefinition?_blank (hname : Text.isWord name = true) (hc : Text.isBlank c = true)
    (cs : List Char) : inDefinition? name (c :: cs) = inDefinition? name cs := by
  rw [inDefinition?_eq hname, inDefinition?_eq hname, Text.skipBlank,
    List.dropWhile_cons_of_pos hc, Text.skipBlank]

/-- No definition starts with an apostrophe. -/
theorem inDefinition?_apostrophe (hname : Text.isWord name = true) (cs : List Char) :
    inDefinition? name ('\'' :: cs) = none := by
  rw [inDefinition?_eq hname]
  refine findSome?_spellings_eq_none hname (fun w hw => ?_) cs
  refine Text.sameFolded_eq_false hw.toNat_lt (by decide) (by decide) ?_
  rintro rfl
  exact absurd hw (by unfold IsOpening; decide)

theorem afterSpelling?_cons_self (c : Char) (ws cs : List Char) :
    afterSpelling? (c :: cs) (c :: ws) = afterSpelling? cs ws := by
  rw [afterSpelling?, afterWord?, if_pos (Text.sameFolded_self c), afterSpelling?]

/-- A quoted name is found by its spelling in these quotes. -/
theorem inDefinition?_quote (hname : Text.isWord name = true) (cs : List Char) :
    inDefinition? name ('"' :: cs) = afterSpelling? cs (name ++ ['"']) := by
  rw [inDefinition?_eq hname, Text.skipBlank, List.dropWhile_cons_of_neg (by decide)]
  cases name with
  | nil => cases hname
  | cons n name =>
    have hn := Text.isWordChar_of_mem hname List.mem_cons_self
    have hnot {w : Char} (hascii : w.toNat < 128) (hne : w ≠ '"') : Text.sameFolded w '"' = false :=
      Text.sameFolded_eq_false hascii (by decide) (by decide) hne
    have hquote : n ≠ '"' := fun h => absurd (h ▸ hn) (by decide)
    simp only [spellings, List.findSome?_cons, List.findSome?_nil, List.cons_append,
      afterSpelling?_cons_of_ne (hnot (w := '[') (by decide) (by decide)),
      afterSpelling?_cons_of_ne (hnot (w := '\x60') (by decide) (by decide)),
      afterSpelling?_cons_of_ne (hnot (Text.toNat_lt_of_isWordChar hn) hquote),
      afterSpelling?_cons_self '"']
    split <;> simp_all

/-- A bare word is found by the bare spelling. -/
theorem inDefinition?_word (hname : Text.isWord name = true) (hc : Text.isWordChar c = true)
    (cs : List Char) : inDefinition? name (c :: cs) = afterSpelling? (c :: cs) name := by
  have hnot {w : Char} (hascii : w.toNat < 128) (hw : Text.isWordChar w = false) :
      Text.sameFolded w c = false := by
    rw [Bool.eq_false_iff]
    intro hsame
    cases (Text.isWordChar_of_sameFolded hascii hc hsame).symm.trans hw
  rw [inDefinition?_eq hname, Text.skipBlank,
    List.dropWhile_cons_of_neg (by simp [Text.not_isBlank_of_wordChar hc])]
  simp only [spellings, List.findSome?_cons, List.findSome?_nil, List.cons_append,
    afterSpelling?_cons_of_ne (hnot (w := '[') (by decide) (by decide)),
    afterSpelling?_cons_of_ne (hnot (w := '"') (by decide) (by decide)),
    afterSpelling?_cons_of_ne (hnot (w := '\x60') (by decide) (by decide))]
  split <;> simp_all

/-! ## Up to an apostrophe -/

/-- What has no apostrophe in it is found before one, or not at all. -/
theorem afterWord?_apostrophe (hws : ∀ w ∈ ws, Text.sameFolded w '\'' = false)
    (cs tail : List Char) :
    afterWord? ws (cs ++ '\'' :: tail) = (afterWord? ws cs).map (· ++ '\'' :: tail) := by
  induction ws generalizing cs with
  | nil => rfl
  | cons w ws ih =>
    rw [List.forall_mem_cons] at hws
    cases cs with
    | nil =>
      have hnone : afterWord? (w :: ws) ('\'' :: tail) = none := by
        rw [afterWord?, if_neg (by simp [hws.1])]
      exact hnone
    | cons c cs =>
      rw [List.cons_append, afterWord?, afterWord?]
      split
      · exact ih hws.2 cs
      · rfl

theorem sameFolded_apostrophe (hw : w.toNat < 128) (hne : w ≠ '\'') :
    Text.sameFolded w '\'' = false :=
  Text.sameFolded_eq_false hw (by decide) (by decide) hne

theorem skipBlank_apostrophe (cs tail : List Char) :
    Text.skipBlank (cs ++ '\'' :: tail) = Text.skipBlank cs ++ '\'' :: tail := by
  induction cs with
  | nil => rfl
  | cons c cs ih =>
    rw [Text.skipBlank] at ih
    rw [List.cons_append, Text.skipBlank, Text.skipBlank]
    by_cases hblank : Text.isBlank c = true
    · rw [List.dropWhile_cons_of_pos hblank, List.dropWhile_cons_of_pos hblank, ih, Text.skipBlank]
    · rw [List.dropWhile_cons_of_neg hblank, List.dropWhile_cons_of_neg hblank, List.cons_append]

theorem afterAs?_apostrophe (cs tail : List Char) :
    afterAs? (cs ++ '\'' :: tail) = (afterAs? cs).map (· ++ '\'' :: tail) := by
  have hword : ∀ w ∈ ['A', 'S'], Text.sameFolded w '\'' = false := by
    intro w hw
    simp only [List.mem_cons, List.not_mem_nil, or_false] at hw
    rcases hw with rfl | rfl <;> exact sameFolded_apostrophe (by decide) (by decide)
  rw [afterAs?, afterAs?, afterWord?_apostrophe hword]
  cases afterWord? ['A', 'S'] cs with
  | none => rfl
  | some found =>
    rw [Option.map_some, Option.map_some, Option.map_some, skipBlank_apostrophe]
    cases Text.skipBlank found with
    | nil => rfl
    | cons c rest => split <;> split <;> simp_all

theorem afterNextAs?_cons (c : Char) (cs : List Char) :
    afterNextAs? (c :: cs) =
      (afterAs? (c :: cs)).or (if c = ',' then none else afterNextAs? cs) := by
  conv => lhs; unfold afterNextAs?
  cases afterAs? (c :: cs) <;> rfl

/-- If what follows the apostrophe has no AS that could belong to it. -/
theorem afterNextAs?_apostrophe (htail : afterNextAs? tail = none) (cs : List Char) :
    afterNextAs? (cs ++ '\'' :: tail) = (afterNextAs? cs).map (· ++ '\'' :: tail) := by
  induction cs with
  | nil =>
    have hnone : afterAs? ('\'' :: tail) = none := afterAs?_apostrophe [] tail
    have hclose : afterNextAs? ('\'' :: tail) = none := by
      rw [afterNextAs?_cons, hnone, htail, ite_self, Option.none_or]
    exact hclose
  | cons c cs ih =>
    rw [List.cons_append, afterNextAs?_cons, afterNextAs?_cons, ← List.cons_append,
      afterAs?_apostrophe, Option.map_or, ih]
    split <;> rfl

theorem afterSpelling?_apostrophe (htail : afterNextAs? tail = none)
    (hws : ∀ w ∈ ws, Text.sameFolded w '\'' = false) (cs : List Char) :
    afterSpelling? (cs ++ '\'' :: tail) ws = (afterSpelling? cs ws).map (· ++ '\'' :: tail) := by
  rw [afterSpelling?, afterSpelling?, afterWord?_apostrophe hws]
  cases afterWord? ws cs with
  | none => rfl
  | some found =>
    rw [Option.map_some]
    cases found with
    | nil => rfl
    | cons c found =>
      simp only [List.cons_append]
      split
      · rw [skipBlank_apostrophe, afterNextAs?_apostrophe htail]
      · rfl

/-- No spelling of a name has an apostrophe. -/
theorem sameFolded_of_mem_spellings (hname : Text.isWord name = true) {spelling : List Char}
    (hspelling : spelling ∈ spellings name) :
    ∀ w ∈ spelling, Text.sameFolded w '\'' = false := by
  have hchar {w : Char} (hw : w ∈ name) : Text.sameFolded w '\'' = false := by
    have hword := Text.isWordChar_of_mem hname hw
    exact sameFolded_apostrophe (Text.toNat_lt_of_isWordChar hword)
      (Text.ne_of_isWordChar hword (by decide))
  have hquotes : ∀ w ∈ ['[', ']', '"', '\x60'], Text.sameFolded w '\'' = false := by
    intro w hw
    simp only [List.mem_cons, List.not_mem_nil, or_false] at hw
    rcases hw with rfl | rfl | rfl | rfl <;> exact sameFolded_apostrophe (by decide) (by decide)
  have hmem : ∀ w ∈ spelling, w ∈ name ∨ w ∈ ['[', ']', '"', '\x60'] := by
    simp only [spellings, List.mem_cons, List.not_mem_nil, or_false] at hspelling
    rcases hspelling with rfl | rfl | rfl | rfl <;> intro w hw <;> simp at hw ⊢ <;> grind
  exact fun w hw => (hmem w hw).elim hchar (hquotes w)

theorem inDefinition?_append_apostrophe (hname : Text.isWord name = true)
    (htail : afterNextAs? tail = none) (cs : List Char) :
    inDefinition? name (cs ++ '\'' :: tail) = (inDefinition? name cs).map (· ++ '\'' :: tail) := by
  have hspelling : ∀ spelling ∈ spellings name,
      afterSpelling? (Text.skipBlank cs ++ '\'' :: tail) spelling =
        (afterSpelling? (Text.skipBlank cs) spelling).map (· ++ '\'' :: tail) :=
    fun _ h => afterSpelling?_apostrophe htail (sameFolded_of_mem_spellings hname h) _
  rw [inDefinition?_eq hname, inDefinition?_eq hname, skipBlank_apostrophe, List.map_findSome?]
  simp only [spellings, List.forall_mem_cons] at hspelling
  obtain ⟨hbrackets, hquotes, hbackquotes, hbare, -⟩ := hspelling
  simp only [spellings, List.findSome?_cons, List.findSome?_nil, Function.comp_apply, hbrackets,
    hquotes, hbackquotes, hbare]

theorem findDefinition?_cons (name : List Char) (c : Char) (cs : List Char) :
    findDefinition? name (c :: cs) =
      (if c = '(' ∨ c = ',' then inDefinition? name cs else none).or (findDefinition? name cs) := by
  rw [findDefinition?]
  split <;> simp_all

/-- What is found before an apostrophe is found there, else the search goes on after it. -/
theorem findDefinition?_apostrophe (hname : Text.isWord name = true)
    (htail : afterNextAs? tail = none) (cs : List Char) :
    findDefinition? name (cs ++ '\'' :: tail) =
      ((findDefinition? name cs).map (· ++ '\'' :: tail)).or (findDefinition? name tail) := by
  induction cs with
  | nil =>
    rw [List.nil_append, findDefinition?_cons, if_neg (by decide)]
    rfl
  | cons c cs ih =>
    rw [List.cons_append, findDefinition?_cons, findDefinition?_cons, ih]
    split
    · rw [inDefinition?_append_apostrophe hname htail, Option.map_or, Option.or_assoc]
    · rw [Option.none_or, Option.none_or]

/-! ## Text that is passed -/

theorem findDefinition?_cons_of_ne (h : c ≠ '(' ∧ c ≠ ',') (name cs : List Char) :
    findDefinition? name (c :: cs) = findDefinition? name cs := by
  rw [findDefinition?_cons, if_neg (by simp [h]), Option.none_or]

theorem findDefinition?_plain {text : List Char}
    (h : text.all (fun c => c != '(' && c != ',') = true) (name rest : List Char) :
    findDefinition? name (text ++ rest) = findDefinition? name rest := by
  induction text with
  | nil => rfl
  | cons c text ih =>
    simp only [List.all_cons, Bool.and_eq_true, bne_iff_ne] at h
    rw [List.cons_append, findDefinition?_cons_of_ne h.1, ih h.2]

theorem findDefinition?_word {word : List Char} (h : Text.isWord word = true)
    (name rest : List Char) : findDefinition? name (word ++ rest) = findDefinition? name rest :=
  findDefinition?_plain (List.all_eq_true.mpr fun c hc => by
    have hc := Text.isWordChar_of_mem h hc
    rw [Bool.and_eq_true, bne_iff_ne, bne_iff_ne]
    exact ⟨Text.ne_of_isWordChar hc (by decide), Text.ne_of_isWordChar hc (by decide)⟩) name rest

theorem findDefinition?_quoted {word : List Char} (h : Text.isWord word = true)
    (name rest : List Char) :
    findDefinition? name ('"' :: (word ++ '"' :: rest)) = findDefinition? name rest := by
  rw [findDefinition?_cons_of_ne (by decide), findDefinition?_word h,
    findDefinition?_cons_of_ne (by decide)]

/-- A parenthesis or a comma is passed if no definition of the name follows it. -/
theorem findDefinition?_of_not_inDefinition (h : inDefinition? name cs = none) (c : Char) :
    findDefinition? name (c :: cs) = findDefinition? name cs := by
  rw [findDefinition?_cons, h, ite_self, Option.none_or]

/-- A bare word that another character follows is no definition, unless it is the name. -/
theorem inDefinition?_bare {word : List Char} (hname : Text.isWord name = true)
    (hword : Text.isWord word = true) (hd : d.toNat < 128) (hnot : Text.isWordChar d = false)
    (hother : Text.isBlank d = true → Text.sameIgnoringCase name word = false)
    (rest : List Char) : inDefinition? name (word ++ d :: rest) = none := by
  have hnone : afterSpelling? (word ++ d :: rest) name = none :=
    afterSpelling?_word hname hword hd hnot hother
  cases word with
  | nil => cases hword
  | cons c word =>
    exact (inDefinition?_word hname (Text.isWordChar_of_mem hword List.mem_cons_self) _).trans hnone

/-- Nor is a quoted word that is not the name. -/
theorem inDefinition?_quoted {word : List Char} (hname : Text.isWord name = true)
    (hword : Text.isWord word = true) (hother : Text.sameIgnoringCase name word = false)
    (rest : List Char) : inDefinition? name ('"' :: (word ++ '"' :: rest)) = none := by
  have hnone : afterWord? (name ++ ['"']) (word ++ '"' :: rest) = none := by
    rw [afterWord?_append, Option.bind_eq_none_iff]
    intro found hfound
    cases found with
    | nil => rfl
    | cons c found =>
      rw [afterWord?, if_neg]
      intro hsame
      have hc : Text.isWordChar c = false := by
        rw [Bool.eq_false_iff]
        exact fun hc => absurd (Text.isWordChar_of_sameFolded (by decide) hc hsame) (by decide)
      have heq := eq_of_afterWord? (List.all_eq_true.mpr fun _ => Text.isWordChar_of_mem hname)
        (List.all_eq_true.mpr fun _ => Text.isWordChar_of_mem hword)
        (by simp only [List.head?_cons, Option.mem_some_iff]; rintro _ rfl; decide)
        (by simpa using hc) hfound
      cases heq.1.symm.trans hother
  rw [inDefinition?_quote hname, afterSpelling?, hnone]

/-- The definition of a quoted name. -/
theorem inDefinition?_own (hname : Text.isWord name = true) (rest : List Char) :
    inDefinition? name ('"' :: (name ++ '"' :: ' ' :: rest)) =
      afterNextAs? (Text.skipBlank rest) := by
  have hself := afterWord?_self (name ++ ['"']) (' ' :: rest)
  rw [List.append_assoc, List.singleton_append] at hself
  rw [inDefinition?_quote hname, afterSpelling?, hself]
  exact if_pos rfl

/-! ## Text without an AS -/

/-- Whether a text is ASCII, no AS begins in it and no comma stands in it. -/
def isClear : List Char → Bool
  | [] => true
  | [c] => c.toNat < 128 && c.toLower != 'a' && c != ','
  | c :: d :: cs =>
    c.toNat < 128 && d.toNat < 128 && !(c.toLower == 'a' && d.toLower == 's') && c != ',' &&
      isClear (d :: cs)

theorem afterNextAs?_cons_of_none (hnone : afterAs? (c :: cs) = none) (hc : c ≠ ',') :
    afterNextAs? (c :: cs) = afterNextAs? cs := by
  rw [afterNextAs?_cons, hnone, if_neg hc, Option.none_or]

theorem afterNextAs?_clear {text : List Char} (h : isClear text = true) (rest : List Char) :
    afterNextAs? (text ++ rest) = afterNextAs? rest := by
  fun_induction isClear text with
  | case1 => rfl
  | case2 c =>
    simp only [Bool.and_eq_true, decide_eq_true_eq, bne_iff_ne] at h
    obtain ⟨⟨hascii, hlower⟩, hcomma⟩ := h
    have hword : afterWord? ['A', 'S'] (c :: rest) = none := by
      rw [afterWord?, if_neg]
      exact fun hsame => hlower (Text.toLower_of_sameFolded (by decide) hascii hsame).symm
    refine afterNextAs?_cons_of_none ?_ hcomma
    change afterAs? (c :: rest) = none
    rw [afterAs?, hword]
    rfl
  | case3 c d cs ih =>
    simp only [Bool.and_eq_true, decide_eq_true_eq, Bool.not_eq_true', Bool.and_eq_false_iff,
      beq_eq_false_iff_ne, bne_iff_ne] at h
    obtain ⟨⟨⟨⟨hc, hd⟩, hlower⟩, hcomma⟩, hmore⟩ := h
    have hword : afterWord? ['A', 'S'] (c :: d :: (cs ++ rest)) = none := by
      rw [afterWord?]
      split
      · rename_i hfirst
        rw [afterWord?, if_neg]
        intro hsecond
        have hfirst := (Text.toLower_of_sameFolded (by decide) hc hfirst).symm
        have hsecond := (Text.toLower_of_sameFolded (by decide) hd hsecond).symm
        exact hlower.elim (fun hne => hne hfirst) fun hne => hne hsecond
      · rfl
    rw [← ih hmore]
    refine afterNextAs?_cons_of_none ?_ hcomma
    change afterAs? (c :: d :: (cs ++ rest)) = none
    rw [afterAs?, hword]
    rfl

theorem afterNextAs?_as (rest : List Char) :
    afterNextAs? ('A' :: 'S' :: ' ' :: '(' :: rest) = some rest := by
  have hword := afterWord?_self ['A', 'S'] (' ' :: '(' :: rest)
  have has : afterAs? ('A' :: 'S' :: ' ' :: '(' :: rest) = some rest := by
    rw [List.cons_append, List.singleton_append] at hword
    rw [afterAs?, hword]
    rfl
  rw [afterNextAs?_cons, has, Option.some_or]

theorem afterNextAs?_comma (rest : List Char) : afterNextAs? (',' :: rest) = none := by
  have hword : afterWord? ['A', 'S'] (',' :: rest) = none := by
    rw [afterWord?, Text.sameFolded_eq_false (by decide) (by decide) (by decide) (by decide)]
    rfl
  have hnone : afterAs? (',' :: rest) = none := by
    rw [afterAs?, hword]
    rfl
  rw [afterNextAs?_cons, hnone, if_pos rfl, Option.none_or]

/-! ## What is found -/

theorem suffix_of_afterWord? (h : afterWord? ws cs = some rest) : rest <:+ cs := by
  induction ws generalizing cs with
  | nil =>
    cases h
    exact List.suffix_rfl
  | cons w ws ih =>
    cases cs with
    | nil => cases h
    | cons c cs =>
      rw [afterWord?] at h
      split at h
      · exact (ih h).trans (List.suffix_cons c cs)
      · cases h

theorem suffix_of_afterAs? (h : afterAs? cs = some rest) : '(' :: rest <:+ cs := by
  rw [afterAs?] at h
  split at h
  · rename_i found hfound
    cases h
    obtain ⟨word, hword, hblank⟩ := Option.map_eq_some_iff.mp hfound
    rw [← hblank]
    exact (List.dropWhile_suffix _).trans (suffix_of_afterWord? hword)
  · cases h

theorem suffix_of_afterNextAs? (h : afterNextAs? cs = some rest) : '(' :: rest <:+ cs := by
  induction cs with
  | nil => cases h
  | cons c cs ih =>
    rw [afterNextAs?_cons, Option.or_eq_some_iff] at h
    rcases h with has | ⟨_, h⟩
    · exact suffix_of_afterAs? has
    · split at h
      · cases h
      · exact (ih h).trans (List.suffix_cons c cs)

theorem suffix_of_afterSpelling? (h : afterSpelling? cs ws = some rest) : '(' :: rest <:+ cs := by
  rw [afterSpelling?] at h
  split at h
  · rename_i c found hfound
    split at h
    · have hmore := (suffix_of_afterNextAs? h).trans (List.dropWhile_suffix _)
      exact (hmore.trans (List.suffix_cons c found)).trans (suffix_of_afterWord? hfound)
    · cases h
  · cases h

theorem suffix_of_inDefinition? (hname : Text.isWord name = true)
    (h : inDefinition? name cs = some rest) : '(' :: rest <:+ cs := by
  rw [inDefinition?_eq hname] at h
  obtain ⟨spelling, _, hspelling⟩ := List.exists_of_findSome?_eq_some h
  exact (suffix_of_afterSpelling? hspelling).trans (List.dropWhile_suffix _)

/-- What is found follows a parenthesis. -/
theorem suffix_of_findDefinition? (hname : Text.isWord name = true)
    (h : findDefinition? name cs = some rest) : '(' :: rest <:+ cs := by
  induction cs with
  | nil => cases h
  | cons c cs ih =>
    rw [findDefinition?_cons, Option.or_eq_some_iff] at h
    rcases h with h | ⟨_, h⟩
    · split at h
      · exact (suffix_of_inDefinition? hname h).trans (List.suffix_cons c cs)
      · cases h
    · exact (ih h).trans (List.suffix_cons c cs)

end DocumentQuery.CreateText
