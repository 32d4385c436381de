import DocumentQuery.Text.Basic

/-!
# Reading runs and delimited texts

A reader that takes the longest run of a class of characters gets back the run
that was written, if what follows does not go on with this class. A reader of
a delimited text gets back the text, if no delimiter follows the closing one.

* `takeWhile_run`, `dropWhile_run`: a run and what follows it;
* `eq_append_of_dropWhile`: a text up to the first of a character;
* `dropWhile_ends`, `exists_ends`: a text between two runs;
* `double_eq_self`, `eq_cons_of_double`: when doubling changes nothing;
* `unenclose_double`: a delimited text and what follows it;
* `eq_append_of_unenclose`, `length_unenclose`: what was read as a delimited text, and that
  this takes at least its closing delimiter.
-/

namespace DocumentQuery.Text

theorem takeWhile_run {p : Char → Bool} {run rest : List Char} (hrun : run.all p = true)
    (hrest : ∀ c ∈ rest.head?, p c = false) : (run ++ rest).takeWhile p = run := by
  rw [List.takeWhile_append_of_pos (List.all_eq_true.mp hrun)]
  cases rest with
  | nil => simp
  | cons c cs => simp [hrest c rfl]

theorem dropWhile_run {p : Char → Bool} {run rest : List Char} (hrun : run.all p = true)
    (hrest : ∀ c ∈ rest.head?, p c = false) : (run ++ rest).dropWhile p = rest := by
  rw [List.dropWhile_append_of_pos (List.all_eq_true.mp hrun)]
  cases rest with
  | nil => rfl
  | cons c cs => rw [List.dropWhile_cons_of_neg (by simp [hrest c rfl])]

theorem dropWhile_eq_self {p : Char → Bool} {cs : List Char}
    (h : ∀ c ∈ cs.head?, p c = false) : cs.dropWhile p = cs := by
  cases cs with
  | nil => rfl
  | cons c cs => rw [List.dropWhile_cons_of_neg (by simp [h c rfl])]

theorem not_of_head?_dropWhile {p : Char → Bool} {cs : List Char} :
    ∀ c ∈ (cs.dropWhile p).head?, p c = false := by
  intro c hc
  have h := List.head?_dropWhile_not p cs
  rwa [Option.mem_def.mp hc] at h

/-- A text up to the first of a character, with this character. -/
theorem eq_append_of_dropWhile {d e : Char} {cs rest : List Char}
    (h : cs.dropWhile (· != d) = e :: rest) : cs = cs.takeWhile (· != d) ++ d :: rest := by
  have hstop := @not_of_head?_dropWhile (· != d) cs e (by rw [h]; rfl)
  obtain rfl : e = d := by simpa using hstop
  rw [← h, List.takeWhile_append_dropWhile]

/-- The runs at the two ends of a text are dropped, and nothing else. -/
theorem dropWhile_ends {p : Char → Bool} {before middle after : List Char}
    (hbefore : ∀ c ∈ before, p c = true) (hafter : ∀ c ∈ after, p c = true)
    (hfirst : ∀ c ∈ middle.head?, p c = false) (hlast : ∀ c ∈ middle.getLast?, p c = false) :
    (((before ++ (middle ++ after)).dropWhile p).reverse.dropWhile p).reverse = middle := by
  rw [List.dropWhile_append_of_pos hbefore]
  cases middle with
  | nil =>
    rw [List.nil_append, ← List.append_nil after, List.dropWhile_append_of_pos hafter]
    rfl
  | cons c cs =>
    have hhead : ∀ d ∈ (c :: cs ++ after).head?, p d = false := hfirst
    rw [dropWhile_eq_self hhead, List.reverse_append, List.dropWhile_append_of_pos,
      dropWhile_eq_self, List.reverse_reverse]
    · rwa [List.head?_reverse]
    · exact fun d hd => hafter d (List.mem_reverse.mp hd)

theorem exists_ends (p : Char → Bool) (cs : List Char) :
    ∃ before middle after, cs = before ++ (middle ++ after) ∧
      ((cs.dropWhile p).reverse.dropWhile p).reverse = middle ∧ (∀ c ∈ before, p c = true) ∧
      (∀ c ∈ after, p c = true) ∧ (∀ c ∈ middle.head?, p c = false) ∧
      ∀ c ∈ middle.getLast?, p c = false := by
  have hrest : cs.dropWhile p = ((cs.dropWhile p).reverse.dropWhile p).reverse ++
      ((cs.dropWhile p).reverse.takeWhile p).reverse := by
    rw [← List.reverse_append, List.takeWhile_append_dropWhile, List.reverse_reverse]
  refine ⟨cs.takeWhile p, _, ((cs.dropWhile p).reverse.takeWhile p).reverse, ?_, rfl,
    fun c hc => List.all_eq_true.mp List.all_takeWhile c hc,
    fun c hc => List.all_eq_true.mp List.all_takeWhile c (List.mem_reverse.mp hc), ?_, ?_⟩
  · rw [← hrest, List.takeWhile_append_dropWhile]
  · intro c hc
    have hhead : c ∈ (cs.dropWhile p).head? := by
      rw [hrest, List.head?_append, Option.mem_def.mp hc]
      rfl
    exact not_of_head?_dropWhile c hhead
  · intro c hc
    rw [List.getLast?_reverse] at hc
    exact not_of_head?_dropWhile c hc

/-- A closing delimiter that no further one follows ends a delimited text. -/
theorem unenclose_close {d : Char} {rest : List Char} (hrest : ∀ c ∈ rest.head?, c ≠ d) :
    unenclose d (d :: rest) = some ([], rest) := by
  cases rest with
  | nil => simp [unenclose]
  | cons c cs => simp [unenclose, hrest c rfl]

/-- A character other than the delimiter belongs to a delimited text. -/
theorem unenclose_cons {d c : Char} (hc : c ≠ d) (cs : List Char) :
    unenclose d (c :: cs) = (unenclose d cs).map fun (text, rest) => (c :: text, rest) := by
  cases cs with
  | nil => simp [unenclose, hc]
  | cons e es => simp [unenclose, hc]

/-- Nothing is doubled in a text without the delimiter. -/
theorem double_eq_self {d : Char} {cs : List Char} (h : d ∉ cs) : double d cs = cs := by
  induction cs with
  | nil => rfl
  | cons c cs ih =>
    rw [List.mem_cons, not_or] at h
    rw [double, if_neg (Ne.symm h.1), ih h.2]

/-- A character other than the delimiter comes from the text. -/
theorem eq_cons_of_double {d c : Char} {cs rest : List Char} (hc : c ≠ d)
    (h : double d cs = c :: rest) : ∃ more, cs = c :: more ∧ double d more = rest := by
  cases cs with
  | nil => cases h
  | cons x more =>
    rw [double] at h
    split at h
    · cases h
      exact absurd rfl hc
    · cases h
      exact ⟨more, rfl, rfl⟩

/-- What was delimited is read back, whatever delimiters it has inside. -/
theorem unenclose_double (d : Char) (cs : List Char) {rest : List Char}
    (hrest : ∀ c ∈ rest.head?, c ≠ d) :
    unenclose d (double d cs ++ d :: rest) = some (cs, rest) := by
  induction cs with
  | nil => exact unenclose_close hrest
  | cons c cs ih =>
    rw [double]
    split
    · rename_i hc
      subst hc
      simp [unenclose, ih]
    · rename_i hc
      rw [List.cons_append, unenclose_cons hc, ih]
      rfl

/-- What is read as a delimited text was one. -/
theorem eq_append_of_unenclose {d : Char} {cs text rest : List Char}
    (h : unenclose d cs = some (text, rest)) : cs = double d text ++ d :: rest := by
  fun_induction unenclose d cs generalizing text with
  | case1 => cases h
  | case2 => cases h; rfl
  | case3 => cases h
  | case4 cs ih =>
    obtain ⟨⟨text, rest⟩, hu, heq⟩ := Option.map_eq_some_iff.mp h
    cases heq
    rw [ih hu, double, if_pos rfl]
    rfl
  | case5 => cases h; rfl
  | case6 c e cs hc ih =>
    obtain ⟨⟨text, rest⟩, hu, heq⟩ := Option.map_eq_some_iff.mp h
    cases heq
    rw [ih hu, double, if_neg hc]
    rfl

theorem length_unenclose {d : Char} {cs text rest : List Char}
    (h : unenclose d cs = some (text, rest)) : rest.length < cs.length := by
  fun_induction unenclose d cs generalizing text with
  | case1 => cases h
  | case2 => cases h; simp
  | case3 => cases h
  | case4 cs ih =>
    obtain ⟨⟨text, rest⟩, hu, heq⟩ := Option.map_eq_some_iff.mp h
    cases heq
    have := ih hu
    simp only [List.length_cons]
    omega
  | case5 => cases h; simp
  | case6 c e cs hc ih =>
    obtain ⟨⟨text, rest⟩, hu, heq⟩ := Option.map_eq_some_iff.mp h
    cases heq
    have := ih hu
    simp only [List.length_cons] at this ⊢
    omega

end DocumentQuery.Text
