import DocumentQuery.Like.Pattern
import Mathlib.Data.List.Forall2

/-!
# What a pattern matches

A pattern is read from left to right, with characters compared by a relation
that may be any. A needle between percent signs is found just where it stands in
the text.

* `Like.Matches`: which texts a pattern matches;
* `Like.Stands`: a needle in a text, at its ends or not;
* `Like.matches_frame`: a needle between percent signs;
* `TextTest.Passes`: what the string predicates ask;
* `TextTest.matches_pattern`: the pattern of a string predicate asks the same.
-/

namespace DocumentQuery

namespace Like

variable {same other : Char → Char → Prop} {pattern text needle : List Char}

/-- Whether a pattern matches a whole text. A percent sign takes any run of characters, an
underscore any one, and every other character, and any character after a backslash, one that
`same` relates it to. A backslash at the end takes nothing. -/
def Matches (same : Char → Char → Prop) : List Char → List Char → Prop
  | [], text => text = []
  | '%' :: pattern, text => ∃ run rest, text = run ++ rest ∧ Matches same pattern rest
  | '_' :: pattern, text => ∃ d rest, text = d :: rest ∧ Matches same pattern rest
  | ['\\'], text => text = []
  | '\\' :: c :: pattern, text => ∃ d rest, text = d :: rest ∧ same c d ∧ Matches same pattern rest
  | c :: pattern, text => ∃ d rest, text = d :: rest ∧ same c d ∧ Matches same pattern rest

theorem isSpecial_eq_false {c : Char} : isSpecial c = false ↔ c ≠ '%' ∧ c ≠ '_' ∧ c ≠ '\\' := by
  simp only [isSpecial, escapeChar, Bool.or_eq_false_iff, beq_eq_false_iff_ne, and_assoc]

/-- Patterns from right to left, by what they begin with. -/
@[elab_as_elim]
theorem pattern_induction {motive : List Char → Prop} (pattern : List Char) (nil : motive [])
    (anyRun : ∀ cs, motive cs → motive ('%' :: cs)) (anyOne : ∀ cs, motive cs → motive ('_' :: cs))
    (lone : motive ['\\']) (escaped : ∀ c cs, motive cs → motive ('\\' :: c :: cs))
    (plain : ∀ c cs, isSpecial c = false → motive cs → motive (c :: cs)) : motive pattern := by
  suffices h : List Char → motive pattern from h []
  intro text
  -- the recursion on the text is of no use here
  fun_induction Matches (fun _ _ => True) pattern text with
  | case1 => exact nil
  | case2 cs _ ih => exact anyRun cs (ih [])
  | case3 cs _ ih => exact anyOne cs (ih [])
  | case4 => exact lone
  | case5 c cs _ ih => exact escaped c cs (ih [])
  | case6 c cs _ hpercent hunderscore hlone hescape ih =>
    refine plain c cs (isSpecial_eq_false.mpr ⟨hpercent, hunderscore, fun h => ?_⟩) (ih [])
    cases cs with
    | nil => exact hlone h rfl
    | cons d ds => exact hescape d ds h rfl

theorem matches_plain {c : Char} (hc : isSpecial c = false) :
    Matches same (c :: pattern) text ↔
      ∃ d rest, text = d :: rest ∧ same c d ∧ Matches same pattern rest := by
  obtain ⟨hpercent, hunderscore, hescape⟩ := isSpecial_eq_false.mp hc
  rw [Matches]
  · exact hpercent
  · exact hunderscore
  · exact fun h _ => hescape h
  · exact fun _ _ h _ => hescape h

/-- What matches still does with a relation that relates more. -/
theorem Matches.imp (h : Matches same pattern text)
    (himp : ∀ c ∈ pattern, ∀ d ∈ text, same c d → other c d) : Matches other pattern text := by
  induction pattern using pattern_induction generalizing text with
  | nil | lone => exact h
  | anyRun cs ih =>
    rw [Matches] at h ⊢
    obtain ⟨run, rest, rfl, h⟩ := h
    exact ⟨run, rest, rfl, ih h fun c hc d hd =>
      himp c (List.mem_cons_of_mem _ hc) d (List.mem_append_right _ hd)⟩
  | anyOne cs ih =>
    rw [Matches] at h ⊢
    obtain ⟨d, rest, rfl, h⟩ := h
    exact ⟨d, rest, rfl, ih h fun c hc d hd =>
      himp c (List.mem_cons_of_mem _ hc) d (List.mem_cons_of_mem _ hd)⟩
  | escaped c cs ih =>
    rw [Matches] at h ⊢
    obtain ⟨d, rest, rfl, hd, h⟩ := h
    refine ⟨d, rest, rfl, himp c (by simp) d List.mem_cons_self hd, ih h fun c hc d hd => ?_⟩
    exact himp c (by simp [hc]) d (List.mem_cons_of_mem _ hd)
  | plain c cs hc ih =>
    rw [matches_plain hc] at h ⊢
    obtain ⟨d, rest, rfl, hd, h⟩ := h
    exact ⟨d, rest, rfl, himp c List.mem_cons_self d List.mem_cons_self hd, ih h fun c hc d hd =>
      himp c (List.mem_cons_of_mem _ hc) d (List.mem_cons_of_mem _ hd)⟩

/-! ## A needle between percent signs -/

/-- Whether a needle stands in a text, at its start and at its end if that is asked. -/
def Stands (same : Char → Char → Prop) (atStart atEnd : Prop) (needle text : List Char) : Prop :=
  ∃ first part last, text = first ++ part ++ last ∧ List.Forall₂ same needle part ∧
    (atStart → first = []) ∧ (atEnd → last = [])

/-- An escaped needle takes as many characters, each related to its own. -/
theorem matches_escape :
    Matches same (escape needle ++ pattern) text ↔ ∃ part rest, text = part ++ rest ∧
      List.Forall₂ same needle part ∧ Matches same pattern rest := by
  induction needle generalizing text with
  | nil => simp [escape]
  | cons c needle ih =>
    have hstep : Matches same (escape (c :: needle) ++ pattern) text ↔
        ∃ d rest, text = d :: rest ∧ same c d ∧ Matches same (escape needle ++ pattern) rest := by
      rw [escape, List.flatMap_cons, List.append_assoc]
      split
      · rw [List.cons_append, List.singleton_append, escapeChar, Matches]
        rfl
      · rename_i hc
        exact matches_plain (Bool.eq_false_iff.mpr hc)
    rw [hstep]
    constructor
    · rintro ⟨d, rest, rfl, hd, h⟩
      obtain ⟨part, rest, rfl, hpart, h⟩ := ih.mp h
      exact ⟨d :: part, rest, rfl, .cons hd hpart, h⟩
    · rintro ⟨_, rest, rfl, hcons, h⟩
      obtain ⟨d, part, hd, hpart, rfl⟩ := List.forall₂_cons_left_iff.mp hcons
      exact ⟨d, part ++ rest, rfl, hd, ih.mpr ⟨part, rest, rfl, hpart, h⟩⟩

/-- Some percent signs take anything, and none take nothing. -/
theorem matches_percents {percents : List Char} (hpercents : ∀ c ∈ percents, c = '%') :
    Matches same (percents ++ pattern) text ↔ ∃ run rest, text = run ++ rest ∧
      (percents = [] → run = []) ∧ Matches same pattern rest := by
  induction percents generalizing text with
  | nil => simp
  | cons c percents ih =>
    obtain ⟨rfl, hrest⟩ := List.forall_mem_cons.mp hpercents
    rw [List.cons_append, Matches]
    constructor
    · rintro ⟨run, rest, rfl, h⟩
      obtain ⟨more, rest, rfl, _, h⟩ := (ih hrest).mp h
      exact ⟨run ++ more, rest, (List.append_assoc ..).symm, by simp, h⟩
    · -- the first percent sign takes the whole run, and the others nothing
      rintro ⟨run, rest, rfl, _, h⟩
      exact ⟨run, rest, rfl, (ih hrest).mpr ⟨[], rest, rfl, fun _ => rfl, h⟩⟩

theorem matches_frame {before after : List Char} (hbefore : ∀ c ∈ before, c = '%')
    (hafter : ∀ c ∈ after, c = '%') :
    Matches same (before ++ (escape needle ++ after)) text ↔
      Stands same (before = []) (after = []) needle text := by
  rw [matches_percents hbefore, Stands]
  constructor
  · rintro ⟨first, rest, rfl, hfirst, h⟩
    obtain ⟨part, last, rfl, hpart, h⟩ := matches_escape.mp h
    rw [← List.append_nil after] at h
    obtain ⟨last, _, rfl, hlast, h⟩ := (matches_percents hafter).mp h
    rw [Matches] at h
    subst h
    exact ⟨first, part, last, by simp, hpart, hfirst, hlast⟩
  · rintro ⟨first, part, last, rfl, hpart, hfirst, hlast⟩
    refine ⟨first, part ++ last, List.append_assoc .., hfirst, ?_⟩
    refine matches_escape.mpr ⟨part, last, rfl, hpart, ?_⟩
    rw [← List.append_nil after]
    exact (matches_percents hafter).mpr ⟨last, [], (List.append_nil _).symm, hlast, rfl⟩

theorem Stands.imp {atStart atEnd : Prop} (h : Stands same atStart atEnd needle text)
    (himp : ∀ c ∈ needle, ∀ d ∈ text, same c d → other c d) :
    Stands other atStart atEnd needle text := by
  obtain ⟨first, part, last, rfl, hpart, hends⟩ := h
  obtain ⟨hlength, hzip⟩ := List.forall₂_iff_zip.mp hpart
  refine ⟨first, part, last, rfl, List.forall₂_iff_zip.mpr ⟨hlength, fun hmem => ?_⟩, hends⟩
  obtain ⟨hc, hd⟩ := List.of_mem_zip hmem
  exact himp _ hc _ (List.mem_append_left _ (List.mem_append_right _ hd)) (hzip hmem)

theorem stands_eq {atStart atEnd : Prop} :
    Stands (· = ·) atStart atEnd needle text ↔
      ∃ first last, text = first ++ needle ++ last ∧ (atStart → first = []) ∧
        (atEnd → last = []) := by
  rw [Stands, List.forall₂_eq_eq_eq]
  constructor
  · rintro ⟨first, _, last, htext, rfl, hends⟩
    exact ⟨first, last, htext, hends⟩
  · rintro ⟨first, last, htext, hends⟩
    exact ⟨first, needle, last, htext, rfl, hends⟩

/-- To compare characters by what they are mapped to is to compare the mapped texts. -/
theorem stands_map {f : Char → Char} {atStart atEnd : Prop} :
    Stands (fun c d => f c = f d) atStart atEnd needle text ↔
      Stands (· = ·) atStart atEnd (needle.map f) (text.map f) := by
  have hpart {part : List Char} :
      List.Forall₂ (fun c d => f c = f d) needle part ↔ needle.map f = part.map f := by
    rw [← List.forall₂_eq_eq_eq, List.forall₂_map_left_iff, List.forall₂_map_right_iff]
  rw [stands_eq, Stands]
  constructor
  · rintro ⟨first, part, last, rfl, h, hfirst, hlast⟩
    refine ⟨first.map f, last.map f, ?_, fun h => ?_, fun h => ?_⟩
    · rw [hpart.mp h, List.map_append, List.map_append]
    · rw [hfirst h, List.map_nil]
    · rw [hlast h, List.map_nil]
  · rintro ⟨_, _, htext, hfirst, hlast⟩
    obtain ⟨start, last, rfl, hstart, rfl⟩ := List.map_eq_append_iff.mp htext
    obtain ⟨first, part, rfl, rfl, h⟩ := List.map_eq_append_iff.mp hstart
    exact ⟨first, part, last, rfl, hpart.mpr h.symm, fun h => List.map_eq_nil_iff.mp (hfirst h),
      fun h => List.map_eq_nil_iff.mp (hlast h)⟩

end Like

/-! ## String predicates -/

namespace TextTest

variable {same : Char → Char → Prop} {needle text : List Char}

/-- What a string predicate asks of a needle and a text, with characters compared by `same`. -/
def Passes (same : Char → Char → Prop) (needle text : List Char) : TextTest → Prop
  | .contains => ∃ part, part <:+: text ∧ List.Forall₂ same needle part
  | .startsWith => ∃ part, part <+: text ∧ List.Forall₂ same needle part
  | .endsWith => ∃ part, part <:+ text ∧ List.Forall₂ same needle part

theorem passes_iff {test : TextTest} :
    test.Passes same needle text ↔
      Like.Stands same (test = .startsWith) (test = .endsWith) needle text := by
  cases test with
  | contains =>
    constructor
    · rintro ⟨part, ⟨first, last, htext⟩, hpart⟩
      exact ⟨first, part, last, htext.symm, hpart, nofun, nofun⟩
    · rintro ⟨first, part, last, htext, hpart, _, _⟩
      exact ⟨part, ⟨first, last, htext.symm⟩, hpart⟩
  | startsWith =>
    constructor
    · rintro ⟨part, ⟨last, htext⟩, hpart⟩
      exact ⟨[], part, last, htext.symm, hpart, fun _ => rfl, nofun⟩
    · rintro ⟨first, part, last, htext, hpart, hfirst, _⟩
      rw [hfirst rfl] at htext
      exact ⟨part, ⟨last, htext.symm⟩, hpart⟩
  | endsWith =>
    constructor
    · rintro ⟨part, ⟨first, htext⟩, hpart⟩
      refine ⟨first, part, [], ?_, hpart, nofun, fun _ => rfl⟩
      rw [List.append_nil, htext]
    · rintro ⟨first, part, last, htext, hpart, _, hlast⟩
      rw [hlast rfl, List.append_nil] at htext
      exact ⟨part, ⟨first, htext.symm⟩, hpart⟩

/-- The percent signs that a string predicate puts around an escaped needle. -/
theorem exists_frame (test : TextTest) :
    ∃ before after, (∀ c ∈ before, c = '%') ∧ (∀ c ∈ after, c = '%') ∧
      (before = [] ↔ test = .startsWith) ∧ (after = [] ↔ test = .endsWith) ∧
      ∀ needle, test.pattern needle = before ++ (Like.escape needle ++ after) := by
  cases test with
  | contains => exact ⟨['%'], ['%'], by simp, by simp, by simp, by simp, fun _ => rfl⟩
  | startsWith => exact ⟨[], ['%'], by simp, by simp, by simp, by simp, fun _ => rfl⟩
  | endsWith =>
    exact ⟨['%'], [], by simp, by simp, by simp, by simp, fun _ => by rw [List.append_nil]; rfl⟩

theorem matches_pattern_iff {test : TextTest} :
    Like.Matches same (test.pattern needle) text ↔
      Like.Stands same (test = .startsWith) (test = .endsWith) needle text := by
  obtain ⟨before, after, hbefore, hafter, hstart, hend, hpattern⟩ := test.exists_frame
  rw [hpattern, Like.matches_frame hbefore hafter, hstart, hend]

/-- The pattern of a string predicate takes its needle literally: it matches exactly the
texts in which the needle stands where the predicate asks for it. -/
theorem matches_pattern (same : Char → Char → Prop) (test : TextTest) (needle text : List Char) :
    Like.Matches same (test.pattern needle) text ↔ test.Passes same needle text := by
  rw [matches_pattern_iff, passes_iff]

end TextTest

end DocumentQuery
