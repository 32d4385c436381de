import DocumentQuery.Proofs.Path.RoundTrip

/-!
# Canonical texts

A path has one text, but other texts are read as the same path: blanks around
it do not count, a name may have quotes that it does not need, and a position
may have a plus sign and zeros before it. Names are checked as they are read,
so whatever text a path comes from, its own text is read as the path again.

* `Path.isWritable_of_parse`: the path of a text can be written;
* `Path.parse_canonical`: reading and writing paths.
-/

namespace DocumentQuery.Path

/-- The path of a text can be written, however the text spells it. -/
theorem isWritable_of_parse {text : String} {p : Path} (h : parse text = .ok p) :
    p.IsWritable := by
  unfold parse at h
  split at h
  · obtain ⟨segments, hsegments, rfl⟩ := map_eq_ok.mp h
    obtain ⟨spellings, _, hspellings⟩ := readSegments_eq_ok.mp hsegments
    have hwritable := hspellings.imp fun _ _ h => And.intro h.isWritable h
    exact ((List.forall₂_and_left _ _).mp hwritable).1
  · cases h

/-- The text of a path that can be written is read as the path, so two such paths have
different texts. Every path that is read from some text is one of them: its own text,
the canonical one, is read as the same path again. -/
theorem parse_canonical :
    (∀ p : Path, p.IsWritable → parse p.text = .ok p) ∧
      (∀ p q : Path, p.IsWritable → q.IsWritable → p ≠ q → p.text ≠ q.text) ∧
      ∀ text p, parse text = .ok p → p.IsWritable ∧ parse p.text = .ok p := by
  have hread (p : Path) (hp : p.IsWritable) : parse p.text = .ok p := parse_text hp
  refine ⟨hread, fun p q hp hq hne htext => hne ?_, fun text p h => ?_⟩
  · have hsame : (Except.ok p : Except Error Path) = .ok q := by
      calc Except.ok p = parse p.text := (hread p hp).symm
        _ = parse q.text := by rw [htext]
        _ = .ok q := hread q hq
    exact Except.ok.inj hsame
  · have hp := isWritable_of_parse h
    exact ⟨hp, hread p hp⟩

/-- Member names with a dot, brackets, an apostrophe and blanks, and the greatest position. -/
def oddPath : Path :=
  ⟨[.field "a.b[0]", .field "it's \u00a0", .index 18446744073709551615, .field "]"]⟩

/-- The path with two members where `oddPath` has one, with a dot in it. -/
def otherPath : Path :=
  ⟨[.field "a", .field "b[0]", .field "it's \u00a0", .index 18446744073709551615, .field "]"]⟩

/-- A path in a spelling of its own: blanks, needless quotes, a plus sign and zeros. -/
theorem parse_canonical_spellings :
    oddPath.IsWritable ∧ parse oddPath.text = .ok oddPath ∧
      otherPath.IsWritable ∧ oddPath ≠ otherPath ∧ oddPath.text ≠ otherPath.text ∧
      parse "\u2003$.\"Items\"[+007].a]b\n" = .ok ⟨[.field "Items", .index 7, .field "a]b"]⟩ ∧
      parse "$.Items[7].\"a]b\"" = .ok ⟨[.field "Items", .index 7, .field "a]b"]⟩ := by
  have hodd : oddPath.IsWritable := by decide +kernel
  have hother : otherPath.IsWritable := by decide +kernel
  have hne : oddPath ≠ otherPath := by decide
  have hspelled : parse "\u2003$.\"Items\"[+007].a]b\n" =
      .ok ⟨[.field "Items", .index 7, .field "a]b"]⟩ := by
    decide +kernel
  obtain ⟨hread, hdistinct, hcanonical⟩ := parse_canonical
  exact ⟨hodd, hread _ hodd, hother, hne, hdistinct _ _ hodd hother hne, hspelled,
    (hcanonical _ _ hspelled).2⟩

end DocumentQuery.Path
