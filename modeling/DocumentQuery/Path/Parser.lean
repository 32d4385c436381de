import DocumentQuery.Path.Basic
import DocumentQuery.Text.Basic

/-!
# Reading a path

Blanks around the text do not count. A member name between quotes ends at the
next quote, one without quotes at the next dot or opening bracket.

* `Path.readSegment`: one step at the start of a text;
* `Path.parse`: the path of a whole text.
-/

namespace DocumentQuery.Path

/-- Whether a character ends a member name that has no quotes. -/
def isBreak (c : Char) : Bool := c == '.' || c == '['

/-- A step to a member, with the text that follows it. -/
def memberStep (name rest : List Char) : Except Error (Segment × List Char) := do
  checkName (String.ofList name)
  return (.field (String.ofList name), rest)

/-- The step at the start of a text whose first character is `c`, with the text that
follows it. `fault` makes an error of the reason for which there is none. -/
def readSegment (fault : PathCause → Error) (c : Char) (cs : List Char) :
    Except Error (Segment × List Char) :=
  if c = '.' then
    match cs with
    | '"' :: cs =>
      match cs.dropWhile (· != '"') with
      | [] => .error (fault .unterminatedKey)
      | _ :: rest => memberStep (cs.takeWhile (· != '"')) rest
    | cs =>
      match cs.takeWhile (!isBreak ·) with
      | [] => .error (fault .emptyKey)
      | name => memberStep name (cs.dropWhile (!isBreak ·))
  else if c = '[' then
    match cs.dropWhile (· != ']') with
    | [] => .error (fault .unterminatedIndex)
    | _ :: rest =>
      match Text.natural64? (cs.takeWhile (· != ']')) with
      | none => .error (fault .badIndex)
      | some position => .ok (.index position, rest)
  else .error (fault (.unexpected c))

theorem length_dropWhile_le (f : Char → Bool) (cs : List Char) :
    (cs.dropWhile f).length ≤ cs.length :=
  (List.dropWhile_suffix f).length_le

theorem memberStep_rest {name rest : List Char} {step : Segment × List Char}
    (h : memberStep name rest = .ok step) : step.2 = rest := by
  unfold memberStep at h
  cases hc : checkName (String.ofList name) with
  | error e => rw [hc] at h; cases h
  | ok _ => rw [hc] at h; cases h; rfl

/-- A step takes at least its first character. -/
theorem length_readSegment {fault : PathCause → Error} {c : Char} {cs : List Char}
    {step : Segment × List Char} (h : readSegment fault c cs = .ok step) :
    step.2.length ≤ cs.length := by
  unfold readSegment at h
  split at h
  · split at h
    · rename_i cs
      have hd := length_dropWhile_le (· != '"') cs
      split at h
      · cases h
      · rename_i hr
        rw [hr] at hd
        rw [memberStep_rest h]
        simp only [List.length_cons] at hd ⊢
        omega
    · split at h
      · cases h
      · rw [memberStep_rest h]
        exact length_dropWhile_le _ _
  · split at h
    · have hd := length_dropWhile_le (· != ']') cs
      split at h
      · cases h
      · rename_i hr
        rw [hr] at hd
        split at h
        · cases h
        · cases h
          simp only [List.length_cons] at hd
          simp only
          omega
    · cases h

/-- The steps that a text consists of. -/
def readSegments (fault : PathCause → Error) : List Char → Except Error (List Segment)
  | [] => .ok []
  | c :: cs =>
    match _h : readSegment fault c cs with
    | .error e => .error e
    | .ok step => (readSegments fault step.2).map (step.1 :: ·)
termination_by cs => cs.length
decreasing_by
  have := length_readSegment _h
  simp only [List.length_cons]
  omega

/-- The path that a text writes. -/
def parse (text : String) : Except Error Path :=
  let fault (cause : PathCause) : Error := .expression (.pathText text cause)
  match Text.trim text.toList with
  | '$' :: cs => (readSegments fault cs).map (⟨·⟩)
  | _ => .error (fault .noRoot)

end DocumentQuery.Path
