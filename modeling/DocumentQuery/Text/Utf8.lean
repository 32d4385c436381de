/-!
# Reading bytes as UTF-8

Bytes that are meant as UTF-8 but need not be: each maximal run that starts a
character and breaks off, and each byte that starts none, is read as one
replacement character.

* `Utf8.Pending`: a character under way, with the bytes that may come next;
* `Utf8.lead`: what a byte between characters starts;
* `Utf8.decode`: the text of a list of bytes.
-/

namespace DocumentQuery.Text.Utf8

/-- A character of which `owed` bytes are missing, the next of them between
`low` and `high`; `value` is its number so far. -/
structure Pending where
  value : Nat
  owed : Nat
  low : Nat
  high : Nat
  deriving DecidableEq, Repr

/-- What stands for bytes that are no character. -/
def replacement : Char := '\uFFFD'

/-- The character that a byte of more than seven bits starts. The ranges leave
out overlong forms, surrogates and numbers past the last code point. -/
def lead (b : Nat) : Option Pending :=
  if 0xC2 ≤ b && b ≤ 0xDF then some ⟨b - 0xC0, 1, 0x80, 0xBF⟩
  else if b == 0xE0 then some ⟨0, 2, 0xA0, 0xBF⟩
  else if b == 0xED then some ⟨0xD, 2, 0x80, 0x9F⟩
  else if 0xE1 ≤ b && b ≤ 0xEF then some ⟨b - 0xE0, 2, 0x80, 0xBF⟩
  else if b == 0xF0 then some ⟨0, 3, 0x90, 0xBF⟩
  else if 0xF1 ≤ b && b ≤ 0xF3 then some ⟨b - 0xF0, 3, 0x80, 0xBF⟩
  else if b == 0xF4 then some ⟨4, 3, 0x80, 0x8F⟩
  else none

/-- A byte read between characters: what it completes and what it leaves pending. -/
def start (b : Nat) : List Char × Option Pending :=
  if b < 0x80 then ([Char.ofNat b], none)
  else match lead b with
    | some pending => ([], some pending)
    | none => ([replacement], none)

/-- A byte read while a character may be under way. -/
def advance : Option Pending → Nat → List Char × Option Pending
  | none, b => start b
  | some p, b =>
    if p.low ≤ b && b ≤ p.high then
      let value := p.value * 64 + (b - 0x80)
      if p.owed == 1 then ([Char.ofNat value], none)
      else ([], some ⟨value, p.owed - 1, 0x80, 0xBF⟩)
    else (replacement :: (start b).1, (start b).2)

/-- The text of bytes that follow a character under way. -/
def decodeFrom : Option Pending → List UInt8 → List Char
  | none, [] => []
  | some _, [] => [replacement]
  | pending, b :: rest =>
    (advance pending b.toNat).1 ++ decodeFrom (advance pending b.toNat).2 rest

/-- The text of a list of bytes. -/
def decode (bytes : List UInt8) : String := String.ofList (decodeFrom none bytes)

end DocumentQuery.Text.Utf8
