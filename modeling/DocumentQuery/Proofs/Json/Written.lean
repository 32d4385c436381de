import DocumentQuery.Json.Numeral
import DocumentQuery.Json.Printer
import DocumentQuery.Proofs.Text.Words
import Mathlib.Data.List.Forall2

/-!
# Texts read by the grammar of JSON

What a text is read as, said for the text alone: after it the input may end, or
go on as it does inside an array or an object. Arrays and objects then are read
part by part.

* `Json.Spells`: a text of a value;
* `Json.piece`, `Json.text?_map_piece`: the pieces of a string in quotes, and its
  characters;
* `Json.spells_quoted`, `Json.spells_toDigits`, `Json.spells_array`, `Json.spells_object`:
  the texts of strings, natural numbers, arrays and objects;
* `Json.read?_of_spells`: what a whole text is read as.
-/

namespace DocumentQuery.Json

variable {c : Char} {cs rest : List Char} {pieces : List Piece} {written : Written}

/-- What may follow a value: nothing, or what comes after an item or a member. -/
def Follows (rest : List Char) : Prop := ∀ c ∈ rest.head?, c = ',' ∨ c = ']' ∨ c = '\x7d'

/-- A text of a value, whatever follows it. The fuel counts two steps for each character. It
does not begin like the rest of an array that has no items. -/
structure Spells (written : Written) (cs : List Char) : Prop where
  read : ∀ fuel rest, 2 * cs.length < fuel → Follows rest →
    readValue fuel (cs ++ rest) = some (written, rest)
  head : ∃ c ds, cs = c :: ds ∧ isSpace c = false ∧ c ≠ ']'

theorem Follows.skipSpace (h : Follows rest) : skipSpace rest = rest := by
  refine Text.dropWhile_eq_self fun c hc => ?_
  rcases h c hc with rfl | rfl | rfl <;> rfl

theorem skipSpace_cons (hc : isSpace c = false) (cs : List Char) : skipSpace (c :: cs) = c :: cs :=
  List.dropWhile_cons_of_neg (by rw [hc]; decide)

/-! ## Strings -/

/-- Whether a character in a string is written by its number. -/
def isNumbered (c : Char) : Bool :=
  c.toNat < 0x20 && !(['\x08', '\x0c', '\n', '\r', '\t'].contains c)

/-- What the text of a character in a string is read as. -/
def piece (c : Char) : Piece := if isNumbered c then .unit c.toNat else .char c

theorem hexUnit?_digitChar {n : Nat} (h : n < 0x20) :
    hexUnit? '0' '0' (Nat.digitChar (n / 16)) (Nat.digitChar (n % 16)) = some n := by
  have hall : ∀ n : Fin 0x20,
      hexUnit? '0' '0' (Nat.digitChar (n / 16)) (Nat.digitChar (n % 16)) = some n.val := by decide
  exact hall ⟨n, h⟩

/-- A character written by a backslash and a letter. -/
theorem readString_letter {e : Char} (h : escaped? e = some c) (rest : List Char) :
    readString ('\\' :: e :: rest) = (readString rest).map fun r => (.char c :: r.1, r.2) := by
  rw [readString, h]
  · cases readString rest <;> rfl
  · rintro _ _ _ _ _ rfl _
    cases h

theorem readString_numbered (h : c.toNat < 0x20) (rest : List Char) :
    readString ('\\' :: 'u' :: '0' :: '0' :: Nat.digitChar (c.toNat / 16) ::
      Nat.digitChar (c.toNat % 16) :: rest) =
        (readString rest).map fun r => (.unit c.toNat :: r.1, r.2) := by
  rw [readString, hexUnit?_digitChar h]
  cases readString rest <;> rfl

theorem readString_plain (hquote : c ≠ '"') (hbackslash : c ≠ '\\') (h : 0x20 ≤ c.toNat)
    (rest : List Char) :
    readString (c :: rest) = (readString rest).map fun r => (.char c :: r.1, r.2) := by
  rw [readString, if_neg (Nat.not_lt.mpr h)]
  · cases readString rest <;> rfl
  · exact hquote
  · exact fun _ _ _ _ _ hc _ => hbackslash hc
  · exact fun _ _ hc _ => hbackslash hc

theorem readString_escape (c : Char) (rest : List Char) :
    readString (escape c ++ rest) = (readString rest).map fun r => (piece c :: r.1, r.2) := by
  by_cases hletter : c ∈ ['"', '\\', '\x08', '\x0c', '\n', '\r', '\t']
  · simp only [List.mem_cons, List.not_mem_nil, or_false] at hletter
    rcases hletter with rfl | rfl | rfl | rfl | rfl | rfl | rfl
    all_goals exact readString_letter rfl rest
  · simp only [List.mem_cons, List.not_mem_nil, or_false, not_or] at hletter
    obtain ⟨hquote, hbackslash, hb, hf, hn, hr, ht⟩ := hletter
    have hletters : ['\x08', '\x0c', '\n', '\r', '\t'].contains c = false := by
      simp [hb, hf, hn, hr, ht]
    rw [piece, isNumbered, hletters]
    simp only [escape, hquote, hbackslash, hb, hf, hn, hr, ht, decide_false, Bool.or_self,
      Bool.false_eq_true, if_false]
    split
    · rename_i hnumber
      rw [if_pos (by simp [hnumber])]
      exact readString_numbered hnumber rest
    · rename_i hnumber
      rw [if_neg (by simp [hnumber])]
      exact readString_plain hquote hbackslash (Nat.not_lt.mp hnumber) rest

theorem readString_flatMap_escape (cs rest : List Char) :
    readString (cs.flatMap escape ++ '"' :: rest) = some (cs.map piece, rest) := by
  induction cs with
  | nil => rw [List.flatMap_nil, List.nil_append, readString, List.map_nil]
  | cons c cs ih =>
    rw [List.flatMap_cons, List.append_assoc, readString_escape, ih, List.map_cons]
    rfl

/-- A small number is no half of a character. -/
theorem text?_unit {n : Nat} (h : n < 0xD800) (pieces : List Piece) :
    text? (.unit n :: pieces) = (text? pieces).map (Char.ofNat n :: ·) := by
  have hhigh : ¬(decide (0xD800 ≤ n) && decide (n < 0xDC00)) = true := by simp; omega
  have hlow : ¬(decide (0xDC00 ≤ n) && decide (n < 0xE000)) = true := by simp; omega
  have hhalf : ¬(decide (0xD800 ≤ n) && decide (n < 0xE000)) = true := by simp; omega
  cases pieces with
  | nil => simp only [text?, if_neg hhalf]
  | cons p pieces =>
    cases p with
    | char c => simp only [text?, if_neg hhalf]
    | unit low => rw [text?, if_neg hhigh, if_neg hlow]

/-- The pieces of a string in quotes are its characters. -/
theorem text?_map_piece (cs : List Char) : text? (cs.map piece) = some cs := by
  induction cs with
  | nil => rfl
  | cons c cs ih =>
    rw [List.map_cons, piece]
    split
    · rename_i hc
      have hsmall : c.toNat < 0x20 := of_decide_eq_true (Bool.and_eq_true_iff.mp hc).1
      rw [text?_unit (by omega), ih, Char.ofNat_toNat]
      rfl
    · rw [text?, ih]
      rfl

theorem toList_quoted (s : String) :
    (quoted s).toList = '"' :: (s.toList.flatMap escape ++ ['"']) := by
  simp only [quoted, String.toList_append, String.toList_ofList, List.append_assoc]
  rfl

theorem spells_quoted (s : String) :
    Spells (.string (s.toList.map piece)) (quoted s).toList := by
  rw [toList_quoted]
  refine ⟨fun fuel rest hfuel _ => ?_, _, _, rfl, rfl, by decide⟩
  cases fuel with
  | zero => exact absurd hfuel (Nat.not_lt_zero _)
  | succ fuel =>
    rw [List.cons_append, List.append_assoc, List.singleton_append, readValue,
      skipSpace_cons rfl]
    simp only [readString_flatMap_escape, Option.map_some]

/-! ## Natural numbers -/

/-- Only zero has a zero at the start. -/
theorem head?_toDigits_ne {n : Nat} (h : n ≠ 0) : (Nat.toDigits 10 n).head? ≠ some '0' := by
  induction n using Nat.strongRecOn with
  | _ n ih =>
    rw [Nat.toDigits_eq_if (by decide)]
    split
    · rename_i hlt
      have hall : ∀ n : Fin 10, n.val ≠ 0 → [Nat.digitChar n.val].head? ≠ some '0' := by decide
      exact hall ⟨n, hlt⟩ h
    · rename_i hge
      have hhead := ih (n / 10) (by omega) (by omega)
      rw [List.head?_append]
      cases hdigits : Nat.toDigits 10 (n / 10) with
      | nil => exact absurd hdigits Nat.toDigits_ne_nil
      | cons d ds =>
        rw [hdigits] at hhead
        exact hhead

/-- The digits of a number without a fraction or an exponent. -/
def naturalNumeral (n : Nat) : Numeral := ⟨false, Nat.toDigits 10 n, none, none⟩

theorem Follows.not_isDigit (h : Follows rest) : ∀ c ∈ rest.head?, c.isDigit = false := by
  intro c hc
  rcases h c hc with rfl | rfl | rfl <;> rfl

theorem readDigits_toDigits (n : Nat) (h : Follows rest) :
    readDigits (Nat.toDigits 10 n ++ rest) = some (Nat.toDigits 10 n, rest) := by
  have hall := Text.all_isDigit_toDigits n
  rw [readDigits, Text.takeWhile_run hall h.not_isDigit, Text.dropWhile_run hall h.not_isDigit]
  cases hdigits : Nat.toDigits 10 n with
  | nil => exact absurd hdigits Nat.toDigits_ne_nil
  | cons d ds => rfl

theorem readWhole_toDigits (n : Nat) (h : Follows rest) :
    readWhole (Nat.toDigits 10 n ++ rest) = some (Nat.toDigits 10 n, rest) := by
  by_cases hn : n = 0
  · subst hn
    rfl
  · rw [readWhole, readDigits_toDigits n h]
    intro ds hds
    refine head?_toDigits_ne hn ?_
    cases hdigits : Nat.toDigits 10 n with
    | nil => exact absurd hdigits Nat.toDigits_ne_nil
    | cons d digits =>
      rw [hdigits] at hds
      cases hds
      rfl

theorem Follows.readFraction (h : Follows rest) : readFraction rest = some (none, rest) := by
  rw [Json.readFraction]
  rintro ds rfl
  rcases h '.' rfl with hc | hc | hc <;> exact absurd hc (by decide)

theorem Follows.readExponent (h : Follows rest) : readExponent rest = some (none, rest) := by
  cases rest with
  | nil => rfl
  | cons c cs =>
    rcases h c rfl with rfl | rfl | rfl <;> rfl

theorem exists_toDigits (n : Nat) :
    ∃ d ds, Nat.toDigits 10 n = d :: ds ∧ d.isDigit = true := by
  have hall := Text.all_isDigit_toDigits n
  cases hdigits : Nat.toDigits 10 n with
  | nil => exact absurd hdigits Nat.toDigits_ne_nil
  | cons d ds =>
    rw [hdigits] at hall
    exact ⟨d, ds, rfl, List.all_eq_true.mp hall d List.mem_cons_self⟩

theorem ne_of_isDigit {d : Char} (hc : c.isDigit = true) (hd : d.isDigit = false) : c ≠ d := by
  rintro rfl
  rw [hc] at hd
  cases hd

theorem not_isSpace_of_isDigit (hc : c.isDigit = true) : isSpace c = false := by
  simp only [isSpace, Bool.or_eq_false_iff, beq_eq_false_iff_ne]
  exact ⟨⟨⟨ne_of_isDigit hc rfl, ne_of_isDigit hc rfl⟩, ne_of_isDigit hc rfl⟩, ne_of_isDigit hc rfl⟩

theorem readNumeral_toDigits (n : Nat) (h : Follows rest) :
    readNumeral (Nat.toDigits 10 n ++ rest) = some (naturalNumeral n, rest) := by
  have hwhole := readWhole_toDigits n h
  obtain ⟨d, ds, hdigits, hd⟩ := exists_toDigits n
  rw [naturalNumeral, readNumeral]
  rw [hdigits, List.cons_append] at hwhole ⊢
  · rw [hwhole]
    simp only [Option.bind_eq_bind, Option.bind_some, h.readFraction, h.readExponent]
    rfl
  · intro ds hds
    rw [hdigits] at hds
    exact ne_of_isDigit hd rfl (List.head_eq_of_cons_eq hds)

theorem readValue_of_isDigit (hc : c.isDigit = true) (fuel : Nat) (cs : List Char) :
    readValue (fuel + 1) (c :: cs) = (readNumeral (c :: cs)).map fun r => (.number r.1, r.2) := by
  have hne {d : Char} (hd : d.isDigit = false) {ds es : List Char} : c :: ds = d :: es → False :=
    fun h => ne_of_isDigit hc hd (List.head_eq_of_cons_eq h)
  rw [readValue, skipSpace_cons (not_isSpace_of_isDigit hc)]
  split
  case h_7 => rfl
  all_goals
    rename_i heq
    exact (hne rfl heq).elim

theorem spells_toDigits (n : Nat) :
    Spells (.number (naturalNumeral n)) (Nat.toDigits 10 n) := by
  obtain ⟨d, ds, hdigits, hd⟩ := exists_toDigits n
  refine ⟨fun fuel rest hfuel hrest => ?_, d, ds, hdigits, not_isSpace_of_isDigit hd,
    ne_of_isDigit hd rfl⟩
  cases fuel with
  | zero => exact absurd hfuel (Nat.not_lt_zero _)
  | succ fuel =>
    have hnumeral := readNumeral_toDigits n hrest
    rw [hdigits, List.cons_append] at hnumeral ⊢
    rw [readValue_of_isDigit hd, hnumeral]
    rfl

/-- The digits of a number that 64 bits hold are read as the number. -/
theorem number?_naturalNumeral (n : UInt64) :
    (naturalNumeral n.toNat).number? = some (.natural n) := by
  have hvalue : Text.naturalOfDigits (naturalNumeral n.toNat).whole = n.toNat := by
    rw [Text.naturalOfDigits_eq]
    exact Nat.ofDigitChars_ten_toDigits
  rw [Numeral.number?, hvalue]
  simp [naturalNumeral, n.toNat_lt_size]

/-! ## Arrays -/

section

variable {items : List Written} {texts : List (List Char)}

theorem follows_cons (h : c = ',' ∨ c = ']' ∨ c = '\x7d') (cs : List Char) : Follows (c :: cs) := by
  rintro d ⟨⟩
  exact h

theorem readItems_intercalate (h : List.Forall₂ Spells items texts) (hne : items ≠ [])
    {fuel : Nat} (hfuel : 2 * ([','].intercalate texts).length + 2 ≤ fuel) (rest : List Char) :
    readItems fuel ([','].intercalate texts ++ ']' :: rest) = some (items, rest) := by
  induction h generalizing fuel with
  | nil => exact absurd rfl hne
  | @cons item text items texts hitem hitems ih =>
    cases fuel with
    | zero => omega
    | succ fuel =>
      cases hitems with
      | nil =>
        rw [List.intercalate_singleton] at hfuel ⊢
        rw [readItems, hitem.read fuel _ (by omega) (follows_cons (.inr (.inl rfl)) rest)]
        rfl
      | @cons item' text' items texts hitem' hitems =>
        rw [List.intercalate_cons_cons] at hfuel ⊢
        simp only [List.length_append, List.length_singleton] at hfuel
        have hmore := @ih (List.cons_ne_nil _ _) fuel (by omega)
        rw [List.append_assoc, List.append_assoc, List.singleton_append, readItems,
          hitem.read fuel _ (by omega) (follows_cons (.inl rfl) _)]
        simp only [Option.bind_eq_bind, Option.bind_some, skipSpace_cons (c := ',') rfl, hmore]
        rfl

/-- Items do not begin like the end of an array. -/
theorem head_intercalate (h : List.Forall₂ Spells items texts) (hne : items ≠ []) :
    ∃ c ds, [','].intercalate texts = c :: ds ∧ isSpace c = false ∧ c ≠ ']' := by
  cases h with
  | nil => exact absurd rfl hne
  | cons hitem hitems =>
    obtain ⟨c, ds, rfl, hspace, hclose⟩ := hitem.head
    cases hitems with
    | nil => exact ⟨c, ds, List.intercalate_singleton, hspace, hclose⟩
    | cons _ _ => exact ⟨c, _, List.intercalate_cons_cons, hspace, hclose⟩

theorem spells_array (h : List.Forall₂ Spells items texts) :
    Spells (.array items) ('[' :: ([','].intercalate texts ++ [']'])) := by
  refine ⟨fun fuel rest hfuel _ => ?_, _, _, rfl, rfl, by decide⟩
  cases fuel with
  | zero => exact absurd hfuel (Nat.not_lt_zero _)
  | succ fuel =>
    rw [List.cons_append, List.append_assoc, List.singleton_append, readValue, skipSpace_cons rfl]
    simp only [List.length_cons, List.length_append, List.length_nil] at hfuel
    by_cases hempty : items = []
    · subst hempty
      cases h
      simp only [List.intercalate_nil, List.nil_append, skipSpace_cons (c := ']') rfl]
    · have hread := @readItems_intercalate _ _ h hempty fuel (by omega) rest
      obtain ⟨c, ds, hhead, hspace, hclose⟩ := head_intercalate h hempty
      rw [hhead, List.cons_append] at hread ⊢
      simp only [skipSpace_cons hspace, hread]
      split
      · rename_i heq
        exact absurd (List.head_eq_of_cons_eq heq) hclose
      · rfl

end

/-! ## Objects -/

section

variable {members : List (List Piece × Written)} {texts : List (List Char)}

/-- A text of a member: its name in quotes, a colon and a text of its value. -/
inductive SpellsMember : List Piece × Written → List Char → Prop
  | intro (name : String) {value : Written} {cs : List Char} (h : Spells value cs) :
    SpellsMember (name.toList.map piece, value) ((quoted name).toList ++ ':' :: cs)

/-- What is read after a member. -/
def readMembersAfter (fuel : Nat) (member : List Piece × Written) :
    List Char → Option (List (List Piece × Written) × List Char)
  | ',' :: rest => (readMembers fuel rest).map fun r => (member :: r.1, r.2)
  | '\x7d' :: rest => some ([member], rest)
  | _ => none

theorem SpellsMember.readMembers {member : List Piece × Written} (h : SpellsMember member cs)
    {fuel : Nat} (hfuel : 2 * cs.length ≤ fuel) (rest : List Char) (hrest : Follows rest) :
    readMembers (fuel + 1) (cs ++ rest) = readMembersAfter fuel member rest := by
  cases h with
  | @intro name value cs hvalue =>
    simp only [List.length_append, List.length_cons, toList_quoted] at hfuel
    have hread := hvalue.read fuel rest (by omega) hrest
    rw [toList_quoted, List.append_assoc, List.cons_append, List.cons_append, List.append_assoc,
      List.singleton_append, Json.readMembers, skipSpace_cons rfl]
    simp only [Option.bind_eq_bind, Option.bind_some, readString_flatMap_escape,
      skipSpace_cons (c := ':') rfl, hread, hrest.skipSpace]
    cases rest with
    | nil => rfl
    | cons c rest => rcases hrest c rfl with rfl | rfl | rfl <;> rfl

theorem readMembers_intercalate (h : List.Forall₂ SpellsMember members texts) (hne : members ≠ [])
    {fuel : Nat} (hfuel : 2 * ([','].intercalate texts).length + 2 ≤ fuel) (rest : List Char) :
    readMembers fuel ([','].intercalate texts ++ '\x7d' :: rest) = some (members, rest) := by
  induction h generalizing fuel with
  | nil => exact absurd rfl hne
  | @cons member text members texts hmember hmembers ih =>
    cases fuel with
    | zero => omega
    | succ fuel =>
      cases hmembers with
      | nil =>
        rw [List.intercalate_singleton] at hfuel ⊢
        exact hmember.readMembers (by omega) _ (follows_cons (.inr (.inr rfl)) rest)
      | @cons member' text' members texts hmember' hmembers =>
        rw [List.intercalate_cons_cons] at hfuel ⊢
        simp only [List.length_append, List.length_singleton] at hfuel
        have hmore := @ih (List.cons_ne_nil _ _) fuel (by omega)
        rw [List.append_assoc, List.append_assoc, List.singleton_append]
        refine (hmember.readMembers (by omega) _ (follows_cons (.inl rfl) _)).trans ?_
        rw [readMembersAfter, hmore]
        rfl

theorem head_intercalate_members (h : List.Forall₂ SpellsMember members texts)
    (hne : members ≠ []) : ∃ ds, [','].intercalate texts = '"' :: ds := by
  cases h with
  | nil => exact absurd rfl hne
  | cons hmember hmembers =>
    obtain ⟨name, _⟩ := hmember
    rw [toList_quoted]
    cases hmembers with
    | nil => exact ⟨_, List.intercalate_singleton⟩
    | cons _ _ => exact ⟨_, List.intercalate_cons_cons⟩

theorem spells_object (h : List.Forall₂ SpellsMember members texts) :
    Spells (.object members) ('\x7b' :: ([','].intercalate texts ++ ['\x7d'])) := by
  refine ⟨fun fuel rest hfuel _ => ?_, _, _, rfl, rfl, by decide⟩
  cases fuel with
  | zero => exact absurd hfuel (Nat.not_lt_zero _)
  | succ fuel =>
    rw [List.cons_append, List.append_assoc, List.singleton_append, readValue, skipSpace_cons rfl]
    simp only [List.length_cons, List.length_append, List.length_nil] at hfuel
    by_cases hempty : members = []
    · subst hempty
      cases h
      simp only [List.intercalate_nil, List.nil_append, skipSpace_cons (c := '\x7d') rfl]
    · have hread := @readMembers_intercalate _ _ h hempty fuel (by omega) rest
      obtain ⟨ds, hhead⟩ := head_intercalate_members h hempty
      rw [hhead, List.cons_append] at hread ⊢
      simp only [skipSpace_cons (c := '"') rfl, hread]
      rfl

end

/-! ## Whole texts -/

theorem read?_of_spells {text : String} (h : Spells written text.toList) :
    Written.read? text = some written := by
  have hread := h.read (2 * text.toList.length + 2) [] (by omega) (fun c hc => by cases hc)
  rw [List.append_nil] at hread
  simp only [Written.read?, hread, Option.bind_eq_bind, Option.bind_some]
  rfl

end DocumentQuery.Json
