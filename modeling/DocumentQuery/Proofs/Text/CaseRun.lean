import DocumentQuery.Text.Case

/-!
# Tables of a case mapping

The code points of a run are the set bits of a number, and those of a table the
set bits of the union of its runs. So whether two tables have a code point in
common is one intersection, which is quick to compute for whole tables.

* `CaseRun.codes`, `tableCodes`: the code points of a run and of a table;
* `CaseRun.move`, `CaseRun.image`: where a run moves its code points;
* `mapCase?_eq_some`, `mapCase?_eq_none`, `mapCase?_of_within`: what a table does
  to a character.
-/

namespace DocumentQuery.Text

/-- The number with `count` set bits, from the lowest one on and each `step` above the other. -/
def everyBit (step : Nat) : Nat → Nat
  | 0 => 0
  | count + 1 => 1 ||| everyBit step count <<< step

theorem testBit_everyBit {step count i : Nat} (h : i < count) :
    (everyBit step count).testBit (step * i) = true := by
  induction count generalizing i with
  | zero => omega
  | succ count ih =>
    rw [everyBit, Nat.testBit_or, Nat.testBit_shiftLeft]
    cases i with
    | zero => simp
    | succ i =>
      have hlower : step * (i + 1) - step = step * i := by
        rw [Nat.mul_succ, Nat.add_sub_cancel]
      have hle : step ≤ step * (i + 1) := Nat.le_mul_of_pos_right step (Nat.succ_pos i)
      simp [hlower, hle, ih (Nat.lt_of_succ_lt_succ h)]

/-- Numbers without a common set bit. -/
theorem testBit_eq_false {a b n : Nat} (h : a &&& b = 0) (ha : a.testBit n = true) :
    b.testBit n = false := by
  have hn : (a &&& b).testBit n = false := by rw [h, Nat.zero_testBit]
  rwa [Nat.testBit_and, ha, Bool.true_and] at hn

/-! ## Runs -/

namespace CaseRun

variable {run other : CaseRun} {n : Nat}

/-- The code points of a run, as the set bits of a number. -/
def codes (run : CaseRun) : Nat :=
  everyBit run.step ((run.last - run.first) / run.step + 1) <<< run.first

/-- Where a run moves a code point. -/
def move (run : CaseRun) (n : Nat) : Nat := ((n : Int) + run.shift).toNat

/-- The code points that a run moves to. -/
def image (run : CaseRun) : CaseRun := ⟨run.move run.first, run.move run.last, run.step, 0⟩

/-- Whether a run has only code points of another one, which has all between its ends. -/
def within (run other : CaseRun) : Bool :=
  decide (other.first ≤ run.first ∧ run.last ≤ other.last ∧ other.step = 1)

/-- Whether a run moves code points to characters. -/
def isSound (run : CaseRun) : Bool :=
  decide (0 ≤ (run.first : Int) + run.shift) &&
    (decide (run.image.last < 0xD800) ||
      decide (0xDFFF < run.image.first ∧ run.image.last < 0x110000))

theorem covers_eq_true :
    run.covers n = true ↔ run.first ≤ n ∧ n ≤ run.last ∧ (n - run.first) % run.step = 0 :=
  decide_eq_true_iff

theorem testBit_codes (h : run.covers n = true) : run.codes.testBit n = true := by
  obtain ⟨hfirst, hlast, hstep⟩ := covers_eq_true.mp h
  have hindex : run.step * ((n - run.first) / run.step) = n - run.first :=
    Nat.mul_div_cancel' (Nat.dvd_of_mod_eq_zero hstep)
  have hcount : (n - run.first) / run.step < (run.last - run.first) / run.step + 1 :=
    Nat.lt_succ_of_le (Nat.div_le_div_right (by omega))
  have hbit := @testBit_everyBit run.step _ _ hcount
  rw [hindex] at hbit
  rw [codes, Nat.testBit_shiftLeft, hbit]
  simpa using hfirst

theorem covers_of_within (h : run.within other = true) (hn : run.covers n = true) :
    other.covers n = true := by
  rw [covers_eq_true] at hn ⊢
  obtain ⟨hfirst, hlast, hstep⟩ := of_decide_eq_true h
  rw [hstep, Nat.mod_one]
  omega

theorem covers_move (h : run.isSound = true) (hn : run.covers n = true) :
    run.image.covers (run.move n) = true := by
  rw [covers_eq_true] at hn ⊢
  obtain ⟨hfirst, hlast, hstep⟩ := hn
  have hsound := of_decide_eq_true (Bool.and_eq_true_iff.mp h).1
  have hdistance : run.move n - run.move run.first = n - run.first := by
    simp only [move]
    omega
  simp only [image]
  rw [hdistance]
  refine ⟨?_, ?_, hstep⟩ <;> simp only [move] <;> omega

theorem toNat_move (h : run.isSound = true) (hn : run.covers n = true) :
    (Char.ofNat (run.move n)).toNat = run.move n := by
  have hcovers := covers_eq_true.mp (covers_move h hn)
  have hsound := (Bool.and_eq_true_iff.mp h).2
  simp only [Bool.or_eq_true, decide_eq_true_eq] at hsound
  have hvalid : (run.move n).isValidChar := by
    rcases hsound with hlast | ⟨hfirst, hlast⟩
    · exact .inl (by omega)
    · exact .inr ⟨by omega, by omega⟩
  rw [Char.ofNat, dif_pos hvalid]
  rfl

end CaseRun

/-! ## Tables -/

/-- The code points of a table, as the set bits of a number. -/
def tableCodes (runs : List CaseRun) : Nat := runs.foldr (·.codes ||| ·) 0

variable {runs : List CaseRun} {run other : CaseRun} {c d : Char} {n : Nat}

theorem testBit_tableCodes (hrun : run ∈ runs) (h : run.covers n = true) :
    (tableCodes runs).testBit n = true := by
  induction runs with
  | nil => cases hrun
  | cons first runs ih =>
    rw [tableCodes, List.foldr_cons, Nat.testBit_or, Bool.or_eq_true]
    rcases List.mem_cons.mp hrun with rfl | hrun
    · exact .inl (CaseRun.testBit_codes h)
    · exact .inr (ih hrun)

theorem mapCase?_eq_some (h : mapCase? runs c = some d) :
    ∃ run ∈ runs, run.covers c.toNat = true ∧ d = Char.ofNat (run.move c.toNat) := by
  obtain ⟨run, hfind, hd⟩ := Option.map_eq_some_iff.mp h
  have hcovers : run.covers c.toNat = true := by simpa using List.find?_some hfind
  exact ⟨run, List.mem_of_find?_eq_some hfind, hcovers, hd.symm⟩

theorem mapCase?_eq_none (h : (tableCodes runs).testBit c.toNat = false) :
    mapCase? runs c = none := by
  rw [mapCase?, Option.map_eq_none_iff, List.find?_eq_none]
  intro run hrun hcovers
  exact Bool.false_ne_true (h.symm.trans (testBit_tableCodes hrun hcovers))

/-- The first run of a table that has a code point in common with a run moves all of that run
if it has all of it. -/
theorem mapCase?_of_within (h : runs.find? (run.codes &&& ·.codes != 0) = some other)
    (hwithin : run.within other = true) (hc : run.covers c.toNat = true) :
    mapCase? runs c = some (Char.ofNat (other.move c.toNat)) := by
  obtain ⟨_, before, after, rfl, hbefore⟩ := List.find?_eq_some_iff_append.mp h
  have hfind : (before ++ other :: after).find? (·.covers c.toNat) = some other := by
    refine List.find?_eq_some_iff_append.mpr
      ⟨CaseRun.covers_of_within hwithin hc, before, after, rfl, fun earlier hearlier => ?_⟩
    have hnone : run.codes &&& earlier.codes = 0 := by simpa using hbefore earlier hearlier
    have hbit := testBit_eq_false hnone (CaseRun.testBit_codes hc)
    rw [Bool.not_eq_true', Bool.eq_false_iff]
    intro hcovers
    exact Bool.false_ne_true (hbit.symm.trans (CaseRun.testBit_codes hcovers))
  rw [mapCase?, hfind]
  rfl

end DocumentQuery.Text
