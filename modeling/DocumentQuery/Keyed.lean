/-!
# Values by name

Lists of named values in ascending order of the names, each name once.

* `Keyed.insert`, `Keyed.erase`: a value put in its place, and taken out;
* `Keyed.lookup_insert`, `Keyed.lookup_erase`: what is found afterwards;
* `Keyed.names`: the names in order;
* `Keyed.pairwise_names_insert`, `Keyed.pairwise_names_erase`: they stay in order.
-/

namespace DocumentQuery.Keyed

variable {α : Type}

/-- Adds a value in its place; it replaces the value of the same name. -/
def insert (name : String) (value : α) : List (String × α) → List (String × α)
  | [] => [(name, value)]
  | (n, v) :: rest =>
    if name = n then (name, value) :: rest
    else if name < n then (name, value) :: (n, v) :: rest
    else (n, v) :: insert name value rest

/-- Takes out the value of a name. -/
def erase (name : String) (entries : List (String × α)) : List (String × α) :=
  entries.filter (·.1 != name)

/-- The names in order. -/
def names (entries : List (String × α)) : List String := entries.map (·.1)

theorem lookup_insert (name key : String) (value : α) (entries : List (String × α)) :
    (insert name value entries).lookup key =
      if key = name then some value else entries.lookup key := by
  induction entries with
  | nil =>
    by_cases h : key = name
    · simp [insert, h]
    · simp [insert, List.lookup_cons, h, beq_eq_false_iff_ne.2 h]
  | cons entry rest ih =>
    obtain ⟨n, v⟩ := entry
    simp only [insert]
    split
    · rename_i hn
      subst hn
      by_cases h : key = name
      · simp [h]
      · simp [List.lookup_cons, h, beq_eq_false_iff_ne.2 h]
    · rename_i hn
      split
      · by_cases h : key = name
        · simp [h]
        · simp [List.lookup_cons, h, beq_eq_false_iff_ne.2 h]
      · by_cases h : key = n
        · subst h
          simp [Ne.symm hn]
        · simp [List.lookup_cons, beq_eq_false_iff_ne.2 h, ih]

theorem lookup_erase (name key : String) (entries : List (String × α)) :
    (erase name entries).lookup key = if key = name then none else entries.lookup key := by
  induction entries with
  | nil => simp [erase]
  | cons entry rest ih =>
    obtain ⟨n, v⟩ := entry
    simp only [erase] at ih
    by_cases hn : n = name
    · subst hn
      rw [erase, List.filter_cons_of_neg (by simp), ih]
      by_cases h : key = n
      · simp [h]
      · simp [h, List.lookup_cons, beq_eq_false_iff_ne.2 h]
    · rw [erase, List.filter_cons_of_pos (by simpa using hn)]
      by_cases h : key = n
      · subst h
        simp [hn]
      · simp [List.lookup_cons, beq_eq_false_iff_ne.2 h, ih]

/-! ## The order of the names -/

theorem mem_names {key : String} {entries : List (String × α)} :
    key ∈ names entries ↔ (entries.lookup key).isSome = true := by
  induction entries with
  | nil => exact ⟨nofun, nofun⟩
  | cons entry rest ih =>
    obtain ⟨n, v⟩ := entry
    rw [names] at ih ⊢
    rw [List.map_cons, List.mem_cons, List.lookup_cons, ih]
    by_cases h : key = n
    · simp [h]
    · simp [h, beq_eq_false_iff_ne.2 h]

theorem pairwise_names_insert {entries : List (String × α)} (h : (names entries).Pairwise (· < ·))
    (name : String) (value : α) : (names (insert name value entries)).Pairwise (· < ·) := by
  induction entries with
  | nil => exact List.pairwise_singleton _ _
  | cons entry rest ih =>
    obtain ⟨n, v⟩ := entry
    obtain ⟨hfirst, hrest⟩ := List.pairwise_cons.1 h
    rw [insert]
    split
    · rename_i hn
      exact List.pairwise_cons.2 ⟨hn ▸ hfirst, hrest⟩
    · rename_i hn
      split
      · rename_i hlt
        refine List.pairwise_cons.2 ⟨List.forall_mem_cons.2 ⟨hlt, fun m hm => ?_⟩, h⟩
        exact String.lt_trans hlt (hfirst m hm)
      · rename_i hlt
        have hafter : n < name :=
          String.not_le.1 fun hle => hn (String.le_antisymm hle (String.not_lt.1 hlt))
        refine List.pairwise_cons.2 ⟨fun m hm => ?_, ih hrest⟩
        have hm : m ∈ names (insert name value rest) := hm
        rw [mem_names, lookup_insert] at hm
        split at hm
        · rename_i heq
          exact heq ▸ hafter
        · exact hfirst m (mem_names.2 hm)

theorem pairwise_names_erase {entries : List (String × α)} (h : (names entries).Pairwise (· < ·))
    (name : String) : (names (erase name entries)).Pairwise (· < ·) :=
  h.sublist (List.filter_sublist.map Prod.fst)

end DocumentQuery.Keyed
