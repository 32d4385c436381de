import DocumentQuery.Proofs.Cache.Run
import DocumentQuery.Proofs.Provision.Keeps

/-!
# Provisionings made twice

A store that nobody else changes and that replies in time is provisioned twice
with the same specification. Nothing is added the second time. It comes to the
same column if this column is still known, or if the next load of the table
picks it: of the columns that read a path a load picks the first, which can be
one of another name that was there before.

* `Schemas.Declares`: a virtual column is what a load makes of a column;
* `Engine.run_inquire`, `Engine.run_carryOut`: what the parts of a provisioning
  come to with nothing else going on;
* `Provisioned`: what has been provisioned (`provisioned_of_run`);
* `Drop`: what a caller can do to the cache in between;
* `Engine.ensureColumn_again`: what the second time comes to.
-/

namespace DocumentQuery

variable {e : Engine} {s s₁ s₂ : Schemas} {t name : String} {cache now : Cache}
  {c d : VirtualColumn} {spec : ColumnSpec} {elapsed : Nat}

/-! ## Declared columns -/

/-- A virtual column is what a load makes of a column of a table. -/
def Schemas.Declares (s : Schemas) (e : Engine) (t : String) (c : VirtualColumn) : Prop :=
  ∃ column ∈ (s t).columns, ColumnMap.virtual? e.sourcePath? column = some c

namespace Schemas

theorem Declares.mono (h : s.Declares e t c) (hle : s.Within s₁) : s₁.Declares e t c := by
  obtain ⟨column, hmem, hvirtual⟩ := h
  exact ⟨column, hle t column hmem, hvirtual⟩

theorem Declares.hasColumn (h : s.Declares e t c) : (s t).hasColumn c.name = true := by
  obtain ⟨column, hmem, hvirtual⟩ := h
  obtain ⟨_, _, _, _, hname, _⟩ := ColumnMap.virtual?_eq_some.mp hvirtual
  exact Schema.hasColumn_iff.mpr ⟨column, hmem, hname⟩

/-- There is one column of a name. -/
theorem Declares.eq_of_name (hc : s.Declares e t c) (hd : s.Declares e t d)
    (h : c.name = d.name) : c = d := by
  obtain ⟨column, hmem, hvirtual⟩ := hc
  obtain ⟨other, hother, hvirtual'⟩ := hd
  obtain ⟨_, _, _, _, hname, _⟩ := ColumnMap.virtual?_eq_some.mp hvirtual
  obtain ⟨_, _, _, _, hname', _⟩ := ColumnMap.virtual?_eq_some.mp hvirtual'
  obtain rfl := Schema.eq_of_name hmem hother (by rw [hname, hname', h])
  exact Option.some.inj (hvirtual.symm.trans hvirtual')

/-- What a load finds. -/
def loaded (s : Schemas) (e : Engine) (t : String) : ColumnMap :=
  .ofReported e.sourcePath? (s t).columns

theorem all_loaded (s : Schemas) (e : Engine) (t : String) :
    (s.loaded e t).All (s.Declares e t) := by
  intro p c hc
  rw [loaded, ColumnMap.get?_ofReported] at hc
  exact List.mem_filterMap.mp (List.mem_of_find?_eq_some hc)

end Schemas

/-- A map of declared columns gives a column for its name if it does for its path. -/
theorem ColumnMap.path_named? {m : ColumnMap} (hm : m.All (s.Declares e t))
    (hc : s.Declares e t c) :
    (m.named? c.name).map (·.path) = if m.get? c.path = some c then some c.path else none := by
  cases hnamed : m.named? c.name with
  | none =>
    rw [if_neg fun hget => ?_, Option.map_none]
    exact absurd (List.find?_eq_none.mp hnamed c (mem_of_get? hget)) (by simp)
  | some d =>
    obtain ⟨hname, hget⟩ := of_named? hnamed
    obtain rfl := (hm d.path d hget).eq_of_name hc hname
    rw [if_pos hget, Option.map_some]

theorem Affinity.ofDeclared_name (a : Affinity) : Affinity.ofDeclared a.name = a := by
  cases a <;> decide +kernel

/-! ## The parts with nothing else going on -/

/-- What is known of a table, or else what a load finds. -/
def Schemas.known (s : Schemas) (e : Engine) (t : String) (cache : Cache) : ColumnMap :=
  (cache.get? t).getD (s.loaded e t)

/-- What a provisioning decides on: what is known, unless a column of this name is present
that is not known. -/
def Schemas.consulted (s : Schemas) (e : Engine) (t name : String) (cache : Cache) : ColumnMap :=
  if (s t).hasColumn name = true ∧ (s.known e t cache).named? name = none then s.loaded e t
  else s.known e t cache

namespace Engine

theorem run_columns (hintime : e.settings.loadTimeout.filter (· < elapsed) = none)
    (h : cache.All (s.Declares e)) (t : String) :
    ∃ now : Cache, now.get? t = some (s.known e t cache) ∧ now.All (s.Declares e) ∧
      (e.columns t cache).run (Schemas.answer none elapsed) s =
        (.ok (s.known e t cache), now, s) := by
  rw [Schemas.known]
  cases hget : cache.get? t with
  | some m =>
    refine ⟨cache, hget, h, ?_⟩
    rw [columns, hget]
    rfl
  | none =>
    have hread : (Reading.mk elapsed (.ok (s t).columns)).columns? t e.settings.loadTimeout =
        .ok (s t).columns := Reading.columns?_eq_ok.mpr ⟨hintime, rfl⟩
    have hinstall := h.install (cache.load t) (s.all_loaded e t)
    have hput := Cache.install_load hget (s.loaded e t)
    rw [hput] at hinstall
    refine ⟨cache.put t (s.loaded e t), (Cache.get?_put ..).trans (if_pos rfl), hinstall.2, ?_⟩
    rw [columns, hget]
    dsimp only [Call.run, Schemas.answer, Option.elim]
    rw [hread]
    dsimp only
    rw [← Schemas.loaded, hput]
    rfl

theorem run_servedPath (hintime : e.settings.loadTimeout.filter (· < elapsed) = none)
    (h : cache.All (s.Declares e)) (t name : String) :
    ∃ now : Cache, now.get? t = some (s.known e t cache) ∧ now.All (s.Declares e) ∧
      (e.servedPath t name cache).run (Schemas.answer none elapsed) s =
        (.ok (((s.known e t cache).named? name).map (·.path)), now, s) := by
  obtain ⟨now, hget, hall, hrun⟩ := run_columns hintime h t
  exact ⟨now, hget, hall, Call.run_bind_ok hrun⟩

/-- The path that is decided on. -/
theorem run_inquire (hintime : e.settings.loadTimeout.filter (· < elapsed) = none)
    (h : cache.All (s.Declares e)) (htable : Sql.checkName t = .ok ())
    (hname : spec.path.columnName e.settings = .ok name) :
    ∃ now : Cache, now.get? t = some (s.consulted e t name cache) ∧ now.All (s.Declares e) ∧
      (e.inquire t spec cache).run (Schemas.answer none elapsed) s =
        ((spec.checkFree t name (((s.consulted e t name cache).named? name).map (·.path))
            ((s t).hasColumn name)).map fun _ => (name, (s t).hasColumn name), now, s) := by
  have hhas (now : Cache) : (Task.hasColumn t name now).run (Schemas.answer none elapsed) s =
      (.ok ((s t).hasColumn name), now, s) := rfl
  obtain ⟨first, hfirst, hallfirst, hserved⟩ := run_servedPath hintime h t name
  have hfresh : ∃ now : Cache, now.get? t = some (s.consulted e t name cache) ∧
      now.All (s.Declares e) ∧
      (e.freshPath t name (((s.known e t cache).named? name).map (·.path)) ((s t).hasColumn name)
        first).run (Schemas.answer none elapsed) s =
        (.ok (((s.consulted e t name cache).named? name).map (·.path)), now, s) := by
    rw [freshPath, Schemas.consulted]
    by_cases hpresent : (s t).hasColumn name = true ∧ (s.known e t cache).named? name = none
    · have hget : (first.invalidate t).get? t = none :=
        (Cache.get?_invalidate ..).trans (if_pos rfl)
      obtain ⟨now, hnow, hall, hrun⟩ := run_servedPath hintime (hallfirst.invalidate t) t name
      rw [Schemas.known, hget, Option.getD_none] at hnow hrun
      rw [if_pos hpresent, if_pos (by simp [hpresent])]
      exact ⟨now, hnow, hall, hrun⟩
    · rw [if_neg hpresent, if_neg (by simpa using hpresent)]
      exact ⟨first, hfirst, hallfirst, rfl⟩
  obtain ⟨now, hget, hall, hfresh⟩ := hfresh
  refine ⟨now, hget, hall, ?_⟩
  rw [inquire, htable, hname]
  refine (Task.run_bind_ok (Task.run_lift _)).trans ?_
  refine (Task.run_bind_ok (Task.run_lift _)).trans ?_
  refine (Task.run_bind_ok hserved).trans ((Task.run_bind_ok (hhas first)).trans ?_)
  refine (Task.run_bind_ok hfresh).trans ?_
  cases spec.checkFree t name (((s.consulted e t name cache).named? name).map (·.path))
      ((s t).hasColumn name) <;> rfl

theorem run_addColumn {present : Bool} {u : Unit} (htable : Sql.checkName t = .ok ())
    (hname : Sql.checkName name = .ok ()) :
    (e.addColumn t name spec present cache).run (Schemas.answer none elapsed) s =
        (.ok u, now, s₁) ↔
      cache = now ∧ if present then s = s₁
        else s.execute (.addColumn t name spec.affinity (e.settings.extraction.text spec.path)) =
          (.ok (), s₁) := by
  have hstatement :=
    Ddl.virtualColumn_of_checkName e.settings spec.path spec.affinity htable hname
  cases present with
  | true => simp [addColumn, Task.run_pure]
  | false =>
    rw [addColumn, if_neg (by decide), hstatement]
    rw [Task.run_bind_ok (Task.run_lift _), Task.run_execute, Schemas.answer_execute]
    cases s.execute (.addColumn t name spec.affinity (e.settings.extraction.text spec.path)) with
    | mk result s' =>
      constructor
      · rintro ⟨⟩
        exact ⟨rfl, rfl⟩
      · rintro ⟨rfl, ⟨⟩⟩
        rfl

/-- An index is always executed. -/
theorem execute_index {statement : Ddl} (h : Ddl.index t [name] none false = .ok statement) :
    s.execute statement = (.ok (), s) := by
  obtain ⟨_, _, h⟩ := bind_eq_ok.mp h
  obtain ⟨_, _, h⟩ := bind_eq_ok.mp h
  obtain ⟨_, _, h⟩ := bind_eq_ok.mp h
  cases h
  rfl

theorem run_addIndex {u : Unit} :
    (addIndex t name spec cache).run (Schemas.answer none elapsed) s = (.ok u, now, s₁) ↔
      cache = now ∧ s = s₁ ∧
        (spec.indexed = true → ∃ statement, Ddl.index t [name] none false = .ok statement) := by
  rw [addIndex]
  by_cases hindexed : spec.indexed = true
  · rw [if_pos hindexed]
    cases hstatement : Ddl.index t [name] none false with
    | error fault =>
      simp only [Task.run_bind_eq_ok, Task.run_lift]
      simp [hindexed]
    | ok statement =>
      have hexecute : (Task.execute statement cache).run (Schemas.answer none elapsed) s =
          (.ok (), cache, s) := by
        rw [Task.run_execute, Schemas.answer_execute, execute_index hstatement]
        rfl
      rw [Task.run_bind_ok (Task.run_lift _), hexecute]
      simp
  · rw [if_neg hindexed, Task.run_pure]
    simp [hindexed]

/-- What has been done if nothing failed. -/
theorem run_carryOut {present : Bool} {last : Cache} (htable : Sql.checkName t = .ok ())
    (hname : Sql.checkName name = .ok ()) :
    (e.carryOut t spec (name, present) cache).run (Schemas.answer none elapsed) s =
        (.ok c, last, s₁) ↔
      spec.column name = c ∧ cache.register t c = .ok last ∧
        (spec.indexed = true → ∃ statement, Ddl.index t [name] none false = .ok statement) ∧
        if present then s = s₁
        else s.execute (.addColumn t name spec.affinity (e.settings.extraction.text spec.path)) =
          (.ok (), s₁) := by
  rw [carryOut, create_eq]
  simp only [Task.run_bind_eq_ok, run_addColumn htable hname, run_addIndex,
    Task.run_tryModify_eq_ok, Task.run_pure, Prod.mk.injEq, Except.ok.injEq]
  constructor
  · rintro ⟨_, _, _, ⟨_, _, _, ⟨rfl, hadd⟩, rfl, rfl, hindex⟩, _, _, _, ⟨hregister, rfl⟩,
      rfl, rfl, rfl⟩
    exact ⟨rfl, hregister, hindex, hadd⟩
  · rintro ⟨rfl, hregister, hindex, hadd⟩
    exact ⟨(), cache, s₁, ⟨(), cache, s₁, ⟨rfl, hadd⟩, rfl, rfl, hindex⟩, (), last, s₁,
      ⟨hregister, rfl⟩, rfl, rfl, rfl⟩

end Engine

/-! ## What has been provisioned -/

/-- A specification has been provisioned with a column. -/
structure Provisioned (e : Engine) (t : String) (spec : ColumnSpec) (c : VirtualColumn)
    (s : Schemas) : Prop where
  table : Sql.checkName t = .ok ()
  name : spec.path.columnName e.settings = .ok c.name
  column : spec.column c.name = c
  index : spec.indexed = true → ∃ statement, Ddl.index t [c.name] none false = .ok statement
  declared : s.Declares e t c

namespace Engine

/-- The column of a name that is known for the path of a specification is the one that is
requested, if it can be registered. -/
theorem declares_of_served {m : ColumnMap} (hall : cache.All (s.Declares e))
    (hm : cache.get? t = some m) (hserved : (m.named? name).map (·.path) = some spec.path)
    (hregister : cache.register t (spec.column name) = .ok now) :
    s.Declares e t (spec.column name) := by
  obtain ⟨d, hd, hpath⟩ := Option.map_eq_some_iff.mp hserved
  obtain ⟨hname, hget⟩ := ColumnMap.of_named? hd
  rw [hpath] at hget
  have hknown : cache.column? t spec.path = some d := by
    rw [Cache.column?, hm]
    exact hget
  have haffinity := (Cache.register_eq_ok.mp hregister).1 d hknown
  obtain rfl : d = spec.column name := by
    cases d
    cases hname
    cases hpath
    cases haffinity
    rfl
  exact hall t spec.path _ hknown

/-- A load makes of a column that is added what was requested. -/
theorem columns_of_added {text : String} (hsource : e.sourcePath? text = some spec.path)
    (h : s.execute (.addColumn t name spec.affinity text) = (.ok (), s₁)) :
    ∃ column, ColumnMap.virtual? e.sourcePath? column = some (spec.column name) ∧
      (s₁ t).columns = (s t).columns ++ [column] := by
  have haffinity := Affinity.ofDeclared_name spec.affinity
  have hvirtual : ColumnMap.virtual? e.sourcePath? ⟨name, spec.affinity.name, true, some text⟩ =
      some (spec.column name) :=
    ColumnMap.virtual?_eq_some.mpr ⟨rfl, text, rfl, hsource, rfl, haffinity⟩
  exact ⟨_, hvirtual, Schemas.columns_of_execute h⟩

/-- A provisioning that succeeds. Its column was there before, or it is a new one at the end
of the table. -/
theorem provisioned_of_run (hread : e.ReadsOwn)
    (hintime : e.settings.loadTimeout.filter (· < elapsed) = none)
    (h : cache.All (s.Declares e)) (hspec : spec.path.IsWritable)
    (hrun : (e.ensureColumn t spec cache).run (Schemas.answer none elapsed) s =
      (.ok c, now, s₁)) :
    Provisioned e t spec c s₁ ∧ now.All (s₁.Declares e) ∧ now.column? t spec.path = some c ∧
      (s = s₁ ∨ ∃ column, ColumnMap.virtual? e.sourcePath? column = some c ∧
        (s₁ t).columns = (s t).columns ++ [column]) := by
  rw [ensureColumn_eq, Task.run_bind_eq_ok] at hrun
  obtain ⟨⟨name, present⟩, mid, s', hinquire, hdo⟩ := hrun
  have hends := Call.ends_run (Schemas.answer none elapsed) (e.inquire t spec cache) s
  rw [hinquire] at hends
  obtain ⟨htable, hname, _⟩ := inquire_ends_ok hends
  obtain ⟨mid', hmid, hall, hinquire'⟩ := run_inquire hintime h htable hname
  rw [hinquire, Prod.mk.injEq, Prod.mk.injEq] at hinquire'
  obtain ⟨hfound, rfl, rfl⟩ := hinquire'
  obtain ⟨_, hfree, hpair⟩ := map_eq_ok.mp hfound.symm
  obtain ⟨-, hpresent⟩ := Prod.mk.inj hpair
  rw [hpresent] at hfree
  have hchecked := (Path.columnName_eq_ok.mp hname).2
  obtain ⟨rfl, hregister, hindex, hadded⟩ := (run_carryOut htable hchecked).mp hdo
  have hcolumn : s'.Within s₁ ∧ s₁.Declares e t (spec.column name) ∧ (s' = s₁ ∨ ∃ column,
      ColumnMap.virtual? e.sourcePath? column = some (spec.column name) ∧
        (s₁ t).columns = (s' t).columns ++ [column]) := by
    cases present with
    | true =>
      rw [if_pos rfl] at hadded
      subst hadded
      have hserved := (served_of_checkFree hfree).resolve_right nofun
      exact ⟨.refl _, declares_of_served hall hmid hserved hregister, .inl rfl⟩
    | false =>
      rw [if_neg nofun] at hadded
      obtain ⟨column, hvirtual, hcolumns⟩ := columns_of_added (hread _ hspec) hadded
      have hwithin := s'.within_execute
        (.addColumn t name spec.affinity (e.settings.extraction.text spec.path))
      rw [hadded] at hwithin
      refine ⟨hwithin, ⟨column, ?_, hvirtual⟩, .inr ⟨column, hvirtual, hcolumns⟩⟩
      rw [hcolumns]
      exact List.mem_append_right _ (List.mem_singleton_self column)
  obtain ⟨hwithin, hdeclared, hcolumns⟩ := hcolumn
  have hallnow : mid.All (s₁.Declares e) := hall.imp fun _ _ hd => hd.mono hwithin
  refine ⟨⟨htable, hname, rfl, hindex, hdeclared⟩, hallnow.register hregister hdeclared, ?_,
    hcolumns⟩
  rw [Cache.column?_register hregister, if_pos ⟨rfl, rfl⟩]

end Engine

/-! ## The second time -/

namespace Schemas

theorem all_known (h : cache.All (s.Declares e)) (t : String) :
    (s.known e t cache).All (s.Declares e t) := by
  rw [known]
  cases hget : cache.get? t with
  | none => exact s.all_loaded e t
  | some m => exact h.get? hget

theorem all_consulted (h : cache.All (s.Declares e)) (t name : String) :
    (s.consulted e t name cache).All (s.Declares e t) := by
  rw [consulted]
  split
  · exact s.all_loaded e t
  · exact all_known h t

/-- A declared column is decided on if it is known, or if a load picks it. -/
theorem get?_consulted (h : cache.All (s.Declares e)) (hc : s.Declares e t c) :
    (s.consulted e t c.name cache).get? c.path = some c ↔
      cache.column? t c.path = some c ∨ (s.loaded e t).get? c.path = some c := by
  have hnamed := ColumnMap.path_named? (all_known h t) hc
  have hknown : (s.known e t cache).get? c.path = some c ↔ cache.column? t c.path = some c ∨
      cache.get? t = none ∧ (s.loaded e t).get? c.path = some c := by
    rw [known, Cache.column?]
    cases cache.get? t <;> simp
  rw [consulted]
  by_cases hget : (s.known e t cache).get? c.path = some c
  · rw [if_pos hget] at hnamed
    have hsome : (s.known e t cache).named? c.name ≠ none := fun hnone => by
      rw [hnone] at hnamed
      cases hnamed
    rw [if_neg fun hboth => hsome hboth.2]
    exact iff_of_true hget ((hknown.mp hget).imp_right And.right)
  · rw [if_neg hget, Option.map_eq_none_iff] at hnamed
    rw [if_pos ⟨hc.hasColumn, hnamed⟩]
    exact ⟨.inr, fun hor => hor.resolve_left fun hcolumn => hget (hknown.mpr (.inl hcolumn))⟩

/-- Some column that reads the path of a declared one is picked by a load. -/
theorem loaded_isSome (hc : s.Declares e t c) : ((s.loaded e t).get? c.path).isSome = true := by
  rw [loaded, ColumnMap.get?_ofReported, List.find?_isSome]
  exact ⟨c, List.mem_filterMap.mpr hc, beq_self_eq_true _⟩

/-- A load picks a declared column, which was there before or was added at the end, unless it
picked one of another name before. -/
theorem get?_loaded (hc : s₁.Declares e t c)
    (hcolumns : s = s₁ ∨ ∃ column, ColumnMap.virtual? e.sourcePath? column = some c ∧
      (s₁ t).columns = (s t).columns ++ [column]) :
    (s₁.loaded e t).get? c.path = some c ↔
      ∀ d, (s.loaded e t).get? c.path = some d → d.name = c.name := by
  rcases hcolumns with rfl | ⟨column, hvirtual, hcolumns⟩
  · obtain ⟨d, hd⟩ := Option.isSome_iff_exists.mp (loaded_isSome hc)
    have hdeclared := s.all_loaded e t c.path d hd
    rw [hd]
    constructor
    · rintro ⟨⟩ _ ⟨⟩
      rfl
    · exact fun h => congrArg some (hdeclared.eq_of_name hc (h d rfl))
  · have happend : (s₁.loaded e t).get? c.path = ((s.loaded e t).get? c.path).or (some c) := by
      simp [loaded, ColumnMap.get?_ofReported, hcolumns, List.filterMap_append, hvirtual]
    rw [happend]
    cases hget : (s.loaded e t).get? c.path with
    | none => exact iff_of_true rfl nofun
    | some d =>
      obtain ⟨other, hother, hvirtual'⟩ := s.all_loaded e t c.path d hget
      have hdeclared : s₁.Declares e t d :=
        ⟨other, hcolumns ▸ List.mem_append_left _ hother, hvirtual'⟩
      constructor
      · rintro ⟨⟩ _ ⟨⟩
        rfl
      · exact fun h => congrArg some (hdeclared.eq_of_name hc (h d rfl))

end Schemas

/-- Whether a request is to add a column. -/
def Request.addsColumn : Request → Bool
  | .execute (.addColumn ..) => true
  | _ => false

namespace Engine

theorem addIndex_avoids (t name : String) (spec : ColumnSpec) (cache : Cache) :
    (addIndex t name spec cache).Avoids Request.addsColumn := by
  rw [addIndex]
  split
  · cases hstatement : Ddl.index t [name] none false with
    | error fault => trivial
    | ok statement =>
      obtain ⟨_, _, h⟩ := bind_eq_ok.mp hstatement
      obtain ⟨_, _, h⟩ := bind_eq_ok.mp h
      obtain ⟨_, _, h⟩ := bind_eq_ok.mp h
      cases h
      exact ⟨rfl, fun _ _ => trivial⟩
  · trivial

theorem carryOut_avoids (e : Engine) (t name : String) (spec : ColumnSpec) (cache : Cache) :
    (e.carryOut t spec (name, true) cache).Avoids Request.addsColumn := by
  have hcreate : (e.create t name spec true cache).Avoids Request.addsColumn := by
    rw [create_eq]
    exact addIndex_avoids t name spec cache
  refine hcreate.bind fun _ mid => Call.Avoids.bind ?_ fun _ _ => trivial
  rw [Task.tryModify]
  split <;> trivial

theorem not_addsColumn_of_not_executes (request : Request) (h : request.executes = false) :
    request.addsColumn = false := by
  cases request with
  | execute => cases h
  | readSchema | hasColumn => rfl

/-- A provisioning of what has been provisioned. -/
theorem ensureColumn_provisioned (hintime : e.settings.loadTimeout.filter (· < elapsed) = none)
    (hp : Provisioned e t spec c s) (h : cache.All (s.Declares e)) :
    (∀ x ∈ (e.ensureColumn t spec cache).exchanges (Schemas.answer none elapsed) s,
      x.request.addsColumn = false) ∧
    (((e.ensureColumn t spec cache).run (Schemas.answer none elapsed) s).1 = .ok c ↔
      cache.column? t spec.path = some c ∨ (s.loaded e t).get? spec.path = some c) := by
  have hpath : c.path = spec.path := by rw [← hp.column]; rfl
  have hfirst := ((inquire_avoids e t spec cache).imp not_addsColumn_of_not_executes).request
    (Call.ends_run (Schemas.answer none elapsed) _ s)
  obtain ⟨mid, hmid, hall, hinquire⟩ := run_inquire hintime h hp.table hp.name
  rw [hp.declared.hasColumn,
    ColumnMap.path_named? (Schemas.all_consulted h t c.name) hp.declared] at hinquire
  rw [← hpath, ← Schemas.get?_consulted h hp.declared, ensureColumn_eq]
  by_cases hget : (s.consulted e t c.name cache).get? c.path = some c
  · rw [if_pos hget, ColumnSpec.checkFree] at hinquire
    dsimp only at hinquire
    rw [if_pos hpath] at hinquire
    have hknown : mid.column? t c.path = some c := by
      rw [Cache.column?, hmid]
      exact hget
    have hregister := Cache.register_eq_ok.mpr
      ⟨fun d hd => congrArg _ (Option.some.inj (hd.symm.trans hknown)), rfl⟩
    have hdo : (e.carryOut t spec (c.name, true) mid).run (Schemas.answer none elapsed) s =
        (.ok c, _, s) :=
      (run_carryOut hp.table (Path.columnName_eq_ok.mp hp.name).2).mpr
        ⟨hp.column, hregister, hp.index, rfl⟩
    refine ⟨?_, iff_of_true (congrArg Prod.fst ((Task.run_bind_ok hinquire).trans hdo)) hget⟩
    rw [Task.exchanges_bind_ok hinquire]
    have hsecond := (carryOut_avoids e t c.name spec mid).request
      (Call.ends_run (Schemas.answer none elapsed) _ s)
    exact fun x hx => (List.mem_append.mp hx).elim (hfirst x) (hsecond x)
  · rw [if_neg hget, ColumnSpec.checkFree] at hinquire
    dsimp only at hinquire
    rw [if_pos rfl] at hinquire
    rw [Task.exchanges_bind_error hinquire, Task.run_bind_error hinquire]
    exact ⟨hfirst, iff_of_false (fun hok => by cases hok) hget⟩

end Engine

/-- What a caller can drop from a cache. -/
inductive Drop
  | invalidate (table : String)
  | clear
  deriving DecidableEq, Repr

namespace Drop

def apply (cache : Cache) : Drop → Cache
  | .invalidate table => cache.invalidate table
  | .clear => cache.clear

/-- Whether a table is dropped. -/
def affects (table : String) : Drop → Bool
  | .invalidate dropped => table == dropped
  | .clear => true

theorem all_foldl {P : String → VirtualColumn → Prop} (h : cache.All P) (drops : List Drop) :
    (drops.foldl apply cache).All P := by
  induction drops generalizing cache with
  | nil => exact h
  | cons drop drops ih =>
    cases drop with
    | invalidate table => exact ih (h.invalidate table)
    | clear => exact ih (.clear cache)

theorem column?_foldl (drops : List Drop) (cache : Cache) (t : String) (p : Path) :
    (drops.foldl apply cache).column? t p =
      if drops.any (affects t) then none else cache.column? t p := by
  induction drops generalizing cache with
  | nil => rfl
  | cons drop drops ih =>
    rw [List.foldl_cons, ih, List.any_cons]
    cases drop with
    | invalidate table =>
      rw [apply, Cache.column?_invalidate, affects]
      by_cases h : t = table
      · simp [h]
      · simp [h]
    | clear => simp [apply, affects, Cache.column?, Cache.clear, Cache.get?]

end Drop

namespace Engine

/-- What has been provisioned can be provisioned again, at once or after anything was dropped
from the cache: nothing is added, and it comes to the same column, unless the table was
dropped and a load picks a column of another name, which was there before, for the path. -/
theorem ensureColumn_again {settings : Settings} (hnew : Engine.new settings = .ok e)
    (hintime : settings.loadTimeout.filter (· < elapsed) = none)
    (h : cache.All (s.Declares e)) (hspec : spec.path.IsWritable)
    (hrun : (e.ensureColumn t spec cache).run (Schemas.answer none elapsed) s = (.ok c, now, s₁))
    (drops : List Drop) :
    (∀ x ∈ (e.ensureColumn t spec (drops.foldl Drop.apply now)).exchanges
        (Schemas.answer none elapsed) s₁, x.request.addsColumn = false) ∧
    (((e.ensureColumn t spec (drops.foldl Drop.apply now)).run
        (Schemas.answer none elapsed) s₁).1 = .ok c ↔
      (∀ drop ∈ drops, drop.affects t = false) ∨
        ∀ d, (s.loaded e t).get? spec.path = some d → d.name = c.name) := by
  have hread := Engine.readsOwn hnew
  obtain ⟨-, rfl⟩ := Engine.new_eq_ok.mp hnew
  obtain ⟨hp, hall, hknown, hcolumns⟩ := provisioned_of_run hread hintime h hspec hrun
  have hagain := ensureColumn_provisioned hintime hp (Drop.all_foldl hall drops)
  have hpath : c.path = spec.path := by rw [← hp.column]; rfl
  refine ⟨hagain.1, hagain.2.trans (or_congr ?_ ?_)⟩
  · rw [Drop.column?_foldl, hknown]
    simp
  · rw [← hpath]
    exact Schemas.get?_loaded hp.declared hcolumns

theorem ensureColumn_again_cleared :
    let category := ⟨[.field "Category"]⟩
    let ensure := CacheRun.defaultEngine.ensureColumn "docs" ⟨category, .text, true⟩
    Engine.new {} = .ok CacheRun.defaultEngine ∧
      CacheRun.defaultEngine.settings.loadTimeout.filter (· < 5) = none ∧
      Cache.empty.All (Schemas.documents.Declares CacheRun.defaultEngine) ∧
      category.IsWritable ∧
      ∃ now s₁, (ensure .empty).run (Schemas.answer none 5) .documents =
          (.ok ⟨category, "vc_Category", .text⟩, now, s₁) ∧
        ((ensure (now.invalidate "docs").clear).run (Schemas.answer none 5) s₁).1 =
          .ok ⟨category, "vc_Category", .text⟩ ∧
        ∀ x ∈ (ensure (now.invalidate "docs").clear).exchanges (Schemas.answer none 5) s₁,
          x.request.addsColumn = false := by
  intro category ensure
  have hnew : Engine.new {} = .ok CacheRun.defaultEngine := rfl
  have hintime : CacheRun.defaultEngine.settings.loadTimeout.filter (· < 5) = none := rfl
  have hwritable : category.IsWritable := by decide
  have hfirst : ((ensure .empty).run (Schemas.answer none 5) .documents).1 =
      .ok ⟨category, "vc_Category", .text⟩ := by
    decide +kernel
  have hnone : (Schemas.documents.loaded CacheRun.defaultEngine "docs").get? category = none := by
    decide +kernel
  have hagain := ensureColumn_again hnew hintime .empty hwritable (Prod.ext hfirst rfl)
    [.invalidate "docs", .clear]
  have hsame := hagain.2.mpr (.inr fun d hd => nomatch hnone.symm.trans hd)
  exact ⟨hnew, hintime, .empty, hwritable, _, _, Prod.ext hfirst rfl, hsame, hagain.1⟩

/-- A column of another name that was there before is picked for the path by the next load,
so that the column that was added is not recognised. -/
theorem refused_again :
    let category := ⟨[.field "Category"]⟩
    let ensure := CacheRun.defaultEngine.ensureColumn "docs" ⟨category, .text, false⟩
    let first := (ensure .empty).run (Schemas.answer none 0) .withLegacy
    first.1 = .ok ⟨category, "vc_Category", .text⟩ ∧
      ((ensure (first.2.1.invalidate "docs")).run (Schemas.answer none 0) first.2.2).1 =
        .error (.conflict "docs" "$.Category" "vc_Category serving an unrecognized expression"
          "vc_Category TEXT") := by
  decide +kernel

end Engine

end DocumentQuery
