import DocumentQuery.Proofs.Engine.Call
import DocumentQuery.Proofs.Engine.Final
import DocumentQuery.Proofs.Table.Cache
import DocumentQuery.Regex.Standard

/-!
# Failures that can be retried

A query on a table may fail because the schema could not be read, and then it
may succeed when it is tried again. Every other failure lies in what was asked
and comes back whenever it is asked.

* `Reading.Failed`, `Reading.FailsWith`: which reads of a schema fail, and how they
  are reported;
* `Engine.IsQuery`, `Engine.IsQuery.exists_eq`: the four queries, each a check, a
  look-up of the virtual columns and a compilation;
* `Engine.isRetryable_iff`: a query fails so that it can be retried exactly if its
  own read of the schema failed.
-/

namespace DocumentQuery

variable {α β : Type} {x : Except Error α}

/-! ## Reads of a schema -/

namespace Reading

variable {reading : Reading} {table : String} {limit : Option Nat} {fault : Error}

/-- The read gives no columns: the store reports an error, or answers after the limit. -/
def Failed (reading : Reading) (limit : Option Nat) : Prop :=
  (∃ fault, reading.answer = .error fault) ∨ ∃ l ∈ limit, l < reading.elapsed

/-- How a read of a table that gives no columns is reported. -/
inductive FailsWith (reading : Reading) (table : String) (limit : Option Nat) : Error → Prop
  /-- Whatever comes after the limit is not looked at. -/
  | late {l : Nat} (hlimit : l ∈ limit) (hlate : l < reading.elapsed) :
    FailsWith reading table limit (.schemaRead table (.timedOut l))
  /-- An error that is the failure of a read stays as it is. -/
  | kept {named : String} {cause : ReadCause} (htime : ∀ l ∈ limit, reading.elapsed ≤ l)
    (hanswer : reading.answer = .error (.schemaRead named cause)) :
    FailsWith reading table limit (.schemaRead named cause)
  /-- Of any other error the text is kept. -/
  | reported {fault : Error} (htime : ∀ l ∈ limit, reading.elapsed ≤ l)
    (hanswer : reading.answer = .error fault) (hfault : fault.isRetryable = false) :
    FailsWith reading table limit (.schemaRead table (.reported fault.message))

theorem FailsWith.isRetryable (h : reading.FailsWith table limit fault) :
    fault.isRetryable = true := by
  cases h <;> rfl

theorem FailsWith.failed (h : reading.FailsWith table limit fault) : reading.Failed limit := by
  cases h with
  | late hlimit hlate => exact .inr ⟨_, hlimit, hlate⟩
  | kept _ hanswer => exact .inl ⟨_, hanswer⟩
  | reported _ hanswer => exact .inl ⟨_, hanswer⟩

/-- No limit was missed if the read has kept the one there is. -/
theorem filter_late_eq_none :
    limit.filter (· < reading.elapsed) = none ↔ ∀ l ∈ limit, reading.elapsed ≤ l := by
  simp [Option.filter_eq_none_iff]

theorem columns?_eq_error :
    reading.columns? table limit = .error fault ↔ reading.FailsWith table limit fault := by
  constructor
  · intro h
    rw [columns?] at h
    split at h
    · rename_i l _ hlate
      obtain ⟨hlimit, hlate⟩ := Option.filter_eq_some_iff.mp hlate
      cases h
      exact .late hlimit (of_decide_eq_true hlate)
    · cases h
    · rename_i htime hanswer
      cases h
      exact .kept (filter_late_eq_none.mp htime) hanswer
    · rename_i other hother htime hanswer
      cases h
      refine .reported (filter_late_eq_none.mp htime) hanswer ?_
      cases other with
      | schemaRead named cause => exact (hother named cause rfl).elim
      | _ => rfl
  · intro h
    cases h with
    | late hlimit hlate =>
      have hfilter : limit.filter (· < reading.elapsed) = some _ :=
        Option.filter_eq_some_iff.mpr ⟨hlimit, decide_eq_true hlate⟩
      rw [columns?, hfilter]
    | kept htime hanswer => rw [columns?, filter_late_eq_none.mpr htime, hanswer]
    | @reported other htime hanswer hother =>
      rw [columns?, filter_late_eq_none.mpr htime, hanswer]
      cases other with
      | schemaRead named cause => cases hother
      | _ => rfl

/-- A read that failed is reported in one way or another. -/
theorem exists_columns?_eq_error :
    (∃ fault, reading.columns? table limit = .error fault) ↔ reading.Failed limit := by
  constructor
  · rintro ⟨fault, h⟩
    exact (columns?_eq_error.mp h).failed
  · intro hfailed
    cases h : reading.columns? table limit with
    | error fault => exact ⟨fault, rfl⟩
    | ok columns =>
      obtain ⟨htime, hanswer⟩ := columns?_eq_ok.mp h
      rcases hfailed with ⟨fault, hfault⟩ | ⟨l, hlimit, hlate⟩
      · cases hanswer.symm.trans hfault
      · exact absurd hlate (Nat.not_lt.mpr (filter_late_eq_none.mp htime l hlimit))

end Reading

/-! ## Queries -/

variable {cache last : Cache} {xs : List Exchange} {result : Except Error α}

theorem Task.lift_bind (f : α → Except Error β) :
    lift (x >>= f) = lift x >>= fun a => lift (f a) := by
  funext cache
  cases x <;> rfl

namespace Engine

variable {e : Engine} {table : String} {task : Task α}

/-- The columns of a table are known, or else the schema is read once. -/
theorem columns_ends {result : Except Error ColumnMap}
    (h : (e.columns table cache).Ends xs result last) :
    (xs = [] ∧ IsFinal result) ∨
      ∃ reading : Reading, xs = [⟨.readSchema table, reading⟩] ∧
        ∀ fault, result = .error fault ↔
          reading.columns? table e.settings.loadTimeout = .error fault := by
  rw [columns] at h
  split at h
  · obtain ⟨rfl, rfl, _⟩ := Call.ends_done h
    exact .inl ⟨rfl, isFinal_ok _⟩
  · obtain ⟨reading, now, ys, rfl, hread⟩ := Call.ends_ask h
    refine .inr ⟨reading, ?_⟩
    dsimp only at hread
    cases hcolumns : reading.columns? table e.settings.loadTimeout with
    | error fault =>
      rw [hcolumns] at hread
      obtain ⟨rfl, rfl, _⟩ := Call.ends_done hread
      exact ⟨rfl, fun _ => by simp⟩
    | ok reported =>
      rw [hcolumns] at hread
      obtain ⟨rfl, rfl, _⟩ := Call.ends_done hread
      exact ⟨rfl, fun _ => by simp⟩

section Library

variable [RegexLibrary]

/-- The queries on a table. -/
inductive IsQuery (e : Engine) (table : String) : {α : Type} → Task α → Prop
  | clause (filter : Expr) : IsQuery e table (e.clause table filter)
  | column (path : Path) : IsQuery e table (e.column table path)
  | filtered (filter : Expr) : IsQuery e table (e.filtered table filter)
  | projected (projection : Expr) (filter : Option Expr) :
    IsQuery e table (e.projected table projection filter)

/-- Something is checked, the columns of the table are looked up and something is compiled
against them. -/
theorem IsQuery.exists_eq (h : e.IsQuery table task) :
    ∃ (β : Type) (first : Except Error β) (rest : β → ColumnMap → Except Error α),
      IsFinal first ∧ (∀ b columns, IsFinal (rest b columns)) ∧
        task = Task.lift first >>= fun b => e.columns table >>= fun columns =>
          Task.lift (rest b columns) := by
  cases h with
  | clause filter =>
    exact ⟨_, Sql.checkName table, fun _ columns => Clause.ofExpr? e.settings columns filter,
      Sql.isFinal_checkName table, fun _ columns => Clause.isFinal_ofExpr? _ columns filter, rfl⟩
  | column path =>
    exact ⟨_, Sql.checkName table, fun _ columns => .ok (columns.resolve e.settings path),
      Sql.isFinal_checkName table, fun _ _ => isFinal_ok _, rfl⟩
  | filtered filter =>
    refine ⟨_, Sql.checkName table,
      fun _ columns => Clause.ofExpr? e.settings columns filter >>=
        Statement.filtered e.settings table,
      Sql.isFinal_checkName table, fun _ columns => ?_, ?_⟩
    · exact (Clause.isFinal_ofExpr? _ columns filter).bind (Statement.isFinal_filtered _ table)
    · simp only [Task.lift_bind]
      rfl
  | projected projection filter =>
    refine ⟨_, Sql.checkName table >>= fun _ => Projection.ofExpr? projection,
      fun projection columns => filter.mapM (Clause.ofExpr? e.settings columns) >>=
        Statement.projected e.settings columns table projection,
      (Sql.isFinal_checkName table).bind fun _ => Projection.isFinal_ofExpr? projection,
      fun projection columns => ?_, ?_⟩
    · have hfilter : IsFinal (filter.mapM (Clause.ofExpr? e.settings columns)) := by
        cases filter with
        | none => exact isFinal_ok _
        | some filter => exact (Clause.isFinal_ofExpr? _ columns filter).map _
      exact hfilter.bind (Statement.isFinal_projected _ columns table projection)
    · simp only [Task.lift_bind, Task.bind_assoc]
      rfl

/-- A query that reads the schema in vain comes to how that is reported, and every other
to a final result. -/
theorem IsQuery.ends (h : e.IsQuery table task) (hends : (task cache).Ends xs result last) :
    (xs = [] ∧ IsFinal result) ∨
      ∃ reading : Reading, xs = [⟨.readSchema table, reading⟩] ∧
        ((∃ fault, result = .error fault ∧
            reading.FailsWith table e.settings.loadTimeout fault) ∨
          ¬ reading.Failed e.settings.loadTimeout ∧ IsFinal result) := by
  obtain ⟨β, first, rest, hfirst, hrest, rfl⟩ := h.exists_eq
  rcases Task.ends_lift_bind hends with ⟨fault, hfault, rfl, rfl⟩ | ⟨b, _, hends⟩
  · exact .inl ⟨rfl, isFinal_error (hfirst fault hfault)⟩
  rcases Call.ends_bind hends with
    ⟨fault, rfl, hcolumns⟩ | ⟨columns, _, _, _, rfl, hcolumns, hlast⟩
  · rcases columns_ends hcolumns with ⟨rfl, hfinal⟩ | ⟨reading, rfl, hread⟩
    · exact .inl ⟨rfl, isFinal_error (hfinal fault rfl)⟩
    · have hfails := Reading.columns?_eq_error.mp ((hread fault).mp rfl)
      exact .inr ⟨reading, rfl, .inl ⟨fault, rfl, hfails⟩⟩
  · obtain ⟨rfl, rfl, _⟩ := Call.ends_done hlast
    rw [List.append_nil]
    rcases columns_ends hcolumns with ⟨rfl, _⟩ | ⟨reading, rfl, hread⟩
    · exact .inl ⟨rfl, hrest b columns⟩
    · refine .inr ⟨reading, rfl, .inr ⟨fun hfailed => ?_, hrest b columns⟩⟩
      obtain ⟨fault, hfault⟩ := Reading.exists_columns?_eq_error.mpr hfailed
      cases (hread fault).mpr hfault

/-- A query fails so that it can be retried exactly if it has read the schema itself and
the read has failed, whatever is known of the table, whatever the store answers, however
long that takes and whatever other calls do meanwhile. Whatever error the store has, it is
reported as the failure of the read. Names, expressions, paths, filters and projections that
are refused are refused for good, and so is what is put together from them. -/
theorem isRetryable_iff (e : Engine) (table : String) :
    (∀ {α : Type} {task : Task α}, e.IsQuery table task →
      ∀ {cache last : Cache} {xs : List Exchange} {result : Except Error α},
        (task cache).Ends xs result last →
        ((∃ fault, result = .error fault ∧ fault.isRetryable = true) ↔
            ∃ reading : Reading, ⟨.readSchema table, reading⟩ ∈ xs ∧
              reading.Failed e.settings.loadTimeout) ∧
          ∀ x ∈ xs, ∃ reading : Reading, x = ⟨.readSchema table, reading⟩ ∧
            (reading.Failed e.settings.loadTimeout →
              ∃ fault, result = .error fault ∧
                reading.FailsWith table e.settings.loadTimeout fault)) ∧
      (∀ name, IsFinal (Sql.checkName name) ∧ IsFinal (Path.checkName name)) ∧
      (∀ x : Expr, IsFinal x.evaluate ∧ IsFinal x.path? ∧ IsFinal (Projection.ofExpr? x)) ∧
      (∀ columns filter, IsFinal (Clause.ofExpr? e.settings columns filter)) ∧
      (∀ clause, IsFinal (Statement.filtered e.settings table clause)) ∧
      ∀ columns projection clause,
        IsFinal (Statement.projected e.settings columns table projection clause) := by
  refine ⟨fun hquery _ _ xs result hends => ?_,
    fun name => ⟨Sql.isFinal_checkName name, Path.isFinal_checkName name⟩,
    fun x => ⟨x.isFinal_evaluate, x.isFinal_path?, Projection.isFinal_ofExpr? x⟩,
    fun columns filter => Clause.isFinal_ofExpr? _ columns filter,
    fun clause => Statement.isFinal_filtered _ table clause,
    fun columns projection clause => Statement.isFinal_projected _ columns table projection clause⟩
  rcases hquery.ends hends with ⟨rfl, hfinal⟩ | ⟨reading, rfl, hread⟩
  · refine ⟨⟨fun h => absurd h hfinal.not_isRetryable, ?_⟩, List.forall_mem_nil _⟩
    rintro ⟨_, hmem, _⟩
    cases hmem
  · have honly {other : Reading} (h : (⟨.readSchema table, other⟩ : Exchange) ∈
        [⟨.readSchema table, reading⟩]) : other = reading := by
      cases List.mem_singleton.mp h
      rfl
    rw [List.forall_mem_singleton]
    rcases hread with ⟨fault, hresult, hfails⟩ | ⟨hdone, hfinal⟩
    · exact ⟨⟨fun _ => ⟨reading, List.mem_singleton.mpr rfl, hfails.failed⟩,
        fun _ => ⟨fault, hresult, hfails.isRetryable⟩⟩,
        reading, rfl, fun _ => ⟨fault, hresult, hfails⟩⟩
    · refine ⟨⟨fun h => absurd h hfinal.not_isRetryable, ?_⟩,
        reading, rfl, fun hfailed => absurd hfailed hdone⟩
      rintro ⟨other, hmem, hfailed⟩
      rw [honly hmem] at hfailed
      exact absurd hfailed hdone

end Library

/-- A store that another task has left locked. -/
def lockedStore (_ : Unit) : (request : Request) → request.Reply × Unit
  | .readSchema _ => (⟨5, .error .poisonedLock⟩, ())
  | .hasColumn _ _ => (.error .poisonedLock, ())
  | .execute _ => (.error .poisonedLock, ())

/-- The error of a locked store cannot be retried, but the query that meets it can. -/
theorem isRetryable_iff_locked :
    Error.poisonedLock.isRetryable = false ∧
      ∃ e fault, new {} = .ok e ∧
        (((e.column "orders" ⟨[]⟩) .empty).run lockedStore ()).1 = .error fault ∧
          fault.isRetryable = true := by
  let e : Engine := ⟨{}, ({} : Settings).extraction.sourcePath?⟩
  have hnew : new {} = .ok e := rfl
  have hread : ((e.column "orders" ⟨[]⟩) .empty).exchanges lockedStore () =
      [⟨.readSchema "orders", (⟨5, .error .poisonedLock⟩ : Reading)⟩] := rfl
  have hends := Call.ends_run lockedStore ((e.column "orders" ⟨[]⟩) .empty) ()
  obtain ⟨fault, hfault, hretryable⟩ :=
    ((isRetryable_iff e "orders").1 (.column ⟨[]⟩) hends).1.mpr
      ⟨_, hread ▸ List.mem_singleton.mpr rfl, .inl ⟨_, rfl⟩⟩
  exact ⟨rfl, e, fault, hnew, hfault, hretryable⟩

end Engine

end DocumentQuery
