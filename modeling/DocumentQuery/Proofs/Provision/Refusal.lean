import DocumentQuery.Proofs.Cache.Run
import DocumentQuery.Proofs.Engine.Call
import DocumentQuery.Proofs.Provision.Schemas
import DocumentQuery.Proofs.Sql.Ddl
import DocumentQuery.Proofs.Sql.Parameters
import DocumentQuery.Proofs.Table.Cache

/-!
# Refused provisionings

A provisioning is refused because a name cannot be used or is taken, or because
the path is known with another type. What it finds out before it does anything
executes no statement, so most refusals leave the store as it is. Two do not:
the name of the index is checked after the column was added, and the type of the
path when the column is registered, after all statements.

* `Error.isRefusal`: the errors that are no fault of the store;
* `Engine.carryOut_ends_error`: how a provisioning fails once it is under way;
* `Engine.untouched_of_refused`: the refusals after which a statement was executed.
-/

namespace DocumentQuery

variable {e : Engine} {spec : ColumnSpec} {table name : String} {cache last : Cache}
  {xs : List Exchange} {fault : Error} {α β : Type}

/-- The errors by which a provisioning refuses what is asked of it. -/
def Error.isRefusal : Error → Bool
  | .conflict .. => true
  | .identifier _ => true
  | _ => false

/-- The error of a statement that was executed. -/
def Exchange.fault? : Exchange → Option Error
  | ⟨.execute _, .error fault⟩ => some fault
  | _ => none

namespace Engine

/-! ## How the parts fail -/

/-- The error of a statement is the reply to it. -/
theorem execute_ends_error {statement : Ddl}
    (h : (Task.execute statement cache).Ends xs (.error fault) last) :
    ∃ x ∈ xs, x.fault? = some fault := by
  obtain ⟨reply, now, ys, rfl, hdone⟩ := Call.ends_ask h
  obtain ⟨_, rfl, _⟩ := Call.ends_done hdone
  exact ⟨_, List.mem_cons_self, rfl⟩

/-- A column with a name that can be used fails only with its statement. -/
theorem addColumn_ends_error {present : Bool} (htable : Sql.checkName table = .ok ())
    (hname : Sql.checkName name = .ok ())
    (h : (e.addColumn table name spec present cache).Ends xs (.error fault) last) :
    ∃ x ∈ xs, x.fault? = some fault := by
  rw [addColumn] at h
  split at h
  · cases (Call.ends_done h).2.1
  · rw [Ddl.virtualColumn_of_checkName e.settings spec.path spec.affinity htable hname] at h
    exact execute_ends_error h

/-- An index fails with its statement, or because its name is too long. -/
theorem addIndex_ends_error (htable : Sql.checkName table = .ok ())
    (hname : Sql.checkName name = .ok ())
    (h : (addIndex table name spec cache).Ends xs (.error fault) last) :
    (∃ x ∈ xs, x.fault? = some fault) ∨
      xs = [] ∧ spec.indexed = true ∧
        Sql.maxNameLength < (Ddl.indexName table [name]).toList.length := by
  rw [addIndex] at h
  split at h
  · rename_i hindexed
    rcases Task.ends_lift_bind h with ⟨refusal, hrefusal, hnothing, _⟩ | ⟨_, _, h⟩
    · refine .inr ⟨hnothing, hindexed, Nat.not_le.mp fun hlength => ?_⟩
      cases hrefusal.symm.trans (Ddl.index_eq_ok htable hname hlength)
    · exact .inl (execute_ends_error h)
  · cases (Call.ends_done h).2.1

/-- Where the column is present and no index is asked for, there is nothing to do. -/
theorem create_ends_present {result : Except Error Unit} (hindexed : spec.indexed = false)
    (h : (e.create table name spec true cache).Ends xs result last) : xs = [] := by
  rw [create, hindexed] at h
  exact (Call.ends_done h).1

/-- A column is not registered if its path has another type. -/
theorem register_ends_error {column : VirtualColumn}
    (h : (Task.tryModify (·.register table column) cache).Ends xs (.error fault) last) :
    ∃ d, last.column? table column.path = some d ∧ d.affinity ≠ column.affinity := by
  rw [Task.tryModify] at h
  split at h
  · cases (Call.ends_done h).2.1
  · rename_i refusal hregister
    obtain ⟨_, _, rfl⟩ := Call.ends_done h
    refine Classical.byContradiction fun hnone => ?_
    have hsame : ∀ d, last.column? table column.path = some d → d.affinity = column.affinity :=
      fun d hd => Classical.byContradiction fun hne => hnone ⟨d, hd, hne⟩
    have hok := Cache.register_eq_ok.mpr ⟨hsame, rfl⟩
    cases hregister.symm.trans hok

theorem register_ends_nothing {column : VirtualColumn} {result : Except Error Unit}
    (h : (Task.tryModify (·.register table column) cache).Ends xs result last) : xs = [] := by
  rw [Task.tryModify] at h
  split at h <;> exact (Call.ends_done h).1

/-- Once it is known what has to be done, a provisioning fails with a statement, because the
name of the index is too long, or because its path has another type. If the column is present,
it has executed no statement in the second case, and in the third none but the index. -/
theorem carryOut_ends_error {present : Bool} (htable : Sql.checkName table = .ok ())
    (hname : Sql.checkName name = .ok ())
    (h : (e.carryOut table spec (name, present) cache).Ends xs (.error fault) last) :
    (∃ x ∈ xs, x.fault? = some fault) ∨
      ((present = true → xs = []) ∧ spec.indexed = true ∧
        Sql.maxNameLength < (Ddl.indexName table [name]).toList.length) ∨
      ((present = true → spec.indexed = false → xs = []) ∧
        ∃ d, last.column? table spec.path = some d ∧ d.affinity ≠ spec.affinity) := by
  rcases Call.ends_bind h with ⟨_, hfault, hcreate⟩ | ⟨_, _, _, _, rfl, hcreate, h⟩
  · cases hfault
    rw [create_eq] at hcreate
    rcases Call.ends_bind hcreate with ⟨_, hfault, hadd⟩ | ⟨_, _, _, _, rfl, hadd, hindex⟩
    · cases hfault
      exact .inl (addColumn_ends_error htable hname hadd)
    · rcases addIndex_ends_error htable hname hindex with ⟨x, hx, hxfault⟩ | ⟨rfl, hlong⟩
      · exact .inl ⟨x, List.mem_append_right _ hx, hxfault⟩
      · refine .inr (.inl ⟨fun hpresent => ?_, hlong⟩)
        subst hpresent
        rw [(Call.ends_done hadd).1, List.append_nil]
  · rcases Call.ends_bind h with ⟨_, hfault, hregister⟩ | ⟨_, _, _, _, _, _, h⟩
    · cases hfault
      refine .inr (.inr ⟨fun hpresent hindexed => ?_, register_ends_error hregister⟩)
      subst hpresent
      rw [create_ends_present hindexed hcreate, register_ends_nothing hregister, List.append_nil]
    · cases (Call.ends_done h).2.1

/-- However a provisioning goes that is refused, no statement was executed, unless the name of
the index is too long and the column was absent, or the path has another type and the column
was absent or an index asked for: these are found out after what is missing was added. -/
theorem untouched_of_refused (h : (e.ensureColumn table spec cache).Ends xs (.error fault) last)
    (hrefused : fault.isRefusal = true)
    (hstore : ∀ x ∈ xs, ∀ reported ∈ x.fault?, reported.isRefusal = false) :
    (∀ x ∈ xs, x.request.executes = false) ∨
      (⟨.hasColumn table (spec.path.columnText e.settings), .ok false⟩ ∈ xs ∧
        spec.indexed = true ∧ Sql.maxNameLength <
          (Ddl.indexName table [spec.path.columnText e.settings]).toList.length) ∨
      ((⟨.hasColumn table (spec.path.columnText e.settings), .ok false⟩ ∈ xs ∨
          spec.indexed = true) ∧
        ∃ d, last.column? table spec.path = some d ∧ d.affinity ≠ spec.affinity) := by
  rw [ensureColumn_eq] at h
  rcases Call.ends_bind h with ⟨_, hfault, hinquire⟩ | ⟨⟨name, present⟩, _, ys, zs, rfl, hfound, hdo⟩
  · cases hfault
    exact .inl ((inquire_avoids e table spec cache).request hinquire)
  obtain ⟨htable, hcolumn, hasked⟩ := inquire_ends_ok hfound
  obtain ⟨rfl, hname⟩ := Path.columnName_eq_ok.mp hcolumn
  have huntouched (hnothing : zs = []) : ∀ x ∈ ys ++ zs, x.request.executes = false := by
    rw [hnothing, List.append_nil]
    exact (inquire_avoids e table spec cache).request hfound
  have habsent (hpresent : present = false) :
      ⟨.hasColumn table (spec.path.columnText e.settings), .ok false⟩ ∈ ys ++ zs :=
    List.mem_append_left _ (hpresent ▸ hasked)
  rcases carryOut_ends_error htable hname hdo with
    ⟨x, hx, hxfault⟩ | ⟨hnothing, hlong⟩ | ⟨hnothing, hother⟩
  · have hno := hstore x (List.mem_append_right _ hx) fault hxfault
    cases hrefused.symm.trans hno
  · cases present with
    | true => exact .inl (huntouched (hnothing rfl))
    | false => exact .inr (.inl ⟨habsent rfl, hlong⟩)
  · cases present with
    | true =>
      cases hindexed : spec.indexed with
      | false => exact .inl (huntouched (hnothing rfl hindexed))
      | true => exact .inr (.inr ⟨.inr rfl, hother⟩)
    | false => exact .inr (.inr ⟨.inl (habsent rfl), hother⟩)

/-- A table whose name is so long that an index over it can hardly have one. -/
def longTable : String := "customer_order_documents_of_the_northern_region_archive"

/-- Two document tables, to one of which somebody added two columns. -/
def extended : Schemas :=
  (Schemas.withLegacy.execute (.createTable true longTable "id" "data")).2.add "docs"
    ⟨"vc_a_b", "TEXT", true, some "json_extract(data, '$.a_b')"⟩

/-- Another path has the column name. -/
theorem untouched_of_refused_taken :
    let ensure := CacheRun.defaultEngine.ensureColumn "docs"
      ⟨⟨[.field "a", .field "b"]⟩, .text, true⟩ .empty
    let xs := ensure.exchanges (Schemas.answer none 0) extended
    (∃ fault last, ensure.Ends xs (.error fault) last ∧ fault.isRefusal = true) ∧
      (∀ x ∈ xs, ∀ reported ∈ x.fault?, reported.isRefusal = false) ∧
      ∀ x ∈ xs, x.request.executes = false := by
  intro ensure xs
  have hends := Call.ends_run (Schemas.answer none 0) ensure extended
  have hresult : (ensure.run (Schemas.answer none 0) extended).1 =
      .error (.conflict "docs" "$.a.b" "vc_a_b serving $.a_b" "vc_a_b TEXT") := by
    decide +kernel
  have hunknown : (ensure.run (Schemas.answer none 0) extended).2.1.column? "docs"
      ⟨[.field "a", .field "b"]⟩ = none := by
    decide +kernel
  have hstore : ∀ x ∈ xs, ∀ reported ∈ x.fault?, reported.isRefusal = false := by decide +kernel
  rw [hresult] at hends
  refine ⟨⟨_, _, hends, rfl⟩, hstore, ?_⟩
  rcases untouched_of_refused hends rfl hstore with huntouched | ⟨_, _, hlong⟩ | ⟨_, d, hd, _⟩
  · exact huntouched
  · exact absurd hlong (by decide)
  · cases hunknown.symm.trans hd

/-- A path that a column of another type reads, and an index whose name is too long, are
refused when the column was added already. -/
theorem touched_though_refused :
    let category := ⟨[.field "Category"]⟩
    let text := "json_extract(\"data\", '$.Category')"
    let ensure table spec := CacheRun.defaultEngine.ensureColumn table spec .empty
    ((ensure "docs" ⟨category, .integer, false⟩).run (Schemas.answer none 0) extended).1 =
        .error (.conflict "docs" "$.Category" "legacy TEXT" "vc_Category INTEGER") ∧
      ((ensure "docs" ⟨category, .integer, false⟩).exchanges (Schemas.answer none 0) extended).map
          Exchange.request =
        [.readSchema "docs", .hasColumn "docs" "vc_Category",
          .execute (.addColumn "docs" "vc_Category" .integer text)] ∧
      ((ensure longTable ⟨category, .text, true⟩).run (Schemas.answer none 0) extended).1 =
        .error (.identifier (.tooLong ("ix_" ++ longTable ++ "_vc_Category"))) ∧
      ((ensure longTable ⟨category, .text, true⟩).exchanges (Schemas.answer none 0) extended).map
          Exchange.request =
        [.readSchema longTable, .hasColumn longTable "vc_Category",
          .execute (.addColumn longTable "vc_Category" .text text)] := by
  decide +kernel

end Engine

end DocumentQuery
