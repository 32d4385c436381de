import DocumentQuery.Proofs.Engine.Call
import DocumentQuery.Proofs.Provision.Schemas
import DocumentQuery.Proofs.Sql.Ddl
import DocumentQuery.Proofs.Sql.SourcePath
import DocumentQuery.Proofs.Table.Cache

/-!
# Calls that leave nothing false behind

A cache is true of a store if each column that it gives for a path is in the
store and reads this path. Stores only grow, so what is true stays true, and a
call can rely on what it found before it had to wait. Between its requests
other calls may do whatever keeps the cache true.

* `Cache.IsTrue`: the cache says nothing false of a store;
* `Call.Keeps`: from here on the call keeps the cache true, and its result has
  a property of the store as it then is;
* `Call.Keeps.bind`: calls put together;
* `Engine.ReadsOwn`: the calls that an engine writes are recognised;
* `Engine.keeps_columns`, …, `Engine.keeps_ensureColumn`: what each part of a
  provisioning keeps, and all of it.
-/

namespace DocumentQuery

variable {e : Engine} {s s₁ s₂ : Schemas} {t name : String} {cache : Cache} {α β : Type}

/-! ## Caches -/

/-- A cache says nothing false of a store: each column that it gives reads its path. -/
def Cache.IsTrue (e : Engine) (s : Schemas) (cache : Cache) : Prop :=
  cache.All fun t c => s.Exposes e t c.name c.path

theorem Cache.IsTrue.mono (h : cache.IsTrue e s) (hle : s.Within s₁) : cache.IsTrue e s₁ :=
  h.imp fun _ _ hc => hc.mono hle

theorem Cache.IsTrue.exposes (h : cache.IsTrue e s) {p : Path} {c : VirtualColumn}
    (hc : cache.column? t p = some c) : s.Exposes e t c.name p :=
  path_of_column? hc ▸ h t p c hc

/-- The columns that a store reports are in it. -/
theorem ColumnMap.all_ofReported (e : Engine) (s : Schemas) (t : String) :
    (ofReported e.sourcePath? (s t).columns).All fun c => s.Exposes e t c.name c.path := by
  intro p c hc
  rw [get?_ofReported] at hc
  obtain ⟨column, hmem, hvirtual⟩ := List.mem_filterMap.mp (List.mem_of_find?_eq_some hc)
  obtain ⟨_, text, htext, hsource, hname, _⟩ := virtual?_eq_some.mp hvirtual
  exact ⟨column, hmem, hname, text, htext, hsource⟩

/-! ## Calls -/

/-- The call leaves the cache true of the store whenever it stops to ask, if it finds it
true when it goes on; at its end the cache is true, and its result has the property
`post`. The store may have grown before it replies and before the call goes on. -/
def Call.Keeps (e : Engine) (post : α → Schemas → Prop) : Call α → Schemas → Prop
  | .done result cache, s => cache.IsTrue e s ∧ ∀ a, result = .ok a → post a s
  | .ask request cache resume, s => cache.IsTrue e s ∧
      ∀ s₁, s.Within s₁ → ∀ fault elapsed s₂,
        (s₁.answer fault elapsed request).2.Within s₂ → ∀ now : Cache, now.IsTrue e s₂ →
          (resume (s₁.answer fault elapsed request).1 now).Keeps e post s₂

namespace Call.Keeps

variable {post : α → Schemas → Prop} {call : Call α}

theorem bind {next : α → Cache → Call β} {last : β → Schemas → Prop} (h : call.Keeps e post s)
    (hnext : ∀ a s₁ (now : Cache), s.Within s₁ → now.IsTrue e s₁ → post a s₁ →
      (next a now).Keeps e last s₁) :
    (call.bind next).Keeps e last s := by
  induction call generalizing s with
  | done result cache =>
    cases result with
    | error fault => exact ⟨h.1, fun a ha => by cases ha⟩
    | ok a => exact hnext a s cache (.refl s) h.1 (h.2 a rfl)
  | ask request cache resume ih =>
    refine ⟨h.1, fun s₁ hle fault elapsed s₂ hle₂ now hnow => ?_⟩
    refine ih _ now (h.2 s₁ hle fault elapsed s₂ hle₂ now hnow) fun a s₃ now₃ hle₃ => ?_
    have hgrown := (s₁.within_answer fault elapsed request).trans hle₂
    exact hnext a s₃ now₃ ((hle.trans hgrown).trans hle₃)

end Call.Keeps

/-! ## The parts of a provisioning -/

/-- The engine recognises the calls that it writes. -/
def Engine.ReadsOwn (e : Engine) : Prop :=
  ∀ p : Path, p.IsWritable → e.sourcePath? (e.settings.extraction.text p) = some p

theorem Engine.new_eq_ok {settings : Settings} :
    Engine.new settings = .ok e ↔
      settings.check = .ok () ∧ ⟨settings, settings.extraction.sourcePath?⟩ = e := by
  constructor
  · intro h
    obtain ⟨_, hcheck, heq⟩ := bind_eq_ok.mp h
    cases heq
    exact ⟨hcheck, rfl⟩
  · rintro ⟨hcheck, rfl⟩
    exact bind_eq_ok.mpr ⟨(), hcheck, rfl⟩

theorem Engine.readsOwn {settings : Settings} (h : Engine.new settings = .ok e) : e.ReadsOwn := by
  obtain ⟨hcheck, rfl⟩ := Engine.new_eq_ok.mp h
  have hchecked := Settings.isChecked hcheck
  exact fun p hp =>
    Extraction.sourcePath?_text (e := settings.extraction) hchecked.extractFunction
      hchecked.documentColumn hp

theorem Task.keeps_lift (h : cache.IsTrue e s) (result : Except Error α) :
    (Task.lift result cache).Keeps e (fun a _ => result = .ok a) s :=
  ⟨h, fun _ ha => ha⟩

theorem Task.keeps_hasColumn (h : cache.IsTrue e s) (table column : String) :
    (Task.hasColumn table column cache).Keeps e (fun _ _ => True) s :=
  ⟨h, fun _ _ _ _ _ _ _ hnow => ⟨hnow, fun _ _ => trivial⟩⟩

namespace Engine

/-- The columns that are known or found are in the store. -/
theorem keeps_columns (h : cache.IsTrue e s) (table : String) :
    (e.columns table cache).Keeps e
      (fun m s => m.All fun c => s.Exposes e table c.name c.path) s := by
  rw [columns]
  split
  · rename_i m hm
    exact ⟨h, fun a ha => by cases ha; exact h.get? hm⟩
  · refine ⟨h, fun s₁ _ fault elapsed s₂ hle₂ now hnow => ?_⟩
    dsimp only
    split
    · exact ⟨hnow, fun a ha => by cases ha⟩
    · rename_i reported hread
      obtain rfl : (s₁ table).columns = reported := by
        cases fault with
        | none => exact Except.ok.inj (Reading.columns?_eq_ok.mp hread).2
        | some fault => cases (Reading.columns?_eq_ok.mp hread).2
      have hloaded : (ColumnMap.ofReported e.sourcePath? (s₁ table).columns).All fun c =>
          s₂.Exposes e table c.name c.path :=
        fun p c hc => (ColumnMap.all_ofReported e s₁ table p c hc).mono hle₂
      have hinstall := hnow.install (cache.load table) hloaded
      exact ⟨hinstall.2, fun a ha => by cases ha; exact hinstall.1⟩

/-- The path that is found for a name is read by the column of this name. -/
theorem keeps_servedPath (h : cache.IsTrue e s) (table name : String) :
    (e.servedPath table name cache).Keeps e
      (fun served s => ∀ p, served = some p → s.Exposes e table name p) s := by
  refine (keeps_columns h table).bind fun m s₁ now _ hnow hm => ?_
  refine ⟨hnow, fun served hserved p hp => ?_⟩
  cases hserved
  obtain ⟨c, hc, rfl⟩ := Option.map_eq_some_iff.mp hp
  obtain ⟨rfl, hget⟩ := ColumnMap.of_named? hc
  exact hm c.path c hget

/-- So is the path that is found by another look. -/
theorem keeps_freshPath (h : cache.IsTrue e s) {served : Option Path}
    (hserved : ∀ p, served = some p → s.Exposes e t name p) (present : Bool) :
    (e.freshPath t name served present cache).Keeps e
      (fun served s => ∀ p, served = some p → s.Exposes e t name p) s := by
  rw [freshPath]
  split
  · exact keeps_servedPath (h.invalidate t) t name
  · refine ⟨h, fun a ha p hp => ?_⟩
    cases ha
    exact hserved p hp

variable {spec : ColumnSpec}

/-- A column that was added, or that was present, reads the path of the specification. -/
theorem keeps_addColumn (h : cache.IsTrue e s) {present : Bool}
    (hread : e.ReadsOwn) (hspec : spec.path.IsWritable)
    (hpresent : present = true → s.Exposes e t name spec.path) :
    (e.addColumn t name spec present cache).Keeps e
      (fun _ s => s.Exposes e t name spec.path) s := by
  rw [addColumn]
  split
  · rename_i hp
    exact ⟨h, fun _ _ => hpresent hp⟩
  · refine (Task.keeps_lift h _).bind fun statement s₁ now _ hnow hstatement => ?_
    obtain ⟨_, _, rfl⟩ := Ddl.virtualColumn_eq_ok.mp hstatement
    refine ⟨hnow, fun s₂ _ fault elapsed s₃ hle₃ later hlater => ⟨hlater, fun _ hok => ?_⟩⟩
    cases fault with
    | some fault => cases hok
    | none =>
      have hcolumns := Schemas.columns_of_execute (Prod.ext hok rfl)
      have hmem := hcolumns ▸ List.mem_append_right _ (List.mem_singleton_self _)
      exact Schemas.Exposes.mono ⟨_, hmem, rfl, _, rfl, hread _ hspec⟩ hle₃

/-- An index changes no column. -/
theorem keeps_addIndex (h : cache.IsTrue e s) {p : Path} (hexposes : s.Exposes e t name p)
    (spec : ColumnSpec) :
    (addIndex t name spec cache).Keeps e (fun _ s => s.Exposes e t name p) s := by
  rw [addIndex]
  split
  · refine (Task.keeps_lift h _).bind fun statement s₁ now hle hnow _ => ?_
    refine ⟨hnow, fun s₂ hle₂ fault elapsed s₃ hle₃ later hlater => ⟨hlater, fun _ _ => ?_⟩⟩
    have hgrown := (s₂.within_answer fault elapsed (.execute statement)).trans hle₃
    exact hexposes.mono ((hle.trans hle₂).trans hgrown)
  · exact ⟨h, fun _ _ => hexposes⟩

theorem keeps_create (h : cache.IsTrue e s) {present : Bool}
    (hread : e.ReadsOwn) (hspec : spec.path.IsWritable)
    (hpresent : present = true → s.Exposes e t name spec.path) :
    (e.create t name spec present cache).Keeps e (fun _ s => s.Exposes e t name spec.path) s := by
  rw [create_eq]
  exact (keeps_addColumn h hread hspec hpresent).bind fun _ s₁ now _ hnow hexposes =>
    keeps_addIndex hnow hexposes spec

/-- A column is registered that reads its path. -/
theorem keeps_register (h : cache.IsTrue e s) {column : VirtualColumn}
    (hcolumn : s.Exposes e t column.name column.path) :
    (Task.tryModify (·.register t column) cache).Keeps e (fun _ _ => True) s := by
  rw [Task.tryModify]
  split
  · rename_i next hregister
    exact ⟨h.register hregister hcolumn, fun _ _ => trivial⟩
  · exact ⟨h, fun _ _ => trivial⟩

/-- A specification whose name is not taken by another path, and the column of which is
present, is served already. -/
theorem served_of_checkFree {served : Option Path} {table : String} {present : Bool}
    (h : spec.checkFree table name served present = .ok ()) :
    served = some spec.path ∨ present = false := by
  unfold ColumnSpec.checkFree at h
  split at h
  · split at h
    · rename_i hpath
      exact .inl (congrArg some hpath)
    · cases h
  · split at h
    · cases h
    · rename_i hpresent
      exact .inr (by simpa using hpresent)

/-- A column that is found present reads the path of the specification. -/
theorem keeps_inquire (h : cache.IsTrue e s) (table : String) :
    (e.inquire table spec cache).Keeps e
      (fun found s => found.2 = true → s.Exposes e table found.1 spec.path) s := by
  refine (Task.keeps_lift h _).bind fun _ s₁ now₁ _ h₁ _ => ?_
  refine (Task.keeps_lift h₁ _).bind fun name s₂ now₂ _ h₂ _ => ?_
  refine (keeps_servedPath h₂ table name).bind fun served s₃ now₃ _ h₃ hserved => ?_
  refine (Task.keeps_hasColumn h₃ table name).bind fun present s₄ now₄ hle₄ h₄ _ => ?_
  refine (keeps_freshPath h₄ (fun p hp => (hserved p hp).mono hle₄) present).bind
    fun fresh s₅ now₅ _ h₅ hfresh => ?_
  refine (Task.keeps_lift h₅ _).bind fun _ s₆ now₆ hle₆ h₆ hfree => ⟨h₆, fun found hfound => ?_⟩
  cases hfound
  intro hpresent
  rcases served_of_checkFree hfree with hpath | habsent
  · exact (hfresh spec.path hpath).mono hle₆
  · cases habsent.symm.trans hpresent

theorem keeps_carryOut (h : cache.IsTrue e s) (hread : e.ReadsOwn) (hspec : spec.path.IsWritable)
    {found : String × Bool} (hfound : found.2 = true → s.Exposes e t found.1 spec.path) :
    (e.carryOut t spec found cache).Keeps e (fun _ _ => True) s := by
  refine (keeps_create h hread hspec hfound).bind fun _ s₁ now₁ _ h₁ hexposes => ?_
  exact (keeps_register h₁ hexposes).bind fun _ s₂ now₂ _ h₂ _ => ⟨h₂, fun _ _ => trivial⟩

/-- A provisioning leaves nothing false behind. -/
theorem keeps_ensureColumn (h : cache.IsTrue e s) (table : String) (hread : e.ReadsOwn)
    (hspec : spec.path.IsWritable) :
    (e.ensureColumn table spec cache).Keeps e (fun _ _ => True) s := by
  rw [ensureColumn_eq]
  exact (keeps_inquire h table).bind fun found s₁ now _ hnow hfound =>
    keeps_carryOut hnow hread hspec hfound

end Engine

end DocumentQuery
