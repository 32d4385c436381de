import DocumentQuery.Engine.Provision

/-!
# Calls in steps

What a call asks and what it comes to, whatever the store replies and whatever
other calls do to the cache in between; and what it comes to if nothing else is
going on. A provisioning first finds out what it has to do and then does it.

* `Call.bind_assoc`, `Task.bind_assoc`: calls put together;
* `Exchange`, `Call.Ends`: a request with its reply, and how a call can go;
* `Call.ends_bind`: how a call that was put together can go;
* `Call.Avoids`: a kind of request that a call never makes;
* `Call.exchanges`, `Call.ends_run`: how it goes with nothing else going on;
* `Call.run_bind_eq_ok`, `Call.exchanges_bind_ok`: and one that was put together;
* `Engine.inquire`, `Engine.carryOut`, `Engine.ensureColumn_eq`: the two parts of
  a provisioning;
* `Engine.inquire_avoids`, `Engine.inquire_ends_ok`: the first executes no statement.
-/

namespace DocumentQuery

variable {α β γ σ : Type}

/-- A request and the reply to it. -/
structure Exchange where
  request : Request
  reply : request.Reply

/-- Whether a request is to execute a statement. -/
def Request.executes : Request → Bool
  | .execute _ => true
  | _ => false

namespace Call

theorem bind_assoc (call : Call α) (next : α → Cache → Call β) (last : β → Cache → Call γ) :
    (call.bind next).bind last = call.bind fun a cache => (next a cache).bind last := by
  induction call with
  | done result cache => cases result <;> rfl
  | ask request cache resume ih =>
    simp only [bind]
    exact congrArg (ask request cache) (funext fun reply => funext fun now => ih reply now)

/-! ## How a call can go -/

/-- The call can have these exchanges with the store and come to this result, the cache
then being `last`. -/
inductive Ends : Call α → List Exchange → Except Error α → Cache → Prop
  | done (result : Except Error α) (cache : Cache) : Ends (.done result cache) [] result cache
  | ask {request : Request} {cache now last : Cache} {reply : request.Reply}
      {resume : request.Reply → Cache → Call α} {exchanges : List Exchange}
      {result : Except Error α} (h : Ends (resume reply now) exchanges result last) :
      Ends (.ask request cache resume) (⟨request, reply⟩ :: exchanges) result last

theorem ends_done {result result' : Except Error α} {cache last : Cache} {xs : List Exchange}
    (h : Ends (.done result cache) xs result' last) :
    xs = [] ∧ result' = result ∧ last = cache := by
  cases h
  exact ⟨rfl, rfl, rfl⟩

theorem ends_ask {request : Request} {cache last : Cache}
    {resume : request.Reply → Cache → Call α} {xs : List Exchange} {result : Except Error α}
    (h : (ask request cache resume).Ends xs result last) :
    ∃ reply now ys, xs = ⟨request, reply⟩ :: ys ∧ (resume reply now).Ends ys result last := by
  cases h with
  | ask h => exact ⟨_, _, _, rfl, h⟩

/-- Either the first part fails, or the second goes on with its result. -/
theorem ends_bind {call : Call α} {next : α → Cache → Call β} {xs : List Exchange}
    {result : Except Error β} {last : Cache} (h : (call.bind next).Ends xs result last) :
    (∃ fault, result = .error fault ∧ call.Ends xs (.error fault) last) ∨
      ∃ a mid ys zs, xs = ys ++ zs ∧ call.Ends ys (.ok a) mid ∧
        (next a mid).Ends zs result last := by
  induction call generalizing xs with
  | done first cache =>
    cases first with
    | error fault =>
      obtain ⟨rfl, rfl, rfl⟩ := ends_done h
      exact .inl ⟨fault, rfl, .done _ _⟩
    | ok a => exact .inr ⟨a, cache, [], xs, rfl, .done _ _, h⟩
  | ask request cache resume ih =>
    cases h with
    | ask h =>
      rcases ih _ _ h with ⟨fault, rfl, hfirst⟩ | ⟨a, mid, ys, zs, rfl, hfirst, hnext⟩
      · exact .inl ⟨fault, rfl, .ask hfirst⟩
      · exact .inr ⟨a, mid, _ :: ys, zs, rfl, .ask hfirst, hnext⟩

/-- If the whole succeeds, so did its first part. -/
theorem ends_bind_ok {call : Call α} {next : α → Cache → Call β} {xs : List Exchange} {b : β}
    {last : Cache} (h : (call.bind next).Ends xs (.ok b) last) :
    ∃ a mid ys zs, xs = ys ++ zs ∧ call.Ends ys (.ok a) mid ∧
      (next a mid).Ends zs (.ok b) last :=
  (ends_bind h).resolve_left nofun

/-- Whatever the store replies, the call makes no request of this kind. -/
def Avoids (kind : Request → Bool) : Call α → Prop
  | .done .. => True
  | .ask request _ resume => kind request = false ∧ ∀ reply now, (resume reply now).Avoids kind

theorem Avoids.bind {kind : Request → Bool} {call : Call α} {next : α → Cache → Call β}
    (h : call.Avoids kind) (hnext : ∀ a now, (next a now).Avoids kind) :
    (call.bind next).Avoids kind := by
  induction call with
  | done result cache =>
    cases result with
    | error fault => trivial
    | ok a => exact hnext a cache
  | ask request cache resume ih => exact ⟨h.1, fun reply now => ih reply now (h.2 reply now)⟩

theorem Avoids.imp {kind other : Request → Bool} {call : Call α} (h : call.Avoids kind)
    (himp : ∀ request, kind request = false → other request = false) : call.Avoids other := by
  induction call with
  | done => trivial
  | ask request cache resume ih =>
    exact ⟨himp request h.1, fun reply now => ih reply now (h.2 reply now)⟩

theorem Avoids.request {kind : Request → Bool} {call : Call α} {xs : List Exchange}
    {result : Except Error α} {last : Cache} (h : call.Avoids kind)
    (hends : call.Ends xs result last) : ∀ x ∈ xs, kind x.request = false := by
  induction hends with
  | done => exact fun _ hx => nomatch hx
  | ask _ ih => exact List.forall_mem_cons.mpr ⟨h.1, ih (h.2 _ _)⟩

/-! ## Nothing else going on -/

variable (answer : σ → (request : Request) → request.Reply × σ)

/-- The exchanges with a store that `answer` stands for, with nothing else going on. -/
def exchanges : Call α → σ → List Exchange
  | .done .., _ => []
  | .ask request cache resume, s =>
    ⟨request, (answer s request).1⟩ ::
      (resume (answer s request).1 cache).exchanges (answer s request).2

theorem ends_run (call : Call α) (s : σ) :
    call.Ends (call.exchanges answer s) (call.run answer s).1 (call.run answer s).2.1 := by
  induction call generalizing s with
  | done result cache => exact .done result cache
  | ask request cache resume ih => exact .ask (ih _ _ _)

variable {answer}

theorem run_bind_ok {call : Call α} {next : α → Cache → Call β} {s s₁ : σ} {a : α} {mid : Cache}
    (h : call.run answer s = (.ok a, mid, s₁)) :
    (call.bind next).run answer s = (next a mid).run answer s₁ := by
  induction call generalizing s with
  | done result cache =>
    cases h
    rfl
  | ask request cache resume ih => exact ih _ _ h

theorem run_bind_error {call : Call α} {next : α → Cache → Call β} {s s₁ : σ} {fault : Error}
    {mid : Cache} (h : call.run answer s = (.error fault, mid, s₁)) :
    (call.bind next).run answer s = (.error fault, mid, s₁) := by
  induction call generalizing s with
  | done result cache =>
    cases h
    rfl
  | ask request cache resume ih => exact ih _ _ h

/-- The whole succeeds if both parts do. -/
theorem run_bind_eq_ok {call : Call α} {next : α → Cache → Call β} {s s₂ : σ} {b : β}
    {last : Cache} :
    (call.bind next).run answer s = (.ok b, last, s₂) ↔
      ∃ a mid s₁, call.run answer s = (.ok a, mid, s₁) ∧
        (next a mid).run answer s₁ = (.ok b, last, s₂) := by
  constructor
  · intro h
    cases hcall : call.run answer s with
    | mk result rest =>
      obtain ⟨mid, s₁⟩ := rest
      cases result with
      | error fault => cases (run_bind_error hcall).symm.trans h
      | ok a => exact ⟨a, mid, s₁, rfl, (run_bind_ok hcall).symm.trans h⟩
  · rintro ⟨a, mid, s₁, hcall, hnext⟩
    exact (run_bind_ok hcall).trans hnext

theorem exchanges_bind_ok {call : Call α} {next : α → Cache → Call β} {s s₁ : σ} {a : α}
    {mid : Cache} (h : call.run answer s = (.ok a, mid, s₁)) :
    (call.bind next).exchanges answer s =
      call.exchanges answer s ++ (next a mid).exchanges answer s₁ := by
  induction call generalizing s with
  | done result cache =>
    cases h
    rfl
  | ask request cache resume ih => exact congrArg (_ :: ·) (ih _ _ h)

theorem exchanges_bind_error {call : Call α} {next : α → Cache → Call β} {s s₁ : σ}
    {fault : Error} {mid : Cache} (h : call.run answer s = (.error fault, mid, s₁)) :
    (call.bind next).exchanges answer s = call.exchanges answer s := by
  induction call generalizing s with
  | done result cache =>
    cases h
    rfl
  | ask request cache resume ih => exact congrArg (_ :: ·) (ih _ _ h)

end Call

/-! ## Tasks -/

namespace Task

theorem bind_assoc (task : Task α) (next : α → Task β) (last : β → Task γ) :
    task >>= next >>= last = task >>= fun a => next a >>= last :=
  funext fun cache => (task cache).bind_assoc next last

variable {answer : σ → (request : Request) → request.Reply × σ} {s s₁ s₂ : σ}
  {cache last : Cache}

/-- A result that needs no store comes without an exchange. -/
theorem ends_lift_bind {x : Except Error α} {next : α → Task β} {xs : List Exchange}
    {result : Except Error β}
    (h : ((lift x >>= next) cache).Ends xs result last) :
    (∃ fault, x = .error fault ∧ xs = [] ∧ result = .error fault) ∨
      ∃ a, x = .ok a ∧ (next a cache).Ends xs result last := by
  cases x with
  | error fault =>
    obtain ⟨hxs, hresult, _⟩ := Call.ends_done h
    exact .inl ⟨fault, rfl, hxs, hresult⟩
  | ok a => exact .inr ⟨a, rfl, h⟩

theorem run_pure (a : α) : ((pure a : Task α) cache).run answer s = (.ok a, cache, s) := rfl

theorem run_lift (result : Except Error α) :
    (lift result cache).run answer s = (result, cache, s) := rfl

theorem run_execute (statement : Ddl) :
    (execute statement cache).run answer s =
      ((answer s (.execute statement)).1, cache, (answer s (.execute statement)).2) := rfl

theorem run_tryModify_eq_ok {f : Cache → Except Error Cache} {u : Unit} :
    (tryModify f cache).run answer s = (.ok u, last, s₁) ↔ f cache = .ok last ∧ s = s₁ := by
  rw [tryModify]
  cases f cache with
  | error fault => simp [Call.run]
  | ok changed => simp [Call.run]

theorem run_bind_ok {task : Task α} {next : α → Task β} {mid : Cache} {a : α}
    (h : (task cache).run answer s = (.ok a, mid, s₁)) :
    ((task >>= next) cache).run answer s = (next a mid).run answer s₁ :=
  Call.run_bind_ok h

theorem run_bind_error {task : Task α} {next : α → Task β} {mid : Cache} {fault : Error}
    (h : (task cache).run answer s = (.error fault, mid, s₁)) :
    ((task >>= next) cache).run answer s = (.error fault, mid, s₁) :=
  Call.run_bind_error h

theorem exchanges_bind_ok {task : Task α} {next : α → Task β} {mid : Cache} {a : α}
    (h : (task cache).run answer s = (.ok a, mid, s₁)) :
    ((task >>= next) cache).exchanges answer s =
      (task cache).exchanges answer s ++ (next a mid).exchanges answer s₁ :=
  Call.exchanges_bind_ok h

theorem exchanges_bind_error {task : Task α} {next : α → Task β} {mid : Cache} {fault : Error}
    (h : (task cache).run answer s = (.error fault, mid, s₁)) :
    ((task >>= next) cache).exchanges answer s = (task cache).exchanges answer s :=
  Call.exchanges_bind_error h

theorem run_bind_eq_ok {task : Task α} {next : α → Task β} {b : β} :
    ((task >>= next) cache).run answer s = (.ok b, last, s₂) ↔
      ∃ a mid s₁, (task cache).run answer s = (.ok a, mid, s₁) ∧
        (next a mid).run answer s₁ = (.ok b, last, s₂) :=
  Call.run_bind_eq_ok

end Task

/-! ## The parts of a provisioning -/

namespace Engine

/-- What is found out before anything is done: the name of the column and whether it is
present. A name that is taken is refused. -/
def inquire (e : Engine) (table : String) (spec : ColumnSpec) : Task (String × Bool) := do
  Task.lift (Sql.checkName table)
  let name ← Task.lift (spec.path.columnName e.settings)
  let served ← e.servedPath table name
  let present ← Task.hasColumn table name
  let served ← e.freshPath table name served present
  Task.lift (spec.checkFree table name served present)
  return (name, present)

/-- What is done then. -/
def carryOut (e : Engine) (table : String) (spec : ColumnSpec) (found : String × Bool) :
    Task VirtualColumn := do
  e.create table found.1 spec found.2
  Task.tryModify (·.register table (spec.column found.1))
  return spec.column found.1

theorem ensureColumn_eq (e : Engine) (table : String) (spec : ColumnSpec) :
    e.ensureColumn table spec = e.inquire table spec >>= e.carryOut table spec := by
  simp only [ensureColumn, inquire, Task.bind_assoc]
  rfl

/-- Adds the column of a specification unless it is present. -/
def addColumn (e : Engine) (table name : String) (spec : ColumnSpec) (present : Bool) :
    Task Unit :=
  if present then pure ()
  else do
    let statement ← Task.lift (Ddl.virtualColumn e.settings table name spec.path spec.affinity)
    Task.execute statement

/-- Adds an index over the column of a specification if there has to be one. -/
def addIndex (table name : String) (spec : ColumnSpec) : Task Unit :=
  if spec.indexed then do
    let statement ← Task.lift (Ddl.index table [name] none false)
    Task.execute statement
  else pure ()

theorem create_eq (e : Engine) (table name : String) (spec : ColumnSpec) (present : Bool) :
    e.create table name spec present =
      e.addColumn table name spec present >>= fun _ => addIndex table name spec := by
  cases present with
  | true => rfl
  | false => exact (Task.bind_assoc ..).symm

/-! ## What is found out first -/

theorem servedPath_avoids (e : Engine) (table name : String) (cache : Cache) :
    (e.servedPath table name cache).Avoids Request.executes := by
  refine Call.Avoids.bind ?_ fun _ _ => trivial
  rw [columns]
  split
  · trivial
  · refine ⟨rfl, fun reading now => ?_⟩
    dsimp only
    split <;> trivial

theorem freshPath_avoids (e : Engine) (table name : String) (served : Option Path)
    (present : Bool) (cache : Cache) :
    (e.freshPath table name served present cache).Avoids Request.executes := by
  rw [freshPath]
  split
  · exact servedPath_avoids ..
  · trivial

theorem inquire_avoids (e : Engine) (table : String) (spec : ColumnSpec) (cache : Cache) :
    (e.inquire table spec cache).Avoids Request.executes := by
  have hlift {γ : Type} (result : Except Error γ) (now : Cache) :
      (Task.lift result now).Avoids Request.executes := trivial
  refine (hlift _ _).bind fun _ _ => (hlift _ _).bind fun name now => ?_
  refine (servedPath_avoids e table name now).bind fun served now => ?_
  have hhas : (Task.hasColumn table name now).Avoids Request.executes := ⟨rfl, fun _ _ => trivial⟩
  refine hhas.bind fun present now => ?_
  refine (freshPath_avoids e table name served present now).bind fun _ _ => ?_
  exact (hlift _ _).bind fun _ _ => trivial

/-- What is found out of names that can be used, and by asking the store. -/
theorem inquire_ends_ok {e : Engine} {table : String} {spec : ColumnSpec} {cache last : Cache}
    {xs : List Exchange} {found : String × Bool}
    (h : (e.inquire table spec cache).Ends xs (.ok found) last) :
    Sql.checkName table = .ok () ∧ spec.path.columnName e.settings = .ok found.1 ∧
      ⟨.hasColumn table found.1, .ok found.2⟩ ∈ xs := by
  obtain ⟨_, _, _, _, rfl, htable, h⟩ := Call.ends_bind_ok h
  obtain ⟨name, _, _, _, rfl, hname, h⟩ := Call.ends_bind_ok h
  obtain ⟨_, _, _, _, rfl, _, h⟩ := Call.ends_bind_ok h
  obtain ⟨present, _, _, _, rfl, hpresent, h⟩ := Call.ends_bind_ok h
  obtain ⟨_, _, _, _, rfl, _, h⟩ := Call.ends_bind_ok h
  obtain ⟨_, _, _, _, rfl, _, h⟩ := Call.ends_bind_ok h
  obtain ⟨_, hfound, _⟩ := Call.ends_done h
  obtain ⟨reply, _, _, rfl, hreply⟩ := Call.ends_ask hpresent
  obtain ⟨_, hreply, _⟩ := Call.ends_done hreply
  cases hfound
  cases hreply
  refine ⟨(Call.ends_done htable).2.1.symm, (Call.ends_done hname).2.1.symm, ?_⟩
  simp only [List.mem_append, List.mem_cons, true_or, or_true]

end Engine

end DocumentQuery
