import BoundSql.Proofs.Results
import BoundSql.Session.Executor

/-!
# Actions that run alike

Two actions run alike under a relation of their states when, from related states, they end with the
same value or error and in related states. Actions put together from such parts run alike
themselves. A run of an executor is put together from few things that it asks of the session and of
the world outside, so two of its runs are alike as soon as these things are.
-/

namespace BoundSql

namespace Act

variable {σ τ σ₁ τ₁ α β : Type}

/-- From related states both actions end in the same way and in related states. -/
def Sim (R : σ → τ → Prop) (act : Act σ α) (other : Act τ α) : Prop :=
  ∀ s t, R s t → (other t).1 = (act s).1 ∧ R (act s).2 (other t).2

namespace Sim

variable {R : σ → τ → Prop} {act : Act σ α} {other : Act τ α}

/-- Where one action has ended the other one ends in the same way. -/
theorem exists_of_eq (h : Sim R act other) {s s' : σ} {t : τ} (hst : R s t)
    {result : Except Error α} (hended : act s = (result, s')) :
    ∃ t', other t = (result, t') ∧ R s' t' := by
  obtain ⟨hresult, hstates⟩ := h s t hst
  rw [hended] at hresult hstates
  exact ⟨(other t).2, Prod.ext hresult rfl, hstates⟩

/-- Ending at once in the same way is alike. -/
theorem ofExcept (result : Except Error α) :
    Sim R (Act.ofExcept result) (Act.ofExcept result) := by
  intro s t h
  exact ⟨rfl, h⟩

theorem pure (a : α) : Sim R (Pure.pure a : Act σ α) (Pure.pure a) := ofExcept (.ok a)

theorem throw (e : Error) : Sim R (throw e : Act σ α) (throw e) := ofExcept (.error e)

/-- Views that agree on related states are alike. -/
theorem look {view : σ → α} {seen : τ → α} (h : ∀ s t, R s t → seen t = view s) :
    Sim R (Act.look view) (Act.look seen) := by
  intro s t hst
  exact ⟨congrArg Except.ok (h s t hst), hst⟩

/-- Changes that keep the relation are alike. -/
theorem change {f : σ → σ} {g : τ → τ} (h : ∀ s t, R s t → R (f s) (g t)) :
    Sim R (Act.change f) (Act.change g) := by
  intro s t hst
  exact ⟨rfl, h s t hst⟩

/-- Chains are alike when they go on alike with each value that the first action can give. -/
theorem bindOk {next : α → Act σ β} {otherNext : α → Act τ β} (h : Sim R act other)
    (hnext : ∀ a s t, R s t → (act s).1 = .ok a → Sim R (next a) (otherNext a)) :
    Sim R (act >>= next) (other >>= otherNext) := by
  intro s t hst
  obtain ⟨hresult, hstates⟩ := h s t hst
  have hgoes := fun a => hnext a s t hst
  rw [bind_apply, bind_apply]
  generalize act s = ended at hresult hstates hgoes
  generalize other t = otherEnded at hresult hstates
  obtain ⟨result, s⟩ := ended
  obtain ⟨otherResult, t⟩ := otherEnded
  dsimp only at hresult hstates hgoes
  subst hresult
  cases otherResult with
  | ok a => exact hgoes a rfl s t hstates
  | error e => exact ⟨rfl, hstates⟩

/-- Chains of alike actions are alike. -/
theorem bind {next : α → Act σ β} {otherNext : α → Act τ β} (h : Sim R act other)
    (hnext : ∀ a, Sim R (next a) (otherNext a)) :
    Sim R (act >>= next) (other >>= otherNext) :=
  h.bindOk fun a _ _ _ _ => hnext a

/-- Looking at the end of alike actions is alike. -/
theorem attempt (h : Sim R act other) : Sim R (Act.attempt act) (Act.attempt other) := by
  intro s t hst
  obtain ⟨hresult, hstates⟩ := h s t hst
  exact ⟨congrArg Except.ok hresult, hstates⟩

/-- Changes after alike actions that keep the relation are alike. -/
theorem always {f : σ → σ} {g : τ → τ} (h : Sim R act other)
    (hfinish : ∀ s t, R s t → R (f s) (g t)) : Sim R (Act.always act f) (Act.always other g) := by
  intro s t hst
  obtain ⟨hresult, hstates⟩ := h s t hst
  exact ⟨hresult, hfinish _ _ hstates⟩

/-- Alike actions on parts of states are alike on the whole. -/
theorem within {S : σ₁ → τ₁ → Prop} {part : σ₁ → σ} {put : σ → σ₁ → σ₁} {otherPart : τ₁ → τ}
    {otherPut : τ → τ₁ → τ₁} (h : Sim R act other)
    (hpart : ∀ s t, S s t → R (part s) (otherPart t))
    (hput : ∀ s t u v, S s t → R u v → S (put u s) (otherPut v t)) :
    Sim S (Act.within part put act) (Act.within otherPart otherPut other) := by
  intro s t hst
  obtain ⟨hresult, hstates⟩ := h _ _ (hpart s t hst)
  exact ⟨hresult, hput s t _ _ hst hstates⟩

/-- Alike actions behind the same decision are alike. -/
theorem ite {p : Prop} [Decidable p] {second : Act σ α} {otherSecond : Act τ α}
    (h : Sim R act other) (hsecond : Sim R second otherSecond) :
    Sim R (if p then act else second) (if p then other else otherSecond) := by
  split
  · exact h
  · exact hsecond

end Sim

end Act

/-! ## Runs of executors -/

variable {σ τ α : Type}

/-- A chain outside is a chain of the session. -/
theorem Session.onOutside_bind {β : Type} (act : Act σ α) (next : α → Act σ β) :
    Session.onOutside (act >>= next) =
      (Session.onOutside act >>= fun a => Session.onOutside (next a)) := by
  unfold Session.onOutside
  refine Act.within_bind ?_ ?_ act next
  · exact fun _ _ => rfl
  · exact fun _ _ _ => rfl

/-- Hooks that are called alike are notified alike. -/
theorem Session.notify_sim {R : Session σ → Session τ → Prop} {around : Surroundings σ}
    {other : Surroundings τ} (hhas : other.hooks.has = around.hooks.has)
    (hhook : ∀ call, Act.Sim R (Session.onOutside (around.hooks.call call))
      (Session.onOutside (other.hooks.call call)))
    (call : HookCall) :
    Act.Sim R (Session.onOutside (around.hooks.notify call))
      (Session.onOutside (other.hooks.notify call)) := by
  unfold Hooks.notify
  rw [hhas]
  split
  · rw [Session.onOutside_bind, Session.onOutside_bind]
    exact (hhook call).bind fun _ => Act.Sim.ofExcept (.ok ())
  · exact Act.Sim.ofExcept (.ok ())

/-- Runs a statement once with values bound to its placeholders; what was bound before is gone. -/
def Session.runBound (around : Surroundings σ) (name sql : String) (values : List BoundValue) :
    Act (Session σ) StatementResult := do
  let prepared ← Session.statement around name sql
  let ready := prepared.reset.bindAll values
  Session.putBack name ready
  Session.onOutside (around.driver.execute ready)

/-- A statement runs alike when it is looked up, put back and executed alike. -/
theorem Session.runBound_sim {R : Session σ → Session τ → Prop} {around : Surroundings σ}
    {other : Surroundings τ} {name sql : String}
    (hstatement : Act.Sim R (Session.statement around name sql) (Session.statement other name sql))
    (hputBack : ∀ p, Act.Sim R (Session.putBack name p) (Session.putBack name p))
    (hexecute : ∀ p, Act.Sim R (Session.onOutside (around.driver.execute p))
      (Session.onOutside (other.driver.execute p)))
    (values : List BoundValue) :
    Act.Sim R (Session.runBound around name sql values)
      (Session.runBound other name sql values) := by
  refine hstatement.bind fun prepared => ?_
  exact (hputBack _).bind fun _ => hexecute _

/-- What an executor asks for when it runs a statement on a connection is alike in two sessions. -/
structure Surroundings.Sim (name sql : String) (params : List Value)
    (R : Session σ → Session τ → Prop) (around : Surroundings σ) (other : Surroundings τ) :
    Prop where
  /-- The name has settings in both or in neither. -/
  configured : Act.Sim R (Session.configuredName (some name)) (Session.configuredName (some name))
  /-- The statement runs alike with what the parameters are bound as. -/
  execute : ∀ values, BoundValue.ofValues params = .ok values →
    Act.Sim R (Session.runBound around name sql values) (Session.runBound other name sql values)
  /-- There are the same hooks. -/
  has : other.hooks.has = around.hooks.has
  /-- Calling them is alike. -/
  hook : ∀ call, Act.Sim R (Session.onOutside (around.hooks.call call))
    (Session.onOutside (other.hooks.call call))
  /-- So is waiting. -/
  sleep : ∀ time, Act.Sim R (Session.onOutside (around.sleep time))
    (Session.onOutside (other.sleep time))

namespace Executor

/-- The same executor of a connection in related sessions. -/
structure Alike (name : String) (R : Session σ → Session τ → Prop) (s : Executor × Session σ)
    (t : Executor × Session τ) : Prop where
  /-- The executors are the same. -/
  same : t.1 = s.1
  /-- They are on the connection. -/
  connection : s.1.connection = some name
  /-- The sessions are related. -/
  sessions : R s.2 t.2

variable {name : String} {R : Session σ → Session τ → Prop}

/-- A name that was chosen is configured when it has settings; the session stays as it is. -/
theorem configuredName_some (name : String) (s : Session σ) :
    Session.configuredName (some name) s =
      ((s.connections.getSettings name).map fun _ => name, s) := by
  have hbind : Session.configuredName (some name) s =
      ((Session.getSettings name : Act (Session σ) ConnectionSettings) >>= fun _ => pure name) s :=
    rfl
  rw [hbind, Act.bind_apply, Session.getSettings]
  cases s.connections.getSettings name with
  | ok settings => rfl
  | error e => rfl

/-- So it is that name. -/
theorem eq_of_configuredName {name chosen : String} {s : Session σ}
    (h : (Session.configuredName (some name) s).1 = .ok chosen) : chosen = name := by
  rw [configuredName_some] at h
  obtain ⟨settings, -, rfl⟩ := map_eq_ok_iff.mp h
  rfl

/-- What is alike in sessions is alike for executors. -/
theorem onSession_sim {act : Act (Session σ) α} {other : Act (Session τ) α}
    (h : Act.Sim R act other) : Act.Sim (Alike name R) (onSession act) (onSession other) :=
  h.within (fun _ _ hst => hst.sessions) fun _ _ _ _ hst huv =>
    ⟨hst.same, hst.connection, huv⟩

/-- A note that leaves the connection is made alike. -/
theorem note_sim {f : Executor → Executor} (hf : ∀ x, (f x).connection = x.connection) :
    Act.Sim (Alike name R) (note f : Act (Executor × Session σ) Unit) (note f) :=
  Act.Sim.change fun s _ hst =>
    ⟨congrArg f hst.same, (hf s.1).trans hst.connection, hst.sessions⟩

theorem pushLog_connection (x : Executor) (entry : LogEntry) :
    (x.pushLog entry).connection = x.connection := by
  unfold pushLog
  split <;> rfl

theorem noteSuccess_connection (success : Success) (x : Executor) :
    (x.noteSuccess success).connection = x.connection := pushLog_connection _ _

theorem noteFailure_connection (failure : Failure) (x : Executor) :
    (x.noteFailure failure).connection = x.connection := pushLog_connection _ _

/-- What is seen of the executor is the same. -/
theorem look_sim (view : Executor → α) :
    Act.Sim (Alike name R) (Act.look fun s : Executor × Session σ => view s.1)
      (Act.look fun t => view t.1) :=
  Act.Sim.look fun _ _ hst => congrArg view hst.same

/-- A chain in the session is a chain of executors. -/
theorem onSession_bind {ρ β : Type} (act : Act (Session σ) α) (next : α → Act (Session σ) β) :
    (onSession (act >>= next) : Act (ρ × Session σ) β) =
      (onSession act >>= fun a => onSession (next a)) := by
  unfold onSession
  refine Act.within_bind ?_ ?_ act next
  · exact fun _ _ => rfl
  · exact fun _ _ _ => rfl

/-- The guarded part of an attempt runs the statement and notes its success. -/
theorem execute_eq (around : Surroundings σ) (call : Call) (bound : List BoundValue)
    (fetchRows : Bool) :
    execute around call bound fetchRows =
      (onSession (Session.runBound around call.connection call.sql bound) >>= fun result => do
        let rows := if fetchRows then some (result.rows.getD []) else none
        let success : Success := ⟨call, result.rowCount⟩
        note fun x => x.noteSuccess success
        onOutside (around.hooks.notify (.afterQuery success rows))
        return (result, rows)) := by
  unfold execute Session.runBound onOutside
  simp only [onSession_bind, Act.bind_assoc]

variable {around : Surroundings σ} {other : Surroundings τ} {sql : String} {params : List Value}
  {bound : List BoundValue}

/-- A hook is called alike, whatever becomes of its answer. -/
theorem notify_sim (h : around.Sim name sql params R other) (call : HookCall) :
    Act.Sim (Alike name R) (onOutside (around.hooks.notify call))
      (onOutside (other.hooks.notify call)) :=
  onSession_sim (Session.notify_sim h.has h.hook call)

theorem execute_sim (h : around.Sim name sql params R other) {notes : List ParamNote}
    (hbound : BoundValue.ofValues params = .ok bound) (fetchRows : Bool) :
    Act.Sim (Alike name R) (execute around ⟨name, sql, notes⟩ bound fetchRows)
      (execute other ⟨name, sql, notes⟩ bound fetchRows) := by
  rw [execute_eq, execute_eq]
  refine (onSession_sim (h.execute bound hbound)).bind fun result => ?_
  refine (note_sim (noteSuccess_connection _)).bind fun _ => ?_
  exact (notify_sim h _).bind fun _ => Act.Sim.pure _

/-- An attempt is alike: its hooks, the statement itself and what is noted. -/
theorem attempt_sim (h : around.Sim name sql params R other) {notes : List ParamNote}
    (hbound : BoundValue.ofValues params = .ok bound) (fetchRows returnRows : Bool) :
    Act.Sim (Alike name R) (attempt around ⟨name, sql, notes⟩ bound fetchRows returnRows)
      (attempt other ⟨name, sql, notes⟩ bound fetchRows returnRows) := by
  refine (notify_sim h _).bind fun _ => ?_
  refine (execute_sim h hbound fetchRows).attempt.bind fun ended => ?_
  cases ended with
  | ok answer => exact Act.Sim.pure _
  | error e =>
    refine (note_sim (noteFailure_connection _)).bind fun _ => ?_
    exact (notify_sim h _).bind fun _ => Act.Sim.pure _

theorem giveUp_sim (returnRows retried : Bool) (failed : FailedAttempt) :
    Act.Sim (Alike name R) (giveUp returnRows retried failed)
      (giveUp returnRows retried failed) := by
  refine (look_sim fun x => x.errorMode).bind fun mode => ?_
  cases mode with
  | safe => exact Act.Sim.pure _
  | raise => exact Act.Sim.throw _

theorem askRetry_sim (h : around.Sim name sql params R other) (call : Call)
    (failed : FailedAttempt) :
    Act.Sim (Alike name R) (askRetry around call failed) (askRetry other call failed) := by
  unfold askRetry
  rw [h.has]
  refine Act.Sim.ite ?_ (Act.Sim.pure none)
  exact (onSession_sim (h.hook _)).bind fun answer => Act.Sim.ofExcept _

theorem pause_sim (h : around.Sim name sql params R other) (delay : Int) :
    Act.Sim (Alike name R) (pause around delay) (pause other delay) := by
  unfold pause
  refine Act.Sim.ite ?_ (Act.Sim.pure ())
  exact (Act.Sim.ofExcept (seconds delay)).bind fun time => onSession_sim (h.sleep time)

/-- Further attempts are alike, by induction on how many are left. -/
theorem retry_sim (h : around.Sim name sql params R other) {notes : List ParamNote}
    (hbound : BoundValue.ofValues params = .ok bound) (fetchRows returnRows : Bool) (delay : Int)
    (left : Nat) (last : FailedAttempt) :
    Act.Sim (Alike name R)
      (retry around ⟨name, sql, notes⟩ bound fetchRows returnRows delay left last)
      (retry other ⟨name, sql, notes⟩ bound fetchRows returnRows delay left last) := by
  induction left generalizing last with
  | zero => exact giveUp_sim returnRows true last
  | succ left ih =>
    refine (pause_sim h delay).bind fun _ => ?_
    refine (attempt_sim h hbound fetchRows returnRows).bind fun ended => ?_
    cases ended with
    | ok outcome => exact Act.Sim.pure outcome
    | error again => exact ih again

/-- A run on the connection is alike. -/
theorem run_sim (h : around.Sim name sql params R other) (returnRows : Bool) :
    Act.Sim (Alike name R) (run around sql params returnRows)
      (run other sql params returnRows) := by
  refine (note_sim (f := clearLast) fun x => rfl).bind fun _ => ?_
  refine (Act.Sim.ofExcept (BoundValue.ofValues params)).bindOk fun bound _ _ _ hbound => ?_
  refine (look_sim fun x => x.connection).bindOk fun chosen s _ hst hchosen => ?_
  have hname : s.1.connection = chosen := Except.ok.inj hchosen
  -- Both executors are on the connection, so what they go on to ask for is alike.
  obtain rfl : some name = chosen := hst.connection.symm.trans hname
  refine (onSession_sim h.configured).bindOk fun chosen s _ _ hchosen => ?_
  obtain rfl : chosen = name := eq_of_configuredName hchosen
  refine (Act.Sim.ofExcept _).bind fun _ => ?_
  refine (attempt_sim h hbound returnRows returnRows).bind fun ended => ?_
  cases ended with
  | ok outcome => exact Act.Sim.pure outcome
  | error failed =>
    refine (askRetry_sim h _ failed).bind fun decision => ?_
    cases decision with
    | none => exact giveUp_sim returnRows false failed
    | some decision => exact retry_sim h hbound _ returnRows _ _ failed

end Executor

end BoundSql
