import BoundSql.Proofs.Attempts
import BoundSql.Proofs.Parallel

/-!
# Durations

An executor reads a clock when an attempt begins and again when it has ended. How long that took is
noted with the statement, told to the hooks and shown in the error of a failure. Here executors run
with a clock. What the clock shows and how two readings make a duration is up to the world outside,
and hooks may do with a duration what they like. Where they do not look at it, a run ends as it does
without a clock and leaves the same behind.
-/

namespace BoundSql

variable {σ τ δ α : Type}

/-- An executor with the durations that it notes of its last statement. The log keeps entries
without them. -/
structure Timed (δ : Type) where
  /-- The executor. -/
  executor : Executor
  /-- How long the last statement took until it failed, if it failed. -/
  errorDuration : Option δ := none
  /-- How long the last statement took. -/
  queryDuration : Option δ := none

/-- A failed attempt with its duration. -/
structure TimedFailure (δ : Type) extends FailedAttempt where
  /-- How long it took. -/
  duration : δ

namespace Timed

/-- What a caller gets from attempts to run a statement. -/
inductive Verdict (δ : Type) where
  /-- An outcome. -/
  | returned (outcome : Outcome)
  /-- The error of a failure for good, with all that it shows of the failed attempt. -/
  | raised (retried : Bool) (failed : TimedFailure δ)

/-- The verdict without a duration. -/
def Verdict.result : Verdict δ → Except Error Outcome
  | .returned outcome => .ok outcome
  | .raised retried failed => .error (.queryFailed retried failed.failure failed.error)

/-- Forgets the durations. -/
def forget (x : Timed δ) : Timed δ := { x with errorDuration := none, queryDuration := none }

/-- Notes a success. -/
def noteSuccess (success : Success) (duration : δ) (x : Timed δ) : Timed δ where
  executor := x.executor.noteSuccess success
  errorDuration := none
  queryDuration := some duration

/-- Notes a failure. -/
def noteFailure (failure : Failure) (duration : δ) (x : Timed δ) : Timed δ where
  executor := x.executor.noteFailure failure
  errorDuration := some duration
  queryDuration := some duration

/-- Changes what is noted. -/
def note (f : Timed δ → Timed δ) : Act (Timed δ × Session σ) Unit :=
  Act.change fun s => (f s.1, s.2)

/-- Does something with the executor. -/
def onExecutor (act : Act (Executor × Session σ) α) : Act (Timed δ × Session σ) α :=
  Act.within (fun s => (s.1.executor, s.2)) (fun u s => ({ s.1 with executor := u.1 }, u.2)) act

/-- A chain of executors is a chain of those with durations. -/
theorem onExecutor_bind {β : Type} (act : Act (Executor × Session σ) α)
    (next : α → Act (Executor × Session σ) β) :
    (onExecutor (act >>= next) : Act (Timed δ × Session σ) β) =
      (onExecutor act >>= fun a => onExecutor (next a)) := by
  unfold onExecutor
  refine Act.within_bind ?_ ?_ act next
  · exact fun _ _ => rfl
  · exact fun _ _ _ => rfl

/-- What a statement came to: whether it was tried again, and an outcome or the last failure. -/
structure Settled (δ : Type) where
  /-- Further attempts were made. -/
  retried : Bool
  /-- What the last attempt ended with. -/
  ended : Except (TimedFailure δ) Outcome

/-- What that means for the caller. -/
def Settled.verdict (settled : Settled δ) (mode : ErrorMode) (returnRows : Bool) : Verdict δ :=
  match settled.ended with
  | .ok outcome => .returned outcome
  | .error failed =>
    match mode with
    | .safe => .returned (Executor.neutral returnRows)
    | .raise => .raised settled.retried failed

end Timed

/-- A world with a clock, and hooks that are told how long an attempt took. -/
structure Timekeeping (σ δ : Type) where
  /-- Everything outside a session. -/
  around : Surroundings σ
  /-- Reads the clock. -/
  read : σ → δ × σ
  /-- The duration between two readings. -/
  lapse : δ → δ → δ
  /-- Calls a hook, with the duration of the attempt once it has ended. -/
  tell : HookCall → Option δ → Act σ Value

namespace Timekeeping

open Executor (onSession onOutside)

section Runs

variable (t : Timekeeping σ δ)

/-- Reads the clock. -/
def now : Act (Timed δ × Session σ) δ := onOutside fun s => (.ok (t.read s).1, (t.read s).2)

/-- The duration since a reading. -/
def since (start : δ) : Act (Timed δ × Session σ) δ := do
  return t.lapse start (← t.now)

/-- Calls a hook if there is one and ignores its answer. -/
def notify (call : HookCall) (duration : Option δ) : Act (Timed δ × Session σ) Unit :=
  if t.around.hooks.has call.point then do
    let _ ← onOutside (t.tell call duration)
    return ()
  else pure ()

/-- Runs a statement once and calls the hook after it; everything here is guarded. -/
def execute (call : Call) (bound : List BoundValue) (fetchRows : Bool) (start : δ) :
    Act (Timed δ × Session σ) (StatementResult × Option (List Row)) := do
  let result ← onSession (Session.runBound t.around call.connection call.sql bound)
  let duration ← t.since start
  let rows := if fetchRows then some (result.rows.getD []) else none
  let success : Success := ⟨call, result.rowCount⟩
  Timed.note (Timed.noteSuccess success duration)
  t.notify (.afterQuery success rows) (some duration)
  return (result, rows)

/-- Makes one attempt. -/
def attempt (call : Call) (bound : List BoundValue) (fetchRows returnRows : Bool) :
    Act (Timed δ × Session σ) (Except (TimedFailure δ) Outcome) := do
  let start ← t.now
  t.notify (.beforeQuery call) none
  match ← Act.attempt (t.execute call bound fetchRows start) with
  | .ok (result, rows) =>
    return .ok (if returnRows then .rows (rows.getD []) else .count result.rowCount)
  | .error e => do
    let duration ← t.since start
    let failure : Failure := ⟨call, e.message, e.kind⟩
    Timed.note (Timed.noteFailure failure duration)
    t.notify (.onError failure) (some duration)
    return .error ⟨⟨e, failure⟩, duration⟩

/-- Asks the hook that decides about retries. -/
def askRetry (call : Call) (failed : TimedFailure δ) :
    Act (Timed δ × Session σ) (Option RetryDecision) := do
  if t.around.hooks.has .retryDecider then
    let question := HookCall.retryDecider call failed.error failed.failure
    let answer ← onOutside (t.tell question (some failed.duration))
    Act.ofExcept (Executor.readDecision answer)
  else return none

/-- Further attempts, and what they came to. -/
def tries (call : Call) (bound : List BoundValue) (fetchRows returnRows : Bool) (delay : Int) :
    Nat → TimedFailure δ → Act (Timed δ × Session σ) (Except (TimedFailure δ) Outcome)
  | 0, last => return .error last
  | left + 1, _ => do
    Timed.onExecutor (Executor.pause t.around delay)
    match ← t.attempt call bound fetchRows returnRows with
    | .ok outcome => return .ok outcome
    | .error again => tries call bound fetchRows returnRows delay left again

/-- All attempts, and what they came to. -/
def settle (call : Call) (bound : List BoundValue) (returnRows : Bool) :
    Act (Timed δ × Session σ) (Timed.Settled δ) := do
  match ← t.attempt call bound returnRows returnRows with
  | .ok outcome => return ⟨false, .ok outcome⟩
  | .error failed => do
    match ← t.askRetry call failed with
    | none => return ⟨false, .error failed⟩
    | some decision => do
      let ended ← t.tries call bound (decision.fetchRows.getD returnRows) returnRows
        decision.delay decision.retries failed
      return ⟨true, ended⟩

/-- What is checked before anything is sent. -/
def opening (sql : String) (params : List Value) :
    Act (Timed δ × Session σ) (Call × List BoundValue) := do
  Timed.note Timed.forget
  Timed.onExecutor (Executor.opening sql params)

/-- Runs a statement. -/
def run (sql : String) (params : List Value) (returnRows : Bool) :
    Act (Timed δ × Session σ) (Timed.Verdict δ) := do
  let (call, bound) ← opening sql params
  let settled ← t.settle call bound returnRows
  let mode ← Act.look fun s => s.1.executor.errorMode
  return settled.verdict mode returnRows

end Runs

/-! ## Runs side by side -/

/-- Two worlds with clocks that show the same and hooks that are told the same. -/
structure Parallel (Q : σ → τ → Prop) (t : Timekeeping σ δ) (u : Timekeeping τ δ) : Prop where
  /-- Everything outside is alike. -/
  around : t.around.Parallel Q u.around
  /-- The clocks show the same. -/
  read : ∀ s v, Q s v → (u.read v).1 = (t.read s).1 ∧ Q (t.read s).2 (u.read v).2
  /-- Readings make the same durations. -/
  lapse : u.lapse = t.lapse
  /-- Hooks are called alike with a duration. -/
  tell : ∀ call duration, Act.Sim Q (t.tell call duration) (u.tell call duration)

end Timekeeping

open Session (Beside)

variable {Q : σ → τ → Prop}

/-- What is alike in sessions is alike beside them. -/
theorem Executor.onSession_parallel {ρ : Type} {act : Act (Session σ) α}
    {later : Act (Session τ) α} (h : Act.Sim (Session.Parallel Q) act later) :
    Act.Sim (Beside (ρ := ρ) Q) (onSession act) (onSession later) :=
  h.within (fun _ _ hst => hst.sessions) fun _ _ _ _ hst huv => ⟨hst.same, huv⟩

/-- What is checked before anything is sent is alike. -/
theorem Executor.opening_parallel (sql : String) (params : List Value) :
    Act.Sim (Beside Q) (opening sql params : Act (Executor × Session σ) _)
      (opening sql params : Act (Executor × Session τ) _) := by
  refine (Act.Sim.change fun s t hst => ⟨congrArg clearLast hst.same, hst.sessions⟩).bind
    fun _ => ?_
  refine (Act.Sim.ofExcept _).bind fun bound => ?_
  refine (Act.Sim.look fun s t hst => congrArg Executor.connection hst.same).bind fun chosen => ?_
  have hname : Act.Sim (Session.Parallel Q) (Session.configuredName chosen)
      (Session.configuredName chosen) :=
    (Session.chosenName_parallel chosen).bind fun name =>
      (Session.getSettings_parallel name).bind fun _ => Act.Sim.pure name
  refine (onSession_parallel hname).bind fun name => ?_
  exact (Act.Sim.ofExcept _).bind fun _ => Act.Sim.pure _

/-- Waiting is alike. -/
theorem Executor.pause_parallel {around : Surroundings σ} {other : Surroundings τ}
    (h : around.Parallel Q other) (delay : Int) :
    Act.Sim (Beside Q) (pause around delay) (pause other delay) := by
  unfold pause
  refine Act.Sim.ite ?_ (Act.Sim.pure ())
  refine (Act.Sim.ofExcept _).bind fun time => ?_
  exact onSession_parallel (Session.onOutside_parallel (h.sleep time))

namespace Timed

/-- Notes are changed alike. -/
theorem note_parallel (f : Timed δ → Timed δ) :
    Act.Sim (Beside Q) (note f : Act (Timed δ × Session σ) Unit)
      (note f : Act (Timed δ × Session τ) Unit) :=
  Act.Sim.change fun _ _ hst => ⟨congrArg f hst.same, hst.sessions⟩

/-- What is alike for executors is alike for those with durations. -/
theorem onExecutor_parallel {act : Act (Executor × Session σ) α}
    {later : Act (Executor × Session τ) α} (h : Act.Sim (Beside Q) act later) :
    Act.Sim (Beside Q) (onExecutor act : Act (Timed δ × Session σ) α) (onExecutor later) := by
  refine h.within (fun s t hst => ⟨congrArg Timed.executor hst.same, hst.sessions⟩) ?_
  intro s t u v hst huv
  refine ⟨?_, huv.sessions⟩
  rw [hst.same, huv.same]

end Timed

namespace Timekeeping

section Alike

variable {t : Timekeeping σ δ} {u : Timekeeping τ δ} (h : t.Parallel Q u)
include h

theorem now_parallel : Act.Sim (Beside Q) t.now u.now := by
  have hread : Act.Sim Q (fun s => (.ok (t.read s).1, (t.read s).2) : Act σ δ)
      fun v => (.ok (u.read v).1, (u.read v).2) := fun s v hsv =>
    ⟨congrArg Except.ok (h.read s v hsv).1, (h.read s v hsv).2⟩
  exact Executor.onSession_parallel (Session.onOutside_parallel hread)

theorem since_parallel (start : δ) : Act.Sim (Beside Q) (t.since start) (u.since start) := by
  unfold since
  rw [h.lapse]
  exact (now_parallel h).bind fun _ => Act.Sim.pure _

theorem notify_parallel (call : HookCall) (duration : Option δ) :
    Act.Sim (Beside Q) (t.notify call duration) (u.notify call duration) := by
  unfold notify
  rw [h.around.has]
  refine Act.Sim.ite ?_ (Act.Sim.pure ())
  have htell := Session.onOutside_parallel (h.tell call duration)
  exact (Executor.onSession_parallel htell).bind fun _ => Act.Sim.pure ()

theorem execute_parallel (call : Call) (bound : List BoundValue) (fetchRows : Bool) (start : δ) :
    Act.Sim (Beside Q) (t.execute call bound fetchRows start)
      (u.execute call bound fetchRows start) := by
  have hrun := Session.runBound_sim (Session.statement_parallel h.around call.connection call.sql)
    (fun _ => Session.update_parallel _)
    (fun statement => Session.onOutside_parallel (h.around.execute statement)) bound
  refine (Executor.onSession_parallel hrun).bind fun result => ?_
  refine (since_parallel h start).bind fun duration => ?_
  refine (Timed.note_parallel _).bind fun _ => ?_
  exact (notify_parallel h _ _).bind fun _ => Act.Sim.pure _

theorem attempt_parallel (call : Call) (bound : List BoundValue) (fetchRows returnRows : Bool) :
    Act.Sim (Beside Q) (t.attempt call bound fetchRows returnRows)
      (u.attempt call bound fetchRows returnRows) := by
  refine (now_parallel h).bind fun start => ?_
  refine (notify_parallel h _ _).bind fun _ => ?_
  refine (execute_parallel h call bound fetchRows start).attempt.bind fun ended => ?_
  cases ended with
  | ok answer => exact Act.Sim.pure _
  | error e =>
    refine (since_parallel h start).bind fun duration => ?_
    refine (Timed.note_parallel _).bind fun _ => ?_
    exact (notify_parallel h _ _).bind fun _ => Act.Sim.pure _

theorem askRetry_parallel (call : Call) (failed : TimedFailure δ) :
    Act.Sim (Beside Q) (t.askRetry call failed) (u.askRetry call failed) := by
  unfold askRetry
  rw [h.around.has]
  refine Act.Sim.ite ?_ (Act.Sim.pure none)
  have htell := Session.onOutside_parallel (h.tell
    (.retryDecider call failed.error failed.failure) (some failed.duration))
  exact (Executor.onSession_parallel htell).bind fun answer => Act.Sim.ofExcept _

/-- Further attempts are alike, by induction on how many are left. -/
theorem tries_parallel (call : Call) (bound : List BoundValue) (fetchRows returnRows : Bool)
    (delay : Int) (left : Nat) (last : TimedFailure δ) :
    Act.Sim (Beside Q) (t.tries call bound fetchRows returnRows delay left last)
      (u.tries call bound fetchRows returnRows delay left last) := by
  induction left generalizing last with
  | zero => exact Act.Sim.pure _
  | succ left ih =>
    refine (Timed.onExecutor_parallel (Executor.pause_parallel h.around delay)).bind fun _ => ?_
    refine (attempt_parallel h call bound fetchRows returnRows).bind fun ended => ?_
    cases ended with
    | ok outcome => exact Act.Sim.pure _
    | error again => exact ih again

theorem settle_parallel (call : Call) (bound : List BoundValue) (returnRows : Bool) :
    Act.Sim (Beside Q) (t.settle call bound returnRows) (u.settle call bound returnRows) := by
  refine (attempt_parallel h call bound returnRows returnRows).bind fun ended => ?_
  cases ended with
  | ok outcome => exact Act.Sim.pure _
  | error failed =>
    refine (askRetry_parallel h call failed).bind fun decision => ?_
    cases decision with
    | none => exact Act.Sim.pure _
    | some decision =>
      exact (tries_parallel h call bound _ returnRows _ _ failed).bind fun _ => Act.Sim.pure _

/-- A run is alike. -/
theorem run_parallel (sql : String) (params : List Value) (returnRows : Bool) :
    Act.Sim (Beside Q) (t.run sql params returnRows) (u.run sql params returnRows) := by
  have hopening : Act.Sim (Beside Q) (opening sql params : Act (Timed δ × Session σ) _)
      (opening sql params : Act (Timed δ × Session τ) _) :=
    (Timed.note_parallel _).bind fun _ =>
      Timed.onExecutor_parallel (Executor.opening_parallel sql params)
  refine hopening.bind fun opened => ?_
  refine (settle_parallel h opened.1 opened.2 returnRows).bind fun settled => ?_
  have hmode : Act.Sim (Beside Q)
      (Act.look fun s : Timed δ × Session σ => s.1.executor.errorMode)
      (Act.look fun s : Timed δ × Session τ => s.1.executor.errorMode) :=
    Act.Sim.look fun s t hst => congrArg (fun x : Timed δ => x.executor.errorMode) hst.same
  exact hmode.bind fun mode => Act.Sim.pure _

end Alike

end Timekeeping

/-! ## Runs without a clock -/

/-- What only the first of two actions does may come first, if it never fails. -/
theorem Act.Linked.ahead {σ τ α β γ : Type} {R : σ → τ → Prop} {V : β → γ → Prop} {act : Act σ α}
    {next : α → Act σ β} {other : Act τ γ}
    (h : Act.Triple (fun s => ∃ v, R s v) act (fun _ _ => True) fun _ => False)
    (hkept : ∀ s v, R s v → R (act s).2 v) (hnext : ∀ a, Act.Linked R V (next a) other) :
    Act.Linked R V (act >>= next) other := by
  intro s v hsv
  have hends := h s ⟨v, hsv⟩
  have hstate := hkept s v hsv
  rw [Act.bind_apply]
  generalize act s = ended at hends hstate
  obtain ⟨result, u⟩ := ended
  cases result with
  | ok a => exact hnext a u v hstate
  | error e => exact hends.elim

namespace Timed

/-- An executor with durations beside the same one without. -/
structure Erased (Q : σ → τ → Prop) (s : Timed δ × Session σ) (v : Executor × Session τ) :
    Prop where
  /-- The executor is the same. -/
  executor : v.1 = s.1.executor
  /-- The sessions are side by side. -/
  sessions : Session.Parallel Q s.2 v.2

/-- The end of an attempt without its duration. -/
def plainEnd : Except (TimedFailure δ) Outcome → Except FailedAttempt Outcome :=
  Except.mapError TimedFailure.toFailedAttempt

/-- A settled statement without its duration. -/
def Settled.plain (settled : Settled δ) : Executor.Settled :=
  ⟨settled.retried, plainEnd settled.ended⟩

/-- Without a duration the verdict is what becomes of the settled statement. -/
theorem Settled.result_verdict (settled : Settled δ) (mode : ErrorMode) (returnRows : Bool) :
    (settled.verdict mode returnRows).result =
      Executor.concluded mode returnRows settled.plain := by
  obtain ⟨retried, ended⟩ := settled
  cases ended with
  | ok outcome => rfl
  | error failed =>
    cases mode with
    | safe => rfl
    | raise => rfl

theorem onSession_erased {act : Act (Session σ) α} {later : Act (Session τ) α}
    (h : Act.Sim (Session.Parallel Q) act later) :
    Act.Sim (Erased Q) (Executor.onSession act : Act (Timed δ × Session σ) α)
      (Executor.onSession later) :=
  h.within (fun _ _ hst => hst.sessions) fun _ _ _ _ hst huv => ⟨hst.executor, huv⟩

theorem onExecutor_erased {act : Act (Executor × Session σ) α}
    {later : Act (Executor × Session τ) α} (h : Act.Sim (Beside Q) act later) :
    Act.Sim (Erased Q) (onExecutor act : Act (Timed δ × Session σ) α) later := by
  intro s v hsv
  obtain ⟨hresult, hended⟩ := h (s.1.executor, s.2) v ⟨hsv.executor, hsv.sessions⟩
  exact ⟨hresult, hended.same, hended.sessions⟩

/-- What is noted with a duration is noted without. -/
theorem note_erased {f : Timed δ → Timed δ} {g : Executor → Executor}
    (h : ∀ x, (f x).executor = g x.executor) :
    Act.Sim (Erased Q) (note f : Act (Timed δ × Session σ) Unit)
      (Executor.note g : Act (Executor × Session τ) Unit) := by
  refine Act.Sim.change fun s v hsv => ⟨?_, hsv.sessions⟩
  rw [h, hsv.executor]

end Timed

namespace Timekeeping

open Timed (Erased)

/-- A world with a clock beside one without: hooks do not look at durations, and reading the clock
does nothing else. -/
structure Untimed (Q : σ → τ → Prop) (t : Timekeeping σ δ) (other : Surroundings τ) : Prop where
  /-- Everything outside is alike. -/
  around : t.around.Parallel Q other
  /-- Reading the clock does nothing else. -/
  read : ∀ s v, Q s v → Q (t.read s).2 v
  /-- Hooks are called with a duration as they are without. -/
  tell : ∀ call duration, Act.Sim Q (t.tell call duration) (other.hooks.call call)

section Erasure

variable {t : Timekeeping σ δ} {other : Surroundings τ} (h : t.Untimed Q other)
include h

/-- A duration is taken without anything else being done. -/
theorem since_erased {β γ : Type} {V : β → γ → Prop} {start : δ}
    {next : δ → Act (Timed δ × Session σ) β} {later : Act (Executor × Session τ) γ}
    (hnext : ∀ duration, Act.Linked (Erased Q) V (next duration) later) :
    Act.Linked (Erased Q) V (t.since start >>= next) later := by
  refine Act.Linked.ahead (fun _ _ => trivial) (fun s v hsv => ?_) hnext
  exact ⟨hsv.executor, hsv.sessions.connections, h.read _ _ hsv.sessions.outside⟩

theorem notify_erased (call : HookCall) (duration : Option δ) :
    Act.Sim (Erased Q) (t.notify call duration)
      (Executor.onOutside (other.hooks.notify call)) := by
  unfold notify Hooks.notify
  rw [h.around.has]
  split
  · have hcall := Timed.onSession_erased (δ := δ)
      (Session.onOutside_parallel (h.tell call duration))
    unfold Executor.onOutside
    rw [Session.onOutside_bind, Executor.onSession_bind]
    exact hcall.bind fun _ => Act.Sim.pure ()
  · exact Act.Sim.pure ()

theorem execute_erased (call : Call) (bound : List BoundValue) (fetchRows : Bool) (start : δ) :
    Act.Sim (Erased Q) (t.execute call bound fetchRows start)
      (Executor.execute other call bound fetchRows) := by
  rw [Executor.execute_eq]
  have hrun := Session.runBound_sim (Session.statement_parallel h.around call.connection call.sql)
    (fun _ => Session.update_parallel _)
    (fun statement => Session.onOutside_parallel (h.around.execute statement)) bound
  refine Act.linked_eq_iff.mp (Act.Linked.afterSim (Timed.onSession_erased hrun) fun result => ?_)
  refine since_erased h fun duration => ?_
  refine Act.linked_eq_iff.mpr ((Timed.note_erased fun _ => rfl).bind fun _ => ?_)
  exact (notify_erased h _ _).bind fun _ => Act.Sim.pure _

theorem attempt_erased (call : Call) (bound : List BoundValue) (fetchRows returnRows : Bool) :
    Act.Linked (Erased Q) (fun ended plain => plain = Timed.plainEnd ended)
      (t.attempt call bound fetchRows returnRows)
      (Executor.attempt other call bound fetchRows returnRows) := by
  refine Act.Linked.ahead (fun _ _ => trivial) (fun s v hsv => ?_) fun start => ?_
  · exact ⟨hsv.executor, hsv.sessions.connections, h.read _ _ hsv.sessions.outside⟩
  refine Act.Linked.afterSim (notify_erased h _ _) fun _ => ?_
  refine Act.Linked.afterSim (execute_erased h call bound fetchRows start).attempt fun ended => ?_
  cases ended with
  | ok answer => exact Act.Linked.pure rfl
  | error e =>
    refine since_erased h fun duration => ?_
    refine Act.Linked.afterSim (Timed.note_erased fun _ => rfl) fun _ => ?_
    exact Act.Linked.afterSim (notify_erased h _ _) fun _ => Act.Linked.pure rfl

theorem askRetry_erased (call : Call) (failed : TimedFailure δ) :
    Act.Sim (Erased Q) (t.askRetry call failed)
      (Executor.askRetry other call failed.toFailedAttempt) := by
  unfold askRetry Executor.askRetry
  rw [h.around.has]
  refine Act.Sim.ite ?_ (Act.Sim.pure none)
  have htell := Session.onOutside_parallel (h.tell
    (.retryDecider call failed.error failed.failure) (some failed.duration))
  exact (Timed.onSession_erased htell).bind fun answer => Act.Sim.ofExcept _

/-- Further attempts end as they do without a clock, by induction on how many are left. -/
theorem tries_erased (call : Call) (bound : List BoundValue) (fetchRows returnRows : Bool)
    (delay : Int) (left : Nat) (last : TimedFailure δ) :
    Act.Linked (Erased Q) (fun ended plain => plain = Timed.plainEnd ended)
      (t.tries call bound fetchRows returnRows delay left last)
      (Executor.tries other call bound fetchRows returnRows delay left last.toFailedAttempt) := by
  induction left generalizing last with
  | zero => exact Act.Linked.pure rfl
  | succ left ih =>
    have hpause := Executor.pause_parallel h.around delay
    refine Act.Linked.afterSim (Timed.onExecutor_erased hpause) fun _ => ?_
    refine (attempt_erased h call bound fetchRows returnRows).bind fun ended plain hplain => ?_
    subst hplain
    cases ended with
    | ok outcome => exact Act.Linked.pure rfl
    | error again => exact ih again

theorem settle_erased (call : Call) (bound : List BoundValue) (returnRows : Bool) :
    Act.Linked (Erased Q) (fun settled plain => plain = settled.plain)
      (t.settle call bound returnRows) (Executor.settle other call bound returnRows) := by
  refine (attempt_erased h call bound returnRows returnRows).bind fun ended plain hplain => ?_
  subst hplain
  cases ended with
  | ok outcome => exact Act.Linked.pure rfl
  | error failed =>
    refine Act.Linked.afterSim (askRetry_erased h call failed) fun decision => ?_
    cases decision with
    | none => exact Act.Linked.pure rfl
    | some decision =>
      refine (tries_erased h call bound _ returnRows _ _ failed).bind fun ended plain hplain => ?_
      subst hplain
      exact Act.Linked.pure rfl

/-- A run ends as it does without a clock, and what it leaves differs in nothing but durations. -/
theorem run_erased (sql : String) (params : List Value) (returnRows : Bool) :
    Act.Sim (Erased Q) (do Act.ofExcept (← t.run sql params returnRows).result)
      (Executor.run other sql params returnRows) := by
  have hopening : Act.Sim (Erased Q) (opening sql params : Act (Timed δ × Session σ) _)
      (Executor.opening sql params) := by
    refine Act.linked_eq_iff.mp (Act.Linked.ahead (fun _ _ => trivial) (fun s v hsv => ?_)
      fun _ => Act.linked_eq_iff.mpr ?_)
    · exact ⟨hsv.executor, hsv.sessions⟩
    · exact Timed.onExecutor_erased (Executor.opening_parallel sql params)
  have hrun : (do Act.ofExcept (← t.run sql params returnRows).result :
        Act (Timed δ × Session σ) Outcome) =
      (opening sql params >>= fun opened =>
        t.settle opened.1 opened.2 returnRows >>= fun settled => do
          let mode ← Act.look fun s => s.1.executor.errorMode
          Act.ofExcept (settled.verdict mode returnRows).result) := by
    simp only [run, Act.bind_assoc, Act.pure_bind]
  rw [hrun, Executor.run_eq, Executor.ending, Act.bind_assoc]
  refine Act.linked_eq_iff.mp (Act.Linked.afterSim hopening fun opened => ?_)
  refine (settle_erased h opened.1 opened.2 returnRows).bind fun settled plain hplain => ?_
  subst hplain
  refine Act.linked_eq_iff.mpr fun s v hsv => ?_
  rw [Executor.conclude_apply, Act.bind_of_ok (Act.look_apply _ _), Act.ofExcept_apply,
    Timed.Settled.result_verdict, hsv.executor]
  exact ⟨rfl, hsv⟩

end Erasure

end Timekeeping

/-! ## Any world beside any clock -/

/-- Does something beside a state that stays as it is. -/
def Act.alongside {κ : Type} (act : Act σ α) : Act (σ × κ) α :=
  Act.within Prod.fst (fun t s => (t, s.2)) act

theorem Act.alongside_sim {κ : Type} (act : Act σ α) :
    Act.Sim (fun s v => v = s.1) (act.alongside (κ := κ)) act := by
  rintro s v rfl
  exact ⟨rfl, rfl⟩

/-- The same surroundings beside a state that stays as it is. -/
def Surroundings.alongside (κ : Type) (around : Surroundings σ) : Surroundings (σ × κ) where
  driver :=
    { connect := fun kind settings => (around.driver.connect kind settings).alongside
      dialectName := fun handle s => around.driver.dialectName handle s.1
      prepare := fun handle sql => (around.driver.prepare handle sql).alongside
      execute := fun p => (around.driver.execute p).alongside
      start := fun handle => (around.driver.start handle).alongside
      commit := fun handle => (around.driver.commit handle).alongside
      rollback := fun handle => (around.driver.rollback handle).alongside
      command := fun handle sql => (around.driver.command handle sql).alongside
      insertId := fun handle s => around.driver.insertId handle s.1
      close := fun handle => (around.driver.close handle).alongside }
  hooks := ⟨around.hooks.has, fun call => (around.hooks.call call).alongside⟩
  sleep time := (around.sleep time).alongside
  adapters := around.adapters

theorem Surroundings.alongside_parallel (κ : Type) (around : Surroundings σ) :
    (around.alongside κ).Parallel (fun s v => v = s.1) around where
  connect _ _ := Act.alongside_sim _
  dialectName := by
    rintro handle s v rfl
    rfl
  prepare _ _ := Act.alongside_sim _
  execute _ := Act.alongside_sim _
  start _ := Act.alongside_sim _
  commit _ := Act.alongside_sim _
  rollback _ := Act.alongside_sim _
  command _ _ := Act.alongside_sim _
  insertId := by
    rintro handle s v rfl
    rfl
  close _ := Act.alongside_sim _
  has := rfl
  hook _ := Act.alongside_sim _
  sleep _ := Act.alongside_sim _
  adapters := rfl

/-- Surroundings beside a clock. Their hooks do not look at durations. -/
def Surroundings.clocked {κ : Type} (around : Surroundings σ) (read : κ → δ × κ)
    (lapse : δ → δ → δ) : Timekeeping (σ × κ) δ where
  around := around.alongside κ
  read s := ((read s.2).1, (s.1, (read s.2).2))
  lapse := lapse
  tell call _ := (around.hooks.call call).alongside

theorem Surroundings.clocked_untimed {κ : Type} (around : Surroundings σ) (read : κ → δ × κ)
    (lapse : δ → δ → δ) : (around.clocked read lapse).Untimed (fun s v => v = s.1) around where
  around := around.alongside_parallel κ
  read _ _ hsv := hsv
  tell _ _ := Act.alongside_sim _

/-- Beside any clock a run ends as it does without, and leaves the same executor, the same
connections and the same world. -/
theorem Executor.run_clocked {κ : Type} (around : Surroundings σ) (read : κ → δ × κ)
    (lapse : δ → δ → δ) (x : Timed δ) (s : Session (σ × κ)) (sql : String) (params : List Value)
    (returnRows : Bool) :
    let ended := (around.clocked read lapse).run sql params returnRows (x, s)
    run around sql params returnRows (x.executor, ⟨s.connections, s.outside.1⟩) =
      (ended.1.bind Timed.Verdict.result, ended.2.1.executor,
        ⟨ended.2.2.connections, ended.2.2.outside.1⟩) := by
  have hstart : Timed.Erased (fun (s : σ × κ) v => v = s.1) (x, s)
      (x.executor, ⟨s.connections, s.outside.1⟩) := ⟨rfl, rfl, rfl⟩
  have hsim := Timekeeping.run_erased (around.clocked_untimed read lapse) sql params returnRows
    _ _ hstart
  generalize run around sql params returnRows (x.executor, ⟨s.connections, s.outside.1⟩) = plain
    at hsim ⊢
  obtain ⟨plainResult, y, connections, outside⟩ := plain
  generalize hrun : (around.clocked read lapse).run sql params returnRows (x, s) = ended at hsim ⊢
  obtain ⟨result, t⟩ := ended
  cases result with
  | ok verdict =>
    rw [Act.bind_of_ok hrun] at hsim
    obtain ⟨rfl, rfl, rfl, rfl⟩ := hsim
    rfl
  | error e =>
    rw [Act.bind_of_error hrun] at hsim
    obtain ⟨rfl, rfl, rfl, rfl⟩ := hsim
    rfl

end BoundSql
