import BoundSql.Proofs.LastError
import BoundSql.Proofs.Serving
import BoundSql.Proofs.Timing

/-!
# Reports of failures

How a statement ended is reported in many places: to the hooks, in what an executor notes of its
last statement, and in the error that the caller gets. Here everything that hooks are told of
attempts is entered in a list, with what the database answered. Each attempt tells its own part of
the list, and after a run all reports are about the last attempt.
-/

namespace BoundSql

variable {σ δ α β : Type}

/-- Something that is told to a hook or answered by a database. -/
inductive Entry (δ : Type) where
  /-- A hook was called, with a duration if there was one. -/
  | told (call : HookCall) (duration : Option δ) (ended : Except Error Value)
  /-- A statement was sent and answered. -/
  | answered (ended : Except Error StatementResult)

/-- How an attempt ended. -/
inductive Conclusion (δ : Type) where
  /-- It succeeded. -/
  | succeeded (success : Success) (duration : δ)
  /-- It failed. -/
  | failed (last : TimedFailure δ)

namespace Conclusion

/-- What an executor has noted is how an attempt ended: the whole of a success, or a failure twice
with the same duration. -/
def NotedBy : Conclusion δ → Timed δ → Prop
  | .succeeded success duration, x =>
    x.executor.lastError = none ∧ x.errorDuration = none ∧
      x.executor.lastQuery = some (.succeeded success) ∧ x.queryDuration = some duration
  | .failed last, x =>
    x.executor.lastError = some last.failure ∧ x.errorDuration = some last.duration ∧
      x.executor.lastQuery = some (.failed last.failure.call.sql last.failure.call.params) ∧
      x.queryDuration = some last.duration

end Conclusion

/-! ## What is told in attempts -/

section Telling

variable (has : HookPoint → Bool) (call : Call)

/-- A hook is called once and returns, if there is one. -/
def Returned (question : HookCall) (duration : Option δ) (entries : List (Entry δ)) : Prop :=
  if has question.point then ∃ answer, entries = [.told question duration (.ok answer)]
  else entries = []

/-- What is told until an attempt fails: nothing is answered, or an error, or something that the
hook behind a success protests against. -/
inductive Failing (e : Error) : List (Entry δ) → Prop
  /-- Nothing was answered. -/
  | unsent : Failing e []
  /-- The statement was answered with the error. -/
  | refused : Failing e [.answered (.error e)]
  /-- It was answered, and the hook failed with the error. -/
  | protested (result : StatementResult) (rows : Option (List Row)) (duration : δ) :
    Failing e [.answered (.ok result),
      .told (.afterQuery ⟨call, result.rowCount⟩ rows) (some duration) (.error e)]

/-- What is told in an attempt. The hook before it comes first. After a success the hook behind it
returns, and after a failure the hook for failures is called. -/
inductive Attempted : Conclusion δ → List (Entry δ) → Prop
  /-- The attempt succeeds. -/
  | success (result : StatementResult) (rows : Option (List Row)) (duration : δ)
    {before after : List (Entry δ)} (hbefore : Returned has (.beforeQuery call) none before)
    (hafter : Returned has (.afterQuery ⟨call, result.rowCount⟩ rows) (some duration) after) :
    Attempted (.succeeded ⟨call, result.rowCount⟩ duration)
      (before ++ .answered (.ok result) :: after)
  /-- The attempt fails. -/
  | failure (e : Error) (duration : δ) {before between after : List (Entry δ)}
    (hbefore : Returned has (.beforeQuery call) none before)
    (hbetween : Failing call e between)
    (hafter : Returned has (.onError ⟨call, e.message, e.kind⟩) (some duration) after) :
    Attempted (.failed ⟨⟨e, ⟨call, e.message, e.kind⟩⟩, duration⟩) (before ++ between ++ after)

/-- What is told in a course of attempts: how the last one ended, what the hook about retries has
answered, and the entries. All attempts but the last one failed. -/
inductive Course : Conclusion δ → Option Value → List (Entry δ) → Prop
  /-- There is one attempt. -/
  | first {c : Conclusion δ} {page : List (Entry δ)} (h : Attempted has call c page) :
    Course c none page
  /-- It failed, and the hook about retries has answered. -/
  | consulted {failed : TimedFailure δ} {page : List (Entry δ)}
    (h : Attempted has call (.failed failed) page) (answer : Value) :
    Course (.failed failed) (some answer)
      (page ++ [.told (.retryDecider call failed.error failed.failure) (some failed.duration)
        (.ok answer)])
  /-- There is a further attempt behind one that failed. -/
  | again {failed : TimedFailure δ} {c : Conclusion δ} {answer : Value}
    {pages page : List (Entry δ)} (hpages : Course (.failed failed) (some answer) pages)
    (h : Attempted has call c page) : Course c (some answer) (pages ++ page)

end Telling

/-! ## Reporting -/

namespace Timekeeping

open Executor (onSession)

/-- The same world, where hooks that are told of attempts and answers of databases are entered. -/
def reporting (t : Timekeeping σ δ) : Timekeeping (σ × List (Entry δ)) δ where
  around :=
    { t.around.alongside (List (Entry δ)) with
      driver :=
        { (t.around.alongside (List (Entry δ))).driver with
          execute := fun p => (t.around.driver.execute p).entered .answered } }
  read s := ((t.read s.1).1, ((t.read s.1).2, s.2))
  lapse := t.lapse
  tell question duration := (t.tell question duration).entered (.told question duration)

/-- Reports have no part in what is done. -/
theorem reporting_parallel (t : Timekeeping σ δ) :
    t.reporting.Parallel (fun s v => v = s.1) t where
  around :=
    { t.around.alongside_parallel (List (Entry δ)) with
      execute := fun _ => Act.entered_sim _ _ }
  read := by
    rintro s v rfl
    exact ⟨rfl, rfl⟩
  lapse := rfl
  tell _ _ := Act.entered_sim _ _

/-- The hooks that an attempt calls outside its guard never fail. -/
def Reliable (t : Timekeeping σ δ) : Prop :=
  ∀ question duration s, t.around.hooks.has question.point = true →
    question.point = .beforeQuery ∨ question.point = .onError ∨ question.point = .retryDecider →
      (t.tell question duration s).1.isOk = true

/-- Started where the first property holds of the executor, an action adds a page to the list. Page
and executor have one property at a good end and another one at a bad one. Settings are left as they
are. -/
def Tells (P : Timed δ → Prop) (act : Act (Timed δ × Session (σ × List (Entry δ))) α)
    (Q : α → List (Entry δ) → Timed δ → Prop) (E : Error → List (Entry δ) → Timed δ → Prop) :
    Prop :=
  ∀ settings log, Act.Ends
    (fun s => P s.1 ∧ s.2.connections.settings = settings ∧ s.2.outside.2 = log) act
    (Act.Split
      (fun a s => ∃ page, Q a page s.1 ∧ s.2.connections.settings = settings ∧
        s.2.outside.2 = log ++ page)
      fun e s => ∃ page, E e page s.1 ∧ s.2.connections.settings = settings ∧
        s.2.outside.2 = log ++ page)

namespace Tells

variable {P P' : Timed δ → Prop} {act : Act (Timed δ × Session (σ × List (Entry δ))) α}
  {Q : α → List (Entry δ) → Timed δ → Prop} {E E' : Error → List (Entry δ) → Timed δ → Prop}

/-- What leaves the session as it is tells nothing. -/
theorem still (h : ∀ s, P s.1 →
      Act.Split (fun a x => Q a [] x) (fun e x => E e [] x) (act s).1 (act s).2.1 ∧
        (act s).2.2 = s.2) : Tells P act Q E := by
  intro settings log s hs
  obtain ⟨hend, hsession⟩ := h s hs.1
  have hlog : (act s).2.2.outside.2 = log ++ [] := by rw [hsession, List.append_nil]; exact hs.2.2
  have hsettings : (act s).2.2.connections.settings = settings := by rw [hsession]; exact hs.2.1
  generalize act s = ended at hend hlog hsettings ⊢
  obtain ⟨result, u⟩ := ended
  cases result with
  | ok a => exact ⟨[], hend, hsettings, hlog⟩
  | error e => exact ⟨[], hend, hsettings, hlog⟩

theorem pure {a : α} (h : ∀ x, P x → Q a [] x) :
    Tells P (Pure.pure a : Act (Timed δ × Session (σ × List (Entry δ))) α) Q E :=
  still fun _ hs => ⟨h _ hs, rfl⟩

theorem ofExcept {result : Except Error α}
    (h : ∀ x, P x → Act.Split (fun a x => Q a [] x) (fun e x => E e [] x) result x) :
    Tells P (Act.ofExcept result : Act (Timed δ × Session (σ × List (Entry δ))) α) Q E :=
  still fun _ hs => ⟨h _ hs, rfl⟩

/-- A note tells nothing. -/
theorem note {f : Timed δ → Timed δ} {Q : Unit → List (Entry δ) → Timed δ → Prop}
    (h : ∀ x, P x → Q () [] (f x)) :
    Tells P (Timed.note f : Act (Timed δ × Session (σ × List (Entry δ))) Unit) Q E :=
  still fun _ hs => ⟨h _ hs, rfl⟩

/-- A chain tells what its first action tells and then what comes next. -/
theorem bind {R : α → List (Entry δ) → Timed δ → Prop} {Q : β → List (Entry δ) → Timed δ → Prop}
    {next : α → Act (Timed δ × Session (σ × List (Entry δ))) β} (h : Tells P act R E)
    (hnext : ∀ a page, Tells (R a page) (next a) (fun b more => Q b (page ++ more))
      fun e more => E e (page ++ more)) : Tells P (act >>= next) Q E := by
  intro settings log
  refine (h settings log).bind (fun a s hs => ?_) fun e s hs => hs
  obtain ⟨page, hpage, hsettings, hlog⟩ := hs
  have hends := hnext a page settings (log ++ page) s ⟨hpage, hsettings, hlog⟩
  generalize next a s = ended at hends ⊢
  obtain ⟨result, u⟩ := ended
  cases result with
  | ok b =>
    obtain ⟨more, hmore, hsettings, hlog⟩ := hends
    exact ⟨page ++ more, hmore, hsettings, hlog.trans (List.append_assoc _ _ _)⟩
  | error e =>
    obtain ⟨more, hmore, hsettings, hlog⟩ := hends
    exact ⟨page ++ more, hmore, hsettings, hlog.trans (List.append_assoc _ _ _)⟩

/-- The end of an action is looked at without anything being told. -/
theorem attempt (h : Tells P act Q E) :
    Tells P (Act.attempt act)
      (fun ended page x => Act.Split (fun a => Q a page) (fun e => E e page) ended x) E' := by
  intro settings log s hs
  have hends := h settings log s hs
  rw [Act.attempt_apply]
  generalize act s = ended at hends ⊢
  obtain ⟨result, u⟩ := ended
  cases result with
  | ok a => exact hends
  | error e => exact hends

theorem ite {p : Prop} [Decidable p] {other : Act (Timed δ × Session (σ × List (Entry δ))) α}
    (h : p → Tells P act Q E) (hother : ¬ p → Tells P other Q E) :
    Tells P (if p then act else other) Q E := by
  split
  next hp => exact h hp
  next hp => exact hother hp

/-- More may be said of a bad end. -/
theorem failing (h : Tells P act Q E) (hE : ∀ e page x, E e page x → E' e page x) :
    Tells P act Q E' := by
  intro settings log
  refine (h settings log).weaken (fun s hs => hs) fun r s hs => ?_
  cases r with
  | ok a => exact hs
  | error e =>
    obtain ⟨page, hpage, hs⟩ := hs
    exact ⟨page, hE _ _ _ hpage, hs⟩

/-- What does not depend on the executor may be taken out of what holds before. -/
theorem given {p : Prop} (h : p → Tells P act Q E) : Tells (fun x => p ∧ P x) act Q E :=
  fun settings log s hs => h hs.1.1 settings log s ⟨hs.1.2, hs.2⟩

/-- What is done outside leaves the executor and settings. -/
theorem onOutside {act : Act (σ × List (Entry δ)) α}
    (h : ∀ log x, P x → Act.Ends (fun s => s.2 = log) act
      (Act.Split (fun a s => ∃ page, Q a page x ∧ s.2 = log ++ page)
        fun e s => ∃ page, E e page x ∧ s.2 = log ++ page)) :
    Tells P (Executor.onOutside act) Q E := by
  intro settings log s hs
  have hends := h log s.1 hs.1 s.2.outside hs.2.2
  have happly : (Executor.onOutside act : Act (Timed δ × Session (σ × List (Entry δ))) α) s =
      ((act s.2.outside).1, s.1, ⟨s.2.connections, (act s.2.outside).2⟩) := rfl
  rw [happly]
  generalize act s.2.outside = ended at hends ⊢
  obtain ⟨result, u⟩ := ended
  cases result with
  | ok a =>
    obtain ⟨page, hpage, hlog⟩ := hends
    exact ⟨page, hpage, hs.2.1, hlog⟩
  | error e =>
    obtain ⟨page, hpage, hlog⟩ := hends
    exact ⟨page, hpage, hs.2.1, hlog⟩

/-- What is done beside the list tells nothing. -/
theorem alongside {act : Act σ α} (hQ : ∀ a x, P x → Q a [] x)
    (hE : ∀ e s x, P x → (act s).1 = .error e → E e [] x) :
    Tells P (Executor.onOutside act.alongside) Q E := by
  refine onOutside fun log x hx s hs => ?_
  have hlog : (act.alongside s).2.2 = log ++ [] := by rw [List.append_nil]; exact hs
  cases hended : (act s.1).1 with
  | ok a =>
    rw [show (act.alongside s).1 = .ok a from hended]
    exact ⟨[], hQ a x hx, hlog⟩
  | error e =>
    rw [show (act.alongside s).1 = .error e from hended]
    exact ⟨[], hE e s.1 x hx hended, hlog⟩

/-- What is entered is told. -/
theorem entered {entry : Except Error α → Entry δ} {act : Act σ α}
    (hQ : ∀ a s x, P x → (act s).1 = .ok a → Q a [entry (.ok a)] x)
    (hE : ∀ e s x, P x → (act s).1 = .error e → E e [entry (.error e)] x) :
    Tells P (Executor.onOutside (act.entered entry)) Q E := by
  refine onOutside fun log x hx s hs => ?_
  rw [Act.entered_apply]
  cases hended : (act s.1).1 with
  | ok a => exact ⟨[entry (.ok a)], hQ a s.1 x hx hended, congrArg (· ++ _) hs⟩
  | error e => exact ⟨[entry (.error e)], hE e s.1 x hx hended, congrArg (· ++ _) hs⟩

/-- What tells nothing may come first. -/
theorem silently {R : α → Timed δ → Prop} {Q : β → List (Entry δ) → Timed δ → Prop}
    {next : α → Act (Timed δ × Session (σ × List (Entry δ))) β}
    (h : Tells P act (fun a page x => page = [] ∧ R a x) E)
    (hnext : ∀ a, Tells (R a) (next a) Q E) : Tells P (act >>= next) Q E := by
  refine h.bind fun a page => given fun hpage => ?_
  subst hpage
  exact hnext a

end Tells

section Steps

variable (t : Timekeeping σ δ) {P : Timed δ → Prop} {E : Error → List (Entry δ) → Timed δ → Prop}

theorem now_tells : Tells P t.reporting.now (fun _ page x => page = [] ∧ P x) E :=
  Tells.onOutside fun log x hx s hs =>
    ⟨[], ⟨rfl, hx⟩, by rw [List.append_nil]; exact hs⟩

theorem since_tells (start : δ) :
    Tells P (t.reporting.since start) (fun _ page x => page = [] ∧ P x) E :=
  (now_tells t).silently (R := fun _ => P) fun _ => Tells.pure fun _ hx => ⟨rfl, hx⟩

/-- A hook that is notified returns, or it fails and that is told. -/
theorem notify_tells (question : HookCall) (duration : Option δ) :
    Tells P (t.reporting.notify question duration)
      (fun _ page x => Returned t.around.hooks.has question duration page ∧ P x)
      fun e page x => page = [.told question duration (.error e)] ∧ P x ∧
        t.around.hooks.has question.point = true ∧
        ∃ s, (t.tell question duration s).1 = .error e := by
  refine Tells.ite (fun hhas : t.around.hooks.has question.point = true => ?_)
    fun hhas : ¬ t.around.hooks.has question.point = true => ?_
  · have hreturned : ∀ answer,
        Returned t.around.hooks.has question duration [.told question duration (.ok answer)] := by
      intro answer
      rw [Returned, if_pos hhas]
      exact ⟨answer, rfl⟩
    refine Tells.bind (R := fun _ page x =>
      Returned t.around.hooks.has question duration page ∧ P x) (Tells.entered ?_ ?_) ?_
    · exact fun answer s x hx _ => ⟨hreturned answer, hx⟩
    · exact fun e s x hx hfailed => ⟨rfl, hx, hhas, s, hfailed⟩
    · intro answer page
      refine Tells.pure fun x hx => ?_
      rw [List.append_nil]
      exact hx
  · refine Tells.pure fun x hx => ⟨?_, hx⟩
    rw [Returned, if_neg hhas]

/-- A hook that never fails returns. -/
theorem notify_returns (h : t.Reliable) (question : HookCall) (duration : Option δ)
    (hpoint : question.point = .beforeQuery ∨ question.point = .onError ∨
      question.point = .retryDecider) :
    Tells P (t.reporting.notify question duration)
      (fun _ page x => Returned t.around.hooks.has question duration page ∧ P x) E := by
  refine (notify_tells t question duration).failing ?_
  rintro e page x ⟨-, -, hhas, s, hfailed⟩
  have hok := h question duration s hhas hpoint
  rw [hfailed] at hok
  cases hok

/-- A statement is answered, or an error is met before that. -/
theorem runBound_tells (name sql : String) (bound : List BoundValue) :
    Tells P (onSession (Session.runBound t.reporting.around name sql bound))
      (fun result page x => page = [.answered (.ok result)] ∧ P x)
      fun e page x => (page = [] ∨ page = [.answered (.error e)]) ∧ P x := by
  intro settings log
  have hbeside : ∀ {α : Type} (act : Act σ α),
      Act.Triple (fun s => s.2 = log) act.alongside (fun _ s => s.2 = log) fun s => s.2 = log :=
    fun act => Act.Triple.of_reached fun _ hs => hs
  have hopens : t.reporting.around.OpensKeeping name fun s => s.2 = log :=
    { connect := fun _ _ => hbeside _
      command := fun _ _ => hbeside _
      close := fun _ => hbeside _
      notify := fun shown driver => by
        unfold Hooks.notify
        refine Act.Triple.ite (fun _ => (hbeside _).ignoring) fun _ => ?_
        exact Act.Triple.pure fun _ hs => hs }
  have houtside : Act.Ends (fun s => s.outside.2 = log)
      (Session.runBound t.reporting.around name sql bound) fun r s =>
        s.outside.2 = log ++ [.answered r] ∨ s.outside.2 = log ∧ ∃ e, r = .error e := by
    refine Session.runBound_outside (Q := fun r s =>
      s.2 = log ++ [.answered r] ∨ s.2 = log ∧ ∃ e, r = .error e) hopens (fun _ => hbeside _)
      (fun p s hs => ?_) ?_ bound
    · exact .inl (congrArg (· ++ _) hs)
    · exact fun e s hs => .inr ⟨hs, e, rfl⟩
  have hsettings : Act.Ends (fun s => s.connections.settings = settings)
      (Session.runBound t.reporting.around name sql bound)
      fun _ s => s.connections.settings = settings :=
    (Session.runBound_keeps (P := fun c => c.settings = settings) t.reporting.around sql bound
      (fun _ _ _ _ hc => hc)
      fun c cache hc => (c.settings_setCache name cache).trans hc).always_ends
  intro s hs
  have htold := houtside s.2 hs.2.2
  have hkept := hsettings s.2 hs.2.1
  have happly : onSession (Session.runBound t.reporting.around name sql bound) s =
      ((Session.runBound t.reporting.around name sql bound s.2).1, s.1,
        (Session.runBound t.reporting.around name sql bound s.2).2) := rfl
  rw [happly]
  generalize Session.runBound t.reporting.around name sql bound s.2 = ended at htold hkept ⊢
  obtain ⟨result, u⟩ := ended
  cases result with
  | ok result =>
    rcases htold with hlog | ⟨-, e, he⟩
    · exact ⟨[.answered (.ok result)], ⟨rfl, hs.1⟩, hkept, hlog⟩
    · cases he
  | error e =>
    rcases htold with hlog | ⟨hlog, -⟩
    · exact ⟨[.answered (.error e)], ⟨.inr rfl, hs.1⟩, hkept, hlog⟩
    · exact ⟨[], ⟨.inl rfl, hs.1⟩, hkept, by rw [List.append_nil]; exact hlog⟩

end Steps

/-! ## Attempts and what they tell -/

end Timekeeping

namespace Executor

end Executor

namespace Timekeeping

/-- An executor is set up like another one. -/
def SetUp (x : Executor) (y : Timed δ) : Prop := y.executor.setup = x.setup

section Attempts

variable {t : Timekeeping σ δ} (h : t.Reliable) {x : Executor} {call : Call}
  {bound : List BoundValue} {fetchRows returnRows : Bool}
  {E : Error → List (Entry δ) → Timed δ → Prop}

include h

/-- What a course of attempts has told and left. -/
structure Left (t : Timekeeping σ δ) (x : Executor) (call : Call) (c : Conclusion δ)
    (answer : Option Value) (pages : List (Entry δ)) (y : Timed δ) : Prop where
  /-- The executor is set up as before. -/
  setUp : SetUp x y
  /-- It has noted how the last attempt ended. -/
  noted : c.NotedBy y
  /-- So have hooks been told. -/
  course : Course t.around.hooks.has call c answer pages

end Attempts

end Timekeeping

/-! ## Jobs -/

/-- A statement that an executor is asked to run. -/
structure Job where
  /-- The text of the statement. -/
  sql : String
  /-- Its parameters. -/
  params : List Value
  /-- Rows are asked for, not the count of rows that were touched. -/
  returnRows : Bool

namespace Job

/-- A job is accepted when its parameters can be bound, the connection has settings and each integer
has a numeral. -/
def accepted (job : Job) (connection : Option String) (c : Connections) :
    Except Error (Call × List BoundValue) := do
  let bound ← BoundValue.ofValues job.params
  let name ← c.chosenName connection
  let _ ← c.getSettings name
  job.params.forM Value.checkNumeral
  return (⟨name, job.sql, paramNotes noteLimit job.params⟩, bound)

end Job

/-- What is checked before anything is sent is whether the job is accepted. -/
theorem Executor.opening_eq (job : Job) (x : Executor) (s : Session σ) :
    opening job.sql job.params (x, s) =
      (job.accepted x.connection s.connections, x.clearLast, s) := by
  unfold opening Job.accepted note
  rw [Act.bind_of_ok (Act.change_apply _ _)]
  cases BoundValue.ofValues job.params with
  | error e => rfl
  | ok bound =>
    rw [Act.bind_of_ok (Act.ofExcept_apply _ _), Act.bind_of_ok (Act.look_apply _ _)]
    show (onSession (Session.configuredName x.connection) >>= _) (x.clearLast, s) = _
    cases x.connection with
    | none => rfl
    | some name =>
      have hname : (onSession (Session.configuredName (some name)) :
            Act (Executor × Session σ) String) (x.clearLast, s) =
          ((s.connections.getSettings name).map fun _ => name, x.clearLast, s) := by
        rw [onSession, Act.within_apply, configuredName_some]
      rw [Act.bind_apply, hname]
      show _ = (s.connections.getSettings name >>= _, _)
      cases s.connections.getSettings name with
      | error e => rfl
      | ok settings =>
        show (Act.ofExcept (job.params.forM Value.checkNumeral) >>= _) (x.clearLast, s) = _
        rw [Act.bind_apply, Act.ofExcept_apply]
        show _ = (job.params.forM Value.checkNumeral >>= _, _)
        cases job.params.forM Value.checkNumeral with
        | error e => rfl
        | ok _ => rfl

/-! ## Runs and what they report -/

namespace Timed

/-- What a job has come to: what the caller gets, and the executor afterwards. -/
structure Reply (δ : Type) where
  /-- What the caller gets. -/
  result : Except Error (Verdict δ)
  /-- The executor afterwards. -/
  left : Timed δ

end Timed

/-- What the caller gets of a conclusion. A failure is shown with everything that was noted of it,
unless it becomes an empty result. -/
def Conclusion.Yields (mode : ErrorMode) (returnRows : Bool) :
    Conclusion δ → Except Error (Timed.Verdict δ) → Prop
  | .succeeded _ _, result => ∃ outcome, result = .ok (.returned outcome)
  | .failed last, result =>
    match mode with
    | .safe => result = .ok (.returned (Executor.neutral returnRows))
    | .raise => ∃ retried, result = .ok (.raised retried last)

namespace Timekeeping

/-- The state between jobs: an executor set up as at first, settings, and a list of entries. -/
structure Between (x : Executor) (settings : List (String × ConnectionSettings))
    (log : List (Entry δ)) (s : Timed δ × Session (σ × List (Entry δ))) : Prop where
  /-- The executor is set up as at first. -/
  setUp : SetUp x s.1
  /-- So are connections. -/
  settings : s.2.connections.settings = settings
  /-- These are the entries so far. -/
  log : s.2.outside.2 = log

/-- What is checked before anything is sent is whether the job is accepted, and whatever was noted
is forgotten. -/
theorem opening_eq (job : Job) (s : Timed δ × Session σ) :
    opening job.sql job.params s =
      (job.accepted s.1.executor.connection s.2.connections, ⟨s.1.executor.clearLast, none, none⟩,
        s.2) := by
  unfold opening Timed.note
  rw [Act.bind_of_ok (Act.change_apply _ _), Timed.onExecutor, Act.within_apply]
  dsimp only [Timed.forget]
  rw [Executor.opening_eq]

end Timekeeping

end BoundSql
