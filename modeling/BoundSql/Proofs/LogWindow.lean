import BoundSql.Proofs.Reports

/-!
# The log as a window

The log of an executor is switched on and off, its bound is changed, and statements are run. Each
attempt to run a statement has outcomes: a success if the database has answered and a failure if the
attempt failed, which may be both. The log keeps the outcomes that come up while it is on and drops
the oldest ones beyond the bound, and nothing else is ever dropped or taken in.
-/

namespace BoundSql

variable {σ δ α : Type}

/-! ## What an executor keeps of outcomes -/

namespace Executor

/-- As many of the latest outcomes as there is room for. -/
theorem window_append_window (limit : Nat) (log more : List LogEntry) :
    window limit (window limit log ++ more) = window limit (log ++ more) := by
  have hinner : window limit log ++ more = (log ++ more).drop (log.length - limit) :=
    (List.drop_append_of_le_length (Nat.sub_le _ _)).symm
  rw [hinner, window, window, List.drop_drop, List.length_drop, List.length_append]
  congr 1
  omega

theorem length_window_le (limit : Nat) (log : List LogEntry) :
    (window limit log).length ≤ limit := by
  rw [window, List.length_drop]
  omega

theorem window_of_le {limit : Nat} {log : List LogEntry} (h : log.length ≤ limit) :
    window limit log = log := by
  rw [window, Nat.sub_eq_zero_of_le h, List.drop_zero]

/-- The executor has taken in outcomes one by one and is set up as before. -/
structure Logged (x : Executor) (outcomes : List LogEntry) (y : Executor) : Prop where
  /-- The setup is the same. -/
  setup : y.setup = x.setup
  /-- The log is that of an executor which took in the outcomes. -/
  log : y.log = (outcomes.foldl pushLog x).log

namespace Logged

variable {x y z : Executor} {outcomes more : List LogEntry}

/-- Only the setup and the log matter for what the log becomes. -/
theorem congr_pushLog (hsetup : y.setup = x.setup) (hlog : y.log = x.log) (entry : LogEntry) :
    (y.pushLog entry).log = (x.pushLog entry).log := by
  have hdebug : y.setup.debug = x.setup.debug := congrArg Executor.debug hsetup
  have hlimit : y.setup.logLimit = x.setup.logLimit := congrArg Executor.logLimit hsetup
  rw [pushLog, pushLog, show y.debug = x.debug from hdebug,
    show y.logLimit = x.logLimit from hlimit]
  split
  · exact congrArg (fun log => window x.logLimit (log ++ [entry])) hlog
  · exact hlog

theorem congr_foldl (hsetup : y.setup = x.setup) (hlog : y.log = x.log) :
    (outcomes.foldl pushLog y).log = (outcomes.foldl pushLog x).log := by
  induction outcomes generalizing x y with
  | nil => exact hlog
  | cons entry outcomes ih =>
    refine ih ?_ (congr_pushLog hsetup hlog entry)
    rw [pushLog_eq y, pushLog_eq x]
    exact hsetup

theorem foldl_setup (x : Executor) (outcomes : List LogEntry) :
    (outcomes.foldl pushLog x).setup = x.setup := by
  induction outcomes generalizing x with
  | nil => rfl
  | cons entry outcomes ih =>
    rw [List.foldl_cons, ih, pushLog_eq]
    rfl

theorem refl (x : Executor) : Logged x [] x := ⟨rfl, rfl⟩

/-- First some outcomes, then others. -/
theorem trans (h : Logged x outcomes y) (hmore : Logged y more z) :
    Logged x (outcomes ++ more) z := by
  refine ⟨hmore.setup.trans h.setup, ?_⟩
  rw [hmore.log, List.foldl_append]
  exact congr_foldl (h.setup.trans (foldl_setup x outcomes).symm) h.log

/-- What a log comes to that is on: a window on it and the outcomes. -/
theorem log_eq (h : Logged x outcomes y) (hlog : x.log.length ≤ x.logLimit) :
    y.log = if x.debug && 0 < x.logLimit then window x.logLimit (x.log ++ outcomes) else x.log := by
  rw [h.log]
  clear h
  induction outcomes generalizing x with
  | nil =>
    rw [List.foldl_nil, List.append_nil, window_of_le hlog, ite_self]
  | cons entry outcomes ih =>
    rw [List.foldl_cons, pushLog]
    split
    next hon =>
      rw [ih (length_window_le _ _), if_pos hon, window_append_window, List.append_assoc]
      rfl
    next hoff =>
      rw [ih hlog, if_neg hoff]

end Logged

theorem noteSuccess_logged (success : Success) (x : Executor) :
    Logged x [.succeeded success] (x.noteSuccess success) := by
  refine ⟨noteSuccess_setup success x, ?_⟩
  rw [noteSuccess, List.foldl_cons, List.foldl_nil]
  refine Logged.congr_pushLog ?_ ?_ _
  · rfl
  · rfl

theorem noteFailure_logged (failure : Failure) (x : Executor) :
    Logged x [.failed failure] (x.noteFailure failure) := by
  refine ⟨noteFailure_setup failure x, ?_⟩
  rw [noteFailure, List.foldl_cons, List.foldl_nil]
  refine Logged.congr_pushLog ?_ ?_ _
  · rfl
  · rfl

end Executor

/-! ## Outcomes of an attempt -/

/-- The success of a call that the database has answered. -/
def Entry.success? (call : Call) : Entry δ → Option LogEntry
  | .answered (.ok result) => some (.succeeded ⟨call, result.rowCount⟩)
  | _ => none

/-- The failure of an attempt that has ended. -/
def failures : Except (TimedFailure δ) Outcome → List LogEntry
  | .ok _ => []
  | .error last => [.failed last.failure]

/-- A hook that was called is no answer. -/
theorem Returned.filterMap_success? {has : HookPoint → Bool} {question : HookCall}
    {duration : Option δ} {entries : List (Entry δ)} (h : Returned has question duration entries)
    (call : Call) : entries.filterMap (Entry.success? call) = [] := by
  unfold Returned at h
  split at h
  · obtain ⟨answer, rfl⟩ := h
    rfl
  · rw [h]
    rfl

namespace Timekeeping

open Executor (onSession Logged)

variable {t : Timekeeping σ δ} {x : Executor} {call : Call} {bound : List BoundValue}
  {fetchRows returnRows : Bool} {E : Error → List (Entry δ) → Timed δ → Prop}

/-- What is guarded in an attempt takes in a success for each answer. -/
theorem execute_logged (t : Timekeeping σ δ) (start : δ) :
    Tells (fun y => y.executor = x) (t.reporting.execute call bound fetchRows start)
      (fun _ page y => Logged x (page.filterMap (Entry.success? call)) y.executor)
      fun _ page y => Logged x (page.filterMap (Entry.success? call)) y.executor := by
  have hrun := runBound_tells t (P := fun y => y.executor = x) call.connection call.sql bound
  refine (hrun.failing ?_).bind fun result page => ?_
  · rintro e page y ⟨rfl | rfl, rfl⟩
    · exact Logged.refl _
    · exact Logged.refl _
  refine Tells.given fun hpage => ?_
  subst hpage
  refine (since_tells t start).silently (R := fun _ y => y.executor = x) fun duration => ?_
  let success : Success := ⟨call, result.rowCount⟩
  have hnote : Tells (fun y => y.executor = x)
      (Timed.note (Timed.noteSuccess success duration) :
        Act (Timed δ × Session (σ × List (Entry δ))) Unit)
      (fun _ page y => page = [] ∧ Logged x [.succeeded success] y.executor)
      fun _ page y => Logged x
        (([Entry.answered (.ok result)] ++ page).filterMap (Entry.success? call)) y.executor :=
    Tells.note fun y hy => ⟨rfl, hy ▸ Executor.noteSuccess_logged success y.executor⟩
  refine hnote.silently fun _ => ?_
  refine ((notify_tells t _ (some duration)).failing ?_).bind fun _ after => Tells.pure ?_
  · rintro e page y ⟨rfl, hy, -⟩
    exact hy
  · rintro y ⟨hafter, hy⟩
    rw [List.append_nil, List.filterMap_append, hafter.filterMap_success? call]
    exact hy

/-- An attempt takes in its successes and then its failure. -/
theorem attempt_logged (h : t.Reliable) :
    Tells (fun y => y.executor = x) (t.reporting.attempt call bound fetchRows returnRows)
      (fun ended page y =>
        Logged x (page.filterMap (Entry.success? call) ++ failures ended) y.executor) E := by
  refine (now_tells t).silently (R := fun _ y => y.executor = x) fun start => ?_
  refine (notify_returns t h _ none (.inl rfl)).bind fun _ before => Tells.given fun hbefore => ?_
  refine (execute_logged t start).attempt.bind fun ended between => ?_
  have hpage : ∀ after : List (Entry δ), after.filterMap (Entry.success? call) = [] →
      (before ++ (between ++ after)).filterMap (Entry.success? call) =
        between.filterMap (Entry.success? call) := by
    intro after hafter
    rw [List.filterMap_append, List.filterMap_append, hbefore.filterMap_success? call, hafter,
      List.nil_append, List.append_nil]
  cases ended with
  | ok answer =>
    refine Tells.pure fun y hy => ?_
    rw [hpage [] rfl]
    exact (List.append_nil _).symm ▸ hy
  | error e =>
    let failure : Failure := ⟨call, e.message, e.kind⟩
    let taken := between.filterMap (Entry.success? call)
    refine (since_tells t start).silently (R := fun _ y => Logged x taken y.executor)
      fun duration => ?_
    have hnote : Tells (fun y : Timed δ => Logged x taken y.executor)
        (Timed.note (Timed.noteFailure failure duration) :
          Act (Timed δ × Session (σ × List (Entry δ))) Unit)
        (fun _ page y => page = [] ∧ Logged x (taken ++ [.failed failure]) y.executor)
        fun e page => E e (before ++ (between ++ page)) :=
      Tells.note fun y hy => ⟨rfl, hy.trans (Executor.noteFailure_logged failure y.executor)⟩
    refine hnote.silently fun _ => ?_
    refine (notify_returns t h _ (some duration) (.inr (.inl rfl))).bind fun _ after =>
      Tells.pure ?_
    rintro y ⟨hafter, hy⟩
    rw [List.append_nil, hpage after (hafter.filterMap_success? call)]
    exact hy

/-! ## Outcomes of a run -/

variable (t : Timekeeping σ δ) (call : Call) (bound : List BoundValue) (returnRows : Bool)

/-- What the hooks are told and the database answers in an attempt. -/
def told (fetchRows : Bool) (s : Timed δ × Session σ) : List (Entry δ) :=
  (t.reporting.attempt call bound fetchRows returnRows
    (s.1, ⟨s.2.connections, s.2.outside, []⟩)).2.2.outside.2

/-- The outcomes of an attempt: a success for each answer of the database, and then a failure if it
failed. -/
def outcomes (fetchRows : Bool) (s : Timed δ × Session σ) : List LogEntry :=
  (t.told call bound returnRows fetchRows s).filterMap (Entry.success? call) ++
    match (t.attempt call bound fetchRows returnRows s).1 with
    | .ok ended => failures ended
    | .error _ => []

/-- A state comes up in a run of a statement, behind attempts with these outcomes. Between attempts
the hook about retries is asked, and there is waiting. -/
inductive Trail (start : Timed δ × Session σ) : List LogEntry → Timed δ × Session σ → Prop where
  /-- The first attempt was made. -/
  | first : Trail start (t.outcomes call bound returnRows returnRows start)
      (t.attempt call bound returnRows returnRows start).2
  /-- The hook was asked. -/
  | asked {taken : List LogEntry} {s : Timed δ × Session σ} (failed : TimedFailure δ)
      (before : Trail start taken s) : Trail start taken (t.askRetry call failed s).2
  /-- Some time has passed. -/
  | paused {taken : List LogEntry} {s : Timed δ × Session σ} (delay : Int)
      (before : Trail start taken s) :
      Trail start taken (Timed.onExecutor (Executor.pause t.around delay) s).2
  /-- A further attempt was made. -/
  | again {taken : List LogEntry} {s : Timed δ × Session σ} (fetchRows : Bool)
      (before : Trail start taken s) :
      Trail start (taken ++ t.outcomes call bound returnRows fetchRows s)
        (t.attempt call bound fetchRows returnRows s).2

variable {t call bound returnRows}

/-- An executor takes in the outcomes of an attempt. -/
theorem attempt_takes (h : t.Reliable) (fetchRows : Bool) (s : Timed δ × Session σ) :
    Logged s.1.executor (t.outcomes call bound returnRows fetchRows s)
      (t.attempt call bound fetchRows returnRows s).2.1.executor := by
  let u : Timed δ × Session (σ × List (Entry δ)) := (s.1, ⟨s.2.connections, s.2.outside, []⟩)
  have hbeside : Session.Beside (fun (s : σ × List (Entry δ)) v => v = s.1) u s := ⟨rfl, rfl, rfl⟩
  obtain ⟨hresult, hleft⟩ := attempt_parallel t.reporting_parallel call bound fetchRows returnRows
    u s hbeside
  have htells : Tells (fun y => y.executor = s.1.executor)
      (t.reporting.attempt call bound fetchRows returnRows) _ fun _ _ _ => False :=
    attempt_logged h
  have htaken := htells s.2.connections.settings [] u ⟨rfl, rfl, rfl⟩
  rw [outcomes, told, hresult, hleft.same]
  generalize t.reporting.attempt call bound fetchRows returnRows u = ended at htaken ⊢
  obtain ⟨result, v⟩ := ended
  cases result with
  | ok ended =>
    obtain ⟨page, hpage, _, hlog⟩ := htaken
    rw [hlog, List.nil_append]
    exact hpage
  | error e =>
    obtain ⟨page, hfalse, _⟩ := htaken
    exact hfalse.elim

/-- The hook about retries leaves the executor as it is. -/
theorem askRetry_keeps (t : Timekeeping σ δ) (call : Call) (failed : TimedFailure δ)
    (x : Timed δ) :
    Act.Triple (fun s => s.1 = x) (t.askRetry call failed) (fun _ s => s.1 = x)
      fun s => s.1 = x := by
  refine Act.Triple.ite (fun _ => ?_) fun _ => Act.Triple.pure fun _ hs => hs
  refine Act.Triple.bind (R := fun _ s => s.1 = x) ?_ fun answer => Act.Triple.ofExcept
  exact Act.Triple.of_reached fun _ hs => hs

/-- So does waiting. -/
theorem pause_keeps (t : Timekeeping σ δ) (delay : Int) (x : Timed δ) :
    Act.Triple (fun s => s.1 = x)
      (Timed.onExecutor (Executor.pause t.around delay) : Act (Timed δ × Session σ) Unit)
      (fun _ s => s.1 = x) fun s => s.1 = x := by
  have hpause : Act.Triple (fun s => s.1 = x.executor) (Executor.pause t.around delay)
      (fun _ s => s.1 = x.executor) fun s => s.1 = x.executor := by
    refine Act.Triple.ite (fun _ => ?_) fun _ => Act.Triple.pure fun _ hs => hs
    refine Act.Triple.ofExcept.bind fun time => ?_
    exact Act.Triple.of_reached fun _ hs => hs
  refine hpause.within (fun s hs => congrArg Timed.executor hs) (fun _ s u hs hu => ?_)
    fun s u hs hu => ?_
  all_goals
    rw [hs, hu]

/-- An executor takes in the outcomes of all attempts, by induction on the trail. -/
theorem Trail.logged (h : t.Reliable) {start s : Timed δ × Session σ} {taken : List LogEntry}
    (htrail : Trail t call bound returnRows start taken s) :
    Logged start.1.executor taken s.1.executor := by
  induction htrail with
  | first => exact attempt_takes h returnRows start
  | @asked taken s failed _ ih =>
    rw [(askRetry_keeps t call failed s.1).always_ends s rfl]
    exact ih
  | @paused taken s delay _ ih =>
    rw [(pause_keeps t delay s.1).always_ends s rfl]
    exact ih
  | again fetchRows _ ih => exact ih.trans (attempt_takes h fetchRows _)

section Trails

variable (start : Timed δ × Session σ)

/-- A state comes up in a run of a statement. -/
def OnTrail (t : Timekeeping σ δ) (call : Call) (bound : List BoundValue) (returnRows : Bool)
    (start s : Timed δ × Session σ) : Prop :=
  ∃ taken, Trail t call bound returnRows start taken s

/-- Further attempts go on with a trail, by induction on how many are left. -/
theorem tries_onTrail (fetchRows : Bool) (delay : Int) (left : Nat) (last : TimedFailure δ) :
    Act.Triple (OnTrail t call bound returnRows start)
      (t.tries call bound fetchRows returnRows delay left last)
      (fun _ => OnTrail t call bound returnRows start) (OnTrail t call bound returnRows start) := by
  induction left generalizing last with
  | zero => exact Act.Triple.pure fun _ hs => hs
  | succ left ih =>
    have hpause : Act.Triple (OnTrail t call bound returnRows start)
        (Timed.onExecutor (Executor.pause t.around delay))
        (fun _ => OnTrail t call bound returnRows start) (OnTrail t call bound returnRows start) :=
      Act.Triple.of_reached fun _ ⟨taken, hs⟩ => ⟨taken, .paused delay hs⟩
    have hattempt : Act.Triple (OnTrail t call bound returnRows start)
        (t.attempt call bound fetchRows returnRows)
        (fun _ => OnTrail t call bound returnRows start) (OnTrail t call bound returnRows start) :=
      Act.Triple.of_reached fun _ ⟨_, hs⟩ => ⟨_, .again fetchRows hs⟩
    refine hpause.bind fun _ => hattempt.bind fun ended => ?_
    cases ended with
    | ok outcome => exact Act.Triple.pure fun _ hs => hs
    | error next => exact ih next

/-- A statement is settled on a trail. -/
theorem settle_onTrail :
    Act.Triple (fun s => s = start) (t.settle call bound returnRows)
      (fun _ => OnTrail t call bound returnRows start)
      (OnTrail t call bound returnRows start) := by
  have hattempt : Act.Triple (fun s => s = start) (t.attempt call bound returnRows returnRows)
      (fun _ => OnTrail t call bound returnRows start)
      (OnTrail t call bound returnRows start) := by
    refine Act.Triple.of_reached ?_
    rintro s rfl
    exact ⟨_, .first⟩
  refine hattempt.bind fun ended => ?_
  cases ended with
  | ok outcome => exact Act.Triple.pure fun _ hs => hs
  | error failed =>
    have hask : Act.Triple (OnTrail t call bound returnRows start) (t.askRetry call failed)
        (fun _ => OnTrail t call bound returnRows start)
        (OnTrail t call bound returnRows start) :=
      Act.Triple.of_reached fun _ ⟨taken, hs⟩ => ⟨taken, .asked failed hs⟩
    refine hask.bind fun decision => ?_
    cases decision with
    | none => exact Act.Triple.pure fun _ hs => hs
    | some decision =>
      exact (tries_onTrail start _ decision.delay decision.retries failed).bind fun _ =>
        Act.Triple.pure fun _ hs => hs

end Trails

/-- The state in which the first attempt of a run is made. Nothing is noted any more. -/
def cleared (s : Timed δ × Session σ) : Timed δ × Session σ :=
  (⟨s.1.executor.clearLast, none, none⟩, s.2)

/-- A job that is accepted is run on a trail. -/
theorem run_onTrail {job : Job} {s : Timed δ × Session σ}
    (hjob : job.accepted s.1.executor.connection s.2.connections = .ok (call, bound)) :
    OnTrail t call bound job.returnRows (cleared s)
      (t.run job.sql job.params job.returnRows s).2 := by
  have hopening := opening_eq job s
  rw [hjob] at hopening
  rw [run, Act.bind_of_ok hopening]
  have hlooked : ∀ settled : Timed.Settled δ,
      Act.Triple (OnTrail t call bound job.returnRows (cleared s))
        (do
          let mode ← Act.look fun s => s.1.executor.errorMode
          return settled.verdict mode job.returnRows)
        (fun _ => OnTrail t call bound job.returnRows (cleared s))
        (OnTrail t call bound job.returnRows (cleared s)) := fun settled =>
    Act.Triple.of_state fun _ => rfl
  exact ((settle_onTrail (cleared s)).bind hlooked).always_ends (cleared s) rfl

/-- A job that is not accepted only clears what was noted. -/
theorem run_refused {job : Job} {s : Timed δ × Session σ} {e : Error}
    (hjob : job.accepted s.1.executor.connection s.2.connections = .error e) :
    (t.run job.sql job.params job.returnRows s).2 = cleared s := by
  have hopening := opening_eq job s
  rw [hjob] at hopening
  rw [run, Act.bind_of_error hopening]
  rfl

end Timekeeping

/-! ## Uses of an executor -/

/-- What an executor is used for, as far as its log is concerned. -/
inductive LogUse where
  /-- The log is switched on or off and gets a bound. -/
  | switch (enabled : Bool) (limit : Int)
  /-- A statement is run. -/
  | run (job : Job)

/-- How a log is switched. -/
structure LogSwitch where
  /-- It is on. -/
  enabled : Bool
  /-- The greatest count of outcomes. -/
  limit : Int

namespace LogSwitch

/-- Outcomes are taken in. -/
def isOpen (w : LogSwitch) : Bool := w.enabled && 0 < w.limit

/-- How the log is switched after a use. -/
def after (w : LogSwitch) : LogUse → LogSwitch
  | .switch enabled limit => ⟨enabled, limit⟩
  | .run _ => w

/-- How the log is switched after uses. -/
def afterAll (w : LogSwitch) (uses : List LogUse) : LogSwitch := uses.foldl after w

/-- A log after uses with their outcomes: the latest outcomes, as many as there is room for at the
time, of those that came up while it took them in. -/
def kept : LogSwitch → List LogEntry → List (LogUse × List LogEntry) → List LogEntry
  | _, log, [] => log
  | _, log, (.switch enabled limit, _) :: rest =>
    kept ⟨enabled, limit⟩ (Executor.window limit.toNat log) rest
  | w, log, (.run _, taken) :: rest =>
    kept w (if w.isOpen then Executor.window w.limit.toNat (log ++ taken) else log) rest

/-- All outcomes that came up while a log took them in. -/
def recorded : LogSwitch → List (LogUse × List LogEntry) → List LogEntry
  | _, [] => []
  | _, (.switch enabled limit, _) :: rest => recorded ⟨enabled, limit⟩ rest
  | w, (.run _, taken) :: rest => (if w.isOpen then taken else []) ++ recorded w rest

/-- A log ends with the latest of the outcomes that came up. -/
theorem kept_suffix (w : LogSwitch) (log : List LogEntry)
    (chapters : List (LogUse × List LogEntry)) :
    w.kept log chapters <:+ log ++ w.recorded chapters := by
  induction chapters generalizing w log with
  | nil =>
    rw [kept, recorded]
    exact ⟨[], (List.append_nil log).symm⟩
  | cons chapter rest ih =>
    obtain ⟨use, taken⟩ := chapter
    cases use with
    | switch enabled limit =>
      obtain ⟨front, hfront⟩ : Executor.window limit.toNat log <:+ log := List.drop_suffix _ _
      have hlater := ih ⟨enabled, limit⟩ (Executor.window limit.toNat log)
      rw [kept, recorded]
      refine hlater.trans ⟨front, ?_⟩
      rw [← List.append_assoc, hfront]
    | run job =>
      rw [kept, recorded]
      split
      next =>
        obtain ⟨front, hfront⟩ : Executor.window w.limit.toNat (log ++ taken) <:+ log ++ taken :=
          List.drop_suffix _ _
        refine (ih w _).trans ⟨front, ?_⟩
        rw [← List.append_assoc, hfront, List.append_assoc]
      next => exact ih w log

end LogSwitch

namespace Timekeeping

open Executor (Logged)

/-- Uses an executor; what the caller gets is the caller's affair. -/
def use (t : Timekeeping σ δ) : LogUse → Timed δ × Session σ → Timed δ × Session σ
  | .switch enabled limit, s => ({ s.1 with executor := s.1.executor.setDebug enabled limit }, s.2)
  | .run job, s => (t.run job.sql job.params job.returnRows s).2

/-- Uses an executor again and again. -/
def useAll (t : Timekeeping σ δ) (uses : List LogUse) (s : Timed δ × Session σ) :
    Timed δ × Session σ :=
  uses.foldl (fun s use => t.use use s) s

/-- The uses of an executor with the outcomes that come up in each. There are some only where a job
is accepted, and then they are those of all attempts of its run. -/
inductive Chronicle (t : Timekeeping σ δ) :
    Timed δ × Session σ → List (LogUse × List LogEntry) → Prop where
  /-- The executor is not used any more. -/
  | done (s : Timed δ × Session σ) : Chronicle t s []
  /-- The log is switched. -/
  | switched {s : Timed δ × Session σ} {enabled : Bool} {limit : Int}
      {rest : List (LogUse × List LogEntry)}
      (later : Chronicle t (t.use (.switch enabled limit) s) rest) :
      Chronicle t s ((.switch enabled limit, []) :: rest)
  /-- A job is not accepted. -/
  | refused {s : Timed δ × Session σ} {job : Job} {e : Error} {rest : List (LogUse × List LogEntry)}
      (hjob : job.accepted s.1.executor.connection s.2.connections = .error e)
      (later : Chronicle t (t.use (.run job) s) rest) : Chronicle t s ((.run job, []) :: rest)
  /-- A job is run. -/
  | ran {s : Timed δ × Session σ} {job : Job} {call : Call} {bound : List BoundValue}
      {taken : List LogEntry} {rest : List (LogUse × List LogEntry)}
      (hjob : job.accepted s.1.executor.connection s.2.connections = .ok (call, bound))
      (trail : Trail t call bound job.returnRows (cleared s) taken (t.use (.run job) s))
      (later : Chronicle t (t.use (.run job) s) rest) : Chronicle t s ((.run job, taken) :: rest)

/-- Every list of uses has a chronicle. -/
theorem exists_chronicle (t : Timekeeping σ δ) (uses : List LogUse) (s : Timed δ × Session σ) :
    ∃ chapters, chapters.map Prod.fst = uses ∧ t.Chronicle s chapters := by
  induction uses generalizing s with
  | nil => exact ⟨[], rfl, .done s⟩
  | cons use rest ih =>
    obtain ⟨chapters, hmap, hlater⟩ := ih (t.use use s)
    cases use with
    | switch enabled limit => exact ⟨_ :: chapters, congrArg _ hmap, .switched hlater⟩
    | run job =>
      cases hjob : job.accepted s.1.executor.connection s.2.connections with
      | error e => exact ⟨_ :: chapters, congrArg _ hmap, .refused hjob hlater⟩
      | ok opened =>
        obtain ⟨call, bound⟩ := opened
        obtain ⟨taken, htrail⟩ := run_onTrail (t := t) hjob
        exact ⟨_ :: chapters, congrArg _ hmap, .ran hjob htrail hlater⟩

/-- An executor is switched in some way, and its log is within its bound. -/
structure Switched (w : LogSwitch) (x : Executor) : Prop where
  /-- It is on or off. -/
  enabled : x.debug = w.enabled
  /-- A negative bound leaves no room. -/
  limit : x.logLimit = w.limit.toNat
  /-- There is room for the log. -/
  fits : x.log.length ≤ x.logLimit

/-- What outcomes come to in a log that is switched in some way. -/
theorem Switched.logged {w : LogSwitch} {x y : Executor} {taken : List LogEntry}
    (h : Switched w x) (hlogged : Logged x taken y) :
    Switched w y ∧
      y.log = if w.isOpen then Executor.window w.limit.toNat (x.log ++ taken) else x.log := by
  have hlog : y.log =
      if w.isOpen then Executor.window w.limit.toNat (x.log ++ taken) else x.log := by
    rw [hlogged.log_eq h.fits, h.enabled, h.limit, LogSwitch.isOpen]
    simp only [Int.lt_toNat, Int.natCast_zero]
  have hdebug : y.setup.debug = x.setup.debug := congrArg Executor.debug hlogged.setup
  have hlimit : y.setup.logLimit = x.setup.logLimit := congrArg Executor.logLimit hlogged.setup
  refine ⟨⟨hdebug.trans h.enabled, hlimit.trans h.limit, ?_⟩, hlog⟩
  rw [hlog, show y.logLimit = x.logLimit from hlimit, h.limit]
  split
  · exact Executor.length_window_le _ _
  · exact h.limit ▸ h.fits

/-- A chronicle tells what an executor keeps, by induction on the chronicle. -/
theorem Chronicle.switched_useAll {t : Timekeeping σ δ} (h : t.Reliable)
    {s : Timed δ × Session σ} {chapters : List (LogUse × List LogEntry)}
    (hchronicle : t.Chronicle s chapters) {w : LogSwitch} (hw : Switched w s.1.executor) :
    Switched (w.afterAll (chapters.map Prod.fst)) (t.useAll (chapters.map Prod.fst) s).1.executor ∧
      (t.useAll (chapters.map Prod.fst) s).1.executor.log = w.kept s.1.executor.log chapters := by
  induction hchronicle generalizing w with
  | done s => exact ⟨hw, rfl⟩
  | @switched s enabled limit rest _ ih =>
    exact ih (w := ⟨enabled, limit⟩) ⟨rfl, rfl, Executor.length_window_le _ _⟩
  | @refused s job e rest hjob _ ih =>
    have hlogged : Logged s.1.executor [] (t.use (.run job) s).1.executor := by
      rw [use, run_refused hjob]
      exact ⟨rfl, rfl⟩
    obtain ⟨hswitched, hlog⟩ := hw.logged hlogged
    obtain ⟨hlater, hkept⟩ := ih hswitched
    exact ⟨hlater, hkept.trans (by rw [LogSwitch.kept, hlog])⟩
  | @ran s job call bound taken rest hjob trail _ ih =>
    have hcleared : Logged s.1.executor [] (cleared s).1.executor := ⟨rfl, rfl⟩
    obtain ⟨hswitched, hlog⟩ := hw.logged (hcleared.trans (trail.logged h))
    obtain ⟨hlater, hkept⟩ := ih hswitched
    exact ⟨hlater, hkept.trans (by rw [LogSwitch.kept, hlog, List.nil_append])⟩

/-- The log is a window on the outcomes, whatever is run and however the log is switched meanwhile.
It is never longer than its bound, it ends with the latest outcomes that came up while it took them
in, and none of them is dropped unless it is one of the oldest ones beyond the bound. -/
theorem log_is_window {t : Timekeeping σ δ} (h : t.Reliable) (uses : List LogUse) (x : Timed δ)
    (s : Session σ) (hx : x.executor.log.length ≤ x.executor.logLimit) :
    let w : LogSwitch := ⟨x.executor.debug, x.executor.logLimit⟩
    let left := (t.useAll uses (x, s)).1.executor
    ∃ chapters, chapters.map Prod.fst = uses ∧ t.Chronicle (x, s) chapters ∧
      left.log = w.kept x.executor.log chapters ∧
      (left.log.length : Int) ≤ max 0 (w.afterAll uses).limit ∧
      left.log <:+ x.executor.log ++ w.recorded chapters := by
  intro w left
  obtain ⟨chapters, rfl, hchronicle⟩ := exists_chronicle t uses (x, s)
  have hw : Switched w x.executor := ⟨rfl, rfl, hx⟩
  obtain ⟨hswitched, hkept⟩ := hchronicle.switched_useAll h hw
  refine ⟨chapters, rfl, hchronicle, hkept, ?_, hkept ▸ w.kept_suffix _ _⟩
  have hfits : left.log.length ≤ (w.afterAll (chapters.map Prod.fst)).limit.toNat :=
    hswitched.limit ▸ hswitched.fits
  omega

/-- A world in which the first statement fails and every later one gives one row, which the hook
behind a success protests against. -/
def protesting : Timekeeping (ℕ × ℕ) ℕ :=
  Surroundings.clocked
    { Surroundings.flaky .null with
      hooks := ⟨(· == .afterQuery), fun _ => throw (.raised "ValueError" "too many rows")⟩ }
    (fun readings => (readings, readings + 1)) fun start stop => stop - start

theorem protesting_reliable : protesting.Reliable := by
  intro question duration s hhas hpoint
  have hafter : question.point = .afterQuery := beq_iff_eq.mp hhas
  rw [hafter] at hpoint
  rcases hpoint with h | h | h <;> cases h

/-- Only the first run comes up while the log is off. Every later one has a success and a failure,
and the bound of three leaves the failure of one run and both outcomes of the other. -/
theorem log_is_window_protesting :
    let settings : ConnectionSettings := ⟨"sqlite://", "", "", "", 0, false, [], 8⟩
    let s : Session (ℕ × ℕ) := ⟨{ settings := [("main", settings)] }, 0, 0⟩
    let x : Timed ℕ := { executor := { connection := some "main" } }
    let job : Job := ⟨"SELECT id FROM users", [], true⟩
    let uses : List LogUse := [.run job, .switch true 3, .run job, .run job, .switch false 9,
      .run job]
    let call : Call := ⟨"main", "SELECT id FROM users", []⟩
    let failure : Failure := ⟨call, "too many rows", "ValueError"⟩
    let left := (protesting.useAll uses (x, s)).1.executor
    protesting.Reliable ∧ left.log = [.failed failure, .succeeded ⟨call, 1⟩, .failed failure] ∧
      ∃ chapters, chapters.map Prod.fst = uses ∧ protesting.Chronicle (x, s) chapters ∧
        left.log = LogSwitch.kept ⟨false, 200⟩ [] chapters ∧
        (left.log.length : Int) ≤ max 0 (LogSwitch.afterAll ⟨false, 200⟩ uses).limit ∧
        left.log <:+ [] ++ LogSwitch.recorded ⟨false, 200⟩ chapters := by
  intro settings s x job uses call failure left
  refine ⟨protesting_reliable, ?_, ?_⟩
  · decide +kernel
  · exact log_is_window protesting_reliable uses x s (by decide)

end Timekeeping

end BoundSql
