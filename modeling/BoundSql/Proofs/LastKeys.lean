import BoundSql.Proofs.Executions
import BoundSql.Proofs.LastError
import BoundSql.Proofs.Reports
import BoundSql.Proofs.Switchboard
import BoundSql.Proofs.Uses

/-!
# Keys of added rows

A call that adds a row hands out the key that the connection keeps. On a switchboard that is the key
which the last execution of the call's own statement brought, if it brought one. If it brought none,
it is the key that was answered last on the line before, since the line was reached: that of an
earlier statement, of an earlier attempt, or of one whose commit failed. Only a line that has
answered no key yet gives none.
-/

namespace BoundSql

open LineReport (latestKey)
open Switchboard (Told Keyed)

variable {σ ι α : Type} {board : Switchboard σ} {name sql : String} {past : List LineReport}
  {values : List BoundValue}

/-- A session on a switchboard that reports. -/
abbrev Session.Reporting (σ : Type) : Type := Session (Lines × (σ × List LineReport))

namespace Session

/-- The reports of a session. -/
def reports (s : Reporting σ) : List LineReport := s.outside.2.2

/-- Caches are sound, and the reports have gone on from earlier ones. -/
structure Continues (past : List LineReport) (s : Reporting σ) : Prop where
  /-- Caches are sound. -/
  sound : s.connections.Sound
  /-- The reports have gone on. -/
  goesOn : past <+: s.reports

/-- Caches are sound, the connection of a name is open, and the last report is the answer on its
line to a text with values. -/
structure Answered (past : List LineReport) (name sql : String) (values : List BoundValue)
    (s : Reporting σ) : Prop where
  /-- Caches are sound. -/
  sound : s.connections.Sound
  /-- The connection is open, and the last report is the answer to the text with the values. -/
  told : ∃ opened, s.connections.opened.lookup name = some opened ∧
    Told past ⟨opened.handle, sql, positioned 1 values⟩ s.reports

theorem Answered.continues {s : Reporting σ} (h : Answered past name sql values s) :
    Continues past s := by
  obtain ⟨opened, -, htold⟩ := h.told
  exact ⟨h.sound, htold.goesOn⟩

/-- Asking for a connection goes on from the earlier reports. -/
theorem connection_continues (board : Switchboard σ) (name : String) :
    Act.Triple (Continues past) (connection board.reporting name) (fun _ => Continues past)
      (Continues past) :=
  (connection_keeps (board.reporting_opensKeeping name past)
    fun _ _ _ _ hc => hc.keep (StatementCache.holds_ofSize _)).weaken
    (fun _ hs => ⟨hs.sound, hs.goesOn⟩) (fun _ _ hs => ⟨hs.1, hs.2⟩) fun _ hs => ⟨hs.1, hs.2⟩

/-- On an open connection a statement that succeeds reports its answer last. -/
theorem runBound_told (board : Switchboard σ) (name sql : String) (values : List BoundValue)
    (opened : Opened) (outlined : Connections) :
    Act.Ends (Stable name opened outlined fun u => past <+: u.2.2)
      (runBound board.reporting name sql values) fun result =>
        Stable name opened outlined (Act.Post
          (fun _ u => Told past ⟨opened.handle, sql, positioned 1 values⟩ u.2.2)
          (fun u => past <+: u.2.2) result) :=
  runBound_ends (Act.Ends.pure fun _ hu => hu) (board.execute_told past _)

/-- A statement that succeeds is answered on the line of its connection, and nothing is reported
behind that. -/
theorem runBound_answered (values : List BoundValue) :
    Act.Triple (Continues past) (runBound board.reporting name sql values)
      (fun _ => Answered past name sql values) (Continues past) := by
  intro s hs
  have hconnected := connection_continues board name s hs
  have hfound := connection_found board.reporting name s trivial
  generalize hended : connection board.reporting name s = ended at hconnected hfound
  obtain ⟨result, t⟩ := ended
  cases result with
  | error e =>
    rw [runBound_of_connection_error hended]
    exact hconnected
  | ok opened =>
    have hstable : Stable name opened t.connections.outline (fun u => past <+: u.2.2) t :=
      ⟨hconnected.sound, ⟨opened, hfound, rfl⟩, rfl, hconnected.goesOn⟩
    have hrun := runBound_told board name sql values opened _ t hstable
    rw [runBound_of_connection_ok hended]
    obtain ⟨found, hlookup, hbare⟩ := hrun.found
    have hhandle : found.handle = opened.handle := congrArg (fun o => o.handle) hbare
    have hsound := hrun.sound
    have houtside := hrun.outside
    generalize runBound board.reporting name sql values t = ran at hsound hlookup houtside
    obtain ⟨result, u⟩ := ran
    cases result with
    | ok result => exact ⟨hsound, found, hlookup, hhandle ▸ houtside⟩
    | error e => exact ⟨hsound, houtside⟩

/-- What attempts leave: behind a success the answer is the last report, behind a failure the
reports have gone on. -/
def Left (past : List LineReport) (name sql : String) (values : List BoundValue)
    (succeeded : Bool) (s : Reporting σ) : Prop :=
  if succeeded then Answered past name sql values s else Continues past s

/-- Hooks leave connections and reports. -/
theorem notify_leaves {P : Connections → List LineReport → Prop} (call : HookCall) :
    Act.Triple (fun s : Reporting σ => P s.connections s.reports)
      (onOutside (board.reporting.hooks.notify call)) (fun _ s => P s.connections s.reports)
      fun s => P s.connections s.reports := by
  have hnotify : ∀ c, Act.Triple (fun s => P c s.2.2) (board.reporting.hooks.notify call)
      (fun _ s => P c s.2.2) fun s => P c s.2.2 := fun c => board.notify_reports call
  exact fun s hs => (hnotify s.connections s.outside hs).imp (fun _ ht => ht) fun ht => ht

theorem notify_continues (call : HookCall) :
    Act.Triple (Continues past) (onOutside (board.reporting.hooks.notify call))
      (fun _ => Continues past) (Continues past) :=
  (notify_leaves (P := fun c reports => c.Sound ∧ past <+: reports) call).weaken
    (fun _ hs => ⟨hs.sound, hs.goesOn⟩) (fun _ _ hs => ⟨hs.1, hs.2⟩) fun _ hs => ⟨hs.1, hs.2⟩

theorem notify_answered (call : HookCall) :
    Act.Triple (Answered past name sql values) (onOutside (board.reporting.hooks.notify call))
      (fun _ => Answered past name sql values) (Answered past name sql values) :=
  (notify_leaves (P := fun c reports => c.Sound ∧ ∃ opened, c.opened.lookup name = some opened ∧
      Told past ⟨opened.handle, sql, positioned 1 values⟩ reports) call).weaken
    (fun _ hs => ⟨hs.sound, hs.told⟩) (fun _ _ hs => ⟨hs.1, hs.2⟩) fun _ hs => ⟨hs.1, hs.2⟩

end Session

/-! ## Statements of executors -/

namespace Executor

open Session (Continues Answered Left Reporting)

/-- What a session keeps is kept beside it, and a bad end need not be known. -/
theorem onSession_leaves {act : Act (Reporting σ) α} {P E : Reporting σ → Prop}
    {Q : α → Reporting σ → Prop} (h : Act.Triple P act Q E) :
    Act.Triple (fun s : Executor × Reporting σ => P s.2) (onSession act) (fun a s => Q a s.2)
      fun s => E s.2 :=
  h.within (fun _ hs => hs) (fun _ _ _ _ ht => ht) fun _ _ _ ht => ht

/-- The guarded part of an attempt that succeeds has been answered. -/
theorem execute_left (call : Call) (bound : List BoundValue) (fetchRows : Bool) :
    Act.Triple (fun s => Continues past s.2) (execute board.reporting call bound fetchRows)
      (fun _ s => Answered past call.connection call.sql bound s.2)
      fun s => Continues past s.2 := by
  rw [execute_eq]
  refine (onSession_leaves (Session.runBound_answered bound)).bind fun result => ?_
  refine Act.Triple.bind (R := fun _ (s : Executor × Reporting σ) =>
    Answered past call.connection call.sql bound s.2) (Act.Triple.change fun _ hs => hs) fun _ => ?_
  refine ((onSession_leaves (Session.notify_answered _)).failing fun _ hs => hs.continues).bind
    fun _ => ?_
  exact Act.Triple.pure fun _ hs => hs

/-- An attempt that comes to an outcome has been answered. -/
theorem attempt_left (call : Call) (bound : List BoundValue) (fetchRows returnRows : Bool) :
    Act.Triple (fun s => Continues past s.2)
      (attempt board.reporting call bound fetchRows returnRows)
      (fun ended s => Left past call.connection call.sql bound ended.isOk s.2) fun _ => True := by
  have hnotify : ∀ call, Act.Triple (fun s : Executor × Reporting σ => Continues past s.2)
      (onOutside (board.reporting.hooks.notify call)) (fun _ s => Continues past s.2)
      fun _ => True :=
    fun call => (onSession_leaves (Session.notify_continues call)).failing fun _ _ => trivial
  refine (hnotify _).bind fun _ => ?_
  refine (execute_left call bound fetchRows).attempt.bind fun ended => ?_
  cases ended with
  | ok answer => exact Act.Triple.pure fun _ hs => hs
  | error e =>
    refine Act.Triple.bind (R := fun _ (s : Executor × Reporting σ) => Continues past s.2)
      (Act.Triple.change fun _ hs => hs) fun _ => ?_
    exact (hnotify _).bind fun _ => Act.Triple.pure fun _ hs => hs

/-- What is done outside without a report goes on from the earlier ones. -/
theorem outside_continues (act : Act σ α) :
    Act.Triple (fun s : Executor × Reporting σ => Continues past s.2)
      (onOutside (Lines.beyond act.alongside)) (fun _ s => Continues past s.2) fun _ => True := by
  have hleft : Act.Triple (fun s : Executor × Reporting σ => Continues past s.2)
      (onOutside (Lines.beyond act.alongside)) (fun _ s => Continues past s.2)
      fun s => Continues past s.2 := Act.Triple.of_reached fun _ hs => ⟨hs.sound, hs.goesOn⟩
  exact hleft.failing fun _ _ => trivial

/-- Further attempts leave what the last of them has left, by induction on how many are left. -/
theorem tries_left (call : Call) (bound : List BoundValue) (fetchRows returnRows : Bool)
    (delay : Int) (left : Nat) (last : FailedAttempt) :
    Act.Triple (fun s => Continues past s.2)
      (tries board.reporting call bound fetchRows returnRows delay left last)
      (fun ended s => Left past call.connection call.sql bound ended.isOk s.2) fun _ => True := by
  induction left generalizing last with
  | zero => exact Act.Triple.pure fun _ hs => hs
  | succ left ih =>
    have hpause : Act.Triple (fun s : Executor × Reporting σ => Continues past s.2)
        (pause board.reporting delay) (fun _ s => Continues past s.2) fun _ => True := by
      refine Act.Triple.ite (fun _ => ?_) fun _ => Act.Triple.pure fun _ hs => hs
      refine (Act.Triple.ofExcept.failing fun _ _ => trivial).bind fun time => ?_
      exact outside_continues _
    refine hpause.bind fun _ => ?_
    refine (attempt_left call bound fetchRows returnRows).bind fun ended => ?_
    cases ended with
    | ok outcome => exact Act.Triple.pure fun _ hs => hs
    | error again => exact ih again

/-- A statement that has succeeded, at once or after further attempts, has been answered. -/
theorem settle_left (board : Switchboard σ) (call : Call) (bound : List BoundValue)
    (returnRows : Bool) :
    Act.Triple (fun s => Continues past s.2) (settle board.reporting call bound returnRows)
      (fun x s => Left past call.connection call.sql bound x.ended.isOk s.2) fun _ => True := by
  refine (attempt_left call bound returnRows returnRows).bind fun ended => ?_
  cases ended with
  | ok outcome => exact Act.Triple.pure fun _ hs => hs
  | error failed =>
    have hask : Act.Triple (fun s : Executor × Reporting σ => Continues past s.2)
        (askRetry board.reporting call failed) (fun _ s => Continues past s.2) fun _ => True := by
      refine Act.Triple.ite (fun _ => ?_) fun _ => Act.Triple.pure fun _ hs => hs
      refine (outside_continues _).bind fun answer => ?_
      exact Act.Triple.ofExcept.failing fun _ _ => trivial
    refine hask.bind fun decision => ?_
    cases decision with
    | none => exact Act.Triple.pure fun _ hs => hs
    | some decision =>
      refine (tries_left call bound _ returnRows _ _ failed).bind fun ended => ?_
      exact Act.Triple.pure fun _ hs => hs

/-- So has the text of a run that has succeeded, with what its parameters are bound as. -/
theorem ending_answered {params : List Value} {returnRows : Bool} {s t : Executor × Reporting σ}
    {x : Settled} (hname : s.1.connection = some name) (hs : Continues past s.2)
    (h : ending board.reporting sql params returnRows s = (.ok x, t)) (hx : x.ended.isOk = true) :
    ∃ values, BoundValue.ofValues params = .ok values ∧ Answered past name sql values t.2 := by
  obtain ⟨⟨call, values⟩, u, hopening, hsettle⟩ := Act.exists_of_bind_ok h
  rw [opening_eq ⟨sql, params, returnRows⟩ s.1 s.2] at hopening
  obtain ⟨haccepted, rfl⟩ := Prod.ext_iff.mp hopening
  have hsettle : settle board.reporting call values returnRows (s.1.clearLast, s.2) = (.ok x, t) :=
    hsettle
  have hleft := settle_left board call values returnRows (s.1.clearLast, s.2) hs
  rw [hsettle] at hleft
  have hanswered : Left past call.connection call.sql values x.ended.isOk t.2 := hleft
  rw [hx] at hanswered
  rw [hname] at haccepted
  obtain ⟨_, hbound, haccepted⟩ := bind_eq_ok_iff.mp haccepted
  obtain ⟨_, hchosen, haccepted⟩ := bind_eq_ok_iff.mp haccepted
  obtain ⟨_, -, haccepted⟩ := bind_eq_ok_iff.mp haccepted
  obtain ⟨_, -, haccepted⟩ := bind_eq_ok_iff.mp haccepted
  cases hchosen
  cases haccepted
  exact ⟨values, hbound, hanswered⟩

end Executor

/-! ## Calls that add a row -/

/-- A program whose first statement has succeeded goes on behind it. -/
theorem Program.exists_passes_of_settled {around : Surroundings σ} {demand : Demand}
    {returnRows : Bool} {next : Outcome → Program} {s : Builder × Session σ}
    {x : Executor.Settled} {rest : List Executor.Settled} {outcome : Outcome}
    (h : (statement demand returnRows next).settled around s = x :: rest)
    (hx : x.ended = .ok outcome) : ∃ u, Passes around demand returnRows s x outcome u := by
  rw [settled] at h
  rcases hready : demand.ready around s with ⟨made, t⟩
  rw [hready] at h
  cases made with
  | error e => cases h
  | ok made =>
    obtain ⟨sql, params⟩ := made
    dsimp only at h
    rcases hended : Builder.onExecutor (Executor.ending around sql params returnRows) t with
      ⟨result, u⟩
    rw [hended] at h
    cases result with
    | error e => cases h
    | ok settled =>
      obtain rfl : settled = x := (List.cons.inj h).1
      refine ⟨u, ⟨sql, params, t, hready, hended⟩, ?_⟩
      rw [Executor.concluded, hx]

/-- A statement that was settled is handed over as it was made ready. -/
theorem Program.Passes.exchanges_eq {around : Surroundings σ} {demand : Demand}
    {returnRows : Bool} {next : Outcome → Program} {s t u : Builder × Session σ}
    {x : Executor.Settled} {outcome : Outcome} {params : List Value}
    (h : Passes around demand returnRows s x outcome u)
    (hready : demand.ready around s = (.ok (sql, params), t)) :
    (statement demand returnRows next).exchanges around s =
      ⟨sql, params, some outcome⟩ :: (next outcome).exchanges around u := by
  obtain ⟨_, _, _, hmade, hended⟩ := h.settled
  cases hmade.symm.trans hready
  have hexecute := Builder.execute_of_settled hended
  rw [h.concluded] at hexecute
  exact exchanges_of_passed hready hexecute

/-- Behind a success a builder on an open connection hands out the key that this keeps. -/
theorem Program.run_key_of_lookup (around : Surroundings σ) {u : Builder × Session σ}
    {opened : Opened} (herror : u.1.executor.lastError = none)
    (hname : u.1.connection = some name)
    (hfound : u.2.connections.opened.lookup name = some opened) :
    key.run around u = (.ok (around.driver.insertId opened.handle u.2.outside), u) := by
  have hnone : u.1.executor.lastError.isSome = false := by rw [herror, Option.isSome_none]
  rw [run_key_of_success around hnone, Builder.onConnection_apply hname, Session.insertId,
    Act.bind_of_ok (Session.connection_of_lookup around hfound)]
  rfl

open Session (Continues Answered Reporting)

/-- A statement of the clauses is made ready for a builder that has chosen a connection. -/
theorem Demand.exists_connection_of_ready {around : Surroundings σ}
    {change : Query → Except Error Query} {compile : Query → Except Error Compiled}
    {params : List Value} {s t : Builder × Session σ}
    (h : (compiled change compile).ready around s = (.ok (sql, params), t)) :
    ∃ name, s.1.connection = some name := by
  obtain ⟨changed, c, dialect, -, -, hdialect, -, -, -⟩ := exists_of_ready_ok h
  have hknown : Builder.dialect around s = (.ok dialect, (Builder.dialect around s).2) :=
    Prod.ext hdialect rfl
  obtain ⟨name, hname, -⟩ := Builder.speaks_of_dialect hknown
  exact ⟨name, hname⟩

/-- Making it ready goes on from the earlier reports. -/
theorem Demand.ready_continues {change : Query → Except Error Query}
    {compile : Query → Except Error Compiled} {params : List Value} {s t : Builder × Reporting σ}
    (hname : s.1.connection = some name) (hs : Continues past s.2)
    (h : (compiled change compile).ready board.reporting s = (.ok (sql, params), t)) :
    Continues past t.2 := by
  obtain ⟨changed, c, dialect, -, -, -, -, -, rfl⟩ := exists_of_ready_ok h
  rw [Builder.dialect, Builder.onConnection_apply hname, Session.dialect]
  have hconnection : Act.Triple (Continues past)
      (Session.connection board.reporting name >>= fun opened => pure opened.dialect)
      (fun _ => Continues past) (Continues past) :=
    (Session.connection_continues board name).bind fun opened => Act.Triple.pure fun _ hs => hs
  exact hconnection.always_ends s.2 hs

/-- A statement that has succeeded has been answered on the connection of its builder, and every
connection keeps its key. -/
theorem Program.Passes.answered {change : Query → Except Error Query}
    {compile : Query → Except Error Compiled} {returnRows : Bool} {s u : Builder × Reporting σ}
    {x : Executor.Settled} {outcome : Outcome}
    (h : Passes board.reporting (.compiled change compile) returnRows s x outcome u)
    (hx : x.ended.isOk = true) (hs : Continues past s.2) (hkeyed : Keyed s.2.outside) :
    ∃ name sql params t values,
      (Demand.compiled change compile).ready board.reporting s = (.ok (sql, params), t) ∧
      BoundValue.ofValues params = .ok values ∧ u.1.connection = some name ∧
      Answered past name sql values u.2 ∧ Keyed u.2.outside := by
  obtain ⟨sql, params, t, hready, hended⟩ := h.settled
  obtain ⟨name, hname⟩ := Demand.exists_connection_of_ready hready
  have hcontinues := Demand.ready_continues hname hs hready
  have hosts := board.reporting_keyed.hosts name
  obtain ⟨t', hready', ht⟩ := (Demand.ready_sim hosts _).exists_of_eq
    (s := s) (t := s) ⟨rfl, hname, rfl, rfl, hkeyed⟩ hready
  obtain rfl : t' = t := (congrArg Prod.snd (hready'.symm.trans hready))
  obtain ⟨u', hended', hu⟩ := (Builder.onExecutor_sim
    (Executor.ending_sim (hosts.run sql params) returnRows)).exists_of_eq ht hended
  obtain rfl : u' = u := (congrArg Prod.snd (hended'.symm.trans hended))
  rw [Builder.onExecutor, Act.within_apply] at hended
  obtain ⟨hresult, hleft⟩ := Prod.ext_iff.mp hended
  obtain ⟨values, hvalues, hanswered⟩ := Executor.ending_answered
    (s := (t'.1.executor, t'.2)) ht.connection hcontinues (Prod.ext hresult rfl) hx
  have hsession : (Executor.ending board.reporting sql params returnRows
      (t'.1.executor, t'.2)).2.2 = u'.2 := congrArg Prod.snd hleft
  rw [hsession] at hanswered
  exact ⟨name, sql, params, t', values, hready, hvalues, hu.connection, hanswered,
    hu.sessions.outside.2⟩

namespace TerminalCall

variable {table : String} {data : Fields} {x : Executor.Settled} {outcome : Outcome}

/-- The one statement of a call has succeeded, at once or when it was tried again. -/
def Succeeds (around : Surroundings σ) (call : TerminalCall) (s : Builder × Session σ) : Prop :=
  (call.settled around s).map (fun x => x.ended.isOk) = [true]

instance (around : Surroundings σ) (call : TerminalCall) (s : Builder × Session σ) :
    Decidable (call.Succeeds around s) := inferInstanceAs (Decidable (_ = _))

theorem Succeeds.exists_settled {around : Surroundings σ} {call : TerminalCall}
    {s : Builder × Session σ} (h : call.Succeeds around s) :
    ∃ x outcome, call.settled around s = [x] ∧ x.ended = .ok outcome := by
  obtain ⟨x, hsettled, hx⟩ := List.map_eq_singleton_iff.mp h
  obtain ⟨retried, ended⟩ := x
  cases ended with
  | ok outcome => exact ⟨_, outcome, hsettled, rfl⟩
  | error failed => cases hx

/-- What is known of a call that has added a row. -/
structure Inserted (board : Switchboard σ) (table : String) (data : Fields)
    (past : List LineReport) (s : Builder × Reporting σ) (statement : Prepared)
    (since : List LineReport) (result : StatementResult) : Prop where
  /-- The statement is the one that the call has made, with its values. -/
  made : ∃ params values,
    (insert table data).compiled board.reporting s = [(statement.sql, params)] ∧
    BoundValue.ofValues params = .ok values ∧ statement.bindings = positioned 1 values
  /-- The statement belongs to the open connection of the builder. -/
  line : ∃ name opened, ((insert table data).act board.reporting s).2.1.connection = some name ∧
    ((insert table data).act board.reporting s).2.2.connections.opened.lookup name = some opened ∧
    opened.handle = statement.handle
  /-- Its answer is the last report. -/
  reports : ((insert table data).act board.reporting s).2.2.reports =
    past ++ since ++ [.answered statement (.ok result)]
  /-- The call hands out the key that the connection keeps. -/
  key : ((insert table data).act board.reporting s).1 =
    .ok (latestKey statement.handle (past ++ since ++ [.answered statement (.ok result)]))

/-- A call whose statement has succeeded has added a row. -/
theorem insert_answered {s : Builder × Reporting σ} (hs : Continues past s.2)
    (hkeyed : Keyed s.2.outside) (h : (insert table data).settled board.reporting s = [x])
    (hx : x.ended = .ok outcome) :
    ∃ statement since result, Inserted board table data past s statement since result := by
  obtain ⟨u, hpasses⟩ := Program.exists_passes_of_settled h hx
  have hok : x.ended.isOk = true := by rw [hx]; rfl
  obtain ⟨name, sql, params, t, values, hready, hvalues, hname, hanswered, hkept⟩ :=
    hpasses.answered hok hs hkeyed
  obtain ⟨opened, hfound, since, result, hreports⟩ := hanswered.told
  have hfailure : u.1.executor.lastError = none := by
    rw [hpasses.lastError_eq, Executor.Settled.failure?, hx]
    rfl
  have hact : (insert table data).act board.reporting s =
      (.ok ((u.2.outside.1 opened.handle).insertId), u.1.reset, u.2) := by
    rw [act_eq, Builder.clearing, Act.always_apply, program, hpasses.run_eq,
      Program.run_key_of_lookup board.reporting hfailure hname hfound]
    rfl
  have hcompiled : (insert table data).compiled board.reporting s = [(sql, params)] := by
    rw [compiled, program, hpasses.exchanges_eq hready]
    rfl
  refine ⟨⟨opened.handle, sql, positioned 1 values⟩, since, result,
    ⟨params, values, hcompiled, hvalues, rfl⟩, ⟨name, opened, ?_, ?_, rfl⟩, ?_, ?_⟩
  · rw [hact]
    exact hname
  · rw [hact]
    exact hfound
  · rw [hact]
    exact hreports
  · rw [hact, hkept opened.handle]
    exact congrArg (fun reports => Except.ok (latestKey opened.handle reports)) hreports

end TerminalCall

/-! ## Histories -/

namespace Switchboard

open SharedUse (performAll)
open TerminalCall (insert)

/-- Nothing has been used yet: no connection is open, and no line has a key. -/
structure Unused (s : Shared ι (Lines × σ)) : Prop where
  /-- No connection is open. -/
  opened : s.2.connections.opened = []
  /-- No line has a key. -/
  keyless : ∀ handle, (s.2.outside.1 handle).insertId = .null

/-- The same with reports, of which there are none yet. -/
def withReports (s : Shared ι (Lines × σ)) : Shared ι (Lines × (σ × List LineReport)) :=
  (s.1, ⟨s.2.connections, s.2.outside.1, s.2.outside.2, []⟩)

/-- The line of a builder's open connection. -/
def lineOf (who : ι) (s : Shared ι (Lines × σ)) : Option Handle := do
  let name ← (s.1 who).connection
  let opened ← s.2.connections.opened.lookup name
  return opened.handle

variable [DecidableEq ι]

theorem lineOf_put {who : ι} {t : Builder × Session (Lines × σ)} {s : Shared ι (Lines × σ)}
    {name : String} {opened : Opened} (hname : t.1.connection = some name)
    (hopened : t.2.connections.opened.lookup name = some opened) :
    lineOf who (Shared.put who t s) = some opened.handle := by
  rw [lineOf, Shared.put]
  dsimp only
  rw [Function.update_self, hname, Option.bind_eq_bind, Option.bind_some, hopened]
  rfl

/-- What lines report while uses are made. -/
def reports (board : Switchboard σ) (uses : List (SharedUse ι)) (start : Shared ι (Lines × σ)) :
    List LineReport :=
  (performAll board.reporting uses (withReports start)).2.reports

section History

variable {start : Shared ι (Lines × σ)}

omit [DecidableEq ι] in
theorem withReports_beside (start : Shared ι (Lines × σ)) :
    Session.Beside (Lines.Beside fun (s : σ × List LineReport) t => t = s.1) (withReports start)
      start :=
  ⟨rfl, rfl, rfl, rfl⟩

omit [DecidableEq ι] in
theorem Unused.keyed (h : Unused start) : Keyed (withReports start).2.outside := h.keyless

/-- Every connection keeps its key, and caches are sound. -/
theorem Unused.performAll_continues (board : Switchboard σ) (h : Unused start)
    (uses : List (SharedUse ι)) :
    Keyed (performAll board.reporting uses (withReports start)).2.outside ∧
      Session.Continues (board.reports uses start)
        (performAll board.reporting uses (withReports start)).2 := by
  have hkeyed := SharedUse.performAll_parallel board.reporting_keyed uses
    (s := withReports start) (t := withReports start) ⟨rfl, rfl, rfl, h.keyed⟩
  have hsound := SharedUse.performAll_lasts board.reporting.sound_lasting uses
    (s := withReports start) fun name opened hopened => by
      have hnone : (withReports start).2.connections.opened = [] := h.opened
      rw [hnone] at hopened
      cases hopened
  exact ⟨hkeyed.sessions.outside.2, hsound, List.prefix_rfl⟩

/-- After any history of uses, a call that adds a row and whose statement succeeds hands out the key
that the last execution of its own statement brought. If that brought none, it hands out the key
that was answered last on the line of its connection before, and none if there was none. -/
theorem insert_latest_key (board : Switchboard σ) (hstart : Unused start)
    (uses : List (SharedUse ι)) (who : ι) (table : String) (data : Fields)
    (hsucceeds : (insert table data).Succeeds board.surroundings
      (Shared.one who (performAll board.surroundings uses start))) :
    ∃ statement params values since result,
      (insert table data).compiled board.surroundings
          (Shared.one who (performAll board.surroundings uses start)) =
        [(statement.sql, params)] ∧
      BoundValue.ofValues params = .ok values ∧
      statement.bindings = positioned 1 values ∧
      lineOf who (performAll board.surroundings (uses ++ [.call who (insert table data)]) start) =
        some statement.handle ∧
      board.reports (uses ++ [.call who (insert table data)]) start =
        board.reports uses start ++ since ++ [.answered statement (.ok result)] ∧
      ((insert table data).act board.surroundings
          (Shared.one who (performAll board.surroundings uses start))).1 =
        .ok (result.key?.getD
          (latestKey statement.handle (board.reports uses start ++ since))) := by
  have hbeside := SharedUse.performAll_parallel board.reporting_parallel uses
    (withReports_beside start)
  obtain ⟨hkeyed, hcontinues⟩ := hstart.performAll_continues board uses
  obtain ⟨x, outcome, hsettled, hx⟩ := hsucceeds.exists_settled
  obtain ⟨u, hpasses⟩ := Program.exists_passes_of_settled hsettled hx
  obtain ⟨sql, params, v, hready, -⟩ := hpasses.settled
  obtain ⟨name, hname⟩ := Demand.exists_connection_of_ready hready
  have hbuilder := congrFun hbeside.same who
  have halike : Builder.Alike name (Session.Parallel (Lines.Beside fun s t => t = s.1))
      (Shared.one who (performAll board.reporting uses (withReports start)))
      (Shared.one who (performAll board.surroundings uses start)) :=
    ⟨hbuilder, (congrArg Builder.connection hbuilder).symm.trans hname, hbeside.sessions⟩
  have hosts := board.reporting_parallel.hosts name
  have hreported := (Program.settled_sim hosts (insert table data).program halike).symm.trans
    hsettled
  have hcompiled := congrArg (List.map Exchange.made)
    (Program.exchanges_sim hosts (insert table data).program halike)
  obtain ⟨hresult, hafter⟩ := TerminalCall.act_sim hosts (insert table data) _ _ halike
  obtain ⟨statement, since, result, hinserted⟩ :=
    TerminalCall.insert_answered hcontinues hkeyed hreported hx
  obtain ⟨made, values, hmade, hvalues, hbindings⟩ := hinserted.made
  refine ⟨statement, made, values, since, result, hcompiled.trans hmade, hvalues, hbindings,
    ?_, ?_, ?_⟩
  · obtain ⟨chosen, opened, hchosen, hopened, hhandle⟩ := hinserted.line
    rw [← hafter.same] at hchosen
    rw [← hafter.sessions.connections] at hopened
    rw [SharedUse.performAll_concat, SharedUse.perform_call, lineOf_put hchosen hopened, hhandle]
  · rw [reports, SharedUse.performAll_concat, SharedUse.perform_call]
    exact hinserted.reports
  · rw [hresult, hinserted.key, LineReport.latestKey_answered]

end History

/-- A switchboard with one line, on which statements are answered one after another with given
keys. -/
def keying : Switchboard (List Value) where
  wire _ :=
    { connect := pure ()
      start := pure ()
      execute := fun _ _ keys => (.ok ⟨none, 1, keys.headD .null⟩, keys.drop 1)
      commit := pure ()
      rollback := pure ()
      close := pure ()
      isFatal := fun _ => false
      mayLinger := false }
  reach _ _ := pure 0
  dialectName _ _ := "sqlite"
  hooks := ⟨fun _ => false, fun _ => pure .null⟩
  sleep _ := pure ()
  adapters := .standard

/-- A builder on a connection that is not open yet, and keys to be answered. -/
def keyingStart (keys : List Value) : Shared Unit (Lines × List Value) :=
  let settings : ConnectionSettings := ⟨"sqlite://", "", "", "", 0, false, [], 8⟩
  (fun _ => Builder.ofConnection "main", ⟨{ settings := [("main", settings)] }, fun _ => {}, keys⟩)

theorem keyingStart_unused (keys : List Value) : Unused (keyingStart keys) := ⟨rfl, fun _ => rfl⟩

/-- The second of two rows gets a key of its own. -/
theorem insert_latest_key_second :
    let start := keyingStart [.int 7, .int 8]
    let call : TerminalCall := .insert "logs" [(.text "text", .text "b")]
    let s := Shared.one () (performAll keying.surroundings [.call () call] start)
    Unused start ∧ call.Succeeds keying.surroundings s ∧
      (∃ statement since result,
        keying.reports [.call () call, .call () call] start =
          keying.reports [.call () call] start ++ since ++ [.answered statement (.ok result)] ∧
        (call.act keying.surroundings s).1 =
          .ok (result.key?.getD (latestKey statement.handle
            (keying.reports [.call () call] start ++ since)))) ∧
      (call.act keying.surroundings s).1 = .ok (.int 8) := by
  intro start call s
  have hsucceeds : call.Succeeds keying.surroundings s := by decide +kernel
  obtain ⟨statement, -, -, since, result, -, -, -, -, hreports, hkey⟩ :=
    insert_latest_key keying (keyingStart_unused _) [.call () call] () "logs"
      [(.text "text", .text "b")] hsucceeds
  refine ⟨keyingStart_unused _, hsucceeds, ⟨statement, since, result, hreports, hkey⟩, ?_⟩
  exact eq_ok_of_toOption (by decide +kernel)

/-- A row for which no key was answered gets the one of the row before. -/
theorem insert_earlier_key :
    let start := keyingStart [.int 7, .null]
    let call : TerminalCall := .insert "logs" [(.text "text", .text "b")]
    let s := Shared.one () (performAll keying.surroundings [.call () call] start)
    let past := keying.reports [.call () call] start
    let own := (keying.reports [.call () call, .call () call] start).drop past.length
    call.Succeeds keying.surroundings s ∧ past.filterMap LineReport.key? = [.int 7] ∧
      own.length = 1 ∧ own.filterMap LineReport.key? = [] ∧
      (call.act keying.surroundings s).1 = .ok (.int 7) := by
  intro start call s past own
  have hsucceeds : call.Succeeds keying.surroundings s := by decide +kernel
  have hreports : past.filterMap LineReport.key? = [.int 7] ∧ own.length = 1 ∧
      own.filterMap LineReport.key? = [] := by decide +kernel
  exact ⟨hsucceeds, hreports.1, hreports.2.1, hreports.2.2, eq_ok_of_toOption (by decide +kernel)⟩

end Switchboard

end BoundSql
