import BoundSql.Proofs.Calls

/-!
# Executed statements

Notes of the world outside tell which statements were executed, with which values and how that
ended. What a statement comes to says what was noted: one that succeeds at once is executed once,
with the values that it was made ready with. Nothing else that a call does executes a statement.
-/

namespace BoundSql

variable {σ τ : Type}

/-! ## Executions -/

/-- A statement that was executed, with its values by position, and how that ended. -/
structure Execution where
  /-- Its text. -/
  sql : String
  /-- The values at their positions. -/
  values : List (Nat × BoundValue)
  /-- How it ended. -/
  ended : Except Error StatementResult

/-- The execution that a note is about. -/
def Note.execution? : Note → Option Execution
  | .executed sql values ended => some ⟨sql, values, ended⟩
  | _ => none

/-- The executions among notes, in order. -/
def executions (notes : List Note) : List Execution := notes.filterMap Note.execution?

theorem executions_concat (notes : List Note) (note : Note) :
    executions (notes ++ [note]) = executions notes ++ note.execution?.toList := by
  rw [executions, List.filterMap_append]
  cases h : note.execution? <;> simp [executions, h]

/-- Another note leaves the executions. -/
theorem executions_of_none {notes : List Note} {note : Note} {past : List Execution}
    (h : executions notes = past) (hnote : note.execution? = none) :
    executions (notes ++ [note]) = past := by
  rw [executions_concat, hnote, h]
  exact List.append_nil past

namespace Session

variable {around : Surroundings σ} {name sql : String} {past : List Execution}

/-- The caches are sound, and this is what has been executed. -/
def Executed (past : List Execution) (s : Session (σ × List Note)) : Prop :=
  s.connections.Sound ∧ executions s.outside.2 = past

/-- Asking for a connection executes nothing. -/
theorem connection_executed :
    Act.Triple (Executed past) (connection around.noting name) (fun _ => Executed past)
      (Executed past) := by
  have hopens : around.noting.OpensKeeping name fun s => executions s.2 = past :=
    around.noting_opensKeeping (K := fun notes => executions notes = past) name
      fun _ _ _ _ h => executions_of_none h rfl
  exact connection_keeps hopens fun c handle dialect size hc =>
    hc.keep (StatementCache.holds_ofSize size)

/-- A hook that is notified executes nothing. -/
theorem notify_executed (call : HookCall) :
    Act.Triple (Executed past) (onOutside (around.noting.hooks.notify call))
      (fun _ => Executed past) (Executed past) :=
  onOutside_keeps (around.noting_notify (K := fun notes => executions notes = past) call
    fun _ _ h => executions_of_none h rfl)

/-- Running a statement that succeeds executes its text with the values of the call. -/
theorem runBound_executed (values : List BoundValue) :
    Act.Triple (Executed past) (runBound around.noting name sql values)
      (fun result => Executed (past ++ [⟨sql, positioned 1 values, .ok result⟩]))
      fun _ => True := by
  let Q : Except Error StatementResult → σ × List Note → Prop := fun r t =>
    ∀ result, r = .ok result →
      executions t.2 = past ++ [⟨sql, positioned 1 values, .ok result⟩]
  have hconnection : Act.Ends (Executed past) (connection around.noting name)
      (Act.Split (fun _ s => s.connections.Sound ∧ executions s.outside.2 = past)
        fun _ => Executed past) := connection_executed.split
  have hprepare : ∀ handle, Act.Ends (fun t => executions t.2 = past)
      (around.noting.driver.prepare handle sql)
      (Act.Split (fun _ t => executions t.2 = past) fun e => Q (.error e)) := by
    intro handle
    have hnoted : Act.Triple (fun t => executions t.2 = past)
        (around.noting.driver.prepare handle sql) (fun _ t => executions t.2 = past)
        fun t => executions t.2 = past :=
      Act.noted_keeps (K := fun notes => executions notes = past)
        (fun _ _ h => executions_of_none h rfl) _
    refine hnoted.split.weaken (fun _ ht => ht) fun r t ht => ?_
    cases r with
    | ok _ => exact ht
    | error e => exact nofun
  have hexecute : ∀ handle, Act.Ends (fun t => executions t.2 = past)
      (around.noting.driver.execute ⟨handle, sql, positioned 1 values⟩) Q := by
    rintro handle ⟨t, notes⟩ hnotes result hresult
    change executions (notes ++ [Note.executed sql _ _]) = _
    rw [executions_concat, hnotes, Prepared.boundValues_positioned]
    exact congrArg (fun ended => past ++ [Execution.mk sql (positioned 1 values) ended]) hresult
  intro s hs
  have hrun := runBound_connecting hconnection hprepare hexecute s hs
  generalize runBound around.noting name sql values s = ended at hrun ⊢
  obtain ⟨result, t⟩ := ended
  cases result with
  | error e => trivial
  | ok result =>
    rcases hrun with ⟨hsound, -, hexecuted⟩ | ⟨e, he, -⟩
    · exact ⟨hsound, hexecuted result rfl⟩
    · cases he

end Session

/-! ## Statements that succeed at once -/

namespace Executor

variable {around : Surroundings σ} {sql : String} {params : List Value} {past : List Execution}

/-- The statement was not tried again and did not fail. -/
def Settled.AtOnce (x : Settled) : Prop := x.retried = false ∧ x.ended.isOk = true

instance (x : Settled) : Decidable x.AtOnce := inferInstanceAs (Decidable (_ ∧ _))

theorem Settled.AtOnce.exists_eq {x : Settled} (h : x.AtOnce) :
    ∃ outcome, x = ⟨false, .ok outcome⟩ := by
  obtain ⟨retried, ended⟩ := x
  obtain ⟨hretried, hok⟩ := h
  cases ended with
  | ok outcome => exact ⟨outcome, by rw [show retried = false from hretried]⟩
  | error failed => cases hok

/-- The guarded part of an attempt that succeeds executes one statement. -/
theorem execute_executed (call : Call) (bound : List BoundValue) (fetchRows : Bool) :
    Act.Triple (fun s => Session.Executed past s.2) (execute around.noting call bound fetchRows)
      (fun r s => r.2 = (if fetchRows then some (r.1.rows.getD []) else none) ∧
        Session.Executed (past ++ [⟨call.sql, positioned 1 bound, .ok r.1⟩]) s.2)
      fun _ => True := by
  rw [execute_eq]
  have hrun : Act.Triple (fun s : Executor × Session (σ × List Note) => Session.Executed past s.2)
      (onSession (Session.runBound around.noting call.connection call.sql bound))
      (fun result s =>
        Session.Executed (past ++ [⟨call.sql, positioned 1 bound, .ok result⟩]) s.2)
      fun _ => True :=
    (Session.runBound_executed bound).within (fun _ hs => hs) (fun _ _ _ _ ht => ht)
      fun _ _ _ _ => trivial
  refine hrun.bind fun result => ?_
  have hnote : Act.Triple (fun s : Executor × Session (σ × List Note) =>
        Session.Executed (past ++ [⟨call.sql, positioned 1 bound, .ok result⟩]) s.2)
      (note fun x => x.noteSuccess ⟨call, result.rowCount⟩)
      (fun _ s => Session.Executed (past ++ [⟨call.sql, positioned 1 bound, .ok result⟩]) s.2)
      fun _ => True := Act.Triple.change fun _ hs => hs
  refine hnote.bind fun _ => ?_
  refine Act.Triple.bind (R := fun _ s =>
    Session.Executed (past ++ [⟨call.sql, positioned 1 bound, .ok result⟩]) s.2) ?_ fun _ => ?_
  · exact (Session.notify_executed _).within (fun _ hs => hs) (fun _ _ _ _ ht => ht)
      fun _ _ _ _ => trivial
  · exact Act.Triple.pure fun s hs => ⟨rfl, hs⟩

/-- An attempt that comes to an outcome executes one statement, and the outcome is its result. -/
theorem attempt_executed (call : Call) (bound : List BoundValue) (returnRows : Bool) :
    Act.Triple (fun s => Session.Executed past s.2)
      (attempt around.noting call bound returnRows returnRows)
      (fun r s => ∀ outcome, r = .ok outcome → ∃ result,
        outcome = outcomeOf returnRows returnRows result ∧
          Session.Executed (past ++ [⟨call.sql, positioned 1 bound, .ok result⟩]) s.2)
      fun _ => True := by
  have hbefore : Act.Triple
      (fun s : Executor × Session (σ × List Note) => Session.Executed past s.2)
      (onOutside (around.noting.hooks.notify (.beforeQuery call)))
      (fun _ s => Session.Executed past s.2) fun _ => True :=
    (Session.notify_executed _).within (fun _ hs => hs) (fun _ _ _ _ ht => ht)
      fun _ _ _ _ => trivial
  refine hbefore.bind fun _ => ?_
  refine (execute_executed call bound returnRows).attempt.bind fun r => ?_
  cases r with
  | ok answer =>
    obtain ⟨result, rows⟩ := answer
    refine Act.Triple.pure fun s hs outcome houtcome => ?_
    obtain ⟨hrows, hexecuted⟩ := hs
    dsimp only at hrows hexecuted
    refine ⟨result, ?_, hexecuted⟩
    rw [← Except.ok.inj houtcome, hrows, outcomeOf]
    cases returnRows <;> rfl
  | error e =>
    refine (Act.Triple.any _).bind fun _ => (Act.Triple.any _).bind fun _ => ?_
    exact Act.Triple.pure fun s _ outcome houtcome => nomatch houtcome

/-- A statement that succeeds at once is executed once. -/
theorem settle_executed (call : Call) (bound : List BoundValue) (returnRows : Bool) :
    Act.Triple (fun s => Session.Executed past s.2) (settle around.noting call bound returnRows)
      (fun x s => ∀ outcome, x = ⟨false, .ok outcome⟩ → ∃ result,
        outcome = outcomeOf returnRows returnRows result ∧
          Session.Executed (past ++ [⟨call.sql, positioned 1 bound, .ok result⟩]) s.2)
      fun _ => True := by
  refine (attempt_executed call bound returnRows).bind fun r => ?_
  cases r with
  | ok outcome =>
    refine Act.Triple.pure fun s hs other hother => ?_
    cases hother
    exact hs outcome rfl
  | error failed =>
    refine (Act.Triple.any _).bind fun decision => ?_
    cases decision with
    | none => exact Act.Triple.pure fun s _ outcome houtcome => nomatch houtcome
    | some decision =>
      refine (Act.Triple.any _).bind fun ended => ?_
      exact Act.Triple.pure fun s _ outcome houtcome => nomatch houtcome

/-- What is checked before anything is sent leaves the session and binds the parameters. -/
theorem opening_executed (past : List Execution) (sql : String) (params : List Value) :
    Act.Triple (fun s : Executor × Session (σ × List Note) => Session.Executed past s.2)
      (opening sql params)
      (fun r s => r.1.sql = sql ∧ BoundValue.ofValues params = .ok r.2 ∧
        Session.Executed past s.2)
      fun _ => True := by
  refine Act.Triple.bind (R := fun _ s => Session.Executed past s.2)
    (Act.Triple.change fun _ hs => hs) fun _ => ?_
  have hbound : Act.Triple (fun s : Executor × Session (σ × List Note) => Session.Executed past s.2)
      (Act.ofExcept (BoundValue.ofValues params))
      (fun bound s => BoundValue.ofValues params = .ok bound ∧ Session.Executed past s.2)
      fun _ => True := by
    intro s hs
    rw [Act.ofExcept_apply]
    cases hvalues : BoundValue.ofValues params with
    | ok bound => exact ⟨rfl, hs⟩
    | error e => trivial
  refine hbound.bind fun bound => Act.Triple.given fun hvalues => ?_
  refine Act.Triple.bind (R := fun _ s => Session.Executed past s.2)
    (Act.Triple.look fun _ hs => hs) fun chosen => ?_
  have hname : Act.Triple (fun s : Executor × Session (σ × List Note) => Session.Executed past s.2)
      (onSession (Session.configuredName chosen)) (fun _ s => Session.Executed past s.2)
      fun s => Session.Executed past s.2 := by
    refine Act.Triple.of_state fun s => ?_
    cases chosen with
    | none => rfl
    | some name => rw [onSession, Act.within_apply, configuredName_some]
  refine (hname.failing fun _ _ => trivial).bind fun name => ?_
  refine (Act.Triple.ofExcept.failing fun _ _ => trivial).bind fun _ => ?_
  exact Act.Triple.pure fun _ hs => ⟨rfl, hvalues, hs⟩

/-- A run that succeeds at once executes its text once, with what its parameters are bound as, and
its outcome is the result of that. -/
theorem ending_executed (around : Surroundings σ) (past : List Execution) (sql : String)
    (params : List Value) (returnRows : Bool) :
    Act.Triple (fun s => Session.Executed past s.2) (ending around.noting sql params returnRows)
      (fun x s => ∀ outcome, x = ⟨false, .ok outcome⟩ → ∃ bound result,
        BoundValue.ofValues params = .ok bound ∧
          outcome = outcomeOf returnRows returnRows result ∧
          Session.Executed (past ++ [⟨sql, positioned 1 bound, .ok result⟩]) s.2)
      fun _ => True := by
  refine (opening_executed past sql params).bind fun (call, bound) => ?_
  rintro s ⟨hsql, hbound, hs⟩
  refine (settle_executed call bound returnRows s hs).imp (fun x hx => ?_) id
  intro outcome houtcome
  obtain ⟨result, hresult, hexecuted⟩ := hx outcome houtcome
  rw [hsql] at hexecuted
  exact ⟨bound, result, hbound, hresult, hexecuted⟩

variable {name : String} {R : Session σ → Session τ → Prop} {other : Surroundings τ}
  {bound : List BoundValue}

/-- Further attempts are alike, by induction on how many are left. -/
theorem tries_sim (h : around.Sim name sql params R other) {notes : List ParamNote}
    (hbound : BoundValue.ofValues params = .ok bound) (fetchRows returnRows : Bool) (delay : Int)
    (left : Nat) (last : FailedAttempt) :
    Act.Sim (Alike name R)
      (tries around ⟨name, sql, notes⟩ bound fetchRows returnRows delay left last)
      (tries other ⟨name, sql, notes⟩ bound fetchRows returnRows delay left last) := by
  induction left generalizing last with
  | zero => exact Act.Sim.pure _
  | succ left ih =>
    refine (pause_sim h delay).bind fun _ => ?_
    refine (attempt_sim h hbound fetchRows returnRows).bind fun ended => ?_
    cases ended with
    | ok outcome => exact Act.Sim.pure _
    | error again => exact ih again

/-- What a statement comes to is alike. -/
theorem ending_sim (h : around.Sim name sql params R other) (returnRows : Bool) :
    Act.Sim (Alike name R) (ending around sql params returnRows)
      (ending other sql params returnRows) := by
  unfold ending opening
  simp only [Act.bind_assoc, Act.pure_bind]
  refine (note_sim (f := clearLast) fun x => rfl).bind fun _ => ?_
  refine (Act.Sim.ofExcept (BoundValue.ofValues params)).bindOk fun bound _ _ _ hbound => ?_
  refine (look_sim fun x => x.connection).bindOk fun chosen s _ hst hchosen => ?_
  have hname : s.1.connection = chosen := Except.ok.inj hchosen
  obtain rfl : some name = chosen := hst.connection.symm.trans hname
  refine (onSession_sim h.configured).bindOk fun chosen s _ _ hchosen => ?_
  obtain rfl : chosen = name := eq_of_configuredName hchosen
  refine (Act.Sim.ofExcept _).bind fun _ => ?_
  refine (attempt_sim h hbound returnRows returnRows).bind fun ended => ?_
  cases ended with
  | ok outcome => exact Act.Sim.pure _
  | error failed =>
    refine (askRetry_sim h _ failed).bind fun decision => ?_
    cases decision with
    | none => exact Act.Sim.pure _
    | some decision =>
      exact (tries_sim h hbound _ returnRows _ _ failed).bind fun _ => Act.Sim.pure _

end Executor

/-! ## Statements of calls -/

variable {name : String} {R : Session σ → Session τ → Prop} {around : Surroundings σ}
  {other : Surroundings τ} {s : Builder × Session σ} {t : Builder × Session τ}

/-- What the statements of a program come to is alike, by induction on the program. -/
theorem Program.settled_sim (h : around.Hosts name R other) (p : Program)
    (hst : Builder.Alike name R s t) : p.settled other t = p.settled around s := by
  induction p generalizing s t with
  | finish result => rfl
  | key => rfl
  | statement demand returnRows next ih =>
    rcases hready : demand.ready around s with ⟨made, u⟩
    obtain ⟨v, hother, huv⟩ := (Demand.ready_sim h demand).exists_of_eq hst hready
    rw [settled, settled, hready, hother]
    cases made with
    | error e => rfl
    | ok made =>
      obtain ⟨sql, params⟩ := made
      have hending := Builder.onExecutor_sim (Executor.ending_sim (h.run sql params) returnRows)
      rcases hended :
        Builder.onExecutor (Executor.ending around sql params returnRows) u with ⟨result, u'⟩
      obtain ⟨v', hotherEnded, huv'⟩ := hending.exists_of_eq huv hended
      dsimp only
      rw [hended, hotherEnded]
      cases result with
      | error e => rfl
      | ok x =>
        dsimp only
        rw [huv'.same]
        cases Executor.concluded u'.1.executor.errorMode returnRows x with
        | error e => rfl
        | ok outcome => exact congrArg (List.cons x) (ih outcome huv')

namespace Demand

variable {past : List Execution} {change : Query → Except Error Query}
  {compile : Query → Except Error Compiled} {sql : String} {params : List Value}
  {u : Builder × Session σ}

/-- A statement that was made ready is that of the changed clauses in the dialect of the
connection. -/
theorem exists_of_ready_ok (h : (compiled change compile).ready around s = (.ok (sql, params), u)) :
    ∃ changed c dialect, change s.1.query = .ok changed ∧ compile changed = .ok c ∧
      (Builder.dialect around s).1 = .ok dialect ∧ sql = c.sql dialect ∧ params = c.params ∧
      u = ({ s.1 with query := changed }, (Builder.dialect around s).2.2) := by
  rw [ready_compiled] at h
  cases hchange : change s.1.query with
  | error e =>
    rw [hchange] at h
    cases h
  | ok changed =>
    rw [hchange] at h
    obtain ⟨hmade, rfl⟩ := Prod.ext_iff.mp h
    obtain ⟨dialect, hdialect, hmade⟩ := bind_eq_ok_iff.mp hmade
    obtain ⟨c, hcompile, hmade⟩ := map_eq_ok_iff.mp hmade
    cases hmade
    exact ⟨changed, c, dialect, rfl, hcompile, hdialect, rfl, rfl, rfl⟩

/-- Making a statement ready executes nothing. -/
theorem ready_executed {s : Builder × Session (σ × List Note)}
    {u : Builder × Session (σ × List Note)} (hs : Session.Executed past s.2)
    (h : (compiled change compile).ready around.noting s = (.ok (sql, params), u)) :
    Session.Executed past u.2 := by
  obtain ⟨changed, c, dialect, -, -, hdialect, -, -, rfl⟩ := exists_of_ready_ok h
  have hknown : Builder.dialect around.noting s =
      (.ok dialect, (Builder.dialect around.noting s).2) := Prod.ext hdialect rfl
  obtain ⟨name, hname, -⟩ := Builder.speaks_of_dialect hknown
  rw [Builder.dialect, Builder.onConnection_apply hname, Session.dialect]
  have hconnection : Act.Triple (Session.Executed past)
      (Session.connection around.noting name >>= fun opened => pure opened.dialect)
      (fun _ => Session.Executed past) (Session.Executed past) :=
    Session.connection_executed.bind fun opened => Act.Triple.pure fun _ hs => hs
  exact hconnection.always_ends s.2 hs

end Demand

/-- A statement that succeeds at once is executed once, as it was made ready. -/
theorem Program.Passes.executed {change : Query → Except Error Query}
    {compile : Query → Except Error Compiled} {past : List Execution} {returnRows : Bool}
    {s u : Builder × Session (σ × List Note)} {x : Executor.Settled} {outcome : Outcome}
    (h : Passes around.noting (.compiled change compile) returnRows s x outcome u)
    (honce : x.AtOnce) (hs : Session.Executed past s.2) :
    ∃ sql params v bound result,
      (Demand.compiled change compile).ready around.noting s = (.ok (sql, params), v) ∧
      BoundValue.ofValues params = .ok bound ∧
      outcome = Executor.outcomeOf returnRows returnRows result ∧
      Session.Executed (past ++ [⟨sql, positioned 1 bound, .ok result⟩]) u.2 := by
  obtain ⟨sql, params, v, hready, hended⟩ := h.settled
  obtain ⟨answer, hx⟩ := honce.exists_eq
  have hconcluded := h.concluded
  rw [hx] at hended hconcluded
  obtain rfl : answer = outcome := Except.ok.inj hconcluded
  have hrun := Executor.ending_executed around past sql params returnRows
    (v.1.executor, v.2) (Demand.ready_executed hs hready)
  rw [Builder.onExecutor, Act.within_apply] at hended
  obtain ⟨hresult, rfl⟩ := Prod.ext_iff.mp hended
  rw [hresult] at hrun
  obtain ⟨bound, result, hbound, houtcome, hexecuted⟩ := hrun answer rfl
  exact ⟨sql, params, v, bound, result, hready, hbound, houtcome, hexecuted⟩

end BoundSql
