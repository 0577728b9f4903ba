import BoundSql.Proofs.Retries
import BoundSql.Proofs.Terminals

/-!
# What is left of failures

An executor notes the failure of its last statement. A statement that fails for good leaves its last
failure there, one that succeeds leaves nothing, and the next statement of the same call begins by
forgetting. So a call knows of the failure of its last statement. Only a page has two statements:
the failure of its count is lost when its rows can be read.
-/

namespace BoundSql

variable {σ α : Type}

namespace Executor

/-- The failure that an attempt or a statement ended with, if it failed. -/
def failureOf : Except FailedAttempt Outcome → Option Failure
  | .ok _ => none
  | .error failed => some failed.failure

/-- The failure of a statement that failed for good. -/
def Settled.failure? (x : Settled) : Option Failure := failureOf x.ended

/-- A failure, or none, is noted. -/
def Noted (failure : Option Failure) (s : Executor × Session σ) : Prop :=
  s.1.lastError = failure

theorem noteSuccess_lastError (success : Success) (x : Executor) :
    (x.noteSuccess success).lastError = none := by
  rw [noteSuccess, pushLog_eq]

theorem noteFailure_lastError (failure : Failure) (x : Executor) :
    (x.noteFailure failure).lastError = some failure := by
  rw [noteFailure, pushLog_eq]

/-- When no more is known than the failure of the last statement, one of the failures is known,
unless a second statement succeeded behind a first one that failed. -/
theorem failure_known_iff {settled : List Settled} {second : Prop}
    (h : (∃ x, settled = [x]) ∨ second ∧ ∃ x y, settled = [x, y]) :
    (settled.filterMap Settled.failure? ≠ [] →
        ∃ failure ∈ settled.filterMap Settled.failure?,
          settled.getLast?.bind Settled.failure? = some failure) ↔
      ¬ (second ∧ ∃ x y, settled = [x, y] ∧ x.failure?.isSome ∧ y.failure? = none) := by
  rcases h with ⟨x, rfl⟩ | ⟨hsecond, x, y, rfl⟩
  · cases hx : x.failure? with
    | none => simp [hx]
    | some failure => simp [hx]
  · cases hy : y.failure? with
    | some failure => simp [hy]
    | none =>
      cases hx : x.failure? with
      | none => simp [hx, hy]
      | some failure => simp [hx, hy, hsecond]

variable {around : Surroundings σ} {call : Call} {bound : List BoundValue}
  {fetchRows returnRows : Bool} {failure : Option Failure}

/-- Nothing that is done in the session touches the note. -/
theorem onSession_noted (act : Act (Session σ) α) :
    Act.Triple (Noted failure) (onSession act) (fun _ => Noted failure) fun _ => True := by
  have hkept : Act.Triple (Noted failure) (onSession act) (fun _ => Noted failure)
      (Noted failure) := Act.Triple.of_reached fun _ hs => hs
  exact hkept.failing fun _ _ => trivial

/-- After a success nothing is noted. -/
theorem execute_noted :
    Act.Triple (fun _ => True) (execute around call bound fetchRows) (fun _ => Noted none)
      fun _ => True := by
  rw [execute_eq]
  refine (Act.Triple.any _).bind fun result => ?_
  refine Act.Triple.bind (R := fun _ => Noted none)
    (Act.Triple.change fun s _ => noteSuccess_lastError _ s.1) fun _ => ?_
  exact (onSession_noted _).bind fun _ => Act.Triple.pure fun _ hs => hs

/-- An attempt leaves the failure that it ended with. -/
theorem attempt_noted :
    Act.Triple (fun _ => True) (attempt around call bound fetchRows returnRows)
      (fun ended => Noted (failureOf ended)) fun _ => True := by
  refine (Act.Triple.any _).bind fun _ => ?_
  refine execute_noted.attempt.bind fun ended => ?_
  cases ended with
  | ok answer => exact Act.Triple.pure fun _ hs => hs
  | error e =>
    let failure : Failure := ⟨call, e.message, e.kind⟩
    refine Act.Triple.bind (R := fun _ => Noted (some failure))
      (Act.Triple.change fun s _ => noteFailure_lastError failure s.1) fun _ => ?_
    exact (onSession_noted _).bind fun _ => Act.Triple.pure fun _ hs => hs

/-- Further attempts leave the failure of the last one, by induction on how many are left. -/
theorem tries_noted (delay : Int) (left : Nat) (last : FailedAttempt) :
    Act.Triple (Noted (some last.failure))
      (tries around call bound fetchRows returnRows delay left last)
      (fun ended => Noted (failureOf ended)) fun _ => True := by
  induction left generalizing last with
  | zero => exact Act.Triple.pure fun _ hs => hs
  | succ left ih =>
    refine (Act.Triple.any _).bind fun _ => ?_
    refine attempt_noted.bind fun ended => ?_
    cases ended with
    | ok outcome => exact Act.Triple.pure fun _ hs => hs
    | error again => exact ih again

/-- Asking about retries touches no note. -/
theorem askRetry_noted (failed : FailedAttempt) :
    Act.Triple (Noted failure) (askRetry around call failed) (fun _ => Noted failure)
      fun _ => True := by
  unfold askRetry
  refine Act.Triple.ite (fun _ => ?_) fun _ => Act.Triple.pure fun _ hs => hs
  exact (onSession_noted _).bind fun _ => Act.Triple.ofExcept.failing fun _ _ => trivial

/-- A statement leaves the failure that it was settled with. -/
theorem settle_noted :
    Act.Triple (fun _ => True) (settle around call bound returnRows)
      (fun x => Noted x.failure?) fun _ => True := by
  refine attempt_noted.bind fun ended => ?_
  cases ended with
  | ok outcome => exact Act.Triple.pure fun _ hs => hs
  | error failed =>
    refine (askRetry_noted failed).bind fun decision => ?_
    cases decision with
    | none => exact Act.Triple.pure fun _ hs => hs
    | some decision =>
      refine (tries_noted _ _ failed).bind fun ended => ?_
      exact Act.Triple.pure fun _ hs => hs

/-- So does all of it, whatever was noted before. -/
theorem ending_noted (around : Surroundings σ) (sql : String) (params : List Value)
    (returnRows : Bool) :
    Act.Triple (fun _ => True) (ending around sql params returnRows)
      (fun x => Noted x.failure?) fun _ => True :=
  (Act.Triple.any _).bind fun _ => settle_noted

end Executor

namespace Program

variable {around : Surroundings σ} {demand : Demand} {returnRows : Bool}
  {s t u : Builder × Session σ} {v : Value}

/-- A settled statement has left its failure. -/
theorem Passes.lastError_eq {x : Executor.Settled} {outcome : Outcome}
    (h : Passes around demand returnRows s x outcome u) :
    u.1.executor.lastError = x.failure? := by
  obtain ⟨sql, params, t, -, hended⟩ := h.settled
  have hnoted := Executor.ending_noted around sql params returnRows (t.1.executor, t.2) trivial
  rw [Builder.onExecutor, Act.within_apply] at hended
  obtain ⟨hresult, rfl⟩ := Prod.ext_iff.mp hended
  dsimp only at hresult
  rw [hresult] at hnoted
  exact hnoted

/-- Looking for a key leaves the executor. -/
theorem run_key_executor (around : Surroundings σ) (s : Builder × Session σ) :
    (key.run around s).2.1.executor = s.1.executor := by
  cases h : s.1.executor.lastError.isSome with
  | true => rw [run_key_of_failure around h]
  | false =>
    rw [run_key_of_success around h]
    rfl

/-- A program that ended well leaves the failure of its last statement, by induction on the
program. -/
theorem lastError_eq {p : Program} (h : p.run around s = (.ok v, t)) :
    t.1.executor.lastError =
      ((p.settled around s).getLast?.map Executor.Settled.failure?).getD
        s.1.executor.lastError := by
  induction p generalizing s with
  | finish result =>
    rw [run, Builder.present_apply] at h
    obtain ⟨-, rfl⟩ := Prod.ext_iff.mp h
    rfl
  | key =>
    have hexecutor := run_key_executor around s
    rw [h] at hexecutor
    rw [hexecutor]
    rfl
  | statement demand returnRows next ih =>
    obtain ⟨x, outcome, u, hpasses⟩ := exists_passes h
    rw [hpasses.run_eq] at h
    rw [ih outcome h, hpasses.settled_eq, List.getLast?_cons, hpasses.lastError_eq]
    cases ((next outcome).settled around u).getLast? with
    | none => rfl
    | some last => rfl

/-- The count of statements that a program has run when it ends well. -/
inductive Counts : ℕ → Program → Prop
  /-- A result has none. -/
  | finish (result : FetchMode → JsonStyle → Except Error Value) : Counts 0 (.finish result)
  /-- A key has none. -/
  | key : Counts 0 .key
  /-- An error is no good end. -/
  | refused (count : ℕ) (e : Error) : Counts count (.finish fun _ _ => .error e)
  /-- A statement comes before those that follow. -/
  | statement {count : ℕ} (demand : Demand) (returnRows : Bool) {next : Outcome → Program}
      (h : ∀ outcome, Counts count (next outcome)) :
      Counts (count + 1) (.statement demand returnRows next)

theorem Counts.ofResult {count : ℕ} {next : α → Program} (h : ∀ a, (next a).Counts count)
    (result : Except Error α) : (Program.ofResult result next).Counts count := by
  cases result with
  | ok a => exact h a
  | error e => exact .refused count e

theorem Counts.length_eq {count : ℕ} {p : Program} (hcounts : p.Counts count)
    (h : p.run around s = (.ok v, t)) : (p.settled around s).length = count := by
  induction hcounts generalizing s with
  | finish result => rfl
  | key => rfl
  | refused count e => cases h
  | statement demand returnRows hnext ih =>
    obtain ⟨x, outcome, u, hpasses⟩ := exists_passes h
    rw [hpasses.run_eq] at h
    rw [hpasses.settled_eq, List.length_cons, ih outcome h]

end Program

namespace TerminalCall

variable {around : Surroundings σ} {call : TerminalCall} {s t : Builder × Session σ} {v : Value}

/-- The count of statements of a call. Only a page has two. -/
def statementCount : TerminalCall → ℕ
  | .paginate _ _ _ _ => 2
  | _ => 1

theorem program_counts (call : TerminalCall) : call.program.Counts call.statementCount := by
  cases call with
  | paginate table page perPage columns =>
    refine .ofResult (fun page => .ofResult (fun perPage => ?_) _) _
    refine .statement _ _ fun counted => .ofResult (fun total => ?_) _
    refine .ofResult (fun pagination => ?_) _
    exact .statement _ _ fun outcome => .finish _
  | insert table data => exact .statement _ _ fun _ => .key
  | _ => exact .statement _ _ fun outcome => .finish _

/-- A call that ended well has carried its program out well. -/
theorem exists_run_ok (h : call.act around s = (.ok v, t)) :
    ∃ u, call.program.run around s = (.ok v, u) ∧ t = (u.1.reset, u.2) := by
  rw [act_eq, Builder.clearing, Act.always_apply] at h
  obtain ⟨hresult, rfl⟩ := Prod.ext_iff.mp h
  exact ⟨(call.program.run around s).2, Prod.ext hresult rfl, rfl⟩

/-- A call that ended well has run one statement, or the two of a page. -/
theorem settled_of_ok (h : call.act around s = (.ok v, t)) :
    (∃ x, call.settled around s = [x]) ∨
      (∃ table page perPage columns, call = .paginate table page perPage columns) ∧
        ∃ count rows, call.settled around s = [count, rows] := by
  obtain ⟨u, hrun, -⟩ := exists_run_ok h
  have hlength : (call.settled around s).length = call.statementCount :=
    call.program_counts.length_eq hrun
  cases call with
  | paginate table page perPage columns =>
    exact .inr ⟨⟨table, page, perPage, columns, rfl⟩, List.length_eq_two.mp hlength⟩
  | _ => exact .inl (List.length_eq_one_iff.mp hlength)

/-- What is noted after a call that ended well is the failure of its last statement. -/
theorem lastError_of_ok (h : call.act around s = (.ok v, t)) :
    t.1.executor.lastError =
      (call.settled around s).getLast?.bind Executor.Settled.failure? := by
  obtain ⟨u, hrun, rfl⟩ := exists_run_ok h
  have hlast : u.1.executor.lastError = _ := Program.lastError_eq hrun
  show u.1.executor.lastError = _
  rw [hlast]
  rcases settled_of_ok h with ⟨x, hsettled⟩ | ⟨-, count, rows, hsettled⟩
  · rw [settled] at hsettled
    rw [settled, hsettled]
    rfl
  · rw [settled] at hsettled
    rw [settled, hsettled]
    rfl

/-- A call that returned knows of the failure of its last statement and of no other one. So of the
failures of its statements one is known afterwards, unless the rows of a page could be read behind a
count that failed: then none is known. -/
theorem failure_kept_iff (h : (call.act around s).1.isOk = true) :
    let lastError := (call.act around s).2.1.executor.lastError
    let settled := call.settled around s
    let failures := settled.filterMap Executor.Settled.failure?
    lastError = settled.getLast?.bind Executor.Settled.failure? ∧
      ((failures ≠ [] → ∃ failure ∈ failures, lastError = some failure) ↔
        ¬ ((∃ table page perPage columns, call = .paginate table page perPage columns) ∧
          ∃ count rows, settled = [count, rows] ∧ count.failure?.isSome ∧
            rows.failure? = none)) := by
  intro lastError settled failures
  obtain ⟨v, hended⟩ := Act.exists_of_isOk h
  have hlast : lastError = settled.getLast?.bind Executor.Settled.failure? :=
    lastError_of_ok hended
  rw [hlast]
  exact ⟨rfl, Executor.failure_known_iff (settled_of_ok hended)⟩

end TerminalCall

/-- A builder in safe mode on a connection that has settings and is not open. -/
def Builder.cautious (outside : σ) : Builder × Session σ :=
  let settings : ConnectionSettings := ⟨"sqlite://", "", "", "", 0, false, [], 8⟩
  ({ executor := { connection := some "main", errorMode := .safe } },
    ⟨{ settings := [("main", settings)] }, outside⟩)

/-- A selection that fails returns and leaves its failure. -/
theorem TerminalCall.failure_kept_get :
    let around := Surroundings.flaky .null
    let s := Builder.cautious 0
    let call : TerminalCall := .get "users" .null Columns.all
    (call.act around s).1.isOk = true ∧
      ((call.settled around s).filterMap Executor.Settled.failure?).length = 1 ∧
      ∃ failure ∈ (call.settled around s).filterMap Executor.Settled.failure?,
        (call.act around s).2.1.executor.lastError = some failure := by
  intro around s call
  have hok : (call.act around s).1.isOk = true := by decide +kernel
  have hfailed : ((call.settled around s).filterMap Executor.Settled.failure?).length = 1 := by
    decide +kernel
  have hkept := (TerminalCall.failure_kept_iff hok).2.mpr fun hpage => nomatch hpage.1
  exact ⟨hok, hfailed, hkept (List.ne_nil_of_length_pos (hfailed ▸ Nat.one_pos))⟩

/-- The failure of a count is lost when the rows of the page can be read. -/
theorem TerminalCall.failure_lost_paginate :
    let around := Surroundings.flaky .null
    let s := Builder.cautious 0
    let call : TerminalCall := .paginate "users" (.int 1) (.int 10) Columns.all
    s.1.executor.errorMode = .safe ∧ (call.act around s).1.isOk = true ∧
      ((call.settled around s).filterMap Executor.Settled.failure?).length = 1 ∧
      (call.act around s).2.1.executor.lastError = none := by
  intro around s call
  refine ⟨rfl, ?_, ?_, ?_⟩
  · decide +kernel
  · decide +kernel
  · exact Option.isNone_iff_eq_none.mp (by decide +kernel)

end BoundSql
