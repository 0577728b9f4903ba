import BoundSql.Proofs.Recording
import BoundSql.Proofs.Steady
import Mathlib.Logic.Function.Basic

/-!
# Programs with blocks

Builders share a session, and a program makes calls of them, raises errors, catches them, and runs
blocks inside transactions, nested in each other in any way. A program begins and ends transactions
by blocks only. Programs are carried out alike in sessions side by side, so what they ask for can be
read off a journal.
-/

namespace BoundSql

open Connections (Steady)
open Session (Beside Records asked)

variable {σ τ ι α : Type}

/-! ## Builders that share a session -/

/-- Builders that share a session. -/
abbrev Shared (ι σ : Type) : Type := (ι → Builder) × Session σ

namespace Shared

variable [DecidableEq ι]

/-- One of the builders with the session. -/
def one (who : ι) (s : Shared ι σ) : Builder × Session σ := (s.1 who, s.2)

/-- Puts one of the builders back with the session. -/
def put (who : ι) (t : Builder × Session σ) (s : Shared ι σ) : Shared ι σ :=
  (Function.update s.1 who t.1, t.2)

/-- Does something with one of the builders. -/
def onBuilder (who : ι) (act : Act (Builder × Session σ) α) : Act (Shared ι σ) α :=
  Act.within (one who) (put who) act

/-- Runs a body inside a transaction of one of the builders. -/
def block (around : Surroundings σ) (who : ι) (body : Act (Shared ι σ) α) : Act (Shared ι σ) α :=
  Builder.transaction around (one who) (put who) body

/-- Ends a block: what its body has come to decides how. -/
def close (around : Surroundings σ) (who : ι) : Except Error α → Act (Shared ι σ) α
  | .ok a => do
    let _ ← onBuilder who (Builder.commit around)
    return a
  | .error e => do
    let _ ← onBuilder who (Builder.rollback around)
    throw e

theorem block_eq (around : Surroundings σ) (who : ι) (body : Act (Shared ι σ) α) :
    block around who body =
      (onBuilder who (Builder.startTransaction around) >>= fun _ =>
        Act.attempt body >>= close around who) := rfl

/-- The connection of one of the builders. -/
def connection (around : Surroundings σ) (who : ι) : Act (Shared ι σ) Opened :=
  onBuilder who (Builder.onConnection (Session.connection around))

/-- What is asked for to have the connection of one of the builders. -/
def opening (around : Surroundings σ) (who : ι) (s : Shared ι σ) : List DriverCall :=
  asked (connection (around.journaling ()) who) s

/-- The builders are on the connections that they were on, and connections are steady. -/
structure Kept (s t : Shared ι σ) : Prop where
  /-- The builders are on their connections. -/
  connection : ∀ who, (t.1 who).connection = (s.1 who).connection
  /-- Connections are steady. -/
  steady : Steady s.2.connections t.2.connections

namespace Kept

variable {s t u : Shared ι σ}

omit [DecidableEq ι] in
theorem refl (s : Shared ι σ) : Kept s s := ⟨fun _ => rfl, Steady.refl _⟩

omit [DecidableEq ι] in
theorem trans (h : Kept s t) (hnext : Kept t u) : Kept s u :=
  ⟨fun who => (hnext.connection who).trans (h.connection who), h.steady.trans hnext.steady⟩

end Kept

/-- What keeps one of the builders keeps them all. -/
theorem onBuilder_kept {act : Act (Builder × Session σ) α} (h : Builder.KeepsSteady act) (who : ι)
    (s : Shared ι σ) : Kept s (onBuilder who act s).2 := by
  have hkept := (h (s.1 who).connection s.2.connections).always_ends (one who s)
    ⟨rfl, Steady.refl _⟩
  refine ⟨fun other => ?_, hkept.steady⟩
  by_cases hsame : other = who
  · subst hsame
    have hput : (onBuilder other act s).2.1 other = (act (one other s)).2.1 :=
      Function.update_self _ _ _
    rw [hput]
    exact hkept.connection
  · have hput : (onBuilder who act s).2.1 other = s.1 other := Function.update_of_ne hsame _ _
    rw [hput]

/-- What is done on the connection of one of the builders is done in the session. -/
theorem onConnection_apply {act : String → Act (Session σ) α} {who : ι} {name : String}
    {s : Shared ι σ} (h : (s.1 who).connection = some name) :
    onBuilder who (Builder.onConnection act) s = Executor.onSession (act name) s := by
  have hact := Builder.onConnection_apply (s := one who s) h act
  rw [onBuilder, Act.within_apply, hact]
  exact Prod.ext rfl (Prod.ext (Function.update_eq_self who s.1) rfl)

/-- A builder without a connection does nothing on it. -/
theorem onConnection_of_none {act : String → Act (Session σ) α} {who : ι} {s : Shared ι σ}
    (h : (s.1 who).connection = none) :
    onBuilder who (Builder.onConnection act) s =
      (.error (.configuration (.unknownConnection none s.2.connections.names)), s) := by
  have hact : Builder.onConnection act (one who s) =
      (.error (.configuration (.unknownConnection none s.2.connections.names)), one who s) := by
    have hchosen : (one who s).1.connection = none := h
    rw [Builder.onConnection, Act.bind_of_ok (Act.look_apply _ _), hchosen]
    rfl
  rw [onBuilder, Act.within_apply, hact]
  exact Prod.ext rfl (Prod.ext (Function.update_eq_self who s.1) rfl)

/-! ### Blocks side by side -/

section Parallel

variable {Q : σ → τ → Prop} {around : Surroundings σ} {other : Surroundings τ}

theorem onBuilder_parallel {act : Act (Builder × Session σ) α} {later : Act (Builder × Session τ) α}
    (h : Act.Sim (Beside Q) act later) (who : ι) :
    Act.Sim (Beside Q) (onBuilder who act) (onBuilder who later) := by
  refine h.within (fun s t hst => ?_) fun s t u v hst huv => ?_
  · exact ⟨congrFun hst.same who, hst.sessions⟩
  · refine ⟨?_, huv.sessions⟩
    rw [put, put, hst.same, huv.same]

variable (h : around.Parallel Q other) (who : ι)
include h

theorem connection_parallel :
    Act.Sim (Beside Q) (connection around who) (connection other who) :=
  onBuilder_parallel (Builder.onConnection_parallel (Session.connection_parallel h)) who

theorem start_parallel :
    Act.Sim (Beside Q) (onBuilder who (Builder.startTransaction around))
      (onBuilder who (Builder.startTransaction other)) :=
  onBuilder_parallel (Builder.onConnection_parallel (Session.begin_parallel h)) who

theorem close_parallel (ended : Except Error α) :
    Act.Sim (Beside Q) (close around who ended) (close other who ended) := by
  cases ended with
  | ok a =>
    have hcommit := Builder.onConnection_parallel fun name =>
      TransactionCall.act_parallel h name .commit
    exact (onBuilder_parallel hcommit who).bind fun _ => Act.Sim.pure a
  | error e =>
    have hrollback := Builder.onConnection_parallel fun name =>
      TransactionCall.act_parallel h name .rollback
    exact (onBuilder_parallel hrollback who).bind fun _ => Act.Sim.throw e

/-- A block is carried out alike when its body is. -/
theorem block_parallel {body : Act (Shared ι σ) α} {later : Act (Shared ι τ) α}
    (hbody : Act.Sim (Beside Q) body later) :
    Act.Sim (Beside Q) (block around who body) (block other who later) :=
  (start_parallel h who).bind fun _ => hbody.attempt.bind (close_parallel h who)

end Parallel

end Shared

/-! ## Programs with blocks -/

/-- A program: it changes the clauses of builders, makes calls that run statements, raises errors,
catches them, and runs blocks inside transactions. What follows may depend on values. -/
inductive Script (ι : Type) where
  /-- Ends with a value. -/
  | done (v : Value)
  /-- Ends with an error. -/
  | raise (e : Error)
  /-- Changes the clauses of a builder. -/
  | change (who : ι) (f : Query → Except Error Query) (next : Script ι)
  /-- Makes a call of a builder. -/
  | call (who : ι) (terminal : TerminalCall) (next : Value → Script ι)
  /-- Runs a body inside a transaction of a builder. -/
  | block (who : ι) (body : Script ι) (next : Value → Script ι)
  /-- Runs a body and goes on with a handler after an error. -/
  | guarded (body : Script ι) (handler : Error → Script ι) (next : Value → Script ι)

namespace Script

variable [DecidableEq ι]

/-- Carries a program out. -/
def run (around : Surroundings σ) : Script ι → Act (Shared ι σ) Value
  | .done v => pure v
  | .raise e => throw e
  | .change who f next => do
    Shared.onBuilder who (Builder.changeQuery f)
    next.run around
  | .call who terminal next => do
    let v ← Shared.onBuilder who (terminal.act around)
    (next v).run around
  | .block who body next => do
    let v ← Shared.block around who (body.run around)
    (next v).run around
  | .guarded body handler next => do
    match ← Act.attempt (body.run around) with
    | .ok v => (next v).run around
    | .error e => do
      let v ← (handler e).run around
      (next v).run around

/-- What a program asks for, in order. -/
def calls (around : Surroundings σ) (script : Script ι) (s : Shared ι σ) : List DriverCall :=
  asked (script.run (around.journaling ())) s

/-- A program is carried out alike, by induction on the program. -/
theorem run_parallel {Q : σ → τ → Prop} {around : Surroundings σ} {other : Surroundings τ}
    (h : around.Parallel Q other) (script : Script ι) :
    Act.Sim (Beside Q) (script.run around) (script.run other) := by
  induction script with
  | done v => exact Act.Sim.pure v
  | raise e => exact Act.Sim.throw e
  | change who f next ih =>
    exact (Shared.onBuilder_parallel (Builder.changeQuery_parallel f) who).bind fun _ => ih
  | call who terminal next ih =>
    exact (Shared.onBuilder_parallel (TerminalCall.act_parallel h terminal) who).bind ih
  | block who body next ihBody ihNext =>
    exact (Shared.block_parallel h who ihBody).bind ihNext
  | guarded body handler next ihBody ihHandler ihNext =>
    unfold run
    refine ihBody.attempt.bind fun ended => ?_
    cases ended with
    | ok v => exact ihNext v
    | error e => exact (ihHandler e).bind ihNext

theorem run_records (around : Surroundings σ) (script : Script ι) :
    Records (script.run (around.journaling ())) (script.run around) :=
  .of_beside (run_parallel (Session.journaling_parallel around ()) script) fun journal =>
    run_parallel (Session.journaling_parallel_behind around journal) script

end Script

end BoundSql
