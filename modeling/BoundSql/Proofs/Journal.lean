import BoundSql.Proofs.Opening
import BoundSql.Proofs.Requests

/-!
# A journal of driver calls

Surroundings that do what others do and enter each call of the driver and of a hook in a journal:
what was called, how it ended, and on whose behalf it was called. Nothing reads the journal, so what
a session does is the same with it and without.
-/

namespace BoundSql

/-- A call of the driver or of a hook, and how it ended. -/
inductive DriverCall where
  /-- A connection was asked for. -/
  | connected (ended : Except Error Handle)
  /-- A statement was prepared. -/
  | prepared (handle : Handle) (sql : String) (ended : Except Error Unit)
  /-- A prepared statement was executed. -/
  | executed (statement : Prepared) (ended : Except Error StatementResult)
  /-- A transaction was started. -/
  | started (handle : Handle) (ended : Except Error Unit)
  /-- A transaction was committed. -/
  | committed (handle : Handle) (ended : Except Error Unit)
  /-- A transaction was rolled back. -/
  | rolledBack (handle : Handle) (ended : Except Error Unit)
  /-- A statement without parameters and results was run. -/
  | commanded (handle : Handle) (sql : String) (ended : Except Error Unit)
  /-- A connection was closed. -/
  | closed (handle : Handle) (ended : Except Error Unit)
  /-- A hook was called. -/
  | notified (call : HookCall) (ended : Except Error Value)

/-- Calls in the order in which they were made, each with a label. -/
abbrev Journal (ℓ : Type) : Type := List (ℓ × DriverCall)

/-- The calls with a label. -/
def Journal.callsOf {ℓ : Type} [DecidableEq ℓ] (label : ℓ) (journal : Journal ℓ) :
    List DriverCall :=
  (journal.filter fun entry => entry.1 = label).map Prod.snd

theorem Journal.callsOf_concat {ℓ : Type} [DecidableEq ℓ] (label : ℓ) (journal : Journal ℓ)
    (call : DriverCall) :
    callsOf label (journal ++ [(label, call)]) = callsOf label journal ++ [call] := by
  simp [callsOf]

theorem Journal.callsOf_concat_of_ne {ℓ : Type} [DecidableEq ℓ] {label other : ℓ}
    (h : label ≠ other) (journal : Journal ℓ) (call : DriverCall) :
    callsOf other (journal ++ [(label, call)]) = callsOf other journal := by
  simp [callsOf, h]

namespace DriverCall

/-- The call ended well. -/
def succeeded : DriverCall → Bool
  | .connected ended => ended.isOk
  | .prepared _ _ ended | .started _ ended | .committed _ ended | .rolledBack _ ended
  | .commanded _ _ ended | .closed _ ended => ended.isOk
  | .executed _ ended => ended.isOk
  | .notified _ ended => ended.isOk

/-- The handle that was used. -/
def handle? : DriverCall → Option Handle
  | .prepared handle _ _ | .started handle _ | .committed handle _ | .rolledBack handle _
  | .commanded handle _ _ | .closed handle _ => some handle
  | .executed statement _ => some statement.handle
  | .connected _ | .notified _ _ => none

end DriverCall

variable {σ α ι ℓ : Type}

/-! ## Writing beside the state -/

namespace Act

/-- Does something beside a list of entries. -/
def beside (act : Act σ α) : Act (σ × List ι) α :=
  Act.within Prod.fst (fun t s => (t, s.2)) act

/-- Does something and enters how it ended. -/
def entered (entry : Except Error α → ι) (act : Act σ α) : Act (σ × List ι) α := fun s =>
  let (result, t) := act s.1
  (result, t, s.2 ++ [entry result])

@[simp] theorem entered_apply (entry : Except Error α → ι) (act : Act σ α)
    (s : σ × List ι) :
    act.entered entry s = ((act s.1).1, (act s.1).2, s.2 ++ [entry (act s.1).1]) := rfl

theorem entered_sim (entry : Except Error α → ι) (act : Act σ α) :
    Act.Sim (fun s t => t = s.1) (act.entered entry) act := by
  rintro s t rfl
  exact ⟨rfl, rfl⟩

end Act

/-- Surroundings that do the same and enter the calls with a label. -/
def Surroundings.journaling (around : Surroundings σ) (label : ℓ) :
    Surroundings (σ × Journal ℓ) where
  driver :=
    { connect := fun kind settings =>
        (around.driver.connect kind settings).entered fun r => (label, .connected r)
      dialectName := fun handle s => around.driver.dialectName handle s.1
      prepare := fun handle sql =>
        (around.driver.prepare handle sql).entered fun r => (label, .prepared handle sql r)
      execute := fun p => (around.driver.execute p).entered fun r => (label, .executed p r)
      start := fun handle =>
        (around.driver.start handle).entered fun r => (label, .started handle r)
      commit := fun handle =>
        (around.driver.commit handle).entered fun r => (label, .committed handle r)
      rollback := fun handle =>
        (around.driver.rollback handle).entered fun r => (label, .rolledBack handle r)
      command := fun handle sql =>
        (around.driver.command handle sql).entered fun r => (label, .commanded handle sql r)
      insertId := fun handle s => around.driver.insertId handle s.1
      close := fun handle =>
        (around.driver.close handle).entered fun r => (label, .closed handle r) }
  hooks :=
    { has := around.hooks.has
      call := fun call => (around.hooks.call call).entered fun r => (label, .notified call r) }
  sleep time := (around.sleep time).beside
  adapters := around.adapters

namespace Surroundings

variable (around : Surroundings σ) (label : ℓ) (handle : Handle) (sql : String)

theorem prepare_journaled :
    Act.Sim (fun s t => t = s.1) ((around.journaling label).driver.prepare handle sql)
      (around.driver.prepare handle sql) :=
  Act.entered_sim (fun r => (label, DriverCall.prepared handle sql r)) _

theorem start_journaled :
    Act.Sim (fun s t => t = s.1) ((around.journaling label).driver.start handle)
      (around.driver.start handle) :=
  Act.entered_sim (fun r => (label, DriverCall.started handle r)) _

theorem commit_journaled :
    Act.Sim (fun s t => t = s.1) ((around.journaling label).driver.commit handle)
      (around.driver.commit handle) :=
  Act.entered_sim (fun r => (label, DriverCall.committed handle r)) _

theorem rollback_journaled :
    Act.Sim (fun s t => t = s.1) ((around.journaling label).driver.rollback handle)
      (around.driver.rollback handle) :=
  Act.entered_sim (fun r => (label, DriverCall.rolledBack handle r)) _

theorem command_journaled :
    Act.Sim (fun s t => t = s.1) ((around.journaling label).driver.command handle sql)
      (around.driver.command handle sql) :=
  Act.entered_sim (fun r => (label, DriverCall.commanded handle sql r)) _

theorem close_journaled :
    Act.Sim (fun s t => t = s.1) ((around.journaling label).driver.close handle)
      (around.driver.close handle) :=
  Act.entered_sim (fun r => (label, DriverCall.closed handle r)) _

end Surroundings

/-! ## Sessions with a journal -/

namespace Session

/-- The journal of a session. -/
def journal (s : Session (σ × Journal ℓ)) : Journal ℓ := s.outside.2

/-- The session without its journal. -/
def unjournaled (s : Session (σ × Journal ℓ)) : Session σ := ⟨s.connections, s.outside.1⟩

/-- The session with an empty journal. -/
def journaled (s : Session σ) : Session (σ × Journal ℓ) := ⟨s.connections, s.outside, []⟩

/-- A session with a journal and the same one without. -/
def Journaled (s : Session (σ × Journal ℓ)) (t : Session σ) : Prop := t = s.unjournaled

theorem onOutside_journaled {act : Act (σ × Journal ℓ) α} {other : Act σ α}
    (h : Act.Sim (fun s t => t = s.1) act other) :
    Act.Sim Journaled (onOutside act) (onOutside other) := by
  refine h.within ?_ ?_
  · rintro s t rfl
    rfl
  · rintro s t u v rfl rfl
    rfl

theorem update_journaled (f : Connections → Connections) :
    Act.Sim (Journaled (ℓ := ℓ)) (update f : Act (Session (σ × Journal ℓ)) Unit) (update f) := by
  refine Act.Sim.change ?_
  rintro s t rfl
  rfl

theorem view_journaled (f : Connections → α) :
    Act.Sim (Journaled (ℓ := ℓ)) (view f : Act (Session (σ × Journal ℓ)) α) (view f) := by
  refine Act.Sim.look ?_
  rintro s t rfl
  rfl

variable (around : Surroundings σ) (label : ℓ) (name : String)

/-- The journal has no part in how a connection is opened. -/
theorem journaling_opens :
    (around.journaling label).Opens name Journaled Eq Eq around where
  settings := by
    rintro s t rfl
    exact ⟨Act.matching_eq_iff.mpr rfl, rfl⟩
  resized {a b} hab := ⟨a.cacheSize, hab ▸ rfl⟩
  adapters := rfl
  connect hab kind := hab ▸ onOutside_journaled (Act.entered_sim _ _)
  dialectName handle := by
    rintro s t rfl
    exact ⟨rfl, rfl⟩
  command handle sql := onOutside_journaled (around.command_journaled label handle sql)
  close handle := onOutside_journaled (around.close_journaled label handle)
  keep hab handle dialect := by
    subst hab
    exact ⟨rfl, update_journaled _⟩
  notify shown driver := by
    have hhas : around.hooks.has = (around.journaling label).hooks.has := rfl
    exact notify_sim hhas (fun _ => onOutside_journaled (Act.entered_sim _ _)) _

/-- A connection is found or opened with a journal as it is without. -/
theorem connection_journaled :
    Act.Sim Journaled (connection (around.journaling label) name) (connection around name) := by
  refine Act.linked_eq_iff.mp (connection_linked (journaling_opens around label name) ?_)
  rintro s t rfl
  show Option.Rel Eq (s.connections.opened.lookup name) (s.connections.opened.lookup name)
  cases s.connections.opened.lookup name with
  | none => exact .none
  | some opened => exact .some rfl

theorem dialect_journaled :
    Act.Sim Journaled (dialect (around.journaling label) name) (dialect around name) :=
  (connection_journaled around label name).bind fun _ => Act.Sim.pure _

theorem transactionDepth_journaled :
    Act.Sim Journaled (transactionDepth (around.journaling label) name)
      (transactionDepth around name) :=
  (connection_journaled around label name).bind fun _ => view_journaled _

/-- The cache of a connection is looked at. -/
theorem statementCache_journaled :
    Act.Sim Journaled (statementCache (around.journaling label) name)
      (statementCache around name) :=
  (connection_journaled around label name).bind fun _ => view_journaled _

/-- A statement is found or prepared with a journal as it is without. -/
theorem statement_journaled (sql : String) :
    Act.Sim Journaled (statement (around.journaling label) name sql)
      (statement around name sql) := by
  refine (connection_journaled around label name).bind fun opened => ?_
  have hprepare : Act.Sim (fun s t => t = s.1)
      (prepare (around.journaling label) opened.handle sql) (prepare around opened.handle sql) :=
    (around.prepare_journaled label opened.handle sql).bind fun _ => Act.Sim.pure _
  refine (StatementCache.get_sim hprepare).within ?_ ?_
  · rintro s t rfl
    exact ⟨rfl, rfl⟩
  · rintro s t ⟨cache, world⟩ ⟨otherCache, otherWorld⟩ rfl ⟨hcache, hworld⟩
    dsimp only at hcache hworld
    subst hcache hworld
    rfl

/-! ## Transactions and their ends -/

theorem savepointCommand_journaled (handle : Handle) (verb : String) (depth : Nat) :
    Act.Sim Journaled (savepointCommand (around.journaling label) handle verb depth)
      (savepointCommand around handle verb depth) :=
  onOutside_journaled (around.command_journaled label handle _)

theorem requireSavepoints_journaled (fault : NestingFault) :
    Act.Sim Journaled (requireSavepoints (around.journaling label) name fault)
      (requireSavepoints around name fault) := by
  refine (dialect_journaled around label name).bind fun dialect => ?_
  exact Act.Sim.ite (Act.Sim.pure ()) (Act.Sim.throw _)

/-- A transaction begins with a journal as it does without. -/
theorem begin_journaled :
    Act.Sim Journaled (begin (around.journaling label) name) (begin around name) := by
  refine (connection_journaled around label name).bind fun opened => ?_
  refine (transactionDepth_journaled around label name).bind fun depth => ?_
  refine Act.Sim.ite ?_ ?_
  · refine (onOutside_journaled (around.start_journaled label opened.handle)).bind fun _ => ?_
    exact (update_journaled _).bind fun _ => Act.Sim.pure 1
  · refine (requireSavepoints_journaled around label name .begin).bind fun _ => ?_
    refine (savepointCommand_journaled around label _ _ _).bind fun _ => ?_
    exact (update_journaled _).bind fun _ => Act.Sim.pure (depth + 1)

/-- It ends with a journal as it does without. -/
theorem ending_journaled {finish : Handle → Act (σ × Journal ℓ) Unit}
    {other : Handle → Act σ Unit}
    (hfinish : ∀ handle, Act.Sim (fun s t => t = s.1) (finish handle) (other handle))
    (fault : NestingFault) (verb : String) :
    Act.Sim Journaled (ending (around.journaling label) name finish fault verb)
      (ending around name other fault verb) := by
  refine (connection_journaled around label name).bind fun opened => ?_
  refine (transactionDepth_journaled around label name).bind fun depth => ?_
  refine Act.Sim.ite (Act.Sim.pure 0) ?_
  refine Act.Sim.ite ?_ ?_
  · refine (onOutside_journaled (hfinish opened.handle)).bind fun _ => ?_
    exact (update_journaled _).bind fun _ => Act.Sim.pure 0
  · refine (requireSavepoints_journaled around label name fault).bind fun _ => ?_
    refine (savepointCommand_journaled around label _ _ _).bind fun _ => ?_
    exact (update_journaled _).bind fun _ => Act.Sim.pure (depth - 1)

/-! ## Closing -/

/-- A connection is closed with a journal as it is without. -/
theorem closeConnection_journaled :
    Act.Sim Journaled (closeConnection (around.journaling label) name)
      (closeConnection around name) := by
  unfold closeConnection
  refine (view_journaled _).bind fun opened? => ?_
  refine (update_journaled _).bind fun _ => ?_
  cases opened? with
  | none => exact Act.Sim.pure ()
  | some opened =>
    have hclose := onOutside_journaled (around.close_journaled label opened.handle)
    exact hclose.attempt.bind fun _ => Act.Sim.pure ()

theorem closeConnections_journaled (names : List String) :
    Act.Sim Journaled (closeConnections (around.journaling label) names)
      (closeConnections around names) := by
  induction names with
  | nil => exact Act.Sim.pure ()
  | cons name rest ih => exact (closeConnection_journaled around label name).bind fun _ => ih

theorem closeAll_journaled :
    Act.Sim Journaled (closeAll (around.journaling label)) (closeAll around) :=
  (view_journaled _).bind fun names => closeConnections_journaled around label names

end Session

/-! ## Calls about transactions -/

/-- A call that begins or ends a transaction. -/
inductive TransactionCall where
  /-- Begins a transaction, or a nested one. -/
  | begin
  /-- Commits the innermost one. -/
  | commit
  /-- Rolls the innermost one back. -/
  | rollback
  deriving DecidableEq

namespace TransactionCall

/-- Makes a call on a connection; the depth that it leads to. -/
def act (around : Surroundings σ) (name : String) : TransactionCall → Act (Session σ) Nat
  | .begin => Session.begin around name
  | .commit => Session.commit around name
  | .rollback => Session.rollback around name

/-- A call does with a journal what it does without. -/
theorem act_journaled (around : Surroundings σ) (label : ℓ) (name : String)
    (call : TransactionCall) :
    Act.Sim Session.Journaled (call.act (around.journaling label) name) (call.act around name) := by
  cases call with
  | begin => exact Session.begin_journaled around label name
  | commit =>
    exact Session.ending_journaled around label name (around.commit_journaled label) .commit _
  | rollback =>
    exact Session.ending_journaled around label name (around.rollback_journaled label) .rollback _

end TransactionCall

end BoundSql
