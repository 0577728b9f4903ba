import BoundSql.Proofs.Scripts

/-!
# Blocks are balanced

A block inside a transaction opens one level, runs its body, and closes the same level: committed
when the body ended well, rolled back when it ended with an error, which goes on unchanged. So it is
for every body, by induction on programs, as long as no call about a transaction fails. What a block
asks for is told as a whole: what opens the level, what the body asks for, and what closes it.
-/

namespace BoundSql

open Connections (Steady)
open Session (Beside Records asked savepointName)

variable {σ ι α : Type}

/-! ## Levels -/

namespace TransactionCall

/-- What a call asks of the driver between a depth and the next one: to begin or end the transaction
itself on depth zero, for a statement about a savepoint on any other. -/
def asks (handle : Handle) (ended : Except Error Unit) : TransactionCall → Nat → DriverCall
  | .begin, 0 => .started handle ended
  | .begin, depth + 1 => .commanded handle ("SAVEPOINT " ++ savepointName (depth + 2)) ended
  | .commit, 0 => .committed handle ended
  | .commit, depth + 1 =>
    .commanded handle ("RELEASE SAVEPOINT " ++ savepointName (depth + 2)) ended
  | .rollback, 0 => .rolledBack handle ended
  | .rollback, depth + 1 =>
    .commanded handle ("ROLLBACK TO SAVEPOINT " ++ savepointName (depth + 2)) ended

theorem asks_transactional (handle : Handle) (ended : Except Error Unit) (call : TransactionCall)
    (depth : Nat) : (call.asks handle ended depth).isTransactional = true := by
  cases depth with
  | zero => cases call <;> rfl
  | succ depth =>
    cases call with
    | begin => exact congrArg Option.isSome (SavepointStatement.read_set _)
    | commit => exact congrArg Option.isSome (SavepointStatement.read_release _)
    | rollback => exact congrArg Option.isSome (SavepointStatement.read_rollBackTo _)

theorem asks_succeeded (handle : Handle) (ended : Except Error Unit) (call : TransactionCall)
    (depth : Nat) : (call.asks handle ended depth).succeeded = ended.isOk := by
  cases depth <;> cases call <;> rfl

/-- The driver does what it is asked for. -/
def drives (driver : Driver σ) (handle : Handle) : TransactionCall → Nat → Act σ Unit
  | .begin, 0 => driver.start handle
  | .begin, depth + 1 => driver.command handle ("SAVEPOINT " ++ savepointName (depth + 2))
  | .commit, 0 => driver.commit handle
  | .commit, depth + 1 => driver.command handle ("RELEASE SAVEPOINT " ++ savepointName (depth + 2))
  | .rollback, 0 => driver.rollback handle
  | .rollback, depth + 1 =>
    driver.command handle ("ROLLBACK TO SAVEPOINT " ++ savepointName (depth + 2))

theorem drives_journaling (around : Surroundings σ) (handle : Handle) (call : TransactionCall)
    (depth : Nat) :
    call.drives (around.journaling ()).driver handle depth =
      (call.drives around.driver handle depth).entered fun r => ((), call.asks handle r depth) := by
  cases depth <;> cases call <;> rfl

/-- The depth on which a call between a depth and the next one is made. -/
def source : TransactionCall → Nat → Nat
  | .begin, depth => depth
  | .commit, depth | .rollback, depth => depth + 1

/-- The depth to which it leads. -/
def target : TransactionCall → Nat → Nat
  | .begin, depth => depth + 1
  | .commit, depth | .rollback, depth => depth

/-- The call that closes a level: it is committed after a value and rolled back after an error. -/
def closing : Except Error α → TransactionCall
  | .ok _ => .commit
  | .error _ => .rollback

end TransactionCall

/-- There is room for a level on a depth: every connection has the first one, others need
savepoints. -/
def Opened.HasRoom (opened : Opened) (depth : Nat) : Prop :=
  depth = 0 ∨ opened.dialect.hasSavepoints = true

namespace TransactionCall

variable {ρ : Type} {name : String} {opened : Opened} {depth : Nat} (around : Surroundings σ)

/-- On an open connection with room the driver is asked, and the depth is set. -/
theorem act_of_room {s : Session σ} (hopened : s.connections.opened.lookup name = some opened)
    (call : TransactionCall) (hdepth : s.connections.depth name = call.source depth)
    (hroom : opened.HasRoom depth) :
    call.act around name s =
      Session.moving name (call.drives around.driver opened.handle depth) (call.target depth)
        s := by
  have hbegin := @Session.begin_of_lookup _ around _ _ _ hopened
  have hending := @Session.ending_of_lookup _ around _ _ _ hopened
  rw [hdepth] at hbegin hending
  cases depth with
  | zero =>
    cases call with
    | begin => exact hbegin
    | commit => exact hending _ _ _
    | rollback => exact hending _ _ _
  | succ depth =>
    have hsavepoints := hroom.resolve_left (Nat.succ_ne_zero depth)
    simp only [hsavepoints, if_true] at hbegin hending
    cases call with
    | begin => exact hbegin
    | commit => exact hending _ _ _
    | rollback => exact hending _ _ _

/-- As long as the driver does what it is asked for, it is asked for just that. -/
theorem act_asked {s : ρ × Session σ} (hopened : s.2.connections.opened.lookup name = some opened)
    (call : TransactionCall) (hdepth : s.2.connections.depth name = call.source depth)
    (hroom : opened.HasRoom depth)
    (h : Undisturbed (asked (Executor.onSession (call.act (around.journaling ()) name)) s)) :
    (∃ outside, call.act around name s.2 =
        (.ok (call.target depth), ⟨s.2.connections.setDepth name (call.target depth), outside⟩)) ∧
      asked (Executor.onSession (call.act (around.journaling ()) name)) s =
        [call.asks opened.handle (.ok ()) depth] := by
  have hplain := call.act_of_room around hopened hdepth hroom
  have hrecorded := call.act_of_room (around.journaling ()) (s := (Session.withJournal s []).2)
    hopened hdepth hroom
  rw [drives_journaling] at hrecorded
  have hasked : asked (Executor.onSession (call.act (around.journaling ()) name)) s =
      [call.asks opened.handle (call.drives around.driver opened.handle depth s.2.outside).1
        depth] := by
    have houtside : (Session.withJournal s []).2.outside.1 = s.2.outside := rfl
    rw [asked, Executor.onSession, Act.within_apply, hrecorded, Session.moving, Act.bind_apply,
      Session.onOutside, Act.within_apply, Act.entered_apply, houtside]
    generalize call.drives around.driver opened.handle depth s.2.outside = ended
    obtain ⟨result, outside⟩ := ended
    cases result <;> rfl
  rw [hasked, Undisturbed.single_iff, asks_succeeded] at h
  have hok := h (asks_transactional _ _ _ _)
  rw [hplain, hasked, Session.moving, Act.bind_apply, Session.onOutside, Act.within_apply]
  generalize call.drives around.driver opened.handle depth s.2.outside = ended at hok
  obtain ⟨result, outside⟩ := ended
  cases result with
  | ok u => exact ⟨⟨outside, rfl⟩, rfl⟩
  | error e => cases hok

end TransactionCall

/-! ## The beginning of a block -/

namespace Session

variable {around : Surroundings σ} {ρ : Type} {name : String} {opened : Opened}

/-- Beginning a transaction goes on from the connection that it has asked for. -/
theorem begin_of_connection {s t : Session σ} (h : connection around name s = (.ok opened, t)) :
    begin around name s = begin around name t := by
  have hfound := connection_found around name s trivial
  rw [h] at hfound
  rw [begin, Act.bind_of_ok h, Act.bind_of_ok (connection_of_lookup around hfound)]

/-- So what it asks for comes behind what the connection has asked for. -/
theorem asked_begin_of_connection {s : ρ × Session σ} {t : Session σ}
    (h : connection around name s.2 = (.ok opened, t)) :
    asked (Executor.onSession (begin (around.journaling ()) name)) s =
      asked (Executor.onSession (connection (around.journaling ()) name)) s ++
        asked (Executor.onSession (begin (around.journaling ()) name)) (s.1, t) := by
  have hstart : Executor.onSession (connection around name) s = (.ok opened, s.1, t) :=
    congrArg (fun ended => (ended.1, s.1, ended.2)) h
  refine (begin_records around name).asked_of_start (connection_records around name) hstart ?_
  intro u v huv
  obtain ⟨hresult, rfl⟩ := Prod.ext_iff.mp huv
  have hconnection : connection (around.journaling ()) name u.2 =
      (.ok opened, (connection (around.journaling ()) name u.2).2) := Prod.ext hresult rfl
  exact congrArg (fun ended => (ended.1, u.1, ended.2)) (begin_of_connection hconnection)

theorem begin_of_unavailable {s t : Session σ} {e : Error}
    (h : connection around name s = (.error e, t)) : begin around name s = (.error e, t) := by
  rw [begin, Act.bind_of_error h]

/-- Without room nothing is asked for. -/
theorem begin_of_no_room (around : Surroundings σ) {s : Session σ}
    (h : s.connections.opened.lookup name = some opened)
    (hroom : ¬ opened.HasRoom (s.connections.depth name)) :
    begin around name s = (.error (.nesting .begin name opened.dialect.driver), s) := by
  obtain ⟨hdepth, hsavepoints⟩ := not_or.mp hroom
  rw [begin_of_lookup h, if_neg hdepth, if_neg hsavepoints]

end Session

namespace Shared

variable [DecidableEq ι] {around : Surroundings σ} {who : ι} {name : String} {s t : Shared ι σ}

theorem asked_onConnection {act : String → Act (Session (σ × Journal Unit)) α}
    (hname : (s.1 who).connection = some name) :
    asked (onBuilder who (Builder.onConnection act)) s =
      asked (Executor.onSession (act name)) s := by
  have hsame : onBuilder who (Builder.onConnection act) (Session.withJournal s []) =
      Executor.onSession (act name) (Session.withJournal s []) := onConnection_apply hname
  rw [asked, hsame]
  rfl

/-- What an open connection is asked for is nothing. -/
theorem opening_of_isOpen (hname : (s.1 who).connection = some name)
    (h : s.2.connections.isOpen name = true) : opening around who s = [] := by
  obtain ⟨opened, hopened⟩ := (Connections.isOpen_iff _ _).mp h
  have hfound : Session.connection (around.journaling ()) name (Session.withJournal s []).2 =
      (.ok opened, (Session.withJournal s []).2) :=
    Session.connection_of_lookup _ hopened
  rw [opening, connection, asked_onConnection hname, asked, Executor.onSession, Act.within_apply,
    hfound]
  rfl

/-- Without its connection a builder does not begin a transaction. -/
theorem start_of_unavailable {e : Error} (h : connection around who s = (.error e, t)) :
    onBuilder who (Builder.startTransaction around) s = (.error e, t) := by
  cases hname : (s.1 who).connection with
  | none =>
    rw [connection, onConnection_of_none hname] at h
    rw [Builder.startTransaction, onConnection_of_none hname]
    obtain ⟨hresult, hended⟩ := Prod.ext_iff.mp h
    exact Prod.ext (congrArg Except.error (Except.error.inj hresult)) hended
  | some name =>
    rw [connection, onConnection_apply hname] at h
    rw [Builder.startTransaction, onConnection_apply hname]
    obtain ⟨hresult, rfl⟩ := Prod.ext_iff.mp h
    have hconnection : Session.connection around name s.2 =
        (.error e, (Session.connection around name s.2).2) := Prod.ext hresult rfl
    have hbegin := Session.begin_of_unavailable hconnection
    exact congrArg (fun ended => (ended.1, s.1, ended.2)) hbegin

/-- Ends a block by a call that its result decides. -/
theorem close_eq (around : Surroundings σ) (who : ι) (ended : Except Error α) :
    close around who ended =
      (onBuilder who (Builder.onConnection ((TransactionCall.closing ended).act around)) >>=
        fun _ => Act.ofExcept ended) := by
  cases ended <;> rfl

/-- A block that has room is closed on the level that it has opened. -/
theorem close_asked {opened : Opened} {depth : Nat} (hname : (s.1 who).connection = some name)
    (hopened : s.2.connections.opened.lookup name = some opened)
    (hdepth : s.2.connections.depth name = depth + 1) (hroom : opened.HasRoom depth)
    (ended : Except Error α)
    (h : Undisturbed (asked (close (around.journaling ()) who ended) s)) :
    (∃ outside, close around who ended s =
        (ended, s.1, ⟨s.2.connections.setDepth name depth, outside⟩)) ∧
      asked (close (around.journaling ()) who ended) s =
        [(TransactionCall.closing ended).asks opened.handle (.ok ()) depth] := by
  have hasked : asked (close (around.journaling ()) who ended) s =
      asked (Executor.onSession
        ((TransactionCall.closing ended).act (around.journaling ()) name)) s := by
    rw [close_eq, Session.asked_bind_ofExcept, asked_onConnection hname]
  have hcall : (TransactionCall.closing ended).source depth = depth + 1 ∧
      (TransactionCall.closing ended).target depth = depth := by
    cases ended <;> exact ⟨rfl, rfl⟩
  rw [hasked] at h ⊢
  obtain ⟨⟨outside, hact⟩, hasks⟩ :=
    (TransactionCall.closing ended).act_asked around hopened (hdepth.trans hcall.1.symm) hroom h
  rw [hcall.2] at hact
  refine ⟨⟨outside, ?_⟩, hasks⟩
  have hclosed : Executor.onSession ((TransactionCall.closing ended).act around name) s =
      (.ok depth, s.1, ⟨s.2.connections.setDepth name depth, outside⟩) :=
    congrArg (fun reached => (reached.1, s.1, reached.2)) hact
  rw [close_eq, Act.bind_of_ok ((onConnection_apply hname).trans hclosed)]
  rfl

end Shared

/-! ## Blocks are balanced -/

namespace Session

variable {around : Surroundings σ} {ρ : Type} {name : String} {opened : Opened}
  {s : ρ × Session σ} {t : Session σ}

/-- A connection that was asked for stands at the level of its name. -/
theorem depth_of_connection {s t : Session σ} (h : connection around name s = (.ok opened, t)) :
    t.connections.opened.lookup name = some opened ∧
      t.connections.depth name = s.connections.level name := by
  have hfound := connection_found around name s trivial
  have hsteady := (connection_keepsSteady around name s.connections).always_ends s (.refl _)
  rw [h] at hfound hsteady
  exact ⟨hfound, by rw [← hsteady.level name, Connections.level_of_lookup hfound]⟩

/-- With room for it a level is opened on the connection that was asked for. -/
theorem begin_asked (hconnection : connection around name s.2 = (.ok opened, t))
    (hroom : opened.HasRoom (s.2.connections.level name))
    (h : Undisturbed (asked (Executor.onSession (begin (around.journaling ()) name)) s)) :
    (∃ outside, begin around name s.2 = (.ok (s.2.connections.level name + 1),
        ⟨t.connections.setDepth name (s.2.connections.level name + 1), outside⟩)) ∧
      asked (Executor.onSession (begin (around.journaling ()) name)) s =
        asked (Executor.onSession (connection (around.journaling ()) name)) s ++
          [TransactionCall.begin.asks opened.handle (.ok ()) (s.2.connections.level name)] := by
  obtain ⟨hfound, hdepth⟩ := depth_of_connection hconnection
  rw [asked_begin_of_connection hconnection] at h ⊢
  obtain ⟨hbegun, hasked⟩ := TransactionCall.begin.act_asked around (s := (s.1, t)) hfound hdepth
    hroom (Undisturbed.append_iff.mp h).2
  have hsame := begin_of_connection hconnection
  refine ⟨?_, congrArg _ hasked⟩
  rw [hsame]
  exact hbegun

/-- Without room the connection was open, and nothing is asked for. -/
theorem begin_refused (hconnection : connection around name s.2 = (.ok opened, t))
    (hroom : ¬ opened.HasRoom (s.2.connections.level name)) :
    s.2.connections.opened.lookup name = some opened ∧
      begin around name s.2 = (.error (.nesting .begin name opened.dialect.driver), s.2) ∧
      asked (Executor.onSession (begin (around.journaling ()) name)) s = [] := by
  cases hfound : s.2.connections.opened.lookup name with
  | none =>
    have hzero := Connections.level_of_lookup_none hfound
    exact absurd (.inl hzero) hroom
  | some found =>
    have hsame := (connection_of_lookup around hfound).symm.trans hconnection
    obtain rfl : found = opened := Except.ok.inj (congrArg Prod.fst hsame)
    rw [Connections.level_of_lookup hfound] at hroom
    have hrecorded := begin_of_no_room (around.journaling ()) (s := (withJournal s []).2) hfound
      hroom
    refine ⟨rfl, begin_of_no_room around hfound hroom, ?_⟩
    rw [asked, Executor.onSession, Act.within_apply, hrecorded]
    rfl

end Session

namespace Script

variable [DecidableEq ι] {around : Surroundings σ} {who : ι} {body : Script ι} {s : Shared ι σ}

/-- What a block on a body comes to, and what it asks for. -/
inductive Bracketed (around : Surroundings σ) (who : ι) (body : Script ι) (s : Shared ι σ) :
    Except Error Value → List DriverCall → Prop where
  /-- The connection could not be had, and nothing else was asked for. -/
  | unavailable {e : Error} {t : Shared ι σ}
      (hconnection : Shared.connection around who s = (.error e, t)) :
      Bracketed around who body s (.error e) (Shared.opening around who s)
  /-- A further level was refused on a dialect without savepoints, and nothing was asked for. -/
  | refused {name : String} {opened : Opened} (hname : (s.1 who).connection = some name)
      (hopened : s.2.connections.opened.lookup name = some opened)
      (hlevel : s.2.connections.level name ≠ 0)
      (hsavepoints : opened.dialect.hasSavepoints = false) :
      Bracketed around who body s (.error (.nesting .begin name opened.dialect.driver)) []
  /-- One more level was opened, the body was run, and the same level was closed as the body
  ended. -/
  | framed {name : String} {opened : Opened} {inner : Session σ}
      (hname : (s.1 who).connection = some name)
      (hbegin : Session.begin around name s.2 = (.ok (s.2.connections.level name + 1), inner))
      (hopened : inner.connections.opened.lookup name = some opened) :
      Bracketed around who body s (body.run around (s.1, inner)).1
        (Shared.opening around who s ++
          (TransactionCall.begin.asks opened.handle (.ok ()) (s.2.connections.level name) ::
            (body.calls around (s.1, inner) ++
              [(TransactionCall.closing (body.run around (s.1, inner)).1).asks opened.handle
                (.ok ()) (s.2.connections.level name)])))

/-- What a block asks for, in order. -/
def blockCalls (around : Surroundings σ) (who : ι) (body : Script ι) (s : Shared ι σ) :
    List DriverCall :=
  asked (Shared.block (around.journaling ()) who (body.run (around.journaling ()))) s

section Records

variable (around : Surroundings σ) (who : ι)

theorem connection_records :
    Records (Shared.connection (ι := ι) (around.journaling ()) who)
      (Shared.connection around who) :=
  .of_beside (Shared.connection_parallel (Session.journaling_parallel around ()) who)
    fun journal =>
      Shared.connection_parallel (Session.journaling_parallel_behind around journal) who

theorem start_records :
    Records (Shared.onBuilder (ι := ι) who (Builder.startTransaction (around.journaling ())))
      (Shared.onBuilder who (Builder.startTransaction around)) :=
  .of_beside (Shared.start_parallel (Session.journaling_parallel around ()) who) fun journal =>
    Shared.start_parallel (Session.journaling_parallel_behind around journal) who

theorem close_records (ended : Except Error α) :
    Records (Shared.close (ι := ι) (around.journaling ()) who ended)
      (Shared.close around who ended) :=
  .of_beside (Shared.close_parallel (Session.journaling_parallel around ()) who ended)
    fun journal =>
      Shared.close_parallel (Session.journaling_parallel_behind around journal) who ended

end Records

/-- Without its connection a block comes to nothing. -/
theorem block_of_unavailable (body : Script ι) {e : Error} {t : Shared ι σ}
    (h : Shared.connection around who s = (.error e, t)) :
    Shared.block around who (body.run around) s = (.error e, t) ∧
      blockCalls around who body s = Shared.opening around who s := by
  refine ⟨Act.bind_of_error (Shared.start_of_unavailable h), ?_⟩
  have hrecorded := connection_records around who s []
  rw [h] at hrecorded
  exact Session.asked_of_entered (Act.bind_of_error (Shared.start_of_unavailable hrecorded))

/-- A body that keeps everything is framed by the calls that open and close one level. -/
theorem block_of_room {name : String} {opened : Opened} {t : Session σ}
    (hbody : ∀ s, Undisturbed (body.calls around s) → Shared.Kept s (body.run around s).2)
    (hname : (s.1 who).connection = some name)
    (hconnection : Session.connection around name s.2 = (.ok opened, t))
    (hroom : opened.HasRoom (s.2.connections.level name))
    (h : Undisturbed (blockCalls around who body s)) :
    Shared.Kept s (Shared.block around who (body.run around) s).2 ∧
      Bracketed around who body s (Shared.block around who (body.run around) s).1
        (blockCalls around who body s) := by
  have hrest := fun _ : Nat =>
    (run_records around body).attempt.bind (close_records (α := Value) around who)
  obtain ⟨more, hmore⟩ := (start_records around who).exists_asked_bind hrest s
  have hstarted : Undisturbed (asked (Executor.onSession
      (Session.begin (around.journaling ()) name)) s) := by
    have hprefix := h
    rw [blockCalls, Shared.block_eq, hmore] at hprefix
    have hfirst := (Undisturbed.append_iff.mp hprefix).1
    rw [Builder.startTransaction, Shared.asked_onConnection hname] at hfirst
    exact hfirst
  obtain ⟨⟨outside, hbegin⟩, hopens⟩ := Session.begin_asked hconnection hroom hstarted
  obtain ⟨hfound, hlevel⟩ := Session.depth_of_connection hconnection
  let level := s.2.connections.level name
  let inner : Session σ := ⟨t.connections.setDepth name (level + 1), outside⟩
  let ended := body.run around (s.1, inner)
  have hstart : Shared.onBuilder who (Builder.startTransaction around) s =
      (.ok (level + 1), s.1, inner) :=
    (Shared.onConnection_apply hname).trans
      (congrArg (fun reached => (reached.1, s.1, reached.2)) hbegin)
  have hattempt : Act.attempt (body.run around) (s.1, inner) = (.ok ended.1, ended.2) := rfl
  have hcalls : blockCalls around who body s =
      asked (Shared.onBuilder who (Builder.startTransaction (around.journaling ()))) s ++
        (body.calls around (s.1, inner) ++
          asked (Shared.close (around.journaling ()) who ended.1) ended.2) := by
    rw [blockCalls, Shared.block_eq, (start_records around who).asked_bind_of_ok hrest hstart,
      (run_records around body).attempt.asked_bind_of_ok (close_records around who) hattempt]
    rfl
  rw [Builder.startTransaction, Shared.asked_onConnection hname, hopens] at hcalls
  rw [hcalls] at h ⊢
  obtain ⟨-, hinside⟩ := Undisturbed.append_iff.mp h
  obtain ⟨hbodyCalls, hcloseCalls⟩ := Undisturbed.append_iff.mp hinside
  have hkept : Shared.Kept (s.1, inner) ended.2 := hbody _ hbodyCalls
  -- The level that was opened is still there when the body has ended, so it is the one to close.
  obtain ⟨cache, hended⟩ := hkept.steady.opened name opened hfound
  have hdepth : ended.2.2.connections.depth name = level + 1 := by
    rw [← Connections.level_of_lookup hended, hkept.steady.level name,
      Connections.level_of_lookup (c := inner.connections) hfound, Connections.depth_setDepth]
  obtain ⟨⟨last, hclose⟩, hcloses⟩ := Shared.close_asked
    ((hkept.connection who).trans hname) hended hdepth hroom ended.1 hcloseCalls
  have hblock : Shared.block around who (body.run around) s =
      (ended.1, ended.2.1, ⟨ended.2.2.connections.setDepth name level, last⟩) := by
    rw [Shared.block_eq, Act.bind_of_ok hstart, Act.bind_of_ok hattempt, hclose]
  rw [hblock, hcloses]
  constructor
  · have hsteady := (Session.connection_keepsSteady around name s.2.connections).always_ends s.2
      (.refl _)
    rw [hconnection] at hsteady
    have hreturned := Steady.returning hfound hkept.steady
    rw [hlevel] at hreturned
    exact ⟨hkept.connection, hsteady.trans hreturned⟩
  · have hopening : Shared.opening around who s =
        asked (Executor.onSession (Session.connection (around.journaling ()) name)) s := by
      rw [Shared.opening, Shared.connection, Shared.asked_onConnection hname]
    rw [← hopening, List.append_assoc]
    exact .framed hname hbegin hfound

/-- A block is bracketed and keeps everything as long as its body keeps everything. -/
theorem bracketed_of_kept
    (hbody : ∀ s, Undisturbed (body.calls around s) → Shared.Kept s (body.run around s).2)
    (h : Undisturbed (blockCalls around who body s)) :
    Shared.Kept s (Shared.block around who (body.run around) s).2 ∧
      Bracketed around who body s (Shared.block around who (body.run around) s).1
        (blockCalls around who body s) := by
  have hkept := Shared.onBuilder_kept
    (Builder.onConnection_keepsSteady (Session.connection_keepsSteady around)) who s
  cases hconnection : Shared.connection around who s with
  | mk result t =>
    have hreached : (Shared.connection around who s).2 = t := congrArg Prod.snd hconnection
    cases result with
    | error e =>
      obtain ⟨hblock, hcalls⟩ := block_of_unavailable body hconnection
      rw [hblock, hcalls]
      exact ⟨hreached ▸ hkept, .unavailable hconnection⟩
    | ok opened =>
      cases hname : (s.1 who).connection with
      | none =>
        rw [Shared.connection, Shared.onConnection_of_none hname] at hconnection
        cases hconnection
      | some name =>
        rw [Shared.connection, Shared.onConnection_apply hname] at hconnection
        obtain ⟨hresult, rfl⟩ := Prod.ext_iff.mp hconnection
        have hsession : Session.connection around name s.2 =
            (.ok opened, (Session.connection around name s.2).2) := Prod.ext hresult rfl
        by_cases hroom : opened.HasRoom (s.2.connections.level name)
        · exact block_of_room hbody hname hsession hroom h
        · obtain ⟨hopened, hbegin, hasked⟩ := Session.begin_refused (s := s) hsession hroom
          obtain ⟨hlevel, hsavepoints⟩ := not_or.mp hroom
          have hstart : Shared.onBuilder who (Builder.startTransaction around) s =
              (.error (.nesting .begin name opened.dialect.driver), s) :=
            (Shared.onConnection_apply hname).trans
              (congrArg (fun reached => (reached.1, s.1, reached.2)) hbegin)
          have hcalls : blockCalls around who body s = [] := by
            rw [blockCalls, Shared.block_eq,
              (start_records around who).asked_bind_of_error hstart, Builder.startTransaction,
              Shared.asked_onConnection hname, hasked]
          have hblock : Shared.block around who (body.run around) s =
              (.error (.nesting .begin name opened.dialect.driver), s) := Act.bind_of_error hstart
          rw [hblock, hcalls]
          exact ⟨.refl s, .refused hname hopened hlevel (Bool.eq_false_iff.mpr hsavepoints)⟩

/-! ### Programs -/

/-- An action that is recorded and keeps everything as long as no call about a transaction fails. -/
structure Keeps (recorder : Act (Shared ι (σ × Journal Unit)) α) (act : Act (Shared ι σ) α) :
    Prop where
  /-- The action is recorded. -/
  records : Records recorder act
  /-- It keeps everything. -/
  kept : ∀ s, Undisturbed (asked recorder s) → Shared.Kept s (act s).2

namespace Keeps

variable {β : Type} {recorder : Act (Shared ι (σ × Journal Unit)) α} {act : Act (Shared ι σ) α}

omit [DecidableEq ι] in
/-- What leaves the state alone keeps it. -/
theorem ofExcept (result : Except Error α) :
    Keeps (ι := ι) (σ := σ) (Act.ofExcept result) (Act.ofExcept result) where
  records s journal := by
    have hnothing : asked (Act.ofExcept result) s = [] := rfl
    rw [hnothing, Journal.enter_nil]
    rfl
  kept s _ := .refl s

omit [DecidableEq ι] in
/-- A chain keeps everything when its actions do. -/
theorem bind {next : α → Act (Shared ι σ) β}
    {recorderNext : α → Act (Shared ι (σ × Journal Unit)) β} (h : Keeps recorder act)
    (hnext : ∀ a, Keeps (recorderNext a) (next a)) :
    Keeps (recorder >>= recorderNext) (act >>= next) where
  records := h.records.bind fun a => (hnext a).records
  kept s hs := by
    have hrecords := fun a => (hnext a).records
    cases hact : act s with
    | mk result t =>
      have hreached : (act s).2 = t := congrArg Prod.snd hact
      cases result with
      | ok a =>
        rw [h.records.asked_bind_of_ok hrecords hact] at hs
        obtain ⟨hfirst, hrest⟩ := Undisturbed.append_iff.mp hs
        rw [Act.bind_of_ok hact]
        exact (hreached ▸ h.kept s hfirst).trans ((hnext a).kept t hrest)
      | error e =>
        rw [h.records.asked_bind_of_error hact] at hs
        rw [Act.bind_of_error hact]
        exact hreached ▸ h.kept s hs

omit [DecidableEq ι] in
theorem attempt (h : Keeps recorder act) : Keeps (Act.attempt recorder) (Act.attempt act) :=
  ⟨h.records.attempt, h.kept⟩

/-- What a builder does alike with a journal, and never makes connections unsteady by, keeps
everything. -/
theorem onBuilder (around : Surroundings σ) (who : ι)
    (act : ∀ {κ : Type}, Surroundings κ → Act (Builder × Session κ) α)
    (hact : ∀ {κ κ' : Type} {Q : κ → κ' → Prop} {around : Surroundings κ}
      {other : Surroundings κ'}, around.Parallel Q other →
      Act.Sim (Beside Q) (act around) (act other))
    (hsteady : Builder.KeepsSteady (act around)) :
    Keeps (Shared.onBuilder who (act (around.journaling ())))
      (Shared.onBuilder who (act around)) where
  records := .of_beside
    (Shared.onBuilder_parallel (hact (Session.journaling_parallel around ())) who)
    fun journal =>
      Shared.onBuilder_parallel (hact (Session.journaling_parallel_behind around journal)) who
  kept s _ := Shared.onBuilder_kept hsteady who s

end Keeps

theorem block_records (around : Surroundings σ) (who : ι) (body : Script ι) :
    Records (Shared.block (around.journaling ()) who (body.run (around.journaling ())))
      (Shared.block around who (body.run around)) :=
  (start_records around who).bind fun _ =>
    (run_records around body).attempt.bind (close_records around who)

/-- A program keeps everything as long as no call about a transaction fails, by induction on the
program. -/
theorem run_keeps (around : Surroundings σ) (script : Script ι) :
    Keeps (script.run (around.journaling ())) (script.run around) := by
  induction script with
  | done v => exact Keeps.ofExcept (.ok v)
  | raise e => exact Keeps.ofExcept (.error e)
  | change who f next ih =>
    refine Keeps.bind ?_ fun _ => ih
    exact Keeps.onBuilder around who (fun _ => Builder.changeQuery f)
      (fun _ => Builder.changeQuery_parallel f) (Builder.changeQuery_keepsSteady f)
  | call who terminal next ih =>
    refine Keeps.bind ?_ ih
    exact Keeps.onBuilder around who (fun around => terminal.act around)
      (fun h => TerminalCall.act_parallel h terminal) (TerminalCall.act_keepsSteady around terminal)
  | block who body next ihBody ihNext =>
    refine Keeps.bind ⟨block_records around who body, fun s hs => ?_⟩ ihNext
    exact (bracketed_of_kept ihBody.kept hs).1
  | guarded body handler next ihBody ihHandler ihNext =>
    unfold run
    refine ihBody.attempt.bind fun ended => ?_
    cases ended with
    | ok v => exact ihNext v
    | error e => exact (ihHandler e).bind ihNext

end Script

/-- A block on any connection, at any depth, with any body: calls that run statements, further
blocks on this or other builders, errors raised and caught on every level. As long as no call about
a transaction fails, every depth is afterwards what it was before, however the block ends. Either
its connection could not be had, and its error is that of asking for it; or there is no room for a
further level, and nothing was asked for; or the calls that were made are those that opened the
connection, none if it was open, the one that opens a level, those of the body, and the one that
closes the same level, committed when the body ended well and rolled back when it ended with an
error. The block ends as its body did. -/
theorem Script.block_balanced [DecidableEq ι] (around : Surroundings σ) (who : ι)
    (body : Script ι) (s : Shared ι σ) (h : Undisturbed (blockCalls around who body s)) :
    let ended := Shared.block around who (body.run around) s
    Shared.Kept s ended.2 ∧
      Bracketed around who body s ended.1 (blockCalls around who body s) ∧
      (∀ name, (s.1 who).connection = some name → s.2.connections.isOpen name = true →
        Shared.opening around who s = []) ∧
      ∀ journal,
        Shared.block (around.journaling ()) who (body.run (around.journaling ()))
            (Session.withJournal s journal) =
          (ended.1, Session.withJournal ended.2
            (journal.enter () (blockCalls around who body s))) := by
  intro ended
  obtain ⟨hkept, hbracketed⟩ := bracketed_of_kept (run_keeps around body).kept h
  have hopening : ∀ name, (s.1 who).connection = some name → s.2.connections.isOpen name = true →
      Shared.opening around who s = [] := fun name => Shared.opening_of_isOpen
  exact ⟨hkept, hbracketed, hopening, block_records around who body s⟩

/-- A database that takes every call and speaks a dialect. -/
def Surroundings.taking (dialect : String) : Surroundings Unit where
  driver :=
    { connect := fun _ _ => pure 0
      dialectName := fun _ _ => dialect
      prepare := fun _ _ => pure ()
      execute := fun _ => pure ⟨none, 0, .null⟩
      start := fun _ => pure ()
      commit := fun _ => pure ()
      rollback := fun _ => pure ()
      command := fun _ _ => pure ()
      insertId := fun _ _ => .null
      close := fun _ => pure () }
  hooks := ⟨fun _ => false, fun _ => pure .null⟩
  sleep _ := pure ()
  adapters := .standard

theorem Surroundings.taking_transacts (dialect : String) : (taking dialect).driver.Transacts where
  start _ _ := rfl
  commit _ _ := rfl
  rollback _ _ := rfl
  command _ _ _ _ := rfl

/-- With a driver whose calls about transactions never fail no block is disturbed. -/
theorem Script.blockCalls_undisturbed [DecidableEq ι] {around : Surroundings σ}
    (h : around.driver.Transacts) (who : ι) (body : Script ι) (s : Shared ι σ) :
    Undisturbed (blockCalls around who body s) :=
  Session.asked_undisturbed
    (Shared.block_parallel (Session.journaling_undisturbed h) who
      (run_parallel (Session.journaling_undisturbed h) body)) s

/-- An error that leaves a nested block is caught outside of it: its savepoint is gone back to, and
the transaction around it is committed. -/
theorem Script.block_balanced_caught :
    let around := Surroundings.taking "sqlite"
    let settings : ConnectionSettings := ⟨"sqlite://", "", "", "utf8mb4", 5, false, [], 128⟩
    let main : Opened := ⟨0, Dialect.ofDriver "sqlite", StatementCache.ofSize 8⟩
    let s : Shared Unit Unit := (fun _ => Builder.ofConnection "main",
      ⟨{ settings := [("main", settings)], opened := [("main", main)] }, ()⟩)
    let error : Error := .raised "RuntimeError" "out of stock"
    let inner : Script Unit :=
      .call () (.rawQuery "DELETE FROM orders" []) fun _ => .raise error
    let body : Script Unit := .guarded (.block () inner .done) (fun _ => .done .null) .done
    let ended := Shared.block around () (body.run around) s
    Undisturbed (blockCalls around () body s) ∧
      (blockCalls around () body s).map DriverCall.isTransactional =
        [true, true, false, false, true, true] ∧
      ended.1.isOk = true ∧
      Shared.Kept s ended.2 ∧ Bracketed around () body s ended.1 (blockCalls around () body s) := by
  intro around settings main s error inner body ended
  have hundisturbed : Undisturbed (blockCalls around () body s) :=
    blockCalls_undisturbed (Surroundings.taking_transacts "sqlite") () body s
  obtain ⟨hkept, hbracketed, -, -⟩ := block_balanced around () body s hundisturbed
  have hcalls : (blockCalls around () body s).map DriverCall.isTransactional =
      [true, true, false, false, true, true] := by decide +kernel
  have hended : ended.1.isOk = true := by decide +kernel
  exact ⟨hundisturbed, hcalls, hended, hkept, hbracketed⟩

end BoundSql
