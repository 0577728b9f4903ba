import BoundSql.Proofs.Journal
import BoundSql.Session.Autobegin

/-!
# What is heard on a line

A line that does what another one does and writes down what it was asked for, in order and with how
it ended. A connection on it does the same as on a line that writes nothing down: lines that do
alike make connections on them do alike.
-/

namespace BoundSql

variable {σ τ α : Type}

/-- Something that a line was asked for, and how it ended. -/
inductive LineEvent where
  /-- To be opened again. -/
  | reopened (ended : Except Error Unit)
  /-- To begin a transaction. -/
  | began (ended : Except Error Unit)
  /-- To run a statement with values. -/
  | sent (sql : String) (values : List BoundValue) (ended : Except Error StatementResult)
  /-- To commit. -/
  | committed (ended : Except Error Unit)
  /-- To roll back. -/
  | rolledBack (ended : Except Error Unit)
  /-- To be closed. -/
  | closed (ended : Except Error Unit)

namespace Wire

/-- A line that does the same and writes it down. -/
def recording (wire : Wire σ) : Wire (σ × List LineEvent) where
  connect := wire.connect.entered .reopened
  start := wire.start.entered .began
  execute sql values := (wire.execute sql values).entered (.sent sql values)
  commit := wire.commit.entered .committed
  rollback := wire.rollback.entered .rolledBack
  close := wire.close.entered .closed
  isFatal := wire.isFatal
  mayLinger := wire.mayLinger

/-- Two lines do alike. -/
structure Alike (S : σ → τ → Prop) (wire : Wire σ) (other : Wire τ) : Prop where
  /-- They open alike. -/
  connect : Act.Sim S wire.connect other.connect
  /-- They begin alike. -/
  start : Act.Sim S wire.start other.start
  /-- They run statements alike. -/
  execute : ∀ sql values, Act.Sim S (wire.execute sql values) (other.execute sql values)
  /-- They commit alike. -/
  commit : Act.Sim S wire.commit other.commit
  /-- They roll back alike. -/
  rollback : Act.Sim S wire.rollback other.rollback
  /-- They close alike. -/
  close : Act.Sim S wire.close other.close
  /-- The same errors are fatal. -/
  isFatal : other.isFatal = wire.isFatal
  /-- Both may linger or neither. -/
  mayLinger : other.mayLinger = wire.mayLinger

theorem recording_alike (wire : Wire σ) :
    Alike (fun s t => t = s.1) wire.recording wire where
  connect := Act.entered_sim _ _
  start := Act.entered_sim _ _
  execute _ _ := Act.entered_sim _ _
  commit := Act.entered_sim _ _
  rollback := Act.entered_sim _ _
  close := Act.entered_sim _ _
  isFatal := rfl
  mayLinger := rfl

end Wire

namespace Autobegin

variable {S : σ → τ → Prop} {wire : Wire σ} {other : Wire τ}

/-- The same connection on lines that are related. -/
def Beside (S : σ → τ → Prop) (s : Autobegin × σ) (t : Autobegin × τ) : Prop :=
  t.1 = s.1 ∧ S s.2 t.2

theorem onWire_beside {act : Act σ α} {otherAct : Act τ α} (h : Act.Sim S act otherAct) :
    Act.Sim (Beside S) (onWire act) (onWire otherAct) :=
  h.within (fun _ _ hst => hst.2) fun _ _ _ _ hst huv => ⟨hst.1, huv⟩

theorem view_beside (f : Autobegin → α) :
    Act.Sim (Beside S) (view f : Act (Autobegin × σ) α) (view f) :=
  Act.Sim.look fun _ _ hst => congrArg f hst.1

theorem update_beside (f : Autobegin → Autobegin) :
    Act.Sim (Beside S) (update f : Act (Autobegin × σ) Unit) (update f) :=
  Act.Sim.change fun _ _ hst => ⟨congrArg f hst.1, hst.2⟩

variable (h : wire.Alike S other)

include h

theorem useWire_beside {act : Act σ α} {otherAct : Act τ α} (hact : Act.Sim S act otherAct) :
    Act.Sim (Beside S) (useWire wire act) (useWire other otherAct) := by
  unfold useWire
  refine (onWire_beside hact).attempt.bind fun ended => ?_
  cases ended with
  | ok a => exact Act.Sim.pure a
  | error e =>
    dsimp only
    rw [h.isFatal]
    refine Act.Sim.ite ?_ (Act.Sim.throw e)
    refine (onWire_beside h.close).attempt.bind fun _ => ?_
    exact (update_beside _).bind fun _ => Act.Sim.throw e

theorem reconnect_beside : Act.Sim (Beside S) (reconnect wire) (reconnect other) := by
  unfold reconnect
  refine (onWire_beside h.connect).attempt.bind fun ended => ?_
  split
  · exact update_beside _
  · exact Act.Sim.throw _
  · exact Act.Sim.throw _

theorem ensureLine_beside : Act.Sim (Beside S) (ensureLine wire) (ensureLine other) := by
  unfold ensureLine
  refine (view_beside id).bind fun a => ?_
  refine Act.Sim.ite ?_ (Act.Sim.pure ())
  exact Act.Sim.ite (reconnect_beside h) (Act.Sim.throw _)

theorem ensureBegun_beside : Act.Sim (Beside S) (ensureBegun wire) (ensureBegun other) := by
  unfold ensureBegun
  refine (view_beside id).bind fun a => ?_
  split
  · exact Act.Sim.pure ()
  · exact Act.Sim.throw _
  · refine Act.Sim.ite ?_ (Act.Sim.pure ())
    exact (onWire_beside h.start).bind fun _ => update_beside _

theorem rollbackLine_beside : Act.Sim (Beside S) (rollbackLine wire) (rollbackLine other) := by
  unfold rollbackLine
  refine (view_beside lost).bind fun gone => ?_
  exact Act.Sim.ite (Act.Sim.pure ()) (useWire_beside h h.rollback)

theorem rollbackInner_beside :
    Act.Sim (Beside S) (rollbackInner wire) (rollbackInner other) := by
  unfold rollbackInner
  refine (view_beside inner).bind fun inner => ?_
  cases inner with
  | absent => exact Act.Sim.pure ()
  | broken => exact update_beside _
  | active =>
    refine (rollbackLine_beside h).always fun _ _ hst => ⟨?_, hst.2⟩
    rw [hst.1]

theorem commitInner_beside : Act.Sim (Beside S) (commitInner wire) (commitInner other) := by
  have hline : Act.Sim (Beside S) (commitLine wire) (commitLine other) := by
    unfold commitLine
    refine (view_beside lost).bind fun gone => ?_
    exact Act.Sim.ite (Act.Sim.throw _) (useWire_beside h h.commit)
  unfold commitInner
  refine (view_beside inner).bind fun inner => ?_
  cases inner with
  | absent => exact Act.Sim.pure ()
  | broken => exact Act.Sim.throw _
  | active =>
    refine hline.attempt.bind fun ended => ?_
    cases ended with
    | ok _ => exact update_beside _
    | error e => exact (update_beside _).bind fun _ => Act.Sim.throw e

theorem clearing_beside {act : Act (Autobegin × σ) α} {otherAct : Act (Autobegin × τ) α}
    (hact : Act.Sim (Beside S) act otherAct) :
    Act.Sim (Beside S) (clearing wire act) (clearing other otherAct) := by
  unfold clearing
  refine hact.attempt.bind fun ended => ?_
  cases ended with
  | ok a => exact Act.Sim.pure a
  | error e =>
    refine (view_beside inner).bind fun inner => ?_
    refine Act.Sim.ite ?_ (Act.Sim.throw e)
    exact (rollbackLine_beside h).bind fun _ => Act.Sim.throw e

theorem settle_beside {act : Act (Autobegin × σ) α} {otherAct : Act (Autobegin × τ) α}
    (hact : Act.Sim (Beside S) act otherAct) :
    Act.Sim (Beside S) (settle wire act) (settle other otherAct) := by
  unfold settle
  refine hact.attempt.bind fun ended => ?_
  cases ended with
  | ok a =>
    refine (view_beside isImplicit).bind fun implicit => ?_
    refine Act.Sim.ite ?_ (Act.Sim.pure a)
    exact (commitInner_beside h).bind fun _ => Act.Sim.pure a
  | error e =>
    refine (view_beside isImplicit).bind fun implicit => ?_
    refine Act.Sim.ite ?_ (Act.Sim.throw e)
    exact (rollbackInner_beside h).bind fun _ => Act.Sim.throw e

theorem send_beside (sql : String) (values : List BoundValue) :
    Act.Sim (Beside S) (send wire sql values) (send other sql values) :=
  (ensureBegun_beside h).bind fun _ =>
    clearing_beside h (useWire_beside h (h.execute sql values))

omit h in
theorem receive_beside (result : StatementResult) :
    Act.Sim (Beside S) (receive result : Act (Autobegin × σ) StatementResult)
      (receive result) := by
  unfold receive
  split
  · exact Act.Sim.pure _
  · refine Act.Sim.ite ?_ (Act.Sim.pure _)
    exact (update_beside _).bind fun _ => Act.Sim.pure _

/-- Statements run alike on lines that do alike. -/
theorem run_beside (pieces : List BindPiece) (bound : List (Nat × BoundValue)) :
    Act.Sim (Beside S) (run wire pieces bound) (run other pieces bound) := by
  refine settle_beside h ?_
  refine (ensureLine_beside h).bind fun _ => ?_
  refine (clearing_beside h (Act.Sim.ofExcept _)).bind fun statement => ?_
  exact (send_beside h statement.sql statement.values).bind receive_beside

theorem command_beside (sql : String) :
    Act.Sim (Beside S) (command wire sql) (command other sql) := by
  refine settle_beside h ?_
  refine (ensureLine_beside h).bind fun _ => ?_
  exact (send_beside h sql []).bind fun _ => Act.Sim.pure ()

/-- Explicit transactions are begun and ended alike. -/
theorem start_beside : Act.Sim (Beside S) (start wire) (start other) := by
  have hopen : Act.Sim (Beside S)
      (do
        prepareLine wire
        onWire wire.start
        update fun a => { a with inner := .active, stalled := false, explicit := true })
      (do
        prepareLine other
        onWire other.start
        update fun a => { a with inner := .active, stalled := false, explicit := true }) := by
    refine Act.Sim.bind ?_ fun _ => (onWire_beside h.start).bind fun _ => update_beside _
    unfold prepareLine
    refine (view_beside lost).bind fun gone => ?_
    refine Act.Sim.ite ?_ (Act.Sim.pure ())
    refine (reconnect_beside h).attempt.bind fun ended => ?_
    cases ended with
    | ok _ => exact Act.Sim.pure ()
    | error e => exact (update_beside _).bind fun _ => Act.Sim.throw e
  have hbegin : Act.Sim (Beside S)
      (do
        if (← view inner) = .broken then throw .alreadyBegun
        prepareLine wire
        onWire wire.start
        update fun a => { a with inner := .active, stalled := false, explicit := true })
      (do
        if (← view inner) = .broken then throw .alreadyBegun
        prepareLine other
        onWire other.start
        update fun a => { a with inner := .active, stalled := false, explicit := true }) := by
    refine (view_beside inner).bind fun before => ?_
    exact Act.Sim.ite (Act.Sim.throw _) hopen
  refine (view_beside inner).bind fun before => ?_
  exact Act.Sim.ite ((commitInner_beside h).bind fun _ => hbegin) hbegin

theorem commit_beside : Act.Sim (Beside S) (commit wire) (commit other) := by
  refine (view_beside explicit).bind fun held => ?_
  exact Act.Sim.ite ((update_beside _).bind fun _ => commitInner_beside h) (Act.Sim.pure ())

theorem rollback_beside : Act.Sim (Beside S) (rollback wire) (rollback other) := by
  refine (view_beside explicit).bind fun held => ?_
  exact Act.Sim.ite ((update_beside _).bind fun _ => rollbackInner_beside h) (Act.Sim.pure ())

/-- An explicit transaction is rolled back alike before something that is alike. -/
theorem releasing_beside {act : Act (Autobegin × σ) Unit} {otherAct : Act (Autobegin × τ) Unit}
    (hact : Act.Sim (Beside S) act otherAct) :
    Act.Sim (Beside S)
      (do
        if ← view explicit then
          rollbackInner wire
          setExplicit false
        act)
      (do
        if ← view explicit then
          rollbackInner other
          setExplicit false
        otherAct) := by
  refine (view_beside explicit).bind fun held => ?_
  refine Act.Sim.ite ?_ hact
  exact (rollbackInner_beside h).bind fun _ => (update_beside _).bind fun _ => hact

theorem release_beside : Act.Sim (Beside S) (release wire) (release other) := by
  refine releasing_beside h ?_
  refine (view_beside inner).bind fun inner => ?_
  cases inner with
  | absent => exact (rollbackLine_beside h).attempt.bind fun _ => Act.Sim.pure ()
  | active => exact rollbackInner_beside h
  | broken => exact rollbackInner_beside h

/-- Lines are closed alike. -/
theorem close_beside : Act.Sim (Beside S) (close wire) (close other) := by
  unfold close
  refine (release_beside h).attempt.bind fun released => ?_
  refine (view_beside lost).bind fun gone => ?_
  rw [h.mayLinger]
  refine Act.Sim.ite ?_ (Act.Sim.ofExcept released)
  exact (onWire_beside h.close).attempt.bind fun _ => Act.Sim.ofExcept released

end Autobegin

end BoundSql
