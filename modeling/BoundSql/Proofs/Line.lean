import BoundSql.Proofs.Triple
import BoundSql.Session.Autobegin

/-!
# Statements on a line

Statements neither open nor end the explicit transaction of a connection that begins transactions
by itself. Inside an explicit transaction they never commit what is on the line. Both facts are one
comparison of two lines that differ at most in what a commit does, and agree in that too where there
is no explicit transaction: statements run alike on them.
-/

namespace BoundSql

namespace Autobegin

variable {σ α : Type}

/-- The same state, with an explicit transaction or without. -/
structure Held (explicit : Bool) (s t : Autobegin × σ) : Prop where
  /-- The states are the same. -/
  same : t = s
  /-- Whether an explicit transaction is open. -/
  explicit_eq : s.1.explicit = explicit

variable {explicit : Bool}

/-- What happens on the line leaves the explicit transaction alone. -/
theorem onWire_sim (act : Act σ α) : Act.Sim (Held explicit) (onWire act) (onWire act) := by
  rintro s t ⟨rfl, he⟩
  exact ⟨rfl, rfl, he⟩

theorem view_sim (f : Autobegin → α) :
    Act.Sim (Held explicit) (view f : Act (Autobegin × σ) α) (view f) := by
  rintro s t ⟨rfl, he⟩
  exact ⟨rfl, rfl, he⟩

/-- So does a change of anything else. -/
theorem update_sim {f : Autobegin → Autobegin} (hf : ∀ a, (f a).explicit = a.explicit) :
    Act.Sim (Held explicit) (update f : Act (Autobegin × σ) Unit) (update f) := by
  rintro s t ⟨rfl, he⟩
  exact ⟨rfl, rfl, (hf _).trans he⟩

theorem setInner_sim (inner : LineTransaction) :
    Act.Sim (Held explicit) (setInner inner : Act (Autobegin × σ) Unit) (setInner inner) :=
  update_sim fun _ => rfl

variable (wire : Wire σ) (commit : Act σ Unit)

theorem useWire_sim (act : Act σ α) :
    Act.Sim (Held explicit) (useWire wire act) (useWire { wire with commit := commit } act) := by
  unfold useWire
  refine (onWire_sim act).attempt.bind fun ended => ?_
  cases ended with
  | ok a => exact Act.Sim.pure a
  | error e =>
    dsimp only
    refine Act.Sim.ite ?_ ?_
    · refine (onWire_sim wire.close).attempt.bind fun _ => ?_
      refine Act.Sim.bind (update_sim ?_) fun _ => Act.Sim.throw e
      exact fun _ => rfl
    · exact Act.Sim.throw e

theorem reconnect_sim :
    Act.Sim (Held explicit) (reconnect wire) (reconnect { wire with commit := commit }) := by
  unfold reconnect
  refine (onWire_sim wire.connect).attempt.bind fun ended => ?_
  split
  · exact update_sim fun _ => rfl
  · exact Act.Sim.throw _
  · exact Act.Sim.throw _

theorem ensureLine_sim :
    Act.Sim (Held explicit) (ensureLine wire) (ensureLine { wire with commit := commit }) := by
  unfold ensureLine
  refine (view_sim id).bind fun a => ?_
  refine Act.Sim.ite ?_ (Act.Sim.pure ())
  exact Act.Sim.ite (reconnect_sim wire commit) (Act.Sim.throw _)

theorem ensureBegun_sim :
    Act.Sim (Held explicit) (ensureBegun wire) (ensureBegun { wire with commit := commit }) := by
  unfold ensureBegun
  refine (view_sim id).bind fun a => ?_
  split
  · exact Act.Sim.pure ()
  · exact Act.Sim.throw _
  · refine Act.Sim.ite ?_ (Act.Sim.pure ())
    exact (onWire_sim wire.start).bind fun _ => setInner_sim .active

theorem rollbackLine_sim :
    Act.Sim (Held explicit) (rollbackLine wire) (rollbackLine { wire with commit := commit }) := by
  unfold rollbackLine
  refine (view_sim lost).bind fun gone => ?_
  exact Act.Sim.ite (Act.Sim.pure ()) (useWire_sim wire commit wire.rollback)

theorem rollbackInner_sim :
    Act.Sim (Held explicit) (rollbackInner wire)
      (rollbackInner { wire with commit := commit }) := by
  unfold rollbackInner
  refine (view_sim inner).bind fun inner => ?_
  cases inner with
  | absent => exact Act.Sim.pure ()
  | broken => exact setInner_sim .absent
  | active =>
    refine (rollbackLine_sim wire commit).always ?_
    rintro s t ⟨rfl, he⟩
    exact ⟨rfl, he⟩

theorem commitInner_sim :
    Act.Sim (Held explicit) (commitInner wire) (commitInner wire) := by
  unfold commitInner
  refine (view_sim inner).bind fun inner => ?_
  cases inner with
  | absent => exact Act.Sim.pure ()
  | broken => exact Act.Sim.throw _
  | active =>
    have hline : Act.Sim (Held explicit) (commitLine wire) (commitLine wire) := by
      unfold commitLine
      refine (view_sim lost).bind fun gone => ?_
      exact Act.Sim.ite (Act.Sim.throw _) (useWire_sim wire wire.commit wire.commit)
    refine hline.attempt.bind fun ended => ?_
    cases ended with
    | ok _ => exact setInner_sim .absent
    | error e => exact (setInner_sim .broken).bind fun _ => Act.Sim.throw e

variable {act other : Act (Autobegin × σ) α}

theorem clearing_sim (h : Act.Sim (Held explicit) act other) :
    Act.Sim (Held explicit) (clearing wire act)
      (clearing { wire with commit := commit } other) := by
  unfold clearing
  refine h.attempt.bind fun ended => ?_
  cases ended with
  | ok a => exact Act.Sim.pure a
  | error e =>
    refine (view_sim inner).bind fun inner => ?_
    refine Act.Sim.ite ?_ (Act.Sim.throw e)
    exact (rollbackLine_sim wire commit).bind fun _ => Act.Sim.throw e

/-- A statement's own transaction is committed only where there is no explicit one. -/
theorem settle_sim (hcommit : explicit = false → commit = wire.commit)
    (h : Act.Sim (Held explicit) act other) :
    Act.Sim (Held explicit) (settle wire act) (settle { wire with commit := commit } other) := by
  unfold settle
  refine h.attempt.bind fun ended => ?_
  cases ended with
  | ok a =>
    refine (view_sim isImplicit).bindOk fun implicit s t hst himplicit => ?_
    obtain rfl : s.1.isImplicit = implicit := Except.ok.inj himplicit
    cases explicit with
    | true =>
      have hskip : s.1.isImplicit = false := by simp [isImplicit, hst.explicit_eq]
      rw [hskip]
      exact Act.Sim.pure a
    | false =>
      obtain rfl := hcommit rfl
      refine Act.Sim.ite ?_ (Act.Sim.pure a)
      exact (commitInner_sim wire).bind fun _ => Act.Sim.pure a
  | error e =>
    refine (view_sim isImplicit).bind fun implicit => ?_
    refine Act.Sim.ite ?_ (Act.Sim.throw e)
    exact (rollbackInner_sim wire commit).bind fun _ => Act.Sim.throw e

theorem send_sim (sql : String) (values : List BoundValue) :
    Act.Sim (Held explicit) (send wire sql values)
      (send { wire with commit := commit } sql values) :=
  (ensureBegun_sim wire commit).bind fun _ =>
    clearing_sim wire commit (useWire_sim wire commit (wire.execute sql values))

theorem receive_sim (result : StatementResult) :
    Act.Sim (Held explicit)
      (receive result : Act (Autobegin × σ) StatementResult) (receive result) := by
  unfold receive
  split
  · exact Act.Sim.pure _
  · refine Act.Sim.ite ?_ (Act.Sim.pure _)
    refine Act.Sim.bind (update_sim ?_) fun _ => Act.Sim.pure _
    exact fun _ => rfl

/-- A prepared statement runs alike on the two lines. -/
theorem execute_sim (hcommit : explicit = false → commit = wire.commit) (p : Prepared) :
    Act.Sim (Held explicit) (execute wire p) (execute { wire with commit := commit } p) := by
  refine (Act.Sim.ofExcept (Binding.pieces p)).bind fun pieces => ?_
  refine settle_sim wire commit hcommit ?_
  refine (ensureLine_sim wire commit).bind fun _ => ?_
  refine (clearing_sim wire commit (Act.Sim.ofExcept _)).bind fun statement => ?_
  exact (send_sim wire commit statement.sql statement.values).bind receive_sim

/-- So does a statement without results. -/
theorem command_sim (hcommit : explicit = false → commit = wire.commit) (sql : String) :
    Act.Sim (Held explicit) (command wire sql) (command { wire with commit := commit } sql) := by
  refine settle_sim wire commit hcommit ?_
  refine (ensureLine_sim wire commit).bind fun _ => ?_
  exact (send_sim wire commit sql []).bind fun _ => Act.Sim.pure ()

/-! ## Explicit transactions -/

/-- Whether an explicit transaction is open. -/
def IsExplicit (explicit : Bool) (s : Autobegin × σ) : Prop := s.1.explicit = explicit

/-- Alike runs of one action keep the explicit transaction. -/
theorem explicit_of_sim (h : Act.Sim (Held explicit) act act) :
    Act.Triple (IsExplicit explicit) act (fun _ => IsExplicit explicit) (IsExplicit explicit) :=
  Act.Triple.of_sim h (fun _ hs => ⟨rfl, hs⟩) fun _ _ hst => hst.same ▸ hst.explicit_eq

/-- Statements keep the explicit transaction. -/
theorem command_explicit (sql : String) :
    Act.Triple (IsExplicit explicit) (command wire sql) (fun _ => IsExplicit explicit)
      (IsExplicit explicit) :=
  explicit_of_sim (command_sim wire wire.commit (fun _ => rfl) sql)

theorem prepareLine_sim :
    Act.Sim (Held explicit) (prepareLine wire) (prepareLine wire) := by
  unfold prepareLine
  refine (view_sim lost).bind fun gone => ?_
  refine Act.Sim.ite ?_ (Act.Sim.pure ())
  refine (reconnect_sim wire wire.commit).attempt.bind fun ended => ?_
  cases ended with
  | ok _ => exact Act.Sim.pure ()
  | error e =>
    refine Act.Sim.bind (update_sim ?_) fun _ => Act.Sim.throw e
    exact fun _ => rfl

/-- Starting opens an explicit transaction unless it fails. -/
theorem start_explicit :
    Act.Triple (IsExplicit explicit) (start wire) (fun _ => IsExplicit true)
      (IsExplicit explicit) := by
  have hinner := explicit_of_sim
    (view_sim inner : Act.Sim (Held explicit) (view inner : Act (Autobegin × σ) _) (view inner))
  have hopen : Act.Triple (IsExplicit explicit)
      (do
        prepareLine wire
        onWire wire.start
        update fun a => { a with inner := .active, stalled := false, explicit := true })
      (fun _ => IsExplicit true) (IsExplicit explicit) := by
    refine (explicit_of_sim (prepareLine_sim wire)).bind fun _ => ?_
    refine (explicit_of_sim (onWire_sim wire.start)).bind fun _ => ?_
    exact Act.Triple.change fun _ _ => rfl
  have hbegin : Act.Triple (IsExplicit explicit)
      (do
        if (← view inner) = .broken then throw .alreadyBegun
        prepareLine wire
        onWire wire.start
        update fun a => { a with inner := .active, stalled := false, explicit := true })
      (fun _ => IsExplicit true) (IsExplicit explicit) := by
    refine hinner.bind fun before => ?_
    dsimp only
    refine Act.Triple.ite (fun _ => ?_) fun _ => hopen
    exact Act.Triple.throw fun _ hs => hs
  refine hinner.bind fun before => ?_
  refine Act.Triple.ite (fun _ => ?_) fun _ => hbegin
  exact (explicit_of_sim (commitInner_sim wire)).bind fun _ => hbegin

/-- An explicit transaction is forgotten before its end is tried, so none is left even if that
fails. -/
theorem forgetting_explicit {finish : Act (Autobegin × σ) Unit}
    (h : Act.Sim (Held false) finish finish) :
    Act.Triple (fun _ => True)
      (do
        if ← view Autobegin.explicit then
          setExplicit false
          finish)
      (fun _ => IsExplicit false) (IsExplicit false) := by
  refine Act.Triple.bind (R := IsExplicit) (Act.Triple.look fun s _ => rfl) fun isOpen => ?_
  refine Act.Triple.ite (fun _ => ?_) fun hnone => ?_
  · refine Act.Triple.bind (R := fun _ => IsExplicit false) (Act.Triple.change fun _ _ => rfl)
      fun _ => ?_
    exact explicit_of_sim h
  · have hclosed : isOpen = false := by simpa using hnone
    exact Act.Triple.pure fun s hs => hs.trans hclosed

/-- A commit leaves no explicit transaction, however it ends. -/
theorem commit_explicit :
    Act.Triple (fun _ => True) (Autobegin.commit wire) (fun _ => IsExplicit false)
      (IsExplicit false) :=
  forgetting_explicit (commitInner_sim wire)

/-- Nor does a rollback. -/
theorem rollback_explicit :
    Act.Triple (fun _ => True) (rollback wire) (fun _ => IsExplicit false) (IsExplicit false) :=
  forgetting_explicit (rollbackInner_sim wire wire.commit)

end Autobegin

end BoundSql
