import BoundSql.Proofs.Connections
import BoundSql.Proofs.Line
import BoundSql.Proofs.Requests

/-!
# Depth and explicit transactions

A session keeps the depth of transactions, and the connection behind it keeps whether an explicit
transaction is open. The two are changed at different places, the depth only after the connection
has done its part, the explicit transaction before its end is tried. So they agree until an attempt
to end the transaction at depth one fails. From then on the depth stays above zero while there is no
explicit transaction, until another attempt brings it down to zero. The main statement is that this
is the only way in which they come apart, whatever the line does and whichever requests are made.
-/

namespace BoundSql

variable {σ α : Type}

/-- What stands behind a single line, and everything else outside. -/
structure Remote (σ : Type) where
  /-- What the line does. -/
  wire : Wire σ
  /-- Reaches the database for a new line. -/
  reach : AdapterKind → ConnectionSettings → Act σ Unit
  /-- The name of the dialect that the database speaks. -/
  dialectName : σ → String
  /-- The hooks; they have no access to the connection. -/
  hooks : Hooks σ
  /-- Waits for some seconds. -/
  sleep : Double → Act σ Unit
  /-- The adapters for backends. -/
  adapters : AdapterRegistry

namespace Remote

variable (remote : Remote σ)

/-- Opens a line with a new connection on it. -/
def connect (kind : AdapterKind) (settings : ConnectionSettings) : Act (Autobegin × σ) Handle := do
  Autobegin.onWire (remote.reach kind settings)
  Autobegin.update fun _ => {}
  return 0

/-- The connection on the line as a driver. -/
def driver : Driver (Autobegin × σ) where
  connect := remote.connect
  dialectName _ s := remote.dialectName s.2
  prepare _ _ := pure ()
  execute p := Autobegin.execute remote.wire p
  start _ := Autobegin.start remote.wire
  commit _ := Autobegin.commit remote.wire
  rollback _ := Autobegin.rollback remote.wire
  command _ sql := Autobegin.command remote.wire sql
  insertId _ s := s.1.insertId
  close _ := Autobegin.close remote.wire

/-- Everything outside a session on the line. -/
def surroundings : Surroundings (Autobegin × σ) where
  driver := remote.driver
  hooks :=
    { has := remote.hooks.has
      call := fun call => Autobegin.onWire (remote.hooks.call call) }
  sleep time := Autobegin.onWire (remote.sleep time)
  adapters := remote.adapters

/-- The same with another commit on the line. -/
def withCommit (commit : Act σ Unit) : Remote σ :=
  { remote with wire := { remote.wire with commit := commit } }

end Remote

namespace Session

open Connections

/-- The connection of a name holds an explicit transaction. -/
def holdsTransaction (name : String) (s : Session (Autobegin × σ)) : Bool :=
  s.connections.isOpen name && s.outside.1.explicit

/-- The connection of a name is open, at a depth, with an explicit transaction or without. -/
structure OpenAt (name : String) (depth : Nat) (explicit : Bool)
    (s : Session (Autobegin × σ)) : Prop where
  /-- It is open. -/
  isOpen : s.connections.isOpen name = true
  /-- The depth of transactions. -/
  depth_eq : s.connections.depth name = depth
  /-- Whether an explicit transaction is open. -/
  explicit_eq : s.outside.1.explicit = explicit

/-- The connection of a name is not open, and its depth is zero. -/
structure ClosedAt (name : String) (s : Session (Autobegin × σ)) : Prop where
  /-- It is not open. -/
  isClosed : s.connections.isOpen name = false
  /-- Its depth is zero. -/
  depth_eq : s.connections.depth name = 0

/-- The connection of a name stands at a depth, with an explicit transaction or without. One that
is not open stands at depth zero without. -/
def Stands (name : String) (depth : Nat) (explicit : Bool) (s : Session (Autobegin × σ)) : Prop :=
  OpenAt name depth explicit s ∨ ClosedAt name s ∧ depth = 0 ∧ explicit = false

variable {name : String} {depth : Nat} {explicit : Bool} {s : Session (Autobegin × σ)}
  {E : Session (Autobegin × σ) → Prop}

theorem Stands.depth_eq (h : Stands name depth explicit s) :
    s.connections.depth name = depth := by
  rcases h with h | ⟨h, rfl, -⟩
  · exact h.depth_eq
  · exact h.depth_eq

theorem Stands.holdsTransaction_eq (h : Stands name depth explicit s) :
    s.holdsTransaction name = explicit := by
  rcases h with h | ⟨h, -, rfl⟩
  · rw [holdsTransaction, h.isOpen, h.explicit_eq, Bool.true_and]
  · rw [holdsTransaction, h.isClosed, Bool.false_and]

/-! ## What keeps depth and explicit transaction -/

/-- What changes the explicit transaction outside does so for an open connection. -/
theorem openAt_outside {act : Act (Autobegin × σ) α} {after failed : Bool}
    (h : Act.Triple (Autobegin.IsExplicit explicit) act (fun _ => Autobegin.IsExplicit after)
      (Autobegin.IsExplicit failed)) :
    Act.Triple (OpenAt name depth explicit) (onOutside act) (fun _ => OpenAt name depth after)
      (OpenAt name depth failed) :=
  h.within (fun _ hs => hs.explicit_eq) (fun _ _ _ hs ht => ⟨hs.isOpen, hs.depth_eq, ht⟩)
    fun _ _ hs ht => ⟨hs.isOpen, hs.depth_eq, ht⟩

/-- What happens outside leaves a closed connection closed. -/
theorem closedAt_outside (act : Act (Autobegin × σ) α) :
    Act.Triple (ClosedAt name) (onOutside act) (fun _ => ClosedAt name) (ClosedAt name) :=
  Act.Triple.of_reached fun _ hs => ⟨hs.isClosed, hs.depth_eq⟩

/-- The connection of a name is not open, and none outside holds an explicit transaction. -/
structure Fresh (name : String) (s : Session (Autobegin × σ)) : Prop where
  /-- It is not open. -/
  closed : ClosedAt name s
  /-- There is no explicit transaction. -/
  explicit_eq : s.outside.1.explicit = false

/-- What keeps the explicit transaction outside keeps a connection fresh. -/
theorem fresh_outside {act : Act (Autobegin × σ) α}
    (h : Act.Triple (Autobegin.IsExplicit false) act (fun _ => Autobegin.IsExplicit false)
      (Autobegin.IsExplicit false)) :
    Act.Triple (Fresh name) (onOutside act) (fun _ => Fresh name) (Fresh name) :=
  h.within (fun _ hs => hs.explicit_eq)
    (fun _ _ _ hs ht => ⟨⟨hs.closed.isClosed, hs.closed.depth_eq⟩, ht⟩)
    fun _ _ hs ht => ⟨⟨hs.closed.isClosed, hs.closed.depth_eq⟩, ht⟩

theorem ClosedAt.stands (h : ClosedAt name s) : Stands name 0 false s := .inr ⟨h, rfl, rfl⟩

variable (remote : Remote σ)

/-- A hook leaves the explicit transaction alone. -/
theorem notify_explicit (call : HookCall) :
    Act.Triple (Autobegin.IsExplicit explicit) (remote.surroundings.hooks.notify call)
      (fun _ => Autobegin.IsExplicit explicit) (Autobegin.IsExplicit explicit) := by
  unfold Hooks.notify
  refine Act.Triple.ite (fun _ => ?_) fun _ => Act.Triple.pure fun _ hs => hs
  refine (Autobegin.explicit_of_sim (Autobegin.onWire_sim _)).bind fun _ => ?_
  exact Act.Triple.pure fun _ hs => hs

/-- A new line holds no explicit transaction. -/
theorem fresh_connect (kind : AdapterKind) (settings : ConnectionSettings) :
    Act.Triple (ClosedAt name) (onOutside (remote.surroundings.driver.connect kind settings))
      (fun _ => Fresh name) (ClosedAt name) := by
  have hconnect : Act.Triple (fun _ => True) (remote.connect kind settings)
      (fun _ => Autobegin.IsExplicit false) (fun _ => True) := by
    refine Act.Triple.bind (R := fun _ _ => True) ?_ fun _ => ?_
    · exact Act.Triple.of_reached fun _ _ => trivial
    · refine Act.Triple.bind (R := fun _ => Autobegin.IsExplicit false)
        (Act.Triple.change fun _ _ => rfl) fun _ => ?_
      exact Act.Triple.pure fun _ hs => hs
  exact hconnect.within (fun _ _ => trivial)
    (fun _ _ _ hs ht => ⟨⟨hs.isClosed, hs.depth_eq⟩, ht⟩) fun _ _ hs _ => ⟨hs.isClosed, hs.depth_eq⟩

/-- Choosing a character set leaves a new connection fresh, or it is given up. -/
theorem chooseCharset_fresh (handle : Handle) (dialect : Dialect) (settings : ConnectionSettings) :
    Act.Triple (Fresh name) (chooseCharset remote.surroundings name handle dialect settings)
      (fun _ => Fresh name) (ClosedAt name) := by
  have hclose : Act.Triple (ClosedAt name) (onOutside (remote.surroundings.driver.close handle))
      (fun _ => ClosedAt name) (ClosedAt name) := closedAt_outside _
  unfold chooseCharset
  refine Act.Triple.ite (fun _ => ?_) fun _ => Act.Triple.pure fun _ hs => hs
  refine Act.Triple.ite (fun _ => ?_) fun _ => ?_
  · refine (fresh_outside (Autobegin.command_explicit remote.wire _)).attempt.bind fun ended => ?_
    cases ended with
    | ok _ => exact Act.Triple.pure fun _ hs => hs
    | error e =>
      refine (hclose.weaken (fun _ hs => hs.closed) (fun _ _ hs => hs) fun _ hs => hs).bind
        fun _ => ?_
      refine Act.Triple.ofExcept.bind fun shown => ?_
      exact Act.Triple.throw fun _ hs => hs
  · refine (hclose.weaken (fun _ hs => hs.closed) (fun _ _ hs => hs) fun _ hs => hs).bind
      fun _ => ?_
    exact Act.Triple.throw fun _ hs => hs

/-- A connection that is opened stands at depth zero without an explicit transaction, and so does
one that could not be opened. -/
theorem openConnection_stands :
    Act.Triple (ClosedAt name) (openConnection remote.surroundings name)
      (fun _ => OpenAt name 0 false) (Stands name 0 false) := by
  have hclosed : ∀ s : Session (Autobegin × σ), ClosedAt name s → Stands name 0 false s :=
    fun _ hs => hs.stands
  unfold openConnection
  refine Act.Triple.bind (R := fun _ => ClosedAt name) ?_ fun settings => ?_
  · exact (Act.Triple.of_state fun _ => rfl).failing hclosed
  refine (Act.Triple.ofExcept.failing hclosed).bind fun kind => ?_
  refine (fresh_connect remote kind settings).attempt.bind fun ended => ?_
  cases ended with
  | error e =>
    refine (Act.Triple.ofExcept.failing hclosed).bind fun shown => ?_
    exact Act.Triple.throw hclosed
  | ok handle =>
    refine Act.Triple.bind (R := fun _ => Fresh name) ?_ fun driverName => ?_
    · exact Act.Triple.look fun _ hs => hs
    refine ((chooseCharset_fresh remote handle _ settings).failing hclosed).bind fun _ => ?_
    refine Act.Triple.bind (R := fun _ => OpenAt name 0 false) ?_ fun _ => ?_
    · exact Act.Triple.change fun _ hs => ⟨isOpen_keep _ _ _, depth_keep _ _ _, hs.explicit_eq⟩
    refine (Act.Triple.ofExcept.failing fun _ hs => .inl hs).bind fun shown => ?_
    refine ((openAt_outside (notify_explicit remote _)).failing fun _ hs => .inl hs).bind
      fun _ => ?_
    exact Act.Triple.pure fun _ hs => hs

/-- An open connection is found as it is. -/
theorem connection_openAt :
    Act.Triple (OpenAt name depth explicit) (connection remote.surroundings name)
      (fun _ => OpenAt name depth explicit) E := by
  intro s hs
  obtain ⟨opened, hopened⟩ := (isOpen_iff _ _).mp hs.isOpen
  rw [connection_of_lookup _ hopened]
  exact hs

/-- Asking for a connection opens it where it stands, or leaves it standing there. -/
theorem connection_stands :
    Act.Triple (Stands name depth explicit) (connection remote.surroundings name)
      (fun _ => OpenAt name depth explicit) (Stands name depth explicit) := by
  rintro s (hs | ⟨hs, rfl, rfl⟩)
  · exact connection_openAt remote s hs
  · have hnone := (isOpen_eq_false _ _).mp hs.isClosed
    rw [connection_of_lookup_none _ hnone]
    exact openConnection_stands remote s hs

/-- The depth that an open connection reports is its depth. -/
theorem transactionDepth_openAt :
    Act.Triple (OpenAt name depth explicit) (transactionDepth remote.surroundings name)
      (fun reported s => reported = depth ∧ OpenAt name depth explicit s) E := by
  refine (connection_openAt remote).bind fun _ => ?_
  exact Act.Triple.look fun _ hs => ⟨hs.depth_eq, hs⟩

theorem requireSavepoints_openAt (fault : NestingFault) :
    Act.Triple (OpenAt name depth explicit) (requireSavepoints remote.surroundings name fault)
      (fun _ => OpenAt name depth explicit) (OpenAt name depth explicit) := by
  unfold requireSavepoints dialect
  refine Act.Triple.bind (R := fun _ => OpenAt name depth explicit) ?_ fun dialect => ?_
  · exact (connection_openAt remote).bind fun _ => Act.Triple.pure fun _ hs => hs
  · exact Act.Triple.ite (fun _ => Act.Triple.pure fun _ hs => hs)
      fun _ => Act.Triple.throw fun _ hs => hs

theorem savepointCommand_openAt (handle : Handle) (verb : String) (n : Nat) :
    Act.Triple (OpenAt name depth explicit)
      (savepointCommand remote.surroundings handle verb n) (fun _ => OpenAt name depth explicit)
      (OpenAt name depth explicit) :=
  openAt_outside (Autobegin.command_explicit remote.wire _)

/-- Setting the depth sets nothing else. -/
theorem setDepth_openAt (after : Nat) :
    Act.Triple (OpenAt name depth explicit)
      (Session.update fun c => c.setDepth name after : Act (Session (Autobegin × σ)) Unit)
      (fun _ => OpenAt name after explicit) E :=
  Act.Triple.change fun _ hs => ⟨hs.isOpen, depth_setDepth _ _ _, hs.explicit_eq⟩

/-! ## What requests do to depth and explicit transaction -/

/-- A transaction that begins goes one deeper, and at depth zero an explicit one is opened. -/
theorem begin_stands :
    Act.Triple (Stands name depth explicit) (begin remote.surroundings name)
      (fun _ => Stands name (depth + 1) (depth = 0 || explicit)) (Stands name depth explicit) := by
  have hopen : ∀ s : Session (Autobegin × σ), OpenAt name depth explicit s →
      Stands name depth explicit s := fun _ hs => .inl hs
  unfold begin
  refine (connection_stands remote).bind fun opened => ?_
  refine (transactionDepth_openAt remote).bind fun reported => ?_
  refine Act.Triple.given fun hreported => ?_
  subst hreported
  refine Act.Triple.ite (fun hzero => ?_) fun hpositive => ?_
  · subst hzero
    refine ((openAt_outside (Autobegin.start_explicit remote.wire)).failing hopen).bind
      fun _ => ?_
    refine (setDepth_openAt 1).bind fun _ => ?_
    exact Act.Triple.pure fun _ hs => .inl hs
  · refine ((requireSavepoints_openAt remote .begin).failing hopen).bind fun _ => ?_
    refine ((savepointCommand_openAt remote _ _ _).failing hopen).bind fun _ => ?_
    refine (setDepth_openAt (reported + 1)).bind fun _ => ?_
    have hexplicit : (decide (reported = 0) || explicit) = explicit := by simp [hpositive]
    rw [hexplicit]
    exact Act.Triple.pure fun _ hs => .inl hs

variable {finish : Handle → Act (Autobegin × σ) Unit} (fault : NestingFault) (verb : String)

/-- At depth one the explicit transaction is gone, even if its end failed. -/
theorem ending_openAt_one
    (hfinish : ∀ handle, Act.Triple (fun _ => True) (finish handle)
      (fun _ => Autobegin.IsExplicit false) (Autobegin.IsExplicit false)) :
    Act.Triple (OpenAt name 1 explicit) (ending remote.surroundings name finish fault verb)
      (fun _ => Stands name 0 false) (Stands name 1 false) := by
  unfold ending
  refine (connection_openAt remote).bind fun opened => ?_
  refine (transactionDepth_openAt remote).bind fun reported => ?_
  refine Act.Triple.given fun hreported => ?_
  subst hreported
  refine Act.Triple.ite (fun h => absurd h Nat.one_ne_zero) fun _ => ?_
  refine Act.Triple.ite (fun _ => ?_) fun h => absurd rfl h
  have hend := (hfinish opened.handle).weaken
    (fun s (_ : Autobegin.IsExplicit explicit s) => trivial) (fun _ _ hs => hs) fun _ hs => hs
  refine ((openAt_outside hend).failing fun _ hs => .inl hs).bind fun _ => ?_
  refine (setDepth_openAt 0).bind fun _ => ?_
  exact Act.Triple.pure fun _ hs => .inl hs

/-- At any other depth nothing happens to the explicit transaction. -/
theorem ending_stands_of_ne_one (hdepth : depth ≠ 1) :
    Act.Triple (Stands name depth explicit) (ending remote.surroundings name finish fault verb)
      (fun _ => Stands name (depth - 1) explicit) (Stands name depth explicit) := by
  have hopen : ∀ s : Session (Autobegin × σ), OpenAt name depth explicit s →
      Stands name depth explicit s := fun _ hs => .inl hs
  unfold ending
  refine (connection_stands remote).bind fun opened => ?_
  refine (transactionDepth_openAt remote).bind fun reported => ?_
  refine Act.Triple.given fun hreported => ?_
  subst hreported
  refine Act.Triple.ite (fun hzero => ?_) fun _ => ?_
  · subst hzero
    exact Act.Triple.pure fun _ hs => .inl hs
  refine Act.Triple.ite (fun h => absurd h hdepth) fun _ => ?_
  refine ((requireSavepoints_openAt remote fault).failing hopen).bind fun _ => ?_
  refine ((savepointCommand_openAt remote _ _ _).failing hopen).bind fun _ => ?_
  refine (setDepth_openAt (reported - 1)).bind fun _ => ?_
  exact Act.Triple.pure fun _ hs => .inl hs

/-- A transaction that ends comes one up, and at depth one no explicit one is left however it
ends. -/
theorem ending_stands
    (hfinish : ∀ handle, Act.Triple (fun _ => True) (finish handle)
      (fun _ => Autobegin.IsExplicit false) (Autobegin.IsExplicit false)) :
    Act.Triple (Stands name depth explicit) (ending remote.surroundings name finish fault verb)
      (fun _ => Stands name (depth - 1) (depth ≠ 1 && explicit))
      (Stands name depth (depth ≠ 1 && explicit)) := by
  by_cases hone : depth = 1
  · subst hone
    rintro s (hs | ⟨-, h, -⟩)
    · exact ending_openAt_one remote fault verb hfinish s hs
    · exact absurd h Nat.one_ne_zero
  · have hexplicit : (decide (depth ≠ 1) && explicit) = explicit := by simp [hone]
    rw [hexplicit]
    exact ending_stands_of_ne_one remote fault verb hone

theorem commit_stands :
    Act.Triple (Stands name depth explicit) (commit remote.surroundings name)
      (fun _ => Stands name (depth - 1) (depth ≠ 1 && explicit))
      (Stands name depth (depth ≠ 1 && explicit)) :=
  ending_stands remote .commit _ fun _ => Autobegin.commit_explicit remote.wire

theorem rollback_stands :
    Act.Triple (Stands name depth explicit) (rollback remote.surroundings name)
      (fun _ => Stands name (depth - 1) (depth ≠ 1 && explicit))
      (Stands name depth (depth ≠ 1 && explicit)) :=
  ending_stands remote .rollback _ fun _ => Autobegin.rollback_explicit remote.wire

/-! ## Statements -/

variable (commit : Act σ Unit) (hcommit : explicit = false → commit = remote.wire.commit)

/-- The same session, in which the connection of a name stands at a depth. -/
def StandsAlike (name : String) (depth : Nat) (explicit : Bool)
    (s t : Session (Autobegin × σ)) : Prop :=
  t = s ∧ Stands name depth explicit s

/-- What is alike for the connection outside is alike in the session. -/
theorem stands_outside_sim {act other : Act (Autobegin × σ) α}
    (h : Act.Sim (Autobegin.Held explicit) act other) (hsame : explicit = false → other = act) :
    Act.Sim (StandsAlike name depth explicit) (onOutside act) (onOutside other) := by
  rintro s t ⟨rfl, hs | ⟨hs, rfl, rfl⟩⟩
  · obtain ⟨hresult, hstates⟩ := h t.outside t.outside ⟨rfl, hs.explicit_eq⟩
    have hstate : (onOutside other t).2 = (onOutside act t).2 := by
      rw [onOutside, onOutside, Act.within_apply, Act.within_apply, hstates.same]
    exact ⟨hresult, hstate, .inl ⟨hs.isOpen, hs.depth_eq, hstates.explicit_eq⟩⟩
  · rw [hsame rfl]
    exact ⟨rfl, rfl, .inr ⟨⟨hs.isClosed, hs.depth_eq⟩, rfl, rfl⟩⟩

/-- The cache of prepared statements has no part in where a connection stands. -/
theorem Stands.setCache (h : Stands name depth explicit s) (cache : StatementCache Prepared) :
    Stands name depth explicit
      ⟨s.connections.setCache name cache, s.outside⟩ := by
  rcases h with h | ⟨h, rfl, rfl⟩
  · refine .inl ⟨?_, ?_, h.explicit_eq⟩
    · rw [isOpen_setCache, h.isOpen]
    · rw [depth_setCache, h.depth_eq]
  · refine .inr ⟨⟨?_, ?_⟩, rfl, rfl⟩
    · rw [isOpen_setCache, h.isClosed]
    · rw [depth_setCache, h.depth_eq]

/-- Looking a statement up leaves the connection where it stands. -/
theorem get_stands (handle : Handle) (sql : String) :
    Act.Triple (Stands name depth explicit)
      (Act.within (fun s => (s.connections.cacheOf name, s.outside))
        (fun t s => ⟨s.connections.setCache name t.1, t.2⟩)
        (StatementCache.get (prepare remote.surroundings handle) sql))
      (fun _ => Stands name depth explicit) (Stands name depth explicit) := by
  refine Act.Triple.of_reached fun s hs => ?_
  rw [Act.within_apply, StatementCache.get_outside fun _ _ => rfl]
  exact hs.setCache _

include hcommit in
theorem connection_sim :
    Act.Sim (StandsAlike name depth explicit) (connection remote.surroundings name)
      (connection (remote.withCommit commit).surroundings name) := by
  rintro s t ⟨rfl, hs | ⟨hs, rfl, rfl⟩⟩
  · obtain ⟨opened, hopened⟩ := (isOpen_iff _ _).mp hs.isOpen
    rw [connection_of_lookup _ hopened, connection_of_lookup _ hopened]
    exact ⟨rfl, rfl, .inl hs⟩
  · obtain rfl := hcommit rfl
    have hkeeps : Act.Triple (Stands name 0 false) (connection remote.surroundings name)
        (fun _ => Stands name 0 false) (Stands name 0 false) :=
      (connection_stands remote).weaken (fun _ hs => hs) (fun _ _ hs => .inl hs) fun _ hs => hs
    exact hkeeps.sim t t ⟨rfl, .inr ⟨hs, rfl, rfl⟩⟩

include hcommit in
/-- Statements of a connection are alike whatever a commit would do. -/
theorem surroundings_sim (sql : String) (params : List Value) :
    remote.surroundings.Sim name sql params (StandsAlike name depth explicit)
      (remote.withCommit commit).surroundings where
  configured := by
    refine (Act.Triple.of_state fun s => ?_).sim
    rw [Executor.configuredName_some]
  execute values _ := by
    refine runBound_sim ?_ (fun _ => (Act.Triple.change fun _ hs => hs.setCache _).sim) ?_ values
    · exact (connection_sim remote commit hcommit).bind fun _ => (get_stands remote _ sql).sim
    intro p
    refine stands_outside_sim (Autobegin.execute_sim remote.wire commit hcommit p) ?_
    intro h
    rw [hcommit h]
    rfl
  has := rfl
  hook call := stands_outside_sim (Autobegin.onWire_sim _) fun _ => rfl
  sleep time := stands_outside_sim (Autobegin.onWire_sim _) fun _ => rfl

include hcommit in
/-- So are whole runs, with all their attempts. -/
theorem run_sim (executor : Executor) (sql : String) (params : List Value) (returnRows : Bool) :
    Act.Sim (StandsAlike name depth explicit)
      ((Request.run executor sql params returnRows).act remote.surroundings name)
      ((Request.run executor sql params returnRows).act
        (remote.withCommit commit).surroundings name) :=
  Request.run_sim (surroundings_sim remote commit hcommit sql params) executor returnRows

/-- Runs leave the connection where it stands. -/
theorem run_stands (executor : Executor) (sql : String) (params : List Value)
    (returnRows : Bool) :
    Act.Triple (Stands name depth explicit)
      ((Request.run executor sql params returnRows).act remote.surroundings name)
      (fun _ => Stands name depth explicit) (Stands name depth explicit) :=
  Act.Triple.of_sim
    (run_sim remote remote.wire.commit (fun _ => rfl) executor sql params returnRows)
    (fun _ hs => ⟨rfl, hs⟩) fun _ _ hst => hst.1 ▸ hst.2

end Session

/-! ## Requests one after another -/

/-- The request was an attempt to end the transaction at depth one. -/
def Report.endsTransaction (report : Report) : Bool :=
  match report.request with
  | .commit | .rollback => report.depth = 1
  | _ => false

/-- Whether the last attempt to end the transaction at depth one failed, given whether it had
failed before. -/
def Report.follow (failed : Bool) (report : Report) : Bool :=
  if report.endsTransaction then !report.succeeded else failed

/-- The last attempt to end the transaction at depth one failed. -/
def lastEndFailed (reports : List Report) : Bool := reports.foldl Report.follow false

namespace Session

open Request

variable {name : String} {s : Session (Autobegin × σ)} {failed : Bool} (remote : Remote σ)

/-- An explicit transaction is open exactly at positive depth, unless the last attempt to end it
failed. If it failed, the depth is positive. -/
structure Agrees (name : String) (failed : Bool) (s : Session (Autobegin × σ)) : Prop where
  /-- Where the connection stands. -/
  stands : Stands name (s.connections.depth name)
    (decide (1 ≤ s.connections.depth name) && !failed) s
  /-- A failed attempt leaves the depth. -/
  positive : failed = true → 1 ≤ s.connections.depth name

/-- Where a connection stands settles whether it agrees. -/
theorem Stands.agrees {depth : Nat} {explicit : Bool} (h : Stands name depth explicit s)
    (hexplicit : explicit = (decide (1 ≤ depth) && !failed))
    (hpositive : failed = true → 1 ≤ depth) :
    Agrees name failed s := by
  subst hexplicit
  refine ⟨?_, ?_⟩
  · rw [h.depth_eq]
    exact h
  · rw [h.depth_eq]
    exact hpositive

/-- A transaction that begins keeps the agreement, whether it succeeds or fails. -/
theorem Agrees.begin (h : Agrees name failed s) :
    Agrees name failed (perform remote.surroundings name s .begin) := by
  have hpositive := h.positive
  rcases performed .begin (begin_stands remote).ignoring h.stands with
    ⟨-, hs⟩ | ⟨-, hs⟩
  · refine hs.agrees ?_ fun _ => Nat.succ_pos _
    by_cases hzero : s.connections.depth name = 0
    · -- A failed attempt leaves a positive depth, so at depth zero none has failed.
      have hfailed : failed = false := by
        by_contra hfailed
        have := hpositive (by simpa using hfailed)
        omega
      simp [hzero, hfailed]
    · have hone : 1 ≤ s.connections.depth name := by omega
      simp [hzero, hone]
  · exact hs.agrees rfl hpositive

/-- A transaction that ends keeps the agreement. At depth one a failure is noted, and a success
makes up for an earlier one. -/
theorem Agrees.ending {request : Request} (h : Agrees name failed s)
    (htriple : Act.Triple
      (Stands name (s.connections.depth name)
        (decide (1 ≤ s.connections.depth name) && !failed))
      (request.act remote.surroundings name)
      (fun _ => Stands name (s.connections.depth name - 1)
        (s.connections.depth name ≠ 1 && (decide (1 ≤ s.connections.depth name) && !failed)))
      (Stands name (s.connections.depth name)
        (s.connections.depth name ≠ 1 && (decide (1 ≤ s.connections.depth name) && !failed))))
    (hends : (report remote.surroundings name s request).endsTransaction =
      decide (s.connections.depth name = 1)) :
    Agrees name (Report.follow failed (report remote.surroundings name s request))
      (perform remote.surroundings name s request) := by
  have hpositive := h.positive
  rw [Report.follow, hends]
  have hended := performed request htriple h.stands
  generalize s.connections.depth name = depth at hpositive hended ⊢
  rcases hended with ⟨hsucceeded, hs⟩ | ⟨hsucceeded, hs⟩
  · rw [hsucceeded]
    refine hs.agrees ?_ ?_
    · rcases depth with _ | _ | depth <;> simp
    · rcases depth with _ | _ | depth
      · simpa using hpositive
      · simp
      · simp
  · rw [hsucceeded]
    refine hs.agrees ?_ ?_
    · rcases depth with _ | _ | depth <;> simp
    · rcases depth with _ | _ | depth
      · simpa using hpositive
      · simp
      · simp

/-- A statement keeps the agreement. -/
theorem Agrees.run (h : Agrees name failed s) (executor : Executor) (sql : String)
    (params : List Value) (returnRows : Bool) :
    Agrees name failed
      (perform remote.surroundings name s (.run executor sql params returnRows)) := by
  rcases performed _ (run_stands remote executor sql params returnRows) h.stands with
    ⟨-, hs⟩ | ⟨-, hs⟩
  · exact hs.agrees rfl h.positive
  · exact hs.agrees rfl h.positive

/-- Every request keeps the agreement, with its own report taken into account. -/
theorem Agrees.step (h : Agrees name failed s) (request : Request) :
    Agrees name (Report.follow failed (report remote.surroundings name s request))
      (perform remote.surroundings name s request) := by
  cases request with
  | begin => exact h.begin remote
  | commit => exact h.ending remote (commit_stands remote).ignoring rfl
  | rollback => exact h.ending remote (rollback_stands remote).ignoring rfl
  | run executor sql params returnRows => exact h.run remote executor sql params returnRows

/-- So do requests one after another, by induction on them. -/
theorem Agrees.steps (h : Agrees name failed s) (requests : List Request) :
    Agrees name ((reports remote.surroundings name s requests).foldl Report.follow failed)
      (performAll remote.surroundings name s requests) := by
  induction requests generalizing s failed with
  | nil => exact h
  | cons request rest ih => exact ih (h.step remote request)

/-- With nothing opened yet, everything agrees. -/
theorem agrees_start (settings : List (String × ConnectionSettings)) (outside : Autobegin × σ) :
    Agrees name false ⟨{ settings := settings }, outside⟩ :=
  ⟨.inr ⟨⟨rfl, rfl⟩, rfl, rfl⟩, fun h => absurd h Bool.false_ne_true⟩

end Session

/-- Whatever a line does and whichever requests are made, starting with nothing opened: the
connection holds an explicit transaction exactly at positive depth unless the last attempt to end it
at depth one failed. If that failed, the depth is positive without one. And as long as a transaction
is held, no statement commits: it runs the same whatever a commit on the line would do. -/
theorem Session.depth_agrees_iff (remote : Remote σ) (name : String)
    (settings : List (String × ConnectionSettings)) (outside : Autobegin × σ)
    (requests : List Request) :
    let start : Session (Autobegin × σ) := ⟨{ settings := settings }, outside⟩
    let s := Request.performAll remote.surroundings name start requests
    let failed := lastEndFailed (Request.reports remote.surroundings name start requests)
    ((1 ≤ s.connections.depth name ↔ s.holdsTransaction name = true) ↔ failed = false) ∧
      (failed = true → 1 ≤ s.connections.depth name ∧ s.holdsTransaction name = false) ∧
      (1 ≤ s.connections.depth name → failed = false →
        ∀ (commit : Act σ Unit) (executor : Executor) (sql : String) (params : List Value)
          (returnRows : Bool),
          (Request.run executor sql params returnRows).act
              (remote.withCommit commit).surroundings name s =
            (Request.run executor sql params returnRows).act remote.surroundings name s) := by
  intro start s failed
  have hagrees : Agrees name failed s :=
    (agrees_start settings outside).steps remote requests
  have hholds := hagrees.stands.holdsTransaction_eq
  have hpositive := hagrees.positive
  have hstands := hagrees.stands
  clear_value failed
  generalize s.connections.depth name = depth at hholds hpositive hstands ⊢
  rw [hholds]
  refine ⟨?_, ?_, ?_⟩
  · cases failed with
    | false => simp
    | true => simp [hpositive rfl]
  · intro hfailed
    simp [hfailed, hpositive hfailed]
  · intro hdepth hfailed commit executor sql params returnRows
    have hexplicit : (decide (1 ≤ depth) && !failed) = true := by simp [hdepth, hfailed]
    rw [hexplicit] at hstands
    have hcommit : true = false → commit = remote.wire.commit := fun h => by cases h
    have hsim := run_sim remote commit hcommit executor sql params returnRows s s ⟨rfl, hstands⟩
    exact Prod.ext hsim.1 hsim.2.1

/-- A line on which every rollback fails and commits are counted. -/
def Remote.countingCommits : Remote Nat where
  wire :=
    { connect := pure ()
      start := pure ()
      execute := fun _ _ => pure ⟨none, 1, .null⟩
      commit := Act.change (· + 1)
      rollback := throw (.raised "OperationalError" "server has gone away")
      close := pure ()
      isFatal := fun _ => false
      mayLinger := false }
  reach _ _ := pure ()
  dialectName _ := "sqlite"
  hooks := ⟨fun _ => false, fun _ => pure .null⟩
  sleep _ := pure ()
  adapters := .standard

/-- After a rollback that failed there is a depth without a transaction, and a statement commits. -/
theorem Session.depth_without_transaction :
    let settings : ConnectionSettings := ⟨"sqlite://", "", "", "", 0, false, [], 8⟩
    let start : Session (Autobegin × Nat) := ⟨{ settings := [("main", settings)] }, ({}, 0)⟩
    let s := Request.performAll Remote.countingCommits.surroundings "main" start
      [.begin, .rollback]
    let executor : Executor := { connection := none }
    let t := Request.perform Remote.countingCommits.surroundings "main" s
      (.run executor "DELETE FROM users" [] false)
    s.connections.depth "main" = 1 ∧ s.holdsTransaction "main" = false ∧ s.outside.2 = 0 ∧
      t.connections.depth "main" = 1 ∧ t.outside.2 = 1 := by
  intro settings start s executor t
  decide +kernel

end BoundSql
