import BoundSql.Proofs.Triple
import BoundSql.Session.Autobegin

/-!
# The key that a connection keeps

A connection that begins transactions by itself keeps the key that was answered last, and only the
answer to a statement changes it. So a property of that key and of what is outside is kept by all
that a connection does as long as the line keeps it outside. This is said once for every such
property; what a statement with results does to the key is said by what the line answers.
-/

namespace BoundSql

variable {τ α : Type}

/-- The key that an answer brings: that of an answer without rows, unless it has none. -/
def StatementResult.key? (result : StatementResult) : Option Value :=
  match result.rows with
  | some _ => none
  | none => if result.insertId = .null then none else some result.insertId

namespace StatementResult

variable {result : StatementResult}

theorem key?_of_rows {rows : List Row} (h : result.rows = some rows) : result.key? = none := by
  rw [key?, h]

theorem key?_of_null (h : result.rows = none) (hid : result.insertId = .null) :
    result.key? = none := by
  rw [key?, h]
  exact if_pos hid

theorem key?_of_ne_null (h : result.rows = none) (hid : result.insertId ≠ .null) :
    result.key? = some result.insertId := by
  rw [key?, h]
  exact if_neg hid

end StatementResult

/-- Whatever the line does except running statements keeps to what holds outside. -/
structure Wire.Keeps (wire : Wire τ) (p : τ → Prop) : Prop where
  /-- Opening it again does. -/
  connect : Act.Triple p wire.connect (fun _ => p) p
  /-- Beginning a transaction does. -/
  start : Act.Triple p wire.start (fun _ => p) p
  /-- Committing does. -/
  commit : Act.Triple p wire.commit (fun _ => p) p
  /-- Rolling back does. -/
  rollback : Act.Triple p wire.rollback (fun _ => p) p
  /-- Closing does. -/
  close : Act.Triple p wire.close (fun _ => p) p

namespace Autobegin

/-- A property of the key and of what is outside. -/
def At (p : Value → τ → Prop) (s : Autobegin × τ) : Prop := p s.1.insertId s.2

variable {p q : Value → τ → Prop} {Q : α → Value → τ → Prop} {wire : Wire τ}

/-- What happens on the line happens under the key that is kept. -/
theorem onWire_at {act : Act τ α} (h : ∀ v, Act.Triple (p v) act (fun a => Q a v) (q v)) :
    Act.Triple (At p) (onWire act) (fun a => At (Q a)) (At q) :=
  fun s hs => (h s.1.insertId s.2 hs).imp (fun _ ht => ht) fun ht => ht

/-- A look at the connection leaves it. -/
theorem view_at (f : Autobegin → α) : Act.Triple (At p) (view f) (fun _ => At p) (At q) :=
  Act.Triple.look fun _ hs => hs

/-- A change of anything but the key is none. -/
theorem update_at {f : Autobegin → Autobegin} (hf : ∀ a, (f a).insertId = a.insertId) :
    Act.Triple (At p) (update f : Act (Autobegin × τ) Unit) (fun _ => At p) (At q) := by
  refine Act.Triple.change fun s hs => ?_
  have hkey : (f s.1).insertId = s.1.insertId := hf s.1
  rw [At, hkey]
  exact hs

theorem setInner_at (inner : LineTransaction) :
    Act.Triple (At p) (setInner inner : Act (Autobegin × τ) Unit) (fun _ => At p) (At q) :=
  update_at fun _ => rfl

variable (h : ∀ v, wire.Keeps (p v))
include h

/-! ## Steps -/

theorem useWire_at {act : Act τ α} (hact : ∀ v, Act.Triple (p v) act (fun a => Q a v) (p v)) :
    Act.Triple (At p) (useWire wire act) (fun a => At (Q a)) (At p) := by
  unfold useWire
  refine Act.Triple.bind (E := At p) (onWire_at hact).attempt fun ended => ?_
  cases ended with
  | ok a => exact Act.Triple.pure fun _ hs => hs
  | error e =>
    have hthrow : Act.Triple (At p) (throw e : Act (Autobegin × τ) α) (fun a => At (Q a)) (At p) :=
      Act.Triple.throw fun _ hs => hs
    refine Act.Triple.ite (fun _ => ?_) fun _ => hthrow
    refine (onWire_at fun v => (h v).close).attempt.bind fun ended => ?_
    have hclosed : Act.Triple (At p) (update fun a => { a with lost := true }) (fun _ => At p)
        (At p) := update_at fun _ => rfl
    cases ended with
    | ok _ => exact hclosed.bind fun _ => hthrow
    | error _ => exact hclosed.bind fun _ => hthrow

theorem reconnect_at : Act.Triple (At p) (reconnect wire) (fun _ => At p) (At p) := by
  unfold reconnect
  refine Act.Triple.bind (E := At p) (onWire_at fun v => (h v).connect).attempt fun ended => ?_
  split
  · exact update_at fun _ => rfl
  · exact Act.Triple.throw fun _ hs => hs
  · exact Act.Triple.throw fun _ hs => hs

theorem ensureLine_at : Act.Triple (At p) (ensureLine wire) (fun _ => At p) (At p) := by
  unfold ensureLine
  refine (view_at id).bind fun a => ?_
  refine Act.Triple.ite (fun _ => ?_) fun _ => Act.Triple.pure fun _ hs => hs
  exact Act.Triple.ite (fun _ => reconnect_at h) fun _ => Act.Triple.throw fun _ hs => hs

theorem ensureBegun_at : Act.Triple (At p) (ensureBegun wire) (fun _ => At p) (At p) := by
  unfold ensureBegun
  refine (view_at id).bind fun a => ?_
  split
  · exact Act.Triple.pure fun _ hs => hs
  · exact Act.Triple.throw fun _ hs => hs
  · refine Act.Triple.ite (fun _ => ?_) fun _ => Act.Triple.pure fun _ hs => hs
    exact (onWire_at fun v => (h v).start).bind fun _ => setInner_at .active

theorem rollbackLine_at : Act.Triple (At p) (rollbackLine wire) (fun _ => At p) (At p) := by
  unfold rollbackLine
  refine (view_at lost).bind fun gone => ?_
  refine Act.Triple.ite (fun _ => Act.Triple.pure fun _ hs => hs) fun _ => ?_
  exact useWire_at h fun v => (h v).rollback

theorem rollbackInner_at : Act.Triple (At p) (rollbackInner wire) (fun _ => At p) (At p) := by
  unfold rollbackInner
  refine (view_at inner).bind fun inner => ?_
  cases inner with
  | absent => exact Act.Triple.pure fun _ hs => hs
  | broken => exact setInner_at .absent
  | active => exact (rollbackLine_at h).always (fun _ _ hs => hs) fun _ hs => hs

theorem commitInner_at : Act.Triple (At p) (commitInner wire) (fun _ => At p) (At p) := by
  have hline : Act.Triple (At p) (commitLine wire) (fun _ => At p) (At p) := by
    unfold commitLine
    refine (view_at lost).bind fun gone => ?_
    refine Act.Triple.ite (fun _ => Act.Triple.throw fun _ hs => hs) fun _ => ?_
    exact useWire_at h fun v => (h v).commit
  unfold commitInner
  refine (view_at inner).bind fun inner => ?_
  cases inner with
  | absent => exact Act.Triple.pure fun _ hs => hs
  | broken => exact Act.Triple.throw fun _ hs => hs
  | active =>
    refine hline.attempt.bind fun ended => ?_
    cases ended with
    | ok _ => exact setInner_at .absent
    | error e => exact (setInner_at .broken).bind fun _ => Act.Triple.throw fun _ hs => hs

theorem clearing_at {act : Act (Autobegin × τ) α}
    (hact : Act.Triple (At p) act (fun a => At (Q a)) (At p)) :
    Act.Triple (At p) (clearing wire act) (fun a => At (Q a)) (At p) := by
  unfold clearing
  refine hact.attempt.bind fun ended => ?_
  cases ended with
  | ok a => exact Act.Triple.pure fun _ hs => hs
  | error e =>
    refine (view_at inner).bind fun inner => ?_
    have hthrow : Act.Triple (At p) (throw e : Act (Autobegin × τ) α) (fun a => At (Q a)) (At p) :=
      Act.Triple.throw fun _ hs => hs
    exact Act.Triple.ite (fun _ => (rollbackLine_at h).bind fun _ => hthrow) fun _ => hthrow

/-- What a statement has come to outlasts the end of its transaction. If that fails, no more is
known than what is kept throughout. -/
theorem settle_at (hq : ∀ v, wire.Keeps (q v)) (hqp : ∀ v t, q v t → p v t)
    {act : Act (Autobegin × τ) α} (hact : Act.Triple (At p) act (fun _ => At q) (At p)) :
    Act.Triple (At p) (settle wire act) (fun _ => At q) (At p) := by
  unfold settle
  refine hact.attempt.bind fun ended => ?_
  cases ended with
  | ok a =>
    refine (view_at isImplicit).bind fun implicit => ?_
    refine Act.Triple.ite (fun _ => ?_) fun _ => Act.Triple.pure fun _ hs => hs
    refine ((commitInner_at hq).failing fun s hs => hqp s.1.insertId s.2 hs).bind fun _ => ?_
    exact Act.Triple.pure fun _ hs => hs
  | error e =>
    refine (view_at isImplicit).bind fun implicit => ?_
    have hthrow : Act.Triple (At p) (throw e : Act (Autobegin × τ) α) (fun _ => At q) (At p) :=
      Act.Triple.throw fun _ hs => hs
    exact Act.Triple.ite (fun _ => (rollbackInner_at h).bind fun _ => hthrow) fun _ => hthrow

/-! ## Statements -/

theorem send_at {R : StatementResult → Value → τ → Prop} {sql : String} {values : List BoundValue}
    (hexecute : ∀ v, Act.Triple (p v) (wire.execute sql values) (fun r => R r v) (p v)) :
    Act.Triple (At p) (send wire sql values) (fun r => At (R r)) (At p) :=
  (ensureBegun_at h).bind fun _ => clearing_at h (useWire_at h hexecute)

omit h in
/-- The key of an answer takes the place of the one that was kept, if the answer brings one. -/
theorem receive_at {R : StatementResult → Value → τ → Prop} (result : StatementResult)
    (hreceive : ∀ v t, R result v t → q (result.key?.getD v) t) :
    Act.Triple (At (R result)) (receive result : Act (Autobegin × τ) StatementResult)
      (fun _ => At q) (At p) := by
  unfold receive
  cases hrows : result.rows with
  | some rows =>
    rw [StatementResult.key?_of_rows hrows] at hreceive
    exact Act.Triple.pure fun s hs => hreceive s.1.insertId s.2 hs
  | none =>
    refine Act.Triple.ite (fun hid => ?_) fun hid => ?_
    · rw [StatementResult.key?_of_ne_null hrows hid] at hreceive
      refine Act.Triple.bind (R := fun _ => At q) ?_ fun _ => Act.Triple.pure fun _ hs => hs
      exact Act.Triple.change fun s hs => hreceive s.1.insertId s.2 hs
    · rw [StatementResult.key?_of_null hrows (not_not.mp hid)] at hreceive
      exact Act.Triple.pure fun s hs => hreceive s.1.insertId s.2 hs

/-- A statement with results does to the key what the line has answered. -/
theorem execute_at (hq : ∀ v, wire.Keeps (q v)) (hqp : ∀ v t, q v t → p v t)
    {R : StatementResult → Value → τ → Prop}
    (hexecute : ∀ sql values v,
      Act.Triple (p v) (wire.execute sql values) (fun r => R r v) (p v))
    (hreceive : ∀ r v t, R r v t → q (r.key?.getD v) t) (statement : Prepared) :
    Act.Triple (At p) (execute wire statement) (fun _ => At q) (At p) := by
  refine Act.Triple.ofExcept.bind fun pieces => ?_
  refine settle_at h hq hqp ?_
  refine (ensureLine_at h).bind fun _ => ?_
  refine (clearing_at (Q := fun _ => p) h Act.Triple.ofExcept).bind fun bound => ?_
  refine (send_at h (hexecute bound.sql bound.values)).bind fun result => ?_
  exact receive_at result (hreceive result)

/-- A statement without results keeps what the line keeps when it runs it. -/
theorem command_at (sql : String)
    (hexecute : ∀ v, Act.Triple (p v) (wire.execute sql []) (fun _ => p v) (p v)) :
    Act.Triple (At p) (command wire sql) (fun _ => At p) (At p) := by
  refine settle_at h h (fun _ _ hv => hv) ?_
  refine (ensureLine_at h).bind fun _ => ?_
  exact (send_at (R := fun _ => p) h hexecute).bind fun _ => Act.Triple.pure fun _ hs => hs

/-! ## Transactions and closing -/

theorem start_at : Act.Triple (At p) (start wire) (fun _ => At p) (At p) := by
  have hprepare : Act.Triple (At p) (prepareLine wire) (fun _ => At p) (At p) := by
    unfold prepareLine
    refine (view_at lost).bind fun gone => ?_
    refine Act.Triple.ite (fun _ => ?_) fun _ => Act.Triple.pure fun _ hs => hs
    refine (reconnect_at h).attempt.bind fun ended => ?_
    cases ended with
    | ok _ => exact Act.Triple.pure fun _ hs => hs
    | error e =>
      refine Act.Triple.bind (R := fun _ => At p) (update_at fun _ => rfl) fun _ => ?_
      exact Act.Triple.throw fun _ hs => hs
  have hopen : Act.Triple (At p)
      (do
        prepareLine wire
        onWire wire.start
        update fun a => { a with inner := .active, stalled := false, explicit := true })
      (fun _ => At p) (At p) := by
    refine hprepare.bind fun _ => ?_
    exact (onWire_at fun v => (h v).start).bind fun _ => update_at fun _ => rfl
  have hbegin : Act.Triple (At p)
      (do
        if (← view inner) = .broken then throw .alreadyBegun
        prepareLine wire
        onWire wire.start
        update fun a => { a with inner := .active, stalled := false, explicit := true })
      (fun _ => At p) (At p) := by
    refine (view_at inner).bind fun before => ?_
    exact Act.Triple.ite (fun _ => Act.Triple.throw fun _ hs => hs) fun _ => hopen
  refine (view_at inner).bind fun before => ?_
  exact Act.Triple.ite (fun _ => (commitInner_at h).bind fun _ => hbegin) fun _ => hbegin

theorem commit_at : Act.Triple (At p) (Autobegin.commit wire) (fun _ => At p) (At p) := by
  refine (view_at explicit).bind fun held => ?_
  refine Act.Triple.ite (fun _ => ?_) fun _ => Act.Triple.pure fun _ hs => hs
  refine Act.Triple.bind (R := fun _ => At p) (update_at fun _ => rfl) fun _ => ?_
  exact commitInner_at h

theorem rollback_at : Act.Triple (At p) (Autobegin.rollback wire) (fun _ => At p) (At p) := by
  refine (view_at explicit).bind fun held => ?_
  refine Act.Triple.ite (fun _ => ?_) fun _ => Act.Triple.pure fun _ hs => hs
  refine Act.Triple.bind (R := fun _ => At p) (update_at fun _ => rfl) fun _ => ?_
  exact rollbackInner_at h

theorem release_at : Act.Triple (At p) (release wire) (fun _ => At p) (At p) := by
  have habsent : Act.Triple (At p)
      (do
        let _ ← Act.attempt (rollbackLine wire)
        return ())
      (fun _ => At p) (At p) := by
    refine (rollbackLine_at h).attempt.bind fun ended => ?_
    cases ended with
    | ok _ => exact Act.Triple.pure fun _ hs => hs
    | error _ => exact Act.Triple.pure fun _ hs => hs
  refine (view_at explicit).bind fun held => ?_
  refine Act.Triple.ite (fun _ => ?_) fun _ => ?_
  · refine (rollbackInner_at h).bind fun _ => ?_
    refine Act.Triple.bind (R := fun _ => At p) (update_at fun _ => rfl) fun _ => ?_
    refine (view_at inner).bind fun inner => ?_
    cases inner with
    | absent => exact habsent
    | active | broken => exact rollbackInner_at h
  · refine (view_at inner).bind fun inner => ?_
    cases inner with
    | absent => exact habsent
    | active | broken => exact rollbackInner_at h

theorem close_at : Act.Triple (At p) (Autobegin.close wire) (fun _ => At p) (At p) := by
  have hend : ∀ released : Except Error Unit, Act.Triple (At p)
      (do
        if !(← view lost) && (released.isOk || !wire.mayLinger) then
          let _ ← Act.attempt (onWire wire.close)
        Act.ofExcept released)
      (fun _ => At p) (At p) := by
    intro released
    refine (view_at lost).bind fun gone => ?_
    refine Act.Triple.ite (fun _ => ?_) fun _ => Act.Triple.ofExcept
    refine (onWire_at fun v => (h v).close).attempt.bind fun ended => ?_
    cases ended with
    | ok _ => exact Act.Triple.ofExcept
    | error _ => exact Act.Triple.ofExcept
  refine (release_at h).attempt.bind fun released => ?_
  cases released with
  | ok _ => exact hend _
  | error _ => exact hend _

end Autobegin

end BoundSql
