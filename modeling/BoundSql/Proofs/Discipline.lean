import BoundSql.Proofs.Wires

/-!
# One transaction for each statement

A connection that begins transactions by itself, on a line where beginning, committing and rolling
back succeed while statements may fail in any way. Outside an explicit transaction each statement is
followed by its own commit if it succeeded and by its own rollback if it failed, unless the line is
gone. Inside an explicit one no statement ends anything, and closing rolls back.
-/

namespace BoundSql

variable {σ α : Type}

/-! ## What is heard of a statement -/

/-- What was heard before a statement if its line had been gone. -/
def Reopened (events : List LineEvent) : Prop := events = [] ∨ events = [.reopened (.ok ())]

/-- What is heard of a statement outside an explicit transaction. -/
inductive Alone (isFatal : Error → Bool) : Except Error α → List LineEvent → Prop where
  /-- The line could not be opened. -/
  | unreached (e cause : Error) : Alone isFatal (.error e) [.reopened (.error cause)]
  /-- The statement could not be sent; what was not begun is rolled back. -/
  | unsent (e : Error) {opening : List LineEvent} (hopening : Reopened opening) :
      Alone isFatal (.error e) (opening ++ [.rolledBack (.ok ())])
  /-- It succeeded and was committed. -/
  | succeeded (a : α) {opening : List LineEvent} (hopening : Reopened opening) (sql : String)
      (values : List BoundValue) (result : StatementResult) :
      Alone isFatal (.ok a)
        (opening ++ [.began (.ok ()), .sent sql values (.ok result), .committed (.ok ())])
  /-- It failed and was rolled back. -/
  | failed (e : Error) {opening : List LineEvent} (hopening : Reopened opening) (sql : String)
      (values : List BoundValue) (hfatal : isFatal e = false) :
      Alone isFatal (.error e)
        (opening ++ [.began (.ok ()), .sent sql values (.error e), .rolledBack (.ok ())])
  /-- It ended the line, and with it its transaction. -/
  | cut (e : Error) {opening : List LineEvent} (hopening : Reopened opening) (sql : String)
      (values : List BoundValue) (hfatal : isFatal e = true) (ended : Except Error Unit) :
      Alone isFatal (.error e)
        (opening ++ [.began (.ok ()), .sent sql values (.error e), .closed ended])

/-- What is heard of a statement inside an explicit transaction: itself, if it could be sent. -/
inductive Inside (isFatal : Error → Bool) : Except Error α → List LineEvent → Prop where
  /-- It could not be sent. -/
  | unsent (e : Error) : Inside isFatal (.error e) []
  /-- It succeeded. -/
  | succeeded (a : α) (sql : String) (values : List BoundValue) (result : StatementResult) :
      Inside isFatal (.ok a) [.sent sql values (.ok result)]
  /-- It failed. -/
  | failed (e : Error) (sql : String) (values : List BoundValue) (hfatal : isFatal e = false) :
      Inside isFatal (.error e) [.sent sql values (.error e)]
  /-- It ended the line. -/
  | cut (e : Error) (sql : String) (values : List BoundValue) (hfatal : isFatal e = true)
      (ended : Except Error Unit) :
      Inside isFatal (.error e) [.sent sql values (.error e), .closed ended]

/-- Beginning, committing and rolling back succeed on the line. -/
structure Wire.Transacts (wire : Wire σ) : Prop where
  /-- Beginning does. -/
  start : ∀ s, (wire.start s).1 = .ok ()
  /-- Committing does. -/
  commit : ∀ s, (wire.commit s).1 = .ok ()
  /-- Rolling back does. -/
  rollback : ∀ s, (wire.rollback s).1 = .ok ()

namespace Autobegin

/-- How a connection stands: its explicit transaction, the transaction on its line, whether the line
is gone, and what was heard on it. -/
structure Standing (explicit : Bool) (inner : LineTransaction) (lost : Bool)
    (log : List LineEvent) (s : Autobegin × (σ × List LineEvent)) : Prop where
  /-- The explicit transaction. -/
  explicit_eq : s.1.explicit = explicit
  /-- The transaction on the line. -/
  inner_eq : s.1.inner = inner
  /-- Whether the line is gone. -/
  lost_eq : s.1.lost = lost
  /-- Statements begin transactions. -/
  stalled_eq : s.1.stalled = false
  /-- What was heard. -/
  log_eq : s.2.2 = log

variable {wire : Wire σ} {explicit lost : Bool} {inner : LineTransaction} {log : List LineEvent}

/-- What is done on the line is heard behind what was. -/
theorem onWire_standing (entry : Except Error α → LineEvent) (act : Act σ α) :
    Act.Ends (Standing explicit inner lost log) (onWire (act.entered entry))
      fun r => Standing explicit inner lost (log ++ [entry r]) := by
  rintro ⟨a, t, heard⟩ ⟨hexplicit, hinner, hlost, hstalled, rfl⟩
  exact ⟨hexplicit, hinner, hlost, hstalled, rfl⟩

/-- What cannot fail is heard to succeed. -/
theorem onWire_ok {entry : Except Error Unit → LineEvent} {act : Act σ Unit}
    (hact : ∀ s, (act s).1 = .ok ()) :
    Act.Triple (Standing explicit inner lost log) (onWire (act.entered entry))
      (fun _ => Standing explicit inner lost (log ++ [entry (.ok ())])) fun _ => False := by
  intro s hs
  have hheard := onWire_standing entry act s hs
  have hok : (onWire (act.entered entry) s).1 = .ok () := hact s.2.1
  rw [hok] at hheard ⊢
  exact hheard

section Changes

variable {E : Autobegin × (σ × List LineEvent) → Prop}

theorem setInner_standing (after : LineTransaction) :
    Act.Triple (Standing explicit inner lost log)
      (setInner after : Act (Autobegin × (σ × List LineEvent)) Unit)
      (fun _ => Standing explicit after lost log) E :=
  Act.Triple.change fun _ hs => ⟨hs.explicit_eq, rfl, hs.lost_eq, hs.stalled_eq, hs.log_eq⟩

theorem setExplicit_standing (after : Bool) :
    Act.Triple (Standing explicit inner lost log)
      (setExplicit after : Act (Autobegin × (σ × List LineEvent)) Unit)
      (fun _ => Standing after inner lost log) E :=
  Act.Triple.change fun _ hs => ⟨rfl, hs.inner_eq, hs.lost_eq, hs.stalled_eq, hs.log_eq⟩

theorem setLost_standing (after : Bool) :
    Act.Triple (Standing explicit inner lost log)
      (update fun a => { a with lost := after } : Act (Autobegin × (σ × List LineEvent)) Unit)
      (fun _ => Standing explicit inner after log) E :=
  Act.Triple.change fun _ hs => ⟨hs.explicit_eq, hs.inner_eq, rfl, hs.stalled_eq, hs.log_eq⟩

theorem view_inner : Act.Triple (Standing explicit inner lost log)
    (view Autobegin.inner : Act (Autobegin × (σ × List LineEvent)) LineTransaction)
    (fun seen s => seen = inner ∧ Standing explicit inner lost log s) E :=
  Act.Triple.look fun _ hs => ⟨hs.inner_eq, hs⟩

theorem view_lost : Act.Triple (Standing explicit inner lost log)
    (view Autobegin.lost : Act (Autobegin × (σ × List LineEvent)) Bool)
    (fun seen s => seen = lost ∧ Standing explicit inner lost log s) E :=
  Act.Triple.look fun _ hs => ⟨hs.lost_eq, hs⟩

theorem view_explicit : Act.Triple (Standing explicit inner lost log)
    (view Autobegin.explicit : Act (Autobegin × (σ × List LineEvent)) Bool)
    (fun seen s => seen = explicit ∧ Standing explicit inner lost log s) E :=
  Act.Triple.look fun _ hs => ⟨hs.explicit_eq, hs⟩

end Changes

/-- What a statement that uses the line leaves behind. -/
def Used (isFatal : Error → Bool) (explicit : Bool) (inner : LineTransaction) (lost : Bool)
    (log : List LineEvent) (entry : Except Error α → LineEvent) :
    Except Error α → Autobegin × (σ × List LineEvent) → Prop
  | .ok a, s => Standing explicit inner lost (log ++ [entry (.ok a)]) s
  | .error e, s =>
    isFatal e = false ∧ Standing explicit inner lost (log ++ [entry (.error e)]) s ∨
      isFatal e = true ∧ ∃ ended,
        Standing explicit inner true (log ++ [entry (.error e), .closed ended]) s

theorem useWire_used (entry : Except Error α → LineEvent) (act : Act σ α) :
    Act.Ends (Standing explicit inner lost log) (useWire wire.recording (act.entered entry))
      (Used wire.isFatal explicit inner lost log entry) := by
  unfold useWire
  refine Act.Ends.after (onWire_standing entry act).attempt fun ended => ?_
  cases ended with
  | ok a => exact Act.Ends.pure fun _ hs => hs
  | error e =>
    dsimp only
    split
    next hfatal =>
      refine Act.Ends.after (onWire_standing .closed wire.close).attempt fun ended => ?_
      refine Act.Ends.after (setLost_standing true) fun _ => ?_
      intro s hs
      rw [List.append_assoc] at hs
      exact .inr ⟨hfatal, ended, hs⟩
    next hharmless =>
      intro s hs
      exact .inl ⟨eq_false_of_ne_true hharmless, hs⟩

/-- Using the line for what cannot fail. -/
theorem useWire_ok {entry : Except Error Unit → LineEvent} {act : Act σ Unit}
    (hact : ∀ s, (act s).1 = .ok ()) :
    Act.Triple (Standing explicit inner lost log) (useWire wire.recording (act.entered entry))
      (fun _ => Standing explicit inner lost (log ++ [entry (.ok ())])) fun _ => False := by
  intro s hs
  have hused : Used wire.isFatal explicit inner lost log entry
      (useWire wire.recording (act.entered entry) s).1
      (useWire wire.recording (act.entered entry) s).2 := useWire_used entry act s hs
  have hok : (onWire (act.entered entry) s).1 = .ok () := hact s.2.1
  have hended : (useWire wire.recording (act.entered entry) s).1 = .ok () := by
    rw [useWire, Act.bind_apply, Act.attempt_apply, hok]
    rfl
  rw [hended] at hused ⊢
  exact hused

/-! ## What a connection does on the line -/

variable (hwire : wire.Transacts)

include hwire

/-- What is on the line is rolled back if there is a line. -/
theorem rollbackLine_standing :
    Act.Triple (Standing explicit inner lost log) (rollbackLine wire.recording)
      (fun _ => Standing explicit inner lost (log ++ if lost then [] else [.rolledBack (.ok ())]))
      fun _ => False := by
  unfold rollbackLine
  refine view_lost.bind fun seen => Act.Triple.given fun hseen => ?_
  subst hseen
  refine Act.Triple.ite (fun hlost => ?_) fun hlost => ?_
  · rw [if_pos hlost, List.append_nil]
    exact Act.Triple.pure fun _ hs => hs
  · rw [if_neg hlost]
    exact useWire_ok hwire.rollback

theorem rollbackInner_standing :
    Act.Triple (Standing explicit .active lost log) (rollbackInner wire.recording)
      (fun _ => Standing explicit .absent lost
        (log ++ if lost then [] else [.rolledBack (.ok ())]))
      fun _ => False := by
  unfold rollbackInner
  refine view_inner.bind fun seen => Act.Triple.given fun hseen => ?_
  subst hseen
  refine (rollbackLine_standing hwire).always (fun _ s hs => ?_) fun _ hfalse => hfalse
  exact ⟨hs.explicit_eq, rfl, hs.lost_eq, hs.stalled_eq, hs.log_eq⟩

theorem commitInner_standing :
    Act.Triple (Standing explicit .active false log) (commitInner wire.recording)
      (fun _ => Standing explicit .absent false (log ++ [.committed (.ok ())]))
      fun _ => False := by
  have hline : Act.Triple (Standing explicit .active false log) (commitLine wire.recording)
      (fun _ => Standing explicit .active false (log ++ [.committed (.ok ())]))
      fun _ => False := by
    unfold commitLine
    refine view_lost.bind fun seen => Act.Triple.given fun hseen => ?_
    subst hseen
    exact useWire_ok hwire.commit
  unfold commitInner
  refine view_inner.bind fun seen => Act.Triple.given fun hseen => ?_
  subst hseen
  refine hline.attempt.bind fun ended => ?_
  cases ended with
  | ok value => exact setInner_standing .absent
  | error e => exact fun _ hfalse => hfalse.elim

/-! ## Before a statement is sent -/

omit hwire in
/-- Opening the line again is heard with how it ended. -/
theorem reconnect_standing :
    Act.Ends (Standing explicit inner lost log) (reconnect wire.recording)
      (Act.Split (fun _ => Standing explicit inner false (log ++ [.reopened (.ok ())]))
        fun _ s => ∃ cause,
          Standing explicit inner lost (log ++ [.reopened (.error cause)]) s) := by
  unfold reconnect
  refine Act.Ends.after (onWire_standing .reopened wire.connect).attempt fun ended => ?_
  cases ended with
  | ok value => exact (setLost_standing false).split
  | error e =>
    cases e
    all_goals exact fun s hs => ⟨_, hs⟩

omit hwire in
/-- Outside a transaction the line is opened if it is gone. -/
theorem ensureLine_absent :
    Act.Ends (Standing explicit .absent lost log) (ensureLine wire.recording)
      (Act.Split
        (fun _ s => ∃ opening, Reopened opening ∧
          Standing explicit .absent false (log ++ opening) s)
        fun _ s => ∃ cause,
          Standing explicit .absent lost (log ++ [.reopened (.error cause)]) s) := by
  unfold ensureLine
  refine Act.Ends.after (R := fun a s => (a.lost = lost ∧ a.inner = .absent) ∧
    Standing explicit .absent lost log s) ?_ fun a => ?_
  · exact Act.Triple.look fun s hs => ⟨⟨hs.lost_eq, hs.inner_eq⟩, hs⟩
  rintro s ⟨⟨rfl, hinner⟩, hs⟩
  split
  next hlost =>
    have hended : Act.Split _ _ (reconnect wire.recording s).1 (reconnect wire.recording s).2 :=
      reconnect_standing s hs
    generalize reconnect wire.recording s = ended at hended
    obtain ⟨result, t⟩ := ended
    cases result with
    | ok value => exact ⟨_, .inr rfl, hended⟩
    | error e => exact hended
  next hlost =>
    have hthere : a.lost = false := eq_false_of_ne_true hlost
    rw [hthere] at hs
    exact ⟨[], .inl rfl, by rw [List.append_nil]; exact hs⟩

omit hwire in
/-- A line that is gone with a transaction on it is not opened again. -/
theorem ensureLine_active :
    Act.Ends (Standing explicit .active lost log) (ensureLine wire.recording)
      (Act.Split (fun _ s => lost = false ∧ Standing explicit .active false log s)
        fun _ => Standing explicit .active lost log) := by
  unfold ensureLine
  refine Act.Ends.after (R := fun a s => (a.lost = lost ∧ a.inner = .active) ∧
    Standing explicit .active lost log s) ?_ fun a => ?_
  · exact Act.Triple.look fun s hs => ⟨⟨hs.lost_eq, hs.inner_eq⟩, hs⟩
  rintro s ⟨⟨rfl, hinner⟩, hs⟩
  split
  next hlost =>
    have hactive : a.inner ≠ .absent := by
      rw [hinner]
      decide
    rw [if_neg hactive]
    exact hs
  next hlost =>
    have hthere : a.lost = false := eq_false_of_ne_true hlost
    rw [hthere] at hs
    exact ⟨hthere, hs⟩

/-- A transaction is begun where there is none. -/
theorem ensureBegun_absent :
    Act.Triple (Standing explicit .absent lost log) (ensureBegun wire.recording)
      (fun _ => Standing explicit .active lost (log ++ [.began (.ok ())])) fun _ => False := by
  unfold ensureBegun
  refine Act.Triple.bind (R := fun a s => (a.inner = .absent ∧ a.stalled = false) ∧
    Standing explicit .absent lost log s) ?_ fun a => ?_
  · exact Act.Triple.look fun s hs => ⟨⟨hs.inner_eq, hs.stalled_eq⟩, hs⟩
  refine Act.Triple.given fun ⟨hinner, hstalled⟩ => ?_
  rw [hinner, hstalled]
  exact (onWire_ok hwire.start).bind fun _ => setInner_standing .active

omit hwire in
/-- Where there is one, none is begun. -/
theorem ensureBegun_active :
    Act.Triple (Standing explicit .active lost log) (ensureBegun wire.recording)
      (fun _ => Standing explicit .active lost log) fun _ => False := by
  unfold ensureBegun
  refine Act.Triple.bind (R := fun a s => a.inner = .active ∧
    Standing explicit .active lost log s) ?_ fun a => ?_
  · exact Act.Triple.look fun s hs => ⟨hs.inner_eq, hs⟩
  refine Act.Triple.given fun hinner => ?_
  rw [hinner]
  exact Act.Triple.pure fun _ hs => hs

/-! ## Statements -/

omit hwire in
/-- What fails inside a transaction leaves it on the line. -/
theorem clearing_active {act : Act (Autobegin × (σ × List LineEvent)) α}
    {Q : Except Error α → Autobegin × (σ × List LineEvent) → Prop}
    {P : Autobegin × (σ × List LineEvent) → Prop} (h : Act.Ends P act Q)
    (hactive : ∀ r s, Q r s → s.1.inner = .active) :
    Act.Ends P (clearing wire.recording act) Q := by
  unfold clearing
  refine Act.Ends.after h.attempt fun ended => ?_
  cases ended with
  | ok a => exact Act.Ends.pure fun _ hs => hs
  | error e =>
    refine Act.Ends.after (R := fun seen s => seen = .active ∧ Q (.error e) s) ?_ fun seen => ?_
    · exact Act.Triple.look fun s hs => ⟨hactive _ s hs, hs⟩
    · rintro s ⟨rfl, hs⟩
      exact hs

omit hwire in
/-- What is sent inside a transaction leaves it on the line. -/
theorem clearing_used (sql : String) (values : List BoundValue) :
    Act.Ends (Standing explicit .active lost log)
      (clearing wire.recording (useWire wire.recording (wire.recording.execute sql values)))
      (Used wire.isFatal explicit .active lost log (.sent sql values)) := by
  refine clearing_active (useWire_used _ _) fun r s hs => ?_
  cases r with
  | ok result => exact hs.inner_eq
  | error e =>
    rcases hs with ⟨-, hs⟩ | ⟨-, ended, hs⟩
    · exact hs.inner_eq
    · exact hs.inner_eq

omit hwire in
/-- Inside a transaction a statement is sent in it. -/
theorem send_active (sql : String) (values : List BoundValue) :
    Act.Ends (Standing explicit .active false log) (send wire.recording sql values)
      (Used wire.isFatal explicit .active false log (.sent sql values)) :=
  Act.Ends.after ensureBegun_active fun _ => clearing_used sql values

/-- Outside one it is begun before. -/
theorem send_absent (sql : String) (values : List BoundValue) :
    Act.Ends (Standing explicit .absent false log) (send wire.recording sql values)
      (Used wire.isFatal explicit .active false (log ++ [.began (.ok ())])
        (.sent sql values)) :=
  Act.Ends.after (ensureBegun_absent hwire) fun _ => clearing_used sql values

/-- A statement: the line is made sure of, the statement is made, sent and received, and its own
transaction is ended. -/
def statement (wire : Wire σ) (made : Except Error BoundStatement)
    (finish : StatementResult → Act (Autobegin × σ) α) : Act (Autobegin × σ) α :=
  settle wire do
    ensureLine wire
    let statement ← clearing wire (Act.ofExcept made)
    let result ← send wire statement.sql statement.values
    finish result

omit hwire in
theorem run_eq_statement (wire : Wire σ) (pieces : List BindPiece)
    (bound : List (Nat × BoundValue)) :
    run wire pieces bound = statement wire (Binding.statement pieces bound) receive := rfl

omit hwire in
theorem command_eq_statement (wire : Wire σ) (sql : String) :
    command wire sql = statement wire (.ok ⟨sql, []⟩) fun _ => pure () := rfl

/-- Receiving what a statement answered leaves a connection where it stands. -/
def Receives (finish : StatementResult → Act (Autobegin × (σ × List LineEvent)) α) : Prop :=
  ∀ (result : StatementResult) (explicit : Bool) (inner : LineTransaction) (lost : Bool)
    (log : List LineEvent),
    Act.Triple (Standing explicit inner lost log) (finish result)
      (fun _ => Standing explicit inner lost log) fun _ => False

omit hwire in
theorem receives_receive :
    Receives (receive : StatementResult → Act (Autobegin × (σ × List LineEvent)) _) := by
  intro result explicit inner lost log
  unfold receive
  split
  · exact Act.Triple.pure fun _ hs => hs
  · refine Act.Triple.ite (fun _ => ?_) fun _ => Act.Triple.pure fun _ hs => hs
    refine Act.Triple.bind (R := fun _ => Standing explicit inner lost log) ?_
      fun _ => Act.Triple.pure fun _ hs => hs
    exact Act.Triple.change fun _ hs =>
      ⟨hs.explicit_eq, hs.inner_eq, hs.lost_eq, hs.stalled_eq, hs.log_eq⟩

variable {made : Except Error BoundStatement}
  {finish : StatementResult → Act (Autobegin × (σ × List LineEvent)) α}

/-- Inside a transaction, which stays, a statement was heard as it is heard there. -/
def HeardInside (isFatal : Error → Bool) (explicit : Bool) (log : List LineEvent)
    (r : Except Error α) (s : Autobegin × (σ × List LineEvent)) : Prop :=
  ∃ events lost, Inside isFatal r events ∧ Standing explicit .active lost (log ++ events) s

/-- Outside an explicit transaction, with none left behind, a statement was heard as it is heard
there. -/
def HeardAlone (isFatal : Error → Bool) (log : List LineEvent) (r : Except Error α)
    (s : Autobegin × (σ × List LineEvent)) : Prop :=
  ∃ events lost, Alone isFatal r events ∧ Standing false .absent lost (log ++ events) s

omit hwire in
/-- What a statement does inside a transaction before anything is settled. -/
theorem body_inside (hfinish : Receives finish) :
    Act.Ends (Standing explicit .active lost log)
      (do
        ensureLine wire.recording
        let statement ← clearing wire.recording (Act.ofExcept made)
        let result ← send wire.recording statement.sql statement.values
        finish result)
      (HeardInside wire.isFatal explicit log) := by
  have hunsent : ∀ (e : Error) (lost : Bool) (s : Autobegin × (σ × List LineEvent)),
      Standing explicit .active lost log s →
        HeardInside wire.isFatal explicit log (.error e : Except Error α) s := fun e lost s hs =>
    ⟨[], lost, .unsent e, by rw [List.append_nil]; exact hs⟩
  refine ensureLine_active.bind (fun _ => ?_) fun e s hs => hunsent e _ s hs
  refine Act.Ends.bind (R := fun _ => Standing explicit .active false log) ?_ (fun statement => ?_)
    fun e s hs => hunsent e _ s hs
  · refine clearing_active (fun s hs => hs.2) fun _ s hs => hs.inner_eq
  refine (send_active statement.sql statement.values).bind (fun result => ?_) ?_
  · have hreceived := (hfinish result explicit .active false
      (log ++ [.sent statement.sql statement.values (.ok result)]))
    intro s hs
    have hended := hreceived s hs
    generalize finish result s = ended at hended
    obtain ⟨value, t⟩ := ended
    cases value with
    | ok a => exact ⟨_, _, .succeeded a statement.sql statement.values result, hended⟩
    | error e => exact hended.elim
  · rintro e s (⟨hfatal, hs⟩ | ⟨hfatal, ended, hs⟩)
    · exact ⟨_, _, .failed e statement.sql statement.values hfatal, hs⟩
    · exact ⟨_, _, .cut e statement.sql statement.values hfatal ended, hs⟩

omit hwire in
/-- A statement inside an explicit transaction leaves it open, and nothing else is heard of it. -/
theorem statement_inside (hfinish : Receives finish) :
    Act.Ends (Standing true .active lost log) (statement wire.recording made finish)
      (HeardInside wire.isFatal true log) := by
  unfold statement settle
  refine Act.Ends.after (body_inside hfinish).attempt fun ended => ?_
  rintro s ⟨events, lost', hevents, hs⟩
  have himplicit : (view isImplicit : Act (Autobegin × (σ × List LineEvent)) Bool) s =
      (.ok false, s) := by
    rw [view, Act.look_apply, isImplicit, hs.explicit_eq]
    rfl
  cases ended with
  | ok a =>
    dsimp only
    rw [Act.bind_of_ok himplicit]
    exact ⟨events, lost', hevents, hs⟩
  | error e =>
    dsimp only
    rw [Act.bind_of_ok himplicit]
    exact ⟨events, lost', hevents, hs⟩

/-- What was heard of a statement outside an explicit transaction before its own transaction is
ended, with that transaction and whether the line is gone. -/
inductive Unsettled (isFatal : Error → Bool) :
    Except Error α → List LineEvent → LineTransaction → Bool → Prop where
  /-- The line could not be opened. -/
  | unreached (e cause : Error) (lost : Bool) :
      Unsettled isFatal (.error e) [.reopened (.error cause)] .absent lost
  /-- The statement could not be sent. -/
  | unsent (e : Error) {opening : List LineEvent} (hopening : Reopened opening) :
      Unsettled isFatal (.error e) (opening ++ [.rolledBack (.ok ())]) .absent false
  /-- It succeeded. -/
  | succeeded (a : α) {opening : List LineEvent} (hopening : Reopened opening) (sql : String)
      (values : List BoundValue) (result : StatementResult) :
      Unsettled isFatal (.ok a) (opening ++ [.began (.ok ()), .sent sql values (.ok result)])
        .active false
  /-- It failed. -/
  | failed (e : Error) {opening : List LineEvent} (hopening : Reopened opening) (sql : String)
      (values : List BoundValue) (hfatal : isFatal e = false) :
      Unsettled isFatal (.error e) (opening ++ [.began (.ok ()), .sent sql values (.error e)])
        .active false
  /-- It ended the line. -/
  | cut (e : Error) {opening : List LineEvent} (hopening : Reopened opening) (sql : String)
      (values : List BoundValue) (hfatal : isFatal e = true) (ended : Except Error Unit) :
      Unsettled isFatal (.error e)
        (opening ++ [.began (.ok ()), .sent sql values (.error e), .closed ended]) .active true

/-- What was heard of a statement before its own transaction is ended. -/
def HeardUnsettled (isFatal : Error → Bool) (explicit : Bool) (log : List LineEvent)
    (r : Except Error α) (s : Autobegin × (σ × List LineEvent)) : Prop :=
  ∃ events inner lost, Unsettled isFatal r events inner lost ∧
    Standing explicit inner lost (log ++ events) s

/-- What could not be made outside a transaction is rolled back all the same. -/
theorem clearing_absent (e : Error) :
    Act.Ends (Standing explicit .absent false log)
      (clearing wire.recording (Act.ofExcept (.error e : Except Error α)))
      fun r s => r = .error e ∧
        Standing explicit .absent false (log ++ [.rolledBack (.ok ())]) s := by
  have hroll : Act.Ends (Standing explicit .absent false log)
      (do
        rollbackLine wire.recording
        throw e : Act (Autobegin × (σ × List LineEvent)) α)
      fun r s => r = .error e ∧
        Standing explicit .absent false (log ++ [.rolledBack (.ok ())]) s :=
    Act.Ends.after (rollbackLine_standing hwire) fun _ _ ht => ⟨rfl, ht⟩
  intro s hs
  have hview : (view Autobegin.inner : Act (Autobegin × (σ × List LineEvent)) _) s =
      (.ok .absent, s) := by rw [view, Act.look_apply, hs.inner_eq]
  have hattempt : Act.attempt (Act.ofExcept (.error e : Except Error α)) s =
      (.ok (.error e), s) := rfl
  unfold clearing
  rw [Act.bind_of_ok hattempt]
  dsimp only
  rw [Act.bind_of_ok hview]
  exact hroll s hs

/-- What a statement does outside a transaction before anything is settled. -/
theorem body_alone (hfinish : Receives finish) :
    Act.Ends (Standing explicit .absent lost log)
      (do
        ensureLine wire.recording
        let statement ← clearing wire.recording (Act.ofExcept made)
        let result ← send wire.recording statement.sql statement.values
        finish result)
      (HeardUnsettled wire.isFatal explicit log) := by
  refine ensureLine_absent.bind (fun _ => ?_) ?_
  swap
  · rintro e s ⟨cause, hs⟩
    exact ⟨_, _, _, .unreached e cause lost, hs⟩
  rintro s ⟨opening, hopening, hs⟩
  cases made with
  | error e =>
    -- What could not be sent leaves nothing on the line.
    have hclear := clearing_absent (α := BoundStatement) hwire e s hs
    rw [Act.bind_apply]
    generalize clearing wire.recording (Act.ofExcept (.error e : Except Error BoundStatement)) s =
      ended at hclear
    obtain ⟨result, t⟩ := ended
    obtain ⟨rfl, ht⟩ := hclear
    rw [List.append_assoc] at ht
    exact ⟨_, _, _, .unsent e hopening, ht⟩
  | ok statement =>
    have hmade : clearing wire.recording (Act.ofExcept (.ok statement)) s =
        (.ok statement, s) := rfl
    rw [Act.bind_of_ok hmade]
    refine (send_absent hwire statement.sql statement.values).bind (fun result => ?_) ?_ s hs
    · intro s hs
      have hended := hfinish result explicit .active false _ s hs
      generalize finish result s = ended at hended
      obtain ⟨value, t⟩ := ended
      cases value with
      | ok a =>
        refine ⟨_, _, _, .succeeded a hopening statement.sql statement.values result, ?_⟩
        simpa [Act.Post] using hended
      | error e => exact hended.elim
    · rintro e s (⟨hfatal, hs⟩ | ⟨hfatal, ended, hs⟩)
      · refine ⟨_, _, _, .failed e hopening statement.sql statement.values hfatal, ?_⟩
        simpa using hs
      · refine ⟨_, _, _, .cut e hopening statement.sql statement.values hfatal ended, ?_⟩
        simpa using hs

/-- A statement outside an explicit transaction leaves none behind, and what is heard of it is its
own transaction. -/
theorem statement_alone (hfinish : Receives finish) :
    Act.Ends (Standing false .absent lost log) (statement wire.recording made finish)
      (HeardAlone wire.isFatal log) := by
  have himplicit : ∀ {inner lost log} {s : Autobegin × (σ × List LineEvent)},
      Standing false inner lost log s →
      (view isImplicit : Act (Autobegin × (σ × List LineEvent)) Bool) s =
        (.ok (decide (inner = .active)), s) := by
    intro inner lost log s hs
    rw [view, Act.look_apply, isImplicit, hs.explicit_eq, hs.inner_eq]
    rfl
  have hown : decide (LineTransaction.active = .active) = true := rfl
  unfold statement settle
  refine Act.Ends.after (body_alone hwire hfinish).attempt fun ended => ?_
  rintro s ⟨events, inner, lost', hevents, hs⟩
  cases hevents with
  | unreached e cause lost =>
    dsimp only
    rw [Act.bind_of_ok (himplicit hs)]
    exact ⟨_, _, .unreached e cause, hs⟩
  | unsent e hopening =>
    dsimp only
    rw [Act.bind_of_ok (himplicit hs)]
    exact ⟨_, _, .unsent e hopening, hs⟩
  | succeeded a hopening sql values result =>
    dsimp only
    rw [Act.bind_of_ok (himplicit hs), if_pos hown]
    refine Act.Ends.after (commitInner_standing hwire) (fun _ => ?_) s hs
    refine Act.Ends.pure fun t ht => ⟨_, false, .succeeded a hopening sql values result, ?_⟩
    simpa using ht
  | failed e hopening sql values hfatal =>
    dsimp only
    rw [Act.bind_of_ok (himplicit hs), if_pos hown]
    refine Act.Ends.after (rollbackInner_standing hwire) (fun _ => ?_) s hs
    intro t ht
    refine ⟨_, false, .failed e hopening sql values hfatal, ?_⟩
    simpa using ht
  | cut e hopening sql values hfatal ended =>
    dsimp only
    rw [Act.bind_of_ok (himplicit hs), if_pos hown]
    refine Act.Ends.after (rollbackInner_standing hwire) (fun _ => ?_) s hs
    intro t ht
    refine ⟨_, true, .cut e hopening sql values hfatal ended, ?_⟩
    simpa using ht

/-! ## Closing -/

/-- What is heard when a line is closed: unless it is gone already, what was begun is rolled back
and nothing is committed. -/
def closing (explicit lost : Bool) (ended : Except Error Unit) : List LineEvent :=
  if lost then []
  else (if explicit then [.rolledBack (.ok ())] else []) ++ [.rolledBack (.ok ()), .closed ended]

/-- An explicit transaction is rolled back before anything else is done. -/
theorem releasing_standing {act : Act (Autobegin × (σ × List LineEvent)) Unit}
    {events : List LineEvent}
    (hact : ∀ log, Act.Triple (Standing false .absent lost log) act
      (fun _ => Standing false .absent lost (log ++ events)) fun _ => False) :
    Act.Triple (Standing explicit (if explicit then .active else .absent) lost log)
      (do
        if ← view Autobegin.explicit then
          rollbackInner wire.recording
          setExplicit false
        act)
      (fun _ => Standing false .absent lost
        (log ++ ((if explicit && !lost then [.rolledBack (.ok ())] else []) ++ events)))
      fun _ => False := by
  refine view_explicit.bind fun seen => Act.Triple.given fun hseen => ?_
  subst hseen
  cases seen with
  | false => exact hact log
  | true =>
    refine (rollbackInner_standing hwire).bind fun _ => ?_
    refine (setExplicit_standing false).bind fun _ => ?_
    refine (hact _).weaken (fun _ hs => hs) (fun _ s hs => ?_) fun _ hfalse => hfalse
    cases lost with
    | false => simpa using hs
    | true => simpa using hs

/-- Before a line is closed it is left without a transaction. -/
theorem release_standing :
    Act.Triple (Standing explicit (if explicit then .active else .absent) lost log)
      (release wire.recording)
      (fun _ => Standing false .absent lost
        (log ++ ((if explicit && !lost then [.rolledBack (.ok ())] else []) ++
          if lost then [] else [.rolledBack (.ok ())])))
      fun _ => False := by
  refine releasing_standing hwire fun log => ?_
  refine view_inner.bind fun seen => Act.Triple.given fun hseen => ?_
  subst hseen
  refine (rollbackLine_standing hwire).attempt.bind fun ended => ?_
  cases ended with
  | ok value => exact Act.Triple.pure fun _ hs => hs
  | error e => exact fun _ hfalse => hfalse.elim

/-- Closing a line rolls back what was begun on it. -/
theorem close_standing :
    Act.Triple (Standing explicit (if explicit then .active else .absent) lost log)
      (close wire.recording)
      (fun _ s => ∃ ended, Standing false .absent lost (log ++ closing explicit lost ended) s)
      fun _ => False := by
  unfold close
  refine (release_standing hwire).attempt.bind fun released => ?_
  cases released with
  | error e => exact fun _ hfalse => hfalse.elim
  | ok value =>
    refine view_lost.bind fun seen => Act.Triple.given fun hseen => ?_
    subst hseen
    cases seen with
    | true =>
      refine Act.Triple.pure fun s hs => ⟨.ok (), ?_⟩
      simpa [closing] using hs
    | false =>
      refine (onWire_standing .closed wire.close).attempt.bind fun ended => ?_
      refine Act.Triple.pure fun s hs => ⟨ended, ?_⟩
      simpa [closing] using hs

end Autobegin

end BoundSql
