import BoundSql.Proofs.Discipline

/-!
# Calls of a connection one after another

Where beginning, committing and rolling back succeed, an explicit transaction is on the line from
the call that begins it to the one that ends it, and outside one there is none between two calls.
So each statement finds the line as its discipline asks for, whatever was called before.
-/

namespace BoundSql

variable {σ τ α : Type}

namespace Autobegin

variable {wire : Wire σ} {explicit lost : Bool} {inner : LineTransaction} {log : List LineEvent}

/-! ## Beginning and ending an explicit transaction -/

/-- Without a transaction the line is opened if it is gone, or that fails. -/
theorem prepareLine_standing :
    Act.Triple (Standing explicit .absent lost log) (prepareLine wire.recording)
      (fun _ s => ∃ opening, Reopened opening ∧
        Standing explicit .absent false (log ++ opening) s) fun _ => True := by
  unfold prepareLine
  refine view_lost.bind fun seen => Act.Triple.given fun hseen => ?_
  subst hseen
  refine Act.Triple.ite (fun _ => ?_) fun hthere => ?_
  · refine Act.Triple.bind reconnect_standing.attempt fun ended => ?_
    cases ended with
    | ok value => exact Act.Triple.pure fun _ hs => ⟨_, .inr rfl, hs⟩
    | error e =>
      refine Act.Triple.bind (Act.Triple.any _) fun _ => ?_
      exact Act.Triple.throw fun _ _ => trivial
  · rw [eq_false_of_ne_true hthere]
    exact Act.Triple.pure fun _ hs => ⟨[], .inl rfl, by rw [List.append_nil]; exact hs⟩

variable (hwire : wire.Transacts)

include hwire

/-- A transaction is committed unless its line is gone. -/
theorem commitInner_attempted :
    Act.Triple (Standing explicit .active lost log) (commitInner wire.recording)
      (fun _ s => Standing explicit .absent false (log ++ [.committed (.ok ())]) s)
      fun _ => True := by
  cases lost with
  | false => exact (commitInner_standing hwire).failing fun _ _ => trivial
  | true =>
    have hline : Act.Triple (Standing explicit .active true log) (commitLine wire.recording)
        (fun _ _ => False) fun _ => True := by
      unfold commitLine
      refine view_lost.bind fun seen => Act.Triple.given fun hseen => ?_
      subst hseen
      exact Act.Triple.throw fun _ _ => trivial
    unfold commitInner
    refine view_inner.bind fun seen => Act.Triple.given fun hseen => ?_
    subst hseen
    refine hline.attempt.bind fun ended => ?_
    cases ended with
    | ok value => exact fun _ hfalse => hfalse.elim
    | error e =>
      refine Act.Triple.bind (Act.Triple.any _) fun _ => ?_
      exact Act.Triple.throw fun _ _ => trivial

/-- Where beginning an explicit transaction succeeds, one that is there was committed before. -/
theorem start_standing :
    Act.Triple (Standing explicit (if explicit then .active else .absent) lost log)
      (start wire.recording)
      (fun _ s => ∃ opening, Reopened opening ∧ Standing true .active false
        (log ++ ((if explicit then [.committed (.ok ())] else []) ++
          (opening ++ [.began (.ok ())]))) s)
      fun _ => True := by
  have hopen : ∀ lost log, Act.Triple (Standing explicit .absent lost log)
      (do
        prepareLine wire.recording
        onWire wire.recording.start
        update fun a => { a with inner := .active, stalled := false, explicit := true })
      (fun _ s => ∃ opening, Reopened opening ∧
        Standing true .active false (log ++ (opening ++ [.began (.ok ())])) s)
      fun _ => True := by
    intro lost log
    refine prepareLine_standing.bind fun _ => ?_
    rintro s ⟨opening, hopening, hs⟩
    refine Act.Triple.bind ((onWire_ok hwire.start).failing fun _ hfalse => hfalse.elim)
      (fun _ => ?_) s hs
    refine Act.Triple.change fun t ht => ⟨opening, hopening, rfl, rfl, ht.lost_eq, rfl, ?_⟩
    rw [ht.log_eq, List.append_assoc]
  have hbegin : ∀ lost log, Act.Triple (Standing explicit .absent lost log)
      (do
        if (← view Autobegin.inner) = .broken then throw .alreadyBegun
        prepareLine wire.recording
        onWire wire.recording.start
        update fun a => { a with inner := .active, stalled := false, explicit := true })
      (fun _ s => ∃ opening, Reopened opening ∧
        Standing true .active false (log ++ (opening ++ [.began (.ok ())])) s)
      fun _ => True := by
    intro lost log
    refine view_inner.bind fun seen => Act.Triple.given fun _ => ?_
    exact Act.Triple.ite (fun _ => Act.Triple.throw fun _ _ => trivial) fun _ => hopen lost log
  unfold start
  cases explicit with
  | false =>
    refine view_inner.bind fun seen => Act.Triple.given fun hseen => ?_
    subst hseen
    exact hbegin lost log
  | true =>
    refine view_inner.bind fun seen => Act.Triple.given fun hseen => ?_
    subst hseen
    refine (commitInner_attempted hwire).bind fun _ => ?_
    refine (hbegin _ _).weaken (fun _ hs => hs) ?_ fun _ _ => trivial
    rintro _ s ⟨opening, hopening, hs⟩
    rw [List.append_assoc] at hs
    exact ⟨opening, hopening, hs⟩

omit hwire in
/-- An explicit transaction is ended if there is one. -/
theorem ending_standing {finish : Act (Autobegin × (σ × List LineEvent)) Unit}
    {events : List LineEvent}
    (hfinish : Act.Triple (Standing false .active lost log) finish
      (fun _ s => ∃ lost, Standing false .absent lost (log ++ events) s) fun _ => True) :
    Act.Triple (Standing explicit (if explicit then .active else .absent) lost log)
      (do
        if ← view Autobegin.explicit then
          setExplicit false
          finish)
      (fun _ s => ∃ lost, Standing false .absent lost (log ++ if explicit then events else []) s)
      fun _ => True := by
  refine view_explicit.bind fun seen => Act.Triple.given fun hseen => ?_
  subst hseen
  cases seen with
  | false => exact Act.Triple.pure fun _ hs => ⟨lost, by simpa using hs⟩
  | true => exact (setExplicit_standing false).bind fun _ => hfinish

theorem commit_standing :
    Act.Triple (Standing explicit (if explicit then .active else .absent) lost log)
      (commit wire.recording)
      (fun _ s => ∃ lost, Standing false .absent lost
        (log ++ if explicit then [.committed (.ok ())] else []) s)
      fun _ => True :=
  ending_standing ((commitInner_attempted hwire).weaken (fun _ hs => hs)
    (fun _ _ hs => ⟨false, hs⟩) fun _ _ => trivial)

theorem rollback_standing :
    Act.Triple (Standing explicit (if explicit then .active else .absent) lost log)
      (rollback wire.recording)
      (fun _ s => ∃ after, Standing false .absent after
        (log ++ if explicit then (if lost then [] else [.rolledBack (.ok ())]) else []) s)
      fun _ => True :=
  ending_standing ((rollbackInner_standing hwire).weaken (fun _ hs => hs)
    (fun _ _ hs => ⟨lost, hs⟩) fun _ hfalse => hfalse.elim)

end Autobegin

/-! ## Calls one after another -/

/-- A call of a connection. -/
inductive LineCall where
  /-- Runs a text with binds. -/
  | run (pieces : List BindPiece) (bound : List (Nat × BoundValue))
  /-- Runs a statement as it stands. -/
  | command (sql : String)
  /-- Begins an explicit transaction. -/
  | start
  /-- Commits it. -/
  | commit
  /-- Rolls it back. -/
  | rollback
  /-- Closes the line. -/
  | close

namespace LineCall

/-- Makes a call. -/
def act (wire : Wire σ) : LineCall → Act (Autobegin × σ) Unit
  | .run pieces bound => do
    let _ ← Autobegin.run wire pieces bound
    return ()
  | .command sql => Autobegin.command wire sql
  | .start => Autobegin.start wire
  | .commit => Autobegin.commit wire
  | .rollback => Autobegin.rollback wire
  | .close => Autobegin.close wire

/-- The connection after calls one after another. -/
def performAll (wire : Wire σ) (s : Autobegin × σ) (calls : List LineCall) : Autobegin × σ :=
  calls.foldl (fun s call => (call.act wire s).2) s

/-- The call begins or ends an explicit transaction. -/
def transacts : LineCall → Bool
  | .start | .commit | .rollback => true
  | _ => false

/-- Every call that begins or ends an explicit transaction succeeds. -/
def Unbroken (wire : Wire σ) (s : Autobegin × σ) : List LineCall → Prop
  | [] => True
  | call :: rest =>
    (call.transacts = true → (call.act wire s).1 = .ok ()) ∧
      Unbroken wire (call.act wire s).2 rest

/-- Whether an explicit transaction is open after a call, given whether one was before. -/
def follow (held : Bool) : LineCall → Bool
  | .start => true
  | .commit | .rollback | .close => false
  | .run _ _ | .command _ => held

/-- Whether an explicit transaction is open after calls one after another. -/
def holds (calls : List LineCall) : Bool := calls.foldl follow false

/-! ## Lines that write things down -/

/-- Calls are made alike on lines that do alike. -/
theorem act_beside {S : σ → τ → Prop} {wire : Wire σ} {other : Wire τ} (h : wire.Alike S other)
    (call : LineCall) : Act.Sim (Autobegin.Beside S) (call.act wire) (call.act other) := by
  cases call with
  | run pieces bound => exact (Autobegin.run_beside h pieces bound).bind fun _ => Act.Sim.pure ()
  | command sql => exact Autobegin.command_beside h sql
  | start => exact Autobegin.start_beside h
  | commit => exact Autobegin.commit_beside h
  | rollback => exact Autobegin.rollback_beside h
  | close => exact Autobegin.close_beside h

/-- Calls one after another leave connections alike, and none of them breaks on one line only. -/
theorem performAll_beside {S : σ → τ → Prop} {wire : Wire σ} {other : Wire τ}
    (h : wire.Alike S other) (calls : List LineCall) {s : Autobegin × σ} {t : Autobegin × τ}
    (hst : Autobegin.Beside S s t) :
    Autobegin.Beside S (performAll wire s calls) (performAll other t calls) ∧
      (Unbroken other t calls → Unbroken wire s calls) := by
  induction calls generalizing s t with
  | nil => exact ⟨hst, id⟩
  | cons call rest ih =>
    obtain ⟨hresult, hstates⟩ := act_beside h call s t hst
    obtain ⟨hended, hbroken⟩ := ih hstates
    refine ⟨hended, fun hunbroken => ⟨fun hcall => ?_, hbroken hunbroken.2⟩⟩
    rw [← hresult]
    exact hunbroken.1 hcall

/-! ## What is heard of calls -/

/-- A connection stands between two calls: an explicit transaction is on the line, and without one
there is none. -/
def Tidy (held lost : Bool) (log : List LineEvent) (s : Autobegin × (σ × List LineEvent)) : Prop :=
  Autobegin.Standing held (if held then .active else .absent) lost log s

/-- What is heard of a call that is made inside an explicit transaction or outside one. -/
def Heard (isFatal : Error → Bool) (held lost : Bool) (result : Except Error Unit)
    (events : List LineEvent) : LineCall → Prop
  | .run _ _ | .command _ =>
    if held then Inside isFatal result events else Alone isFatal result events
  | .start => ∃ opening, Reopened opening ∧
    events = (if held then [.committed (.ok ())] else []) ++ (opening ++ [.began (.ok ())])
  | .commit => events = if held then [.committed (.ok ())] else []
  | .rollback => events = if held then (if lost then [] else [.rolledBack (.ok ())]) else []
  | .close => ∃ closed, events = Autobegin.closing held lost closed

variable {wire : Wire σ} {held lost : Bool} {log : List LineEvent}

/-- What is heard of a call, with how the connection stands afterwards. -/
def Leaves (isFatal : Error → Bool) (held lost : Bool) (log : List LineEvent) (call : LineCall)
    (result : Except Error Unit) (s : Autobegin × (σ × List LineEvent)) : Prop :=
  ∃ events after, call.Heard isFatal held lost result events ∧
    Tidy (follow held call) after (log ++ events) s

/-- What is heard of a statement, with how the connection stands afterwards. -/
def Answered (isFatal : Error → Bool) (held : Bool) (log : List LineEvent)
    (result : Except Error α) (s : Autobegin × (σ × List LineEvent)) : Prop :=
  ∃ events after,
    (if held then Inside isFatal result events else Alone isFatal result events) ∧
      Tidy held after (log ++ events) s

/-- A statement leaves a connection in its place, and what is heard of it is what may be heard. -/
theorem statement_answered (hwire : wire.Transacts) {made : Except Error BoundStatement}
    {finish : StatementResult → Act (Autobegin × (σ × List LineEvent)) α}
    (hfinish : Autobegin.Receives finish) :
    Act.Ends (Tidy held lost log) (Autobegin.statement wire.recording made finish)
      (Answered wire.isFatal held log) := by
  intro s hs
  cases held with
  | true => exact Autobegin.statement_inside hfinish s hs
  | false => exact Autobegin.statement_alone hwire hfinish s hs

/-- What is heard of a statement does not depend on what it answers. -/
theorem Answered.ignoring {isFatal : Error → Bool} {result : Except Error α}
    {s : Autobegin × (σ × List LineEvent)} (h : Answered isFatal held log result s) :
    Answered isFatal held log (result.map fun _ => ()) s := by
  obtain ⟨events, after, hevents, hs⟩ := h
  refine ⟨events, after, ?_, hs⟩
  cases held with
  | true =>
    cases hevents with
    | unsent e => exact .unsent e
    | succeeded a sql values result => exact .succeeded () sql values result
    | failed e sql values hfatal => exact .failed e sql values hfatal
    | cut e sql values hfatal ended => exact .cut e sql values hfatal ended
  | false =>
    cases hevents with
    | unreached e cause => exact .unreached e cause
    | unsent e hopening => exact .unsent e hopening
    | succeeded a hopening sql values result => exact .succeeded () hopening sql values result
    | failed e hopening sql values hfatal => exact .failed e hopening sql values hfatal
    | cut e hopening sql values hfatal ended => exact .cut e hopening sql values hfatal ended

/-- A call that must succeed and does leaves what it leaves where it succeeds. -/
theorem leaves_of_ok {isFatal : Error → Bool} {call : LineCall}
    {act : Act (Autobegin × (σ × List LineEvent)) Unit}
    (hact : Act.Triple (Tidy held lost log) act
      (fun _ => Leaves isFatal held lost log call (.ok ())) fun _ => True)
    {s : Autobegin × (σ × List LineEvent)} (hs : Tidy held lost log s) (hok : (act s).1 = .ok ()) :
    Leaves isFatal held lost log call (act s).1 (act s).2 := by
  have hended := hact s hs
  rw [hok] at hended ⊢
  exact hended

/-- Each call is heard as it may be and leaves a connection as it should stand, if beginning and
ending explicit transactions succeeds. -/
theorem act_leaves (hwire : wire.Transacts) (call : LineCall)
    {s : Autobegin × (σ × List LineEvent)} (hs : Tidy held lost log s)
    (hcall : call.transacts = true → (call.act wire.recording s).1 = .ok ()) :
    Leaves wire.isFatal held lost log call (call.act wire.recording s).1
      (call.act wire.recording s).2 := by
  cases call with
  | run pieces bound =>
    have hrun : Act.Ends (Tidy held lost log) (Autobegin.run wire.recording pieces bound)
        (Answered wire.isFatal held log) := by
      rw [Autobegin.run_eq_statement]
      exact statement_answered hwire Autobegin.receives_receive
    exact Act.Ends.bind hrun (fun _ => Act.Ends.pure fun _ ht => ht.ignoring)
      (fun _ _ ht => ht.ignoring) s hs
  | command sql =>
    have hreceives : Autobegin.Receives (σ := σ)
        (fun _ => (pure () : Act (Autobegin × (σ × List LineEvent)) Unit)) :=
      fun _ _ _ _ _ => Act.Triple.pure fun _ ht => ht
    have hcommand : Act.Ends (Tidy held lost log) (Autobegin.command wire.recording sql)
        (Answered wire.isFatal held log) := by
      rw [Autobegin.command_eq_statement]
      exact statement_answered hwire hreceives
    exact hcommand s hs
  | start =>
    have hstart : Act.Triple (Tidy held lost log) (Autobegin.start wire.recording)
        (fun _ => Leaves wire.isFatal held lost log .start (.ok ())) fun _ => True := by
      refine (Autobegin.start_standing hwire).weaken (fun _ ht => ht) ?_ fun _ _ => trivial
      rintro _ t ⟨opening, hopening, ht⟩
      exact ⟨_, false, ⟨opening, hopening, rfl⟩, ht⟩
    exact leaves_of_ok hstart hs (hcall rfl)
  | commit =>
    have hcommit : Act.Triple (Tidy held lost log) (Autobegin.commit wire.recording)
        (fun _ => Leaves wire.isFatal held lost log .commit (.ok ())) fun _ => True := by
      refine (Autobegin.commit_standing hwire).weaken (fun _ ht => ht) ?_ fun _ _ => trivial
      rintro _ t ⟨after, ht⟩
      exact ⟨_, after, rfl, ht⟩
    exact leaves_of_ok hcommit hs (hcall rfl)
  | rollback =>
    have hrollback : Act.Triple (Tidy held lost log) (Autobegin.rollback wire.recording)
        (fun _ => Leaves wire.isFatal held lost log .rollback (.ok ())) fun _ => True := by
      refine (Autobegin.rollback_standing hwire).weaken (fun _ ht => ht) ?_ fun _ _ => trivial
      rintro _ t ⟨after, ht⟩
      exact ⟨_, after, rfl, ht⟩
    exact leaves_of_ok hrollback hs (hcall rfl)
  | close =>
    have hended := Autobegin.close_standing hwire s hs
    rw [act]
    generalize Autobegin.close wire.recording s = ended at hended
    obtain ⟨result, t⟩ := ended
    cases result with
    | ok value =>
      obtain ⟨closed, hended⟩ := hended
      exact ⟨_, lost, ⟨closed, rfl⟩, hended⟩
    | error e => exact hended.elim

/-- Calls one after another leave a connection as it should stand, by induction on them. -/
theorem performAll_tidy (hwire : wire.Transacts) (calls : List LineCall) {held lost : Bool}
    {log : List LineEvent} {s : Autobegin × (σ × List LineEvent)} (hs : Tidy held lost log s)
    (hcalls : Unbroken wire.recording s calls) :
    ∃ after events,
      Tidy (calls.foldl follow held) after events (performAll wire.recording s calls) := by
  induction calls generalizing held lost log s with
  | nil => exact ⟨lost, log, hs⟩
  | cons call rest ih =>
    obtain ⟨events, after, -, hended⟩ := act_leaves hwire call hs hcalls.1
    exact ih hended hcalls.2

end LineCall

/-- Whatever is called on a line where beginning, committing and rolling back succeed: there is a
transaction on the line exactly while an explicit one is open. Of a next call is heard, behind what
was heard before: a statement outside an explicit transaction, committed if it succeeded and rolled
back if it failed, once, unless its transaction ended with the line or the line could not be opened;
inside an explicit transaction the statement alone; the beginning and the end of explicit
transactions where they are asked for; and the rollback of what a line is closed with. -/
theorem Autobegin.statements_settled (wire : Wire σ) (hwire : wire.Transacts) (outside : σ)
    (calls : List LineCall) (hcalls : LineCall.Unbroken wire ({}, outside) calls) :
    let s := LineCall.performAll wire.recording ({}, outside, []) calls
    let held := LineCall.holds calls
    (s.1, s.2.1) = LineCall.performAll wire ({}, outside) calls ∧
      s.1.explicit = held ∧ s.1.inner = (if held then .active else .absent) ∧
      ∀ call : LineCall,
        let ended := call.act wire.recording s
        (call.transacts = true → ended.1 = .ok ()) →
          ∃ events, ended.2.2.2 = s.2.2 ++ events ∧
            call.Heard wire.isFatal held s.1.lost ended.1 events := by
  intro s held
  have hbeside : Beside (fun s t => t = s.1) (({}, outside, []) : Autobegin × (σ × List LineEvent))
      ({}, outside) := ⟨rfl, rfl⟩
  obtain ⟨halike, hunbroken⟩ :=
    LineCall.performAll_beside (Wire.recording_alike wire) calls hbeside
  have hstart : LineCall.Tidy false false []
      (({}, outside, []) : Autobegin × (σ × List LineEvent)) := ⟨rfl, rfl, rfl, rfl, rfl⟩
  obtain ⟨lost, log, htidy⟩ := LineCall.performAll_tidy hwire calls hstart (hunbroken hcalls)
  refine ⟨?_, htidy.explicit_eq, htidy.inner_eq, ?_⟩
  · exact Prod.ext halike.1.symm halike.2.symm
  · intro call ended hcall
    obtain ⟨events, after, hevents, hended⟩ := LineCall.act_leaves hwire call htidy hcall
    refine ⟨events, ?_, ?_⟩
    · rw [hended.log_eq, htidy.log_eq]
    · rw [htidy.lost_eq]
      exact hevents

/-- A line on which some things cannot be dropped. -/
def Wire.keeping : Wire Unit where
  connect := pure ()
  start := pure ()
  execute sql _ :=
    if sql ∈ ["DROP TABLE a", "DROP TABLE b"] then
      throw (.raised "OperationalError" "permission denied")
    else pure ⟨none, 1, .null⟩
  commit := pure ()
  rollback := pure ()
  close := pure ()
  isFatal _ := false
  mayLinger := false

/-- A statement on its own is committed or rolled back; one inside an explicit transaction is left
to it, also when it fails, and closing rolls the transaction back. -/
theorem Autobegin.statements_settled_keeping :
    let wire := Wire.keeping
    let calls : List LineCall := [.command "DELETE FROM a", .command "DROP TABLE a", .start]
    let s := LineCall.performAll wire.recording ({}, (), []) calls
    let dropped := LineCall.act wire.recording (.command "DROP TABLE b") s
    wire.Transacts ∧ LineCall.Unbroken wire ({}, ()) calls ∧
      s.2.2 = [.began (.ok ()), .sent "DELETE FROM a" [] (.ok ⟨none, 1, .null⟩),
        .committed (.ok ()), .began (.ok ()),
        .sent "DROP TABLE a" [] (.error (.raised "OperationalError" "permission denied")),
        .rolledBack (.ok ()), .began (.ok ())] ∧
      s.1.explicit = true ∧ s.1.inner = .active ∧
      (∃ events, dropped.2.2.2 = s.2.2 ++ events ∧ Inside wire.isFatal dropped.1 events) ∧
      ∃ closed, (LineCall.act wire.recording .close s).2.2.2 = s.2.2 ++
        [.rolledBack (.ok ()), .rolledBack (.ok ()), .closed closed] := by
  intro wire calls s dropped
  have hwire : wire.Transacts := ⟨fun _ => rfl, fun _ => rfl, fun _ => rfl⟩
  have hcalls : LineCall.Unbroken wire ({}, ()) calls :=
    ⟨fun h => absurd h (by decide), fun h => absurd h (by decide), fun _ => rfl, trivial⟩
  obtain ⟨-, hexplicit, hinner, hheard⟩ :=
    Autobegin.statements_settled wire hwire () calls hcalls
  have hfree : ∀ {call : LineCall} {result : Except Error Unit}, call.transacts = false →
      call.transacts = true → result = .ok () := fun hnot h => absurd h (by rw [hnot]; decide)
  obtain ⟨events, hclosed, closed, rfl⟩ := hheard .close (hfree rfl)
  exact ⟨hwire, hcalls, rfl, hexplicit, hinner, hheard (.command "DROP TABLE b") (hfree rfl),
    closed, hclosed⟩

end BoundSql
