import BoundSql.Proofs.Journal
import BoundSql.Proofs.Savepoints

/-!
# Levels of transactions

Calls that begin and end transactions on open connections, with any of the driver calls behind them
failing. On each connection the driver calls that succeed are well nested: a stack machine replays
them without getting stuck, and its height is the depth that the session keeps. A call that fails
leaves every depth as it was.
-/

namespace BoundSql

open Session (savepointName)

variable {σ ℓ : Type}

/-! ## A stack machine -/

namespace Levels

/-- Takes a driver call on a stack of levels, the innermost first. A call that is not in its place,
or that is not about transactions, cannot be taken. -/
def move (levels : List Nat) : DriverCall → Option (List Nat)
  | .started _ _ => if levels = [] then some [1] else none
  | .committed _ _ | .rolledBack _ _ => if levels.length = 1 then some [] else none
  | .commanded _ sql _ =>
    match SavepointStatement.read sql with
    | some (.set mark) =>
      if 1 ≤ levels.length ∧ mark = savepointName (levels.length + 1) then
        some ((levels.length + 1) :: levels)
      else none
    | some (.release mark) | some (.rollBackTo mark) =>
      if 2 ≤ levels.length ∧ mark = savepointName levels.length then some levels.tail else none
    | none => none
  | _ => none

/-- Takes driver calls one after another, from an empty stack. -/
def replay (calls : List DriverCall) : Option (List Nat) := calls.foldlM move []

theorem replay_append_singleton (calls : List DriverCall) (call : DriverCall) :
    replay (calls ++ [call]) = (replay calls).bind fun levels => move levels call := by
  simp [replay]

/-- The stack on which calls end, if they can be taken, has a height. -/
def Reach (calls : List DriverCall) (height : Nat) : Prop :=
  ∃ levels, replay calls = some levels ∧ levels.length = height

theorem reach_nil : Reach [] 0 := ⟨[], rfl, rfl⟩

end Levels

/-- A driver call on a handle leads from one depth to another: what a session asks for at each
depth, with savepoints only where they may be used. -/
inductive Leads (handle : Handle) (savepoints : Bool) : Nat → DriverCall → Nat → Prop where
  /-- A transaction is started where there is none. -/
  | start (ended : Except Error Unit) : Leads handle savepoints 0 (.started handle ended) 1
  /-- The real transaction is committed. -/
  | commit (ended : Except Error Unit) : Leads handle savepoints 1 (.committed handle ended) 0
  /-- It is rolled back. -/
  | rollback (ended : Except Error Unit) : Leads handle savepoints 1 (.rolledBack handle ended) 0
  /-- The savepoint of the next depth is set. -/
  | set {depth : Nat} (ended : Except Error Unit) (hdepth : 1 ≤ depth)
      (hsavepoints : savepoints = true) :
      Leads handle savepoints depth
        (.commanded handle ("SAVEPOINT " ++ savepointName (depth + 1)) ended) (depth + 1)
  /-- The savepoint of the depth is released. -/
  | release {depth : Nat} (ended : Except Error Unit) (hdepth : 2 ≤ depth)
      (hsavepoints : savepoints = true) :
      Leads handle savepoints depth
        (.commanded handle ("RELEASE SAVEPOINT " ++ savepointName depth) ended) (depth - 1)
  /-- It is gone back to. -/
  | rollBackTo {depth : Nat} (ended : Except Error Unit) (hdepth : 2 ≤ depth)
      (hsavepoints : savepoints = true) :
      Leads handle savepoints depth
        (.commanded handle ("ROLLBACK TO SAVEPOINT " ++ savepointName depth) ended) (depth - 1)

namespace Leads

variable {handle : Handle} {savepoints : Bool} {depth after : Nat} {call : DriverCall}

theorem handle?_eq (h : Leads handle savepoints depth call after) : call.handle? = some handle := by
  cases h <;> rfl

/-- The stack machine takes the call at the depth from which it leads. -/
theorem move (h : Leads handle savepoints depth call after) {levels : List Nat}
    (hheight : levels.length = depth) :
    ∃ moved, Levels.move levels call = some moved ∧ moved.length = after := by
  cases h with
  | start ended =>
    have hempty : levels = [] := List.length_eq_zero_iff.mp hheight
    exact ⟨[1], by rw [Levels.move, if_pos hempty], rfl⟩
  | commit ended => exact ⟨[], by rw [Levels.move, if_pos hheight], rfl⟩
  | rollback ended => exact ⟨[], by rw [Levels.move, if_pos hheight], rfl⟩
  | set ended hdepth hsavepoints =>
    have hlegal : 1 ≤ levels.length ∧
        savepointName (depth + 1) = savepointName (levels.length + 1) := by
      rw [hheight]
      exact ⟨hdepth, rfl⟩
    refine ⟨(levels.length + 1) :: levels, ?_, ?_⟩
    · rw [Levels.move, SavepointStatement.read_set]
      exact if_pos hlegal
    · rw [List.length_cons, hheight]
  | release ended hdepth hsavepoints =>
    have hlegal : 2 ≤ levels.length ∧ savepointName depth = savepointName levels.length := by
      rw [hheight]
      exact ⟨hdepth, rfl⟩
    refine ⟨levels.tail, ?_, ?_⟩
    · rw [Levels.move, SavepointStatement.read_release]
      exact if_pos hlegal
    · rw [List.length_tail, hheight]
  | rollBackTo ended hdepth hsavepoints =>
    have hlegal : 2 ≤ levels.length ∧ savepointName depth = savepointName levels.length := by
      rw [hheight]
      exact ⟨hdepth, rfl⟩
    refine ⟨levels.tail, ?_, ?_⟩
    · rw [Levels.move, SavepointStatement.read_rollBackTo]
      exact if_pos hlegal
    · rw [List.length_tail, hheight]

/-- Without savepoints there is no nesting, and nothing is asked for but the real transaction. -/
theorem flat (h : Leads handle false depth call after) :
    after ≤ 1 ∧ ∀ handle sql ended, call ≠ .commanded handle sql ended := by
  cases h with
  | start ended => exact ⟨Nat.le_refl 1, fun _ _ _ hcall => nomatch hcall⟩
  | commit ended => exact ⟨Nat.zero_le 1, fun _ _ _ hcall => nomatch hcall⟩
  | rollback ended => exact ⟨Nat.zero_le 1, fun _ _ _ hcall => nomatch hcall⟩
  | set ended hdepth hsavepoints => cases hsavepoints
  | release ended hdepth hsavepoints => cases hsavepoints
  | rollBackTo ended hdepth hsavepoints => cases hsavepoints

end Leads

namespace Levels

variable {handle : Handle} {savepoints : Bool} {depth after : Nat} {call : DriverCall}
  {calls : List DriverCall}

/-- One more call that leads on from the height is taken. -/
theorem Reach.append (h : Reach calls depth) (hleads : Leads handle savepoints depth call after) :
    Reach (calls ++ [call]) after := by
  obtain ⟨levels, hreplay, hheight⟩ := h
  obtain ⟨moved, hmove, hmoved⟩ := hleads.move hheight
  refine ⟨moved, ?_, hmoved⟩
  rw [replay_append_singleton, hreplay, Option.bind_some, hmove]

end Levels

/-! ## One call on an open connection -/

namespace Session

variable {around : Surroundings σ} {name : String} {opened : Opened}

/-- Asks the driver for something and sets the depth when that has gone well. -/
def moving (name : String) (act : Act σ Unit) (depth : Nat) : Act (Session σ) Nat := do
  onOutside act
  update fun c => c.setDepth name depth
  return depth

/-- An open connection has its depth and knows whether it has savepoints. -/
theorem requireSavepoints_of_lookup {s : Session σ}
    (h : s.connections.opened.lookup name = some opened) (fault : NestingFault) :
    requireSavepoints around name fault s =
      if opened.dialect.hasSavepoints then (.ok (), s)
      else (.error (.nesting fault name opened.dialect.driver), s) := by
  have hdialect : dialect around name s = (.ok opened.dialect, s) := by
    rw [dialect, Act.bind_of_ok (connection_of_lookup around h)]
    rfl
  rw [requireSavepoints, Act.bind_of_ok hdialect]
  split
  · rfl
  · rfl

theorem transactionDepth_of_lookup {s : Session σ}
    (h : s.connections.opened.lookup name = some opened) :
    transactionDepth around name s = (.ok (s.connections.depth name), s) := by
  rw [transactionDepth, Act.bind_of_ok (connection_of_lookup around h)]
  rfl

/-- What is asked for below the first level needs savepoints. -/
theorem nesting_of_lookup {s : Session σ} (h : s.connections.opened.lookup name = some opened)
    (fault : NestingFault) (verb : String) (depth after : Nat) :
    (do
      requireSavepoints around name fault
      savepointCommand around opened.handle verb depth
      update fun c => c.setDepth name after
      return after : Act (Session σ) Nat) s =
      if opened.dialect.hasSavepoints then
        moving name (around.driver.command opened.handle (verb ++ savepointName depth)) after s
      else (.error (.nesting fault name opened.dialect.driver), s) := by
  rw [Act.bind_apply, requireSavepoints_of_lookup h]
  cases opened.dialect.hasSavepoints with
  | true => rfl
  | false => rfl

/-- What beginning a transaction comes to on an open connection. -/
theorem begin_of_lookup {s : Session σ} (h : s.connections.opened.lookup name = some opened) :
    begin around name s =
      if s.connections.depth name = 0 then moving name (around.driver.start opened.handle) 1 s
      else if opened.dialect.hasSavepoints then
        moving name
          (around.driver.command opened.handle
            ("SAVEPOINT " ++ savepointName (s.connections.depth name + 1)))
          (s.connections.depth name + 1) s
      else (.error (.nesting .begin name opened.dialect.driver), s) := by
  rw [begin, Act.bind_of_ok (connection_of_lookup around h),
    Act.bind_of_ok (transactionDepth_of_lookup h)]
  split
  · rfl
  · exact nesting_of_lookup h .begin "SAVEPOINT " _ _

/-- What ending one comes to. -/
theorem ending_of_lookup {s : Session σ} (h : s.connections.opened.lookup name = some opened)
    (finish : Handle → Act σ Unit) (fault : NestingFault) (verb : String) :
    ending around name finish fault verb s =
      if s.connections.depth name = 0 then (.ok 0, s)
      else if s.connections.depth name = 1 then moving name (finish opened.handle) 0 s
      else if opened.dialect.hasSavepoints then
        moving name
          (around.driver.command opened.handle (verb ++ savepointName (s.connections.depth name)))
          (s.connections.depth name - 1) s
      else (.error (.nesting fault name opened.dialect.driver), s) := by
  rw [ending, Act.bind_of_ok (connection_of_lookup around h),
    Act.bind_of_ok (transactionDepth_of_lookup h)]
  split
  · rfl
  · split
    · rfl
    · exact nesting_of_lookup h fault verb _ _

/-- What a call has done on an open connection. -/
inductive Taken (label : ℓ) (name : String) (opened : Opened) (call : TransactionCall)
    (s : Session (σ × Journal ℓ)) : Except Error Nat × Session (σ × Journal ℓ) → Prop where
  /-- Without a transaction there was nothing to end. -/
  | idle (hcall : call ≠ .begin) (hdepth : s.connections.depth name = 0) :
      Taken label name opened call s (.ok 0, s)
  /-- There was nothing to nest with. -/
  | refused (e : Error) (hdepth : s.connections.depth name ≠ 0) :
      Taken label name opened call s (.error e, s)
  /-- The driver was asked in vain. -/
  | failed {entry : DriverCall} {after : Nat} (e : Error) (t : σ)
      (hleads : Leads opened.handle opened.dialect.hasSavepoints (s.connections.depth name) entry
        after)
      (hended : entry.succeeded = false) (hcall : call = .begin ∨ s.connections.depth name ≠ 0) :
      Taken label name opened call s
        (.error e, ⟨s.connections, t, s.journal ++ [(label, entry)]⟩)
  /-- The driver was asked, and the depth was set. -/
  | moved {entry : DriverCall} {after : Nat} (t : σ)
      (hleads : Leads opened.handle opened.dialect.hasSavepoints (s.connections.depth name) entry
        after)
      (hended : entry.succeeded = true) (hcall : call = .begin ∨ s.connections.depth name ≠ 0) :
      Taken label name opened call s
        (.ok after, ⟨s.connections.setDepth name after, t, s.journal ++ [(label, entry)]⟩)

/-- Where the driver is asked for what leads on, the call has failed there or moved. -/
theorem taken_moving {label : ℓ} {call : TransactionCall} {s : Session (σ × Journal ℓ)}
    (entry : Except Error Unit → DriverCall) {act : Act σ Unit} {after : Nat}
    (hleads : ∀ ended, Leads opened.handle opened.dialect.hasSavepoints (s.connections.depth name)
      (entry ended) after)
    (hsucceeded : ∀ ended, (entry ended).succeeded = ended.isOk)
    (hcall : call = .begin ∨ s.connections.depth name ≠ 0) :
    Taken label name opened call s
      (moving name (act.entered fun r => (label, entry r)) after s) := by
  rw [moving, Act.bind_apply, onOutside, Act.within_apply, Act.entered_apply]
  generalize act s.outside.1 = ended
  obtain ⟨result, t⟩ := ended
  cases result with
  | ok value => exact .moved t (hleads (.ok value)) (hsucceeded _) hcall
  | error e => exact .failed e t (hleads (.error e)) (hsucceeded _) hcall

theorem begin_taken {label : ℓ} {s : Session (σ × Journal ℓ)}
    (h : s.connections.opened.lookup name = some opened) :
    Taken label name opened .begin s (begin (around.journaling label) name s) := by
  rw [begin_of_lookup h]
  split
  next hzero =>
    refine taken_moving (.started opened.handle) ?_ (fun _ => rfl) (.inl rfl)
    intro ended
    rw [hzero]
    exact .start ended
  next hpositive =>
    have hdepth : 1 ≤ s.connections.depth name := Nat.one_le_iff_ne_zero.mpr hpositive
    split
    next hsavepoints =>
      exact taken_moving (.commanded opened.handle _)
        (fun ended => .set ended hdepth hsavepoints) (fun _ => rfl) (.inl rfl)
    next => exact .refused _ hpositive

theorem ending_taken {label : ℓ} {s : Session (σ × Journal ℓ)} {call : TransactionCall}
    (hcall : call ≠ .begin) (h : s.connections.opened.lookup name = some opened)
    (finish : Handle → Act σ Unit) (fault : NestingFault)
    (entry : Handle → Except Error Unit → DriverCall) {verb : String}
    (hfinish : ∀ ended,
      Leads opened.handle opened.dialect.hasSavepoints 1 (entry opened.handle ended) 0)
    (hsucceeded : ∀ ended, (entry opened.handle ended).succeeded = ended.isOk)
    (hverb : ∀ {depth : Nat} (ended : Except Error Unit), 2 ≤ depth →
      opened.dialect.hasSavepoints = true →
      Leads opened.handle opened.dialect.hasSavepoints depth
        (.commanded opened.handle (verb ++ savepointName depth) ended) (depth - 1)) :
    Taken label name opened call s
      (ending (around.journaling label) name
        (fun handle => (finish handle).entered fun r => (label, entry handle r)) fault verb s) := by
  rw [ending_of_lookup h]
  split
  next hzero => exact .idle hcall hzero
  next hpositive =>
    split
    next hone =>
      refine taken_moving (entry opened.handle) ?_ hsucceeded (.inr hpositive)
      rw [hone]
      exact hfinish
    next hmore =>
      have hdepth : 2 ≤ s.connections.depth name := by omega
      split
      next hsavepoints =>
        exact taken_moving (.commanded opened.handle _)
          (fun ended => hverb ended hdepth hsavepoints) (fun _ => rfl) (.inr hpositive)
      next => exact .refused _ hpositive

/-- Every call on an open connection has done one of these things. -/
theorem call_taken (label : ℓ) {s : Session (σ × Journal ℓ)} (call : TransactionCall)
    (h : s.connections.opened.lookup name = some opened) :
    Taken label name opened call s (call.act (around.journaling label) name s) := by
  cases call with
  | begin => exact begin_taken h
  | commit =>
    have hcall : TransactionCall.commit ≠ .begin := by decide
    exact ending_taken hcall h around.driver.commit .commit .committed .commit (fun _ => rfl)
      .release
  | rollback =>
    have hcall : TransactionCall.rollback ≠ .begin := by decide
    exact ending_taken hcall h around.driver.rollback .rollback .rolledBack .rollback
      (fun _ => rfl) .rollBackTo

end Session

/-! ## Calls one after another -/

/-- The driver calls on a connection that stands at a depth. -/
structure WellNested (opened : Opened) (calls : List DriverCall) (depth : Nat) : Prop where
  /-- The stack machine takes those that succeeded, and its height is the depth then. -/
  reach : Levels.Reach (calls.filter DriverCall.succeeded) depth
  /-- All of them are on the handle of the connection. -/
  handles : ∀ call ∈ calls, call.handle? = some opened.handle
  /-- Without savepoints there is no nesting and no statement about a savepoint. -/
  flat : opened.dialect.hasSavepoints = false →
    depth ≤ 1 ∧ ∀ handle sql ended, .commanded handle sql ended ∉ calls

namespace WellNested

variable {opened : Opened} {calls : List DriverCall} {depth after : Nat} {call : DriverCall}

theorem nil (opened : Opened) : WellNested opened [] 0 where
  reach := Levels.reach_nil
  handles _ hcall := nomatch hcall
  flat _ := ⟨Nat.zero_le 1, fun _ _ _ hcall => nomatch hcall⟩

/-- A further call that the driver was asked for leads on, or leaves the depth if it failed. -/
theorem concat (h : WellNested opened calls depth)
    (hleads : Leads opened.handle opened.dialect.hasSavepoints depth call after) :
    WellNested opened (calls ++ [call]) (if call.succeeded then after else depth) where
  reach := by
    rw [List.filter_append]
    cases hended : call.succeeded with
    | true =>
      have hone : [call].filter DriverCall.succeeded = [call] := by simp [hended]
      rw [hone, if_pos rfl]
      exact h.reach.append hleads
    | false =>
      have hnone : [call].filter DriverCall.succeeded = [] := by simp [hended]
      rw [hnone, List.append_nil]
      exact h.reach
  handles other hother := by
    rcases List.mem_append.mp hother with hold | hnew
    · exact h.handles other hold
    · obtain rfl := List.mem_singleton.mp hnew
      exact hleads.handle?_eq
  flat hsavepoints := by
    rw [hsavepoints] at hleads
    obtain ⟨hdepth, hcalls⟩ := h.flat hsavepoints
    obtain ⟨hafter, hcall⟩ := hleads.flat
    refine ⟨?_, fun handle sql ended hmem => ?_⟩
    · split
      · exact hafter
      · exact hdepth
    · rcases List.mem_append.mp hmem with hold | hnew
      · exact hcalls handle sql ended hold
      · exact hcall handle sql ended (List.mem_singleton.mp hnew).symm

end WellNested

namespace Session

variable {name : String} {opened : Opened} {opens : List (String × Opened)}
  {s : Session (σ × Journal String)} {call : TransactionCall}
  {ended : Except Error Nat × Session (σ × Journal String)}

/-- The depth of another name stays when one is set. -/
theorem depth_setDepth_of_ne {other : String} (h : other ≠ name) (c : Connections) (depth : Nat) :
    (c.setDepth name depth).depth other = c.depth other := by
  rw [Connections.depth, Connections.setDepth, lookup_putNamed, if_neg h]
  rfl

namespace Taken

/-- A call never changes which connections are open. -/
theorem opened_eq (h : Taken name name opened call s ended) :
    ended.2.connections.opened = s.connections.opened := by
  cases h <;> rfl

/-- A call that fails leaves every depth as it was. -/
theorem depth_of_error (h : Taken name name opened call s ended) {e : Error}
    (herror : ended.1 = .error e) : ended.2.connections = s.connections := by
  cases h with
  | idle => cases herror
  | refused => rfl
  | failed => rfl
  | moved => cases herror

/-- A call that succeeds leads to the depth that it reports. -/
theorem depth_of_ok (h : Taken name name opened call s ended) {depth : Nat}
    (hok : ended.1 = .ok depth) : ended.2.connections.depth name = depth := by
  cases h with
  | idle hcall hdepth => exact hdepth.trans (Except.ok.inj hok)
  | refused => cases hok
  | failed => cases hok
  | moved t hleads hended hcall =>
    exact (Connections.depth_setDepth _ _ _).trans (Except.ok.inj hok)

/-- A call on one connection leaves the depths of all others. -/
theorem depth_of_ne (h : Taken name name opened call s ended) {other : String}
    (hother : other ≠ name) : ended.2.connections.depth other = s.connections.depth other := by
  cases h with
  | idle => rfl
  | refused => rfl
  | failed => rfl
  | moved => exact depth_setDepth_of_ne hother _ _

/-- Where there is no transaction nothing is asked of the driver to end it. -/
theorem journal_of_idle (h : Taken name name opened call s ended) (hcall : call ≠ .begin)
    (hdepth : s.connections.depth name = 0) : ended.2.journal = s.journal := by
  cases h with
  | idle => rfl
  | refused => rfl
  | failed e t hleads hended hasked => exact absurd hdepth (hasked.resolve_left hcall)
  | moved t hleads hended hasked => exact absurd hdepth (hasked.resolve_left hcall)

/-- The driver calls on the connection stay well nested. -/
theorem wellNested (h : Taken name name opened call s ended)
    (hnested : WellNested opened (s.journal.callsOf name) (s.connections.depth name)) :
    WellNested opened (ended.2.journal.callsOf name) (ended.2.connections.depth name) := by
  cases h with
  | idle => exact hnested
  | refused => exact hnested
  | failed e t hleads hended hcall =>
    have hmore := hnested.concat hleads
    rw [hended] at hmore
    rw [journal, Journal.callsOf_concat]
    exact hmore
  | moved t hleads hended hcall =>
    have hmore := hnested.concat hleads
    rw [hended] at hmore
    rw [journal, Journal.callsOf_concat, Connections.depth_setDepth]
    exact hmore

/-- Nothing is entered for another connection. -/
theorem callsOf_of_ne (h : Taken name name opened call s ended) {other : String}
    (hother : other ≠ name) : ended.2.journal.callsOf other = s.journal.callsOf other := by
  cases h with
  | idle => rfl
  | refused => rfl
  | failed => exact Journal.callsOf_concat_of_ne hother.symm _ _
  | moved => exact Journal.callsOf_concat_of_ne hother.symm _ _

end Taken

/-- The connections that are open have stayed so, and the driver calls on each of them are well
nested up to its depth. -/
structure Nested (opens : List (String × Opened)) (s : Session (σ × Journal String)) : Prop where
  /-- The connections that are open. -/
  opened_eq : s.connections.opened = opens
  /-- The driver calls on each of them. -/
  nested : ∀ name opened, opens.lookup name = some opened →
    WellNested opened (s.journal.callsOf name) (s.connections.depth name)

/-- A call keeps all driver calls well nested. -/
theorem Nested.step (h : Nested opens s) (hopened : opens.lookup name = some opened)
    (htaken : Taken name name opened call s ended) : Nested opens ended.2 where
  opened_eq := htaken.opened_eq.trans h.opened_eq
  nested other found hfound := by
    have hbefore := h.nested other found hfound
    by_cases hother : other = name
    · subst hother
      obtain rfl : opened = found := Option.some.inj (hopened.symm.trans hfound)
      exact htaken.wellNested hbefore
    · rw [htaken.callsOf_of_ne hother, htaken.depth_of_ne hother]
      exact hbefore

end Session

namespace TransactionCall

variable (around : Surroundings σ)

/-- The session after calls that are made one after another, each on the connection of its name. -/
def performAll (s : Session σ) (steps : List (String × TransactionCall)) : Session σ :=
  steps.foldl (fun s step => (step.2.act around step.1 s).2) s

/-- The same with a journal in which each driver call has the name of its connection. -/
def recordAll (s : Session (σ × Journal String)) (steps : List (String × TransactionCall)) :
    Session (σ × Journal String) :=
  steps.foldl (fun s step => (step.2.act (around.journaling step.1) step.1 s).2) s

/-- The journal has no part in what calls do, by induction on them. -/
theorem recordAll_unjournaled (s : Session (σ × Journal String))
    (steps : List (String × TransactionCall)) :
    (recordAll around s steps).unjournaled = performAll around s.unjournaled steps := by
  induction steps generalizing s with
  | nil => rfl
  | cons step rest ih =>
    have hstep := (step.2.act_journaled around step.1 step.1 s s.unjournaled rfl).2
    have hrest := ih (step.2.act (around.journaling step.1) step.1 s).2
    rw [← hstep] at hrest
    exact hrest

/-- Calls on open connections keep all driver calls well nested, by induction on the calls. -/
theorem recordAll_nested {opens : List (String × Opened)} {s : Session (σ × Journal String)}
    (h : Session.Nested opens s) {steps : List (String × TransactionCall)}
    (hopen : ∀ step ∈ steps, ∃ opened, opens.lookup step.1 = some opened) :
    Session.Nested opens (recordAll around s steps) := by
  induction steps generalizing s with
  | nil => exact h
  | cons step rest ih =>
    obtain ⟨opened, hopened⟩ := hopen step (List.mem_cons_self ..)
    have hfound : s.connections.opened.lookup step.1 = some opened := by
      rw [h.opened_eq]
      exact hopened
    have hrest : ∀ later ∈ rest, ∃ opened, opens.lookup later.1 = some opened :=
      fun later hlater => hopen later (List.mem_cons_of_mem _ hlater)
    exact ih (h.step hopened (Session.call_taken step.1 step.2 hfound)) hrest

end TransactionCall

/-- On open connections without a transaction, whichever calls begin and end transactions and
whichever driver calls fail behind them: the calls that succeeded on each connection can be replayed
on the stack machine, which stands at the depth of the connection then. On a dialect without
savepoints the depth is at most one and nothing is asked for about savepoints. A next call that
fails leaves the connections as they were, one that succeeds leads to the depth that it reports,
either leaves all other depths, and without a transaction nothing is asked of the driver to end
it. -/
theorem Session.transactions_nested (around : Surroundings σ) (s : Session σ)
    (hdepth : ∀ name, s.connections.depth name = 0) (steps : List (String × TransactionCall))
    (hopen : ∀ step ∈ steps, s.connections.isOpen step.1 = true) :
    let t := TransactionCall.recordAll around s.journaled steps
    t.unjournaled = TransactionCall.performAll around s steps ∧
      (∀ name opened, s.connections.opened.lookup name = some opened →
        WellNested opened (t.journal.callsOf name) (t.connections.depth name)) ∧
      ∀ (name : String) (call : TransactionCall), s.connections.isOpen name = true →
        let ended := call.act (around.journaling name) name t
        (∀ e, ended.1 = .error e → ended.2.connections = t.connections) ∧
          (∀ depth, ended.1 = .ok depth → ended.2.connections.depth name = depth) ∧
          (∀ other, other ≠ name →
            ended.2.connections.depth other = t.connections.depth other) ∧
          (call ≠ .begin → t.connections.depth name = 0 → ended.2.journal = t.journal) := by
  intro t
  have hstart : Nested s.connections.opened (s.journaled : Session (σ × Journal String)) := by
    refine ⟨rfl, fun name opened _ => ?_⟩
    show WellNested opened [] (s.connections.depth name)
    rw [hdepth name]
    exact WellNested.nil opened
  have hnested : Nested s.connections.opened t :=
    TransactionCall.recordAll_nested around hstart fun step hstep =>
      (Connections.isOpen_iff _ _).mp (hopen step hstep)
  refine ⟨TransactionCall.recordAll_unjournaled around _ steps, hnested.nested, ?_⟩
  intro name call hname ended
  obtain ⟨opened, hopened⟩ := (Connections.isOpen_iff _ _).mp hname
  have hfound : t.connections.opened.lookup name = some opened := by
    rw [hnested.opened_eq]
    exact hopened
  have htaken : Taken name name opened call t ended := call_taken name call hfound
  refine ⟨fun _ => htaken.depth_of_error, fun _ => htaken.depth_of_ok, fun _ => htaken.depth_of_ne,
    htaken.journal_of_idle⟩

/-- A database that sets savepoints and goes back to them but never releases one. -/
def Surroundings.unreleasing : Surroundings Unit where
  driver :=
    { connect := fun _ _ => pure 0
      dialectName := fun _ _ => "sqlite"
      prepare := fun _ _ => pure ()
      execute := fun _ => pure ⟨none, 0, .null⟩
      start := fun _ => pure ()
      commit := fun _ => pure ()
      rollback := fun _ => pure ()
      command := fun _ sql =>
        match SavepointStatement.read sql with
        | some (.release mark) => throw (.raised "OperationalError" mark)
        | _ => pure ()
      insertId := fun _ _ => .null
      close := fun _ => pure () }
  hooks := ⟨fun _ => false, fun _ => pure .null⟩
  sleep _ := pure ()
  adapters := .standard

/-- A savepoint that could not be released is gone back to, while the transaction on another
connection cannot be nested. -/
theorem Session.transactions_nested_unreleasing :
    let main : Opened := ⟨0, Dialect.ofDriver "sqlite", StatementCache.ofSize 8⟩
    let other : Opened := ⟨1, Dialect.ofDriver "oracle", StatementCache.ofSize 8⟩
    let s : Session Unit := ⟨{ opened := [("main", main), ("other", other)] }, ()⟩
    let steps : List (String × TransactionCall) :=
      [("main", .begin), ("other", .begin), ("main", .begin), ("other", .begin),
        ("main", .commit), ("main", .rollback), ("other", .rollback)]
    let t := TransactionCall.recordAll Surroundings.unreleasing s.journaled steps
    (∀ name, s.connections.depth name = 0) ∧
      (∀ step ∈ steps, s.connections.isOpen step.1 = true) ∧
      t.connections.depth "main" = 1 ∧ t.connections.depth "other" = 0 ∧
      (t.journal.callsOf "main").length = 4 ∧ (t.journal.callsOf "other").length = 2 ∧
      WellNested main (t.journal.callsOf "main") (t.connections.depth "main") ∧
      WellNested other (t.journal.callsOf "other") (t.connections.depth "other") := by
  intro main other s steps t
  have hdepth : ∀ name, s.connections.depth name = 0 := fun name => rfl
  have hopen : ∀ step ∈ steps, s.connections.isOpen step.1 = true := by decide
  obtain ⟨-, hnested, -⟩ :=
    Session.transactions_nested Surroundings.unreleasing s hdepth steps hopen
  refine ⟨hdepth, hopen, ?_, ?_, ?_, ?_, hnested "main" main rfl, hnested "other" other rfl⟩
  · decide +kernel
  · decide +kernel
  · decide +kernel
  · decide +kernel

end BoundSql
