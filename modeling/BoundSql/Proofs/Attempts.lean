import BoundSql.Proofs.Simulation
import BoundSql.Proofs.Triple

/-!
# Attempts of a run

A run has three parts: what is checked before anything is sent, the attempts with what the hook
about retries decides, and what becomes of a failure. The second part is told by a tally: how each
attempt ended, what the hook answered and how long was waited. Whatever else is tracked along with a
tally, if the single things that an attempt asks for keep track of it, then so does the whole.
-/

namespace BoundSql

/-! ## Plans for retries -/

/-- What the answer of a hook says about retries. -/
structure RetryPlan where
  /-- The count of further attempts that is asked for. -/
  retries : Int
  /-- Milliseconds to wait before each. -/
  delay : Int
  /-- Whether rows are read then, if that is said. -/
  fetchRows : Option Bool

namespace RetryPlan

/-- The plan without further attempts. -/
def idle : RetryPlan := ⟨0, 0, none⟩

/-- An entry that can be taken for an integer; one that is missing or empty counts as zero. -/
def number (fields : Fields) (name : String) : Except Error Int :=
  match fields.get? (.text name) with
  | some v => if v.truthy then v.toInteger else .ok 0
  | none => .ok 0

/-- Whether rows are read, if an entry says so. -/
def choice (fields : Fields) : Option Bool :=
  match fields.get? (.text "fetch_rows") with
  | some .null => none
  | some v => some v.truthy
  | none => none

/-- Reads an answer; one that is no mapping asks for nothing. -/
def of (answer : Value) : Except Error RetryPlan :=
  match answer.fields? with
  | none => .ok idle
  | some fields => do
    return ⟨← number fields "retries", ← number fields "delay_ms", choice fields⟩

/-- The count of attempts that the plan allows, the first one included. -/
def limit (plan : RetryPlan) : Nat := 1 + plan.retries.toNat

/-- The time to wait has a double near it. -/
def Sleepable (plan : RetryPlan) : Prop := ∃ time, Executor.seconds (max 0 plan.delay) = .ok time

/-- The decision that a plan amounts to. -/
def decision (plan : RetryPlan) : Option RetryDecision :=
  if plan.retries ≤ 0 then none
  else some ⟨plan.retries.toNat, max 0 plan.delay, plan.fetchRows⟩

end RetryPlan

/-! ## Tallies -/

/-- What is known of the attempts to run a statement. -/
structure Tally where
  /-- How the attempts ended. -/
  attempts : List (Except Error StatementResult) := []
  /-- What the hook about retries answered. -/
  answers : List Value := []
  /-- How long was waited. -/
  sleeps : List Double := []

namespace Tally

/-- Another tally behind it. -/
def append (T U : Tally) : Tally :=
  ⟨T.attempts ++ U.attempts, T.answers ++ U.answers, T.sleeps ++ U.sleeps⟩

theorem append_assoc (T U V : Tally) : (T.append U).append V = T.append (U.append V) := by
  simp only [append, List.append_assoc]

theorem append_empty (T : Tally) : T.append {} = T := by
  simp only [append, List.append_nil]

/-- One attempt. -/
def tried (ended : Except Error StatementResult) : Tally := { attempts := [ended] }

/-- One answer. -/
def answered (answer : Value) : Tally := { answers := [answer] }

/-- One wait. -/
def slept (time : Double) : Tally := { sleeps := [time] }

end Tally

namespace UpToSuccess

variable {limit : Nat} {ends : List (Except Error StatementResult)}

end UpToSuccess

/-! ## Parts of a run -/

namespace Executor

variable {σ : Type}

/-- What a statement came to: whether it was tried again, and an outcome or the last failure. -/
structure Settled where
  /-- Further attempts were made. -/
  retried : Bool
  /-- What the last attempt ended with. -/
  ended : Except FailedAttempt Outcome

/-- What is checked before anything is sent. -/
def opening (sql : String) (params : List Value) :
    Act (Executor × Session σ) (Call × List BoundValue) := do
  note clearLast
  let bound ← Act.ofExcept (BoundValue.ofValues params)
  let chosen ← Act.look fun s => s.1.connection
  let name ← onSession (Session.configuredName chosen)
  Act.ofExcept (params.forM Value.checkNumeral)
  return (⟨name, sql, paramNotes noteLimit params⟩, bound)

/-- Further attempts, and what they came to. -/
def tries (around : Surroundings σ) (call : Call) (bound : List BoundValue)
    (fetchRows returnRows : Bool) (delay : Int) :
    Nat → FailedAttempt → Act (Executor × Session σ) (Except FailedAttempt Outcome)
  | 0, last => return .error last
  | left + 1, _ => do
    pause around delay
    match ← attempt around call bound fetchRows returnRows with
    | .ok outcome => return .ok outcome
    | .error again => tries around call bound fetchRows returnRows delay left again

/-- All attempts, and what they came to. -/
def settle (around : Surroundings σ) (call : Call) (bound : List BoundValue)
    (returnRows : Bool) : Act (Executor × Session σ) Settled := do
  match ← attempt around call bound returnRows returnRows with
  | .ok outcome => return ⟨false, .ok outcome⟩
  | .error failed => do
    match ← askRetry around call failed with
    | none => return ⟨false, .error failed⟩
    | some decision => do
      let ended ← tries around call bound (decision.fetchRows.getD returnRows) returnRows
        decision.delay decision.retries failed
      return ⟨true, ended⟩

/-- What becomes of that. -/
def conclude (returnRows : Bool) (x : Settled) : Act (Executor × Session σ) Outcome :=
  match x.ended with
  | .ok outcome => pure outcome
  | .error failed => giveUp returnRows x.retried failed

/-- What the caller gets in place of a failure in safe mode. -/
def neutral (returnRows : Bool) : Outcome := if returnRows then .rows [] else .count 0

/-- What a settled statement means for the caller. The error mode matters only where it failed. -/
def concluded (mode : ErrorMode) (returnRows : Bool) (settled : Settled) : Except Error Outcome :=
  match settled.ended with
  | .ok outcome => .ok outcome
  | .error failed =>
    match mode with
    | .safe => .ok (neutral returnRows)
    | .raise => .error (.queryFailed settled.retried failed.failure failed.error)

/-- The error mode has its say at the end, and nothing is done then. -/
theorem conclude_apply (returnRows : Bool) (settled : Settled) (s : Executor × Session σ) :
    conclude returnRows settled s = (concluded s.1.errorMode returnRows settled, s) := by
  obtain ⟨retried, ended⟩ := settled
  cases ended with
  | ok outcome => rfl
  | error failed =>
    show giveUp returnRows retried failed s = _
    rw [giveUp, Act.bind_of_ok (Act.look_apply _ _), concluded]
    cases s.1.errorMode with
    | safe => rfl
    | raise => rfl

/-- How a statement ends, before the error mode has its say. -/
def ending (around : Surroundings σ) (sql : String) (params : List Value) (returnRows : Bool) :
    Act (Executor × Session σ) Settled := do
  let (call, bound) ← opening sql params
  settle around call bound returnRows

/-- Retrying makes further attempts and then gives up if the last one failed. -/
theorem retry_eq (around : Surroundings σ) (call : Call) (bound : List BoundValue)
    (fetchRows returnRows : Bool) (delay : Int) (left : Nat) (last : FailedAttempt) :
    retry around call bound fetchRows returnRows delay left last =
      (tries around call bound fetchRows returnRows delay left last >>= fun ended =>
        conclude returnRows ⟨true, ended⟩) := by
  induction left generalizing last with
  | zero => rfl
  | succ left ih =>
    rw [retry, tries, Act.bind_assoc]
    refine bind_congr fun _ => ?_
    rw [Act.bind_assoc]
    refine bind_congr fun ended => ?_
    cases ended with
    | ok outcome => rfl
    | error again => exact ih again

/-- A run settles its statement and then lets the error mode have its say. -/
theorem run_eq (around : Surroundings σ) (sql : String) (params : List Value)
    (returnRows : Bool) :
    run around sql params returnRows =
      (ending around sql params returnRows >>= conclude returnRows) := by
  unfold run ending opening
  simp only [Act.bind_assoc, Act.pure_bind]
  refine bind_congr fun _ => bind_congr fun bound => bind_congr fun chosen => ?_
  refine bind_congr fun name => bind_congr fun _ => ?_
  unfold settle
  rw [Act.bind_assoc]
  refine bind_congr fun ended => ?_
  cases ended with
  | ok outcome => rfl
  | error failed =>
    rw [Act.bind_assoc]
    refine bind_congr fun decision => ?_
    cases decision with
    | none => rfl
    | some decision =>
      rw [Act.bind_assoc]
      exact retry_eq around _ _ _ _ _ _ _

/-! ## Attempts and their tally -/

/-- The failed attempt that an error makes. -/
def failedWith (call : Call) (e : Error) : FailedAttempt := ⟨e, call, e.message, e.kind⟩

/-- What is handed to the caller of what the database answered. -/
def outcomeOf (fetchRows returnRows : Bool) (result : StatementResult) : Outcome :=
  if returnRows then .rows (if fetchRows then result.rows.getD [] else [])
  else .count result.rowCount

/-- What an attempt comes to. -/
def handed (call : Call) (fetchRows returnRows : Bool) :
    Except Error StatementResult → Except FailedAttempt Outcome
  | .ok result => .ok (outcomeOf fetchRows returnRows result)
  | .error e => .error (failedWith call e)

/-- The single things that an attempt asks for keep something that goes along with a tally, and none
of them fails but the statement itself. -/
structure Tracks (around : Surroundings σ) (name sql : String) (bound : List BoundValue)
    (K : Tally → Session σ → Prop) : Prop where
  /-- Running the statement is an attempt. -/
  execute : ∀ T, Act.Ends (K T) (Session.runBound around name sql bound) fun r =>
    K (T.append (.tried r))
  /-- Hooks that are only told something are not counted. -/
  notify : ∀ T call, call.point ≠ .retryDecider →
    Act.Triple (K T) (Session.onOutside (around.hooks.notify call)) (fun _ => K T) fun _ => False
  /-- The hook about retries answers with a plan. -/
  consult : ∀ T call error failure,
    Act.Triple (K T) (Session.onOutside (around.hooks.call (.retryDecider call error failure)))
      (fun answer s => K (T.append (.answered answer)) s ∧
        ∃ plan, RetryPlan.of answer = .ok plan ∧ plan.Sleepable) fun _ => False
  /-- Waiting is counted. -/
  sleep : ∀ T time, Act.Triple (K T) (Session.onOutside (around.sleep time))
    (fun _ => K (T.append (.slept time))) fun _ => False

/-- The executor without what it has noted. -/
def setup (x : Executor) : Executor := { x with log := [], lastError := none, lastQuery := none }

theorem pushLog_eq (x : Executor) (entry : LogEntry) :
    x.pushLog entry = { x with log := (x.pushLog entry).log } := by
  unfold pushLog
  split <;> rfl

theorem noteSuccess_setup (success : Success) (x : Executor) :
    (x.noteSuccess success).setup = x.setup := by
  rw [noteSuccess, pushLog_eq]
  rfl

theorem noteFailure_setup (failure : Failure) (x : Executor) :
    (x.noteFailure failure).setup = x.setup := by
  rw [noteFailure, pushLog_eq]
  rfl

variable {around : Surroundings σ} {name sql : String} {bound : List BoundValue}
  {K : Tally → Session σ → Prop} {x : Executor} {T : Tally} {notes : List ParamNote} {α : Type}

end Executor

end BoundSql
