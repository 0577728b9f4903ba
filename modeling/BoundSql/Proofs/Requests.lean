import BoundSql.Proofs.Triple
import BoundSql.Session.Transactions

/-!
# Requests to a connection

What builders ask of one connection: to begin, commit or roll back a transaction, or to run a
statement with an executor of theirs. Requests are made one after another, and each leaves its state
to the next one, also when it fails. A report says of a request how deep transactions were nested
when it was made and whether it succeeded.
-/

namespace BoundSql

namespace Session

variable {σ : Type} (around : Surroundings σ) (name : String)

/-- Ends the innermost transaction: the real one with what the driver has for that, a nested one
with a statement about its savepoint. -/
def ending (finish : Handle → Act σ Unit) (fault : NestingFault) (verb : String) :
    Act (Session σ) Nat := do
  let opened ← connection around name
  let depth ← transactionDepth around name
  if depth = 0 then return 0
  else if depth = 1 then
    onOutside (finish opened.handle)
    update fun c => c.setDepth name 0
    return 0
  else
    requireSavepoints around name fault
    savepointCommand around opened.handle verb depth
    update fun c => c.setDepth name (depth - 1)
    return depth - 1

theorem commit_eq_ending :
    commit around name = ending around name around.driver.commit .commit "RELEASE SAVEPOINT " :=
  rfl

theorem rollback_eq_ending :
    rollback around name =
      ending around name around.driver.rollback .rollback "ROLLBACK TO SAVEPOINT " := rfl

end Session

/-- A request to a connection. -/
inductive Request where
  /-- Starts a transaction, or a nested one. -/
  | begin
  /-- Commits the innermost transaction. -/
  | commit
  /-- Rolls the innermost transaction back. -/
  | rollback
  /-- Runs a statement with an executor. -/
  | run (executor : Executor) (sql : String) (params : List Value) (returnRows : Bool)

/-- What is known of a request that was made. -/
structure Report where
  /-- The request. -/
  request : Request
  /-- The depth of transactions before it. -/
  depth : Nat
  /-- It succeeded. -/
  succeeded : Bool

namespace Request

variable {σ τ : Type} (around : Surroundings σ) (name : String)

/-- Carries a request out. -/
def act : Request → Act (Session σ) Unit
  | .begin => do
    let _ ← Session.begin around name
    return ()
  | .commit => do
    let _ ← Session.commit around name
    return ()
  | .rollback => do
    let _ ← Session.rollback around name
    return ()
  | .run executor sql params returnRows =>
    Act.within (fun s => ({ executor with connection := some name }, s)) (fun t _ => t.2) do
      let _ ← Executor.run around sql params returnRows
      return ()

/-- The session after a request. -/
def perform (s : Session σ) (request : Request) : Session σ := (request.act around name s).2

/-- The session after requests that are made one after another. -/
def performAll (s : Session σ) (requests : List Request) : Session σ :=
  requests.foldl (perform around name) s

/-- The report of a request. -/
def report (s : Session σ) (request : Request) : Report :=
  ⟨request, s.connections.depth name, (request.act around name s).1.isOk⟩

/-- The reports of requests that are made one after another. -/
def reports (s : Session σ) : List Request → List Report
  | [] => []
  | request :: rest => report around name s request :: reports (perform around name s request) rest

variable {around name} {R : Session σ → Session τ → Prop} {other : Surroundings τ}

/-- A statement runs alike where what executors ask for is alike. -/
theorem run_sim {sql : String} {params : List Value} (h : around.Sim name sql params R other)
    (executor : Executor) (returnRows : Bool) :
    Act.Sim R ((run executor sql params returnRows).act around name)
      ((run executor sql params returnRows).act other name) := by
  have hrun := (Executor.run_sim h returnRows).bind fun _ => Act.Sim.pure ()
  exact hrun.within (fun _ _ hst => ⟨rfl, rfl, hst⟩) fun _ _ _ _ _ huv => huv.sessions

/-- A request succeeds with what holds after a good end or fails with what holds after a bad one. -/
theorem performed {P Q E : Session σ → Prop} (request : Request) {s : Session σ}
    (h : Act.Triple P (request.act around name) (fun _ => Q) E) (hs : P s) :
    (report around name s request).succeeded = true ∧ Q (perform around name s request) ∨
      (report around name s request).succeeded = false ∧ E (perform around name s request) := by
  have hend := h s hs
  unfold report perform
  generalize (request.act around name s).1 = result at hend ⊢
  cases result with
  | ok a => exact .inl ⟨rfl, hend⟩
  | error e => exact .inr ⟨rfl, hend⟩

end Request

end BoundSql
