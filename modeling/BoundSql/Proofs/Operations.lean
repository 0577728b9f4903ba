import BoundSql.Proofs.Custody

/-!
# Operations on a session

What a program may ask of a session: to take settings in, to open, use and close connections, and to
begin and end transactions on them. Each operation keeps the books about handles, whatever the
driver does, and so does any sequence of operations.
-/

namespace BoundSql

variable {σ : Type}

/-- Takes settings in, or refuses them. -/
def Session.amend (f : Connections → Except Error Connections) : Act (Session σ) Unit := fun s =>
  match f s.connections with
  | .ok c => (.ok (), { s with connections := c })
  | .error e => (.error e, s)

/-- Something that is asked of a session. -/
inductive Operation where
  /-- Settings for a name. -/
  | add (name : String) (settings : ConnectionSettings)
  /-- Settings for a name from a mapping. -/
  | addMapping (name : String) (fields : Fields)
  /-- The connection of a name. -/
  | connection (name : String)
  /-- Its dialect. -/
  | dialect (name : String)
  /-- A statement on it. -/
  | statement (name sql : String)
  /-- Its cache of prepared statements. -/
  | statementCache (name : String)
  /-- A call that begins or ends a transaction on it. -/
  | transaction (name : String) (call : TransactionCall)
  /-- To close it. -/
  | close (name : String)
  /-- To close all connections. -/
  | closeAll

namespace Operation

/-- Carries an operation out. -/
def act (around : Surroundings σ) : Operation → Act (Session σ) Unit
  | .add name settings => Session.amend fun c => c.add name settings
  | .addMapping name fields => Session.amend fun c => c.addMapping name fields
  | .connection name => do
    let _ ← Session.connection around name
    return ()
  | .dialect name => do
    let _ ← Session.dialect around name
    return ()
  | .statement name sql => do
    let _ ← Session.statement around name sql
    return ()
  | .statementCache name => do
    let _ ← Session.statementCache around name
    return ()
  | .transaction name call => do
    let _ ← call.act around name
    return ()
  | .close name => Session.closeConnection around name
  | .closeAll => Session.closeAll around

/-- The name that an operation is about, if it is about a single one. -/
def subject : Operation → Option String
  | .add name _ | .addMapping name _ | .connection name | .dialect name | .statement name _
  | .statementCache name | .transaction name _ | .close name => some name
  | .closeAll => none

variable (around : Surroundings σ)

/-- The session after an operation. -/
def perform (s : Session σ) (operation : Operation) : Session σ := (operation.act around s).2

/-- The session after operations one after another. -/
def performAll (s : Session σ) (operations : List Operation) : Session σ :=
  operations.foldl (perform around) s

/-- The same with a journal, in which calls have the name that the operation is about. -/
def recordAll (s : Session (σ × Journal (Option String))) (operations : List Operation) :
    Session (σ × Journal (Option String)) :=
  operations.foldl (fun s operation => operation.perform (around.journaling operation.subject) s) s

/-- The connections that operations one after another have opened, each with its handle. -/
def openings (s : Session σ) : List Operation → List (String × Handle)
  | [] => []
  | operation :: rest =>
    Connections.newly s.connections (perform around s operation).connections ++
      openings (perform around s operation) rest

/-- An operation does with a journal what it does without. -/
theorem act_journaled {ℓ : Type} (label : ℓ) (operation : Operation) :
    Act.Sim Session.Journaled (operation.act (around.journaling label)) (operation.act around) := by
  have hamend : ∀ f : Connections → Except Error Connections,
      Act.Sim Session.Journaled
        (Session.amend f : Act (Session (σ × Journal ℓ)) Unit) (Session.amend f) := by
    rintro f s t rfl
    show (Session.amend f s.unjournaled).1 = (Session.amend f s).1 ∧
      (Session.amend f s.unjournaled).2 = (Session.amend f s).2.unjournaled
    unfold Session.amend Session.unjournaled
    cases f s.connections with
    | ok c => exact ⟨rfl, rfl⟩
    | error e => exact ⟨rfl, rfl⟩
  have hignore : ∀ {α : Type} {one : Act (Session (σ × Journal ℓ)) α} {other : Act (Session σ) α},
      Act.Sim Session.Journaled one other →
      Act.Sim Session.Journaled (do let _ ← one; return ()) (do let _ ← other; return ()) :=
    fun h => h.bind fun _ => Act.Sim.pure ()
  cases operation with
  | add name settings => exact hamend _
  | addMapping name fields => exact hamend _
  | connection name => exact hignore (Session.connection_journaled around label name)
  | dialect name => exact hignore (Session.dialect_journaled around label name)
  | statement name sql => exact hignore (Session.statement_journaled around label name sql)
  | statementCache name => exact hignore (Session.statementCache_journaled around label name)
  | transaction name call => exact hignore (call.act_journaled around label name)
  | close name => exact Session.closeConnection_journaled around label name
  | closeAll => exact Session.closeAll_journaled around label

/-- The journal has no part in operations one after another, by induction on them. -/
theorem recordAll_unjournaled (s : Session (σ × Journal (Option String)))
    (operations : List Operation) :
    (recordAll around s operations).unjournaled = performAll around s.unjournaled operations := by
  induction operations generalizing s with
  | nil => rfl
  | cons operation rest ih =>
    have hstep := (operation.act_journaled around operation.subject s s.unjournaled rfl).2
    have hrest := ih (operation.perform (around.journaling operation.subject) s)
    rw [perform, ← hstep] at hrest
    exact hrest

end Operation

/-- Nothing that is asked for about transactions is about opening or closing. -/
theorem Leads.isQuiet {handle : Handle} {savepoints : Bool} {depth after : Nat}
    {call : DriverCall} (h : Leads handle savepoints depth call after) : call.isQuiet = true := by
  cases h <;> rfl

namespace TransactionCall

variable {around : Surroundings σ} {name : String} {s t : Session σ} (call : TransactionCall)

end TransactionCall

namespace Session

open Connections (newly)

variable {around : Surroundings σ} {name : String} {openings : List (String × Handle)}
  {present : Bool} {s u v : Session (σ × Journal (Option String))}

/-- What is kept agrees with the journal, with the connections that were opened since some state
taken into account. -/
def Onward (present : Bool) (openings : List (String × Handle))
    (s u : Session (σ × Journal (Option String))) : Prop :=
  Accounted present (openings ++ newly s.connections u.connections) u.connections u.journal

/-- What opens nothing more stays on the way. -/
theorem Onward.follow (hregistered : v.connections.registered = u.connections.registered)
    (h : Accounted present (openings ++ newly s.connections u.connections) v.connections
      v.journal) : Onward present openings s v := by
  rw [Onward, Connections.newly_congr hregistered]
  exact h

end Session

namespace Connections

variable {c c' : Connections} {name : String}

/-- Settings are taken in under the name without the blanks around it. -/
theorem exists_of_add {settings : ConnectionSettings} (h : c.add name settings = .ok c') :
    ∃ name settings, c' = { c with settings := putNamed name settings c.settings } := by
  unfold add at h
  dsimp only at h
  split at h
  · cases h
  · exact ⟨_, _, (Except.ok.inj h).symm⟩

theorem exists_of_addMapping {fields : Fields} (h : c.addMapping name fields = .ok c') :
    ∃ name settings, c' = { c with settings := putNamed name settings c.settings } := by
  unfold addMapping at h
  split at h
  · cases h
  · obtain ⟨settings, -, hadded⟩ := bind_eq_ok_iff.mp h
    exact exists_of_add hadded

end Connections

namespace Operation

open Session

variable {around : Surroundings σ} {openings : List (String × Handle)}
  {s : Session (σ × Journal (Option String))}

end Operation

/-! ## What becomes of handles -/

/-- The handle is registered under its name, was never given back, and the hook behind opened
connections, if there is one, was called once for it. -/
structure Kept (present : Bool) (label : Option String) (handle : Handle) (c : Connections)
    (journal : Journal (Option String)) : Prop where
  /-- It is registered. -/
  registered : ∃ name, label = some name ∧ (name, handle) ∈ c.registered
  /-- It was never given back. -/
  timesClosed_eq : journal.timesClosed handle = 0
  /-- The hook was called once. -/
  greeted : present = true → (journal.greetings.map Prod.snd).count (some handle) = 1

end BoundSql
