import BoundSql.Proofs.Attempts
import BoundSql.Proofs.Notes
import BoundSql.Proofs.Statements
import Mathlib.Algebra.Group.Nat.Defs

/-!
# Retries

How often a statement is tried, when the hook about retries is asked, how long is waited and what
the caller gets, all told by the notes of a run: for every behaviour of the database, every plan of
the hook, both error modes and both kinds of result. Hooks answer, plans can be read and waited for,
and the connection of the executor can be had; whether a statement can be prepared and executed is
up to the database at each attempt.
-/

namespace BoundSql

variable {σ α : Type}

/-- Hooks answer without errors, about retries with a plan whose delay has a double near it, and
waiting does not fail. -/
structure Surroundings.Calm (around : Surroundings σ) : Prop where
  /-- Every call of a hook is answered. -/
  hook : ∀ call s, ∃ answer, (around.hooks.call call s).1 = .ok answer
  /-- Answers about retries are plans. -/
  plan : ∀ call error failure s answer,
    (around.hooks.call (.retryDecider call error failure) s).1 = .ok answer →
      ∃ plan, RetryPlan.of answer = .ok plan ∧ plan.Sleepable
  /-- Waiting does not fail. -/
  sleep : ∀ time s, (around.sleep time s).1 = .ok ()

namespace Surroundings.Calm

variable {around : Surroundings σ}

theorem notify (h : around.Calm) (call : HookCall) (s : σ) :
    (around.hooks.notify call s).1 = .ok () := by
  unfold Hooks.notify
  split
  · obtain ⟨answer, hanswer⟩ := h.hook call s
    have hcalled : around.hooks.call call s = (.ok answer, (around.hooks.call call s).2) :=
      Prod.ext hanswer rfl
    rw [Act.bind_of_ok hcalled]
    rfl
  · rfl

/-- Writing everything down does not upset anything. -/
theorem noting (h : around.Calm) : around.noting.Calm where
  hook call s := h.hook call s.1
  plan call error failure s := h.plan call error failure s.1
  sleep time s := h.sleep time s.1

end Surroundings.Calm

/-! ## Tallies of notes -/

/-- The tally that notes make. -/
def Tally.of (notes : List Note) : Tally :=
  ⟨notes.filterMap Note.attempt?, notes.filterMap Note.decision?, notes.filterMap Note.sleep?⟩

theorem Tally.of_append (notes more : List Note) :
    Tally.of (notes ++ more) = (Tally.of notes).append (Tally.of more) := by
  simp only [Tally.of, Tally.append, List.filterMap_append]

/-- A note that is neither about an attempt nor about retries nor about waiting does not count. -/
theorem Tally.of_append_singleton {notes : List Note} {note : Note} {T : Tally}
    (h : Tally.of [note] = {}) (hT : Tally.of notes = T) : Tally.of (notes ++ [note]) = T := by
  rw [Tally.of_append, h, Tally.append_empty, hT]

namespace Session

/-- The connection of a name can be had, whatever the world outside is like. -/
def Available (around : Surroundings σ) (name : String) (c : Connections) : Prop :=
  ∀ outside, ∃ opened, (connection around name ⟨c, outside⟩).1 = .ok opened

variable {around : Surroundings σ} {name : String} {c : Connections}

/-- An open connection can be had. -/
theorem available_of_isOpen (h : c.isOpen name = true) : Available around name c := by
  intro outside
  obtain ⟨opened, hopened⟩ := (Connections.isOpen_iff _ _).mp h
  have hfound : connection around name ⟨c, outside⟩ = (.ok opened, ⟨c, outside⟩) :=
    connection_of_lookup around hopened
  exact ⟨opened, congrArg Prod.fst hfound⟩

theorem Available.noting (h : Available around name c) : Available around.noting name c := by
  rintro ⟨outside, notes⟩
  obtain ⟨opened, hopened⟩ := h outside
  have hsim := connection_noting around name ⟨c, outside, notes⟩ ⟨c, outside⟩ rfl
  exact ⟨opened, hsim.1.symm.trans hopened⟩

/-- The connection can be had, and the notes make a tally. -/
structure Tallied (around : Surroundings σ) (name : String) (T : Tally)
    (s : Session (σ × List Note)) : Prop where
  /-- The connection can be had. -/
  available : Available around.noting name s.connections
  /-- The tally of the notes. -/
  tally_eq : Tally.of s.outside.2 = T

/-- What happens outside leaves the connections. -/
theorem outside_tallied {T : Tally} {U : α → Tally} {p : α → Prop} {act : Act (σ × List Note) α}
    (h : Act.Triple (fun s => Tally.of s.2 = T) act (fun a s => Tally.of s.2 = U a ∧ p a)
      fun _ => False) :
    Act.Triple (Tallied around name T) (onOutside act)
      (fun a s => Tallied around name (U a) s ∧ p a) fun _ => False :=
  h.within (fun _ hs => hs.tally_eq) (fun _ _ _ hs ht => ⟨⟨hs.available, ht.1⟩, ht.2⟩)
    fun _ _ _ ht => ht

/-- The connection is opened if it is not open, and that does not count. -/
theorem connection_tallied (around : Surroundings σ) (name : String) (T : Tally) :
    Act.Triple (Tallied around name T) (connection around.noting name)
      (fun _ => OpenWith name fun s => Tally.of s.2 = T) fun _ => False := by
  intro s hs
  have hkeeps := connection_keeps (P := fun _ => True)
    (around.noting_opensKeeping name (K := fun notes => Tally.of notes = T)
      fun notes shown driver ended hT => Tally.of_append_singleton rfl hT)
    (fun _ _ _ _ _ => trivial) s ⟨trivial, hs.tally_eq⟩
  have hfound := connection_found around.noting name s trivial
  obtain ⟨opened, hopened⟩ := hs.available s.outside
  have hok : (connection around.noting name s).1 = .ok opened := hopened
  rw [hok] at hkeeps hfound ⊢
  exact ⟨(Connections.isOpen_iff _ _).mpr ⟨opened, hfound⟩, hkeeps.2⟩

/-- Preparing a statement counts as an attempt if it fails. -/
theorem prepare_tallied (around : Surroundings σ) (T : Tally) (handle : Handle) (sql : String) :
    Act.Ends (fun s => Tally.of s.2 = T) (around.noting.driver.prepare handle sql)
      (Act.Split (fun _ s => Tally.of s.2 = T)
        fun e s => Tally.of s.2 = T.append (.tried (.error e))) := by
  intro s hs
  have hnotes : (around.noting.driver.prepare handle sql s).2.2 =
      s.2 ++ [.prepared handle sql (around.driver.prepare handle sql s.1).1] := rfl
  show Act.Split _ _ (around.driver.prepare handle sql s.1).1 _
  cases hended : (around.driver.prepare handle sql s.1).1 with
  | ok _ =>
    show Tally.of (around.noting.driver.prepare handle sql s).2.2 = T
    rw [hnotes, hended]
    exact Tally.of_append_singleton rfl hs
  | error e =>
    show Tally.of (around.noting.driver.prepare handle sql s).2.2 = _
    rw [hnotes, hended, Tally.of_append, hs]
    rfl

/-- Executing a statement counts as an attempt. -/
theorem execute_tallied (around : Surroundings σ) (T : Tally) (p : Prepared) :
    Act.Ends (fun s => Tally.of s.2 = T) (around.noting.driver.execute p) fun r s =>
      Tally.of s.2 = T.append (.tried r) := by
  intro s hs
  have hnotes : (around.noting.driver.execute p s).2.2 =
      s.2 ++ [.executed p.sql p.boundValues (around.noting.driver.execute p s).1] := rfl
  show Tally.of (around.noting.driver.execute p s).2.2 = _
  rw [hnotes, Tally.of_append, hs]
  rfl

/-- Running a statement is one attempt. -/
theorem runBound_tallied (around : Surroundings σ) (name sql : String) (bound : List BoundValue)
    (T : Tally) :
    Act.Ends (Tallied around name T) (runBound around.noting name sql bound) fun r =>
      Tallied around name (T.append (.tried r)) := by
  intro s hs
  have hconnected := connection_tallied around name T s hs
  generalize hended : connection around.noting name s = ended at hconnected
  obtain ⟨result, t⟩ := ended
  cases result with
  | error e => exact hconnected.elim
  | ok opened =>
    rw [runBound_of_connection_ok hended]
    have hrun := runBound_openWith (prepare_tallied around T · sql) (execute_tallied around T) bound
      t hconnected
    exact ⟨available_of_isOpen hrun.1, hrun.2⟩

end Session

/-- In calm surroundings notes make the tally of all that an attempt asks for. -/
theorem Surroundings.Calm.tracks {around : Surroundings σ} (h : around.Calm) (name sql : String)
    (bound : List BoundValue) :
    Executor.Tracks around.noting name sql bound (Session.Tallied around name) where
  execute T := Session.runBound_tallied around name sql bound T
  notify T call hcall := by
    have hkept : Act.Triple (fun s => Tally.of s.2 = T) (around.noting.hooks.notify call)
        (fun _ s => Tally.of s.2 = T ∧ True) fun _ => False := by
      refine (around.noting_notify (K := fun notes => Tally.of notes = T) call
        fun notes ended hT => Tally.of_append_singleton ?_ hT).unfailing
          (fun s _ => ⟨(), h.noting.notify call s⟩) |>.weaken (fun _ hs => hs)
          (fun _ _ hs => ⟨hs, trivial⟩) fun _ hs => hs
      cases call with
      | retryDecider call error failure => exact absurd rfl hcall
      | _ => rfl
    exact (Session.outside_tallied hkept).weaken (fun _ hs => hs) (fun _ _ hs => hs.1)
      fun _ hs => hs
  consult T call error failure := by
    refine Session.outside_tallied (U := fun answer => T.append (.answered answer)) fun s hs => ?_
    obtain ⟨answer, hanswer⟩ := h.hook (.retryDecider call error failure) s.1
    have hplan := h.plan call error failure s.1 answer hanswer
    have hok : (around.noting.hooks.call (.retryDecider call error failure) s).1 = .ok answer :=
      hanswer
    have hnotes : (around.noting.hooks.call (.retryDecider call error failure) s).2.2 =
        s.2 ++ [.called (.retryDecider call error failure) (.ok answer)] := by
      rw [← hanswer]
      rfl
    rw [hok]
    refine ⟨?_, hplan⟩
    rw [hnotes, Tally.of_append, hs]
    rfl
  sleep T time := by
    have hslept : Act.Triple (fun s => Tally.of s.2 = T) (around.noting.sleep time)
        (fun _ s => Tally.of s.2 = T.append (.slept time) ∧ True) fun _ => False := by
      intro s hs
      have hok : (around.noting.sleep time s).1 = .ok () := h.sleep time s.1
      have hnotes : (around.noting.sleep time s).2.2 = s.2 ++ [.slept time] := rfl
      rw [hok]
      refine ⟨?_, trivial⟩
      rw [hnotes, Tally.of_append, hs]
      rfl
    exact (Session.outside_tallied hslept).weaken (fun _ hs => hs) (fun _ _ hs => hs.1)
      fun _ hs => hs

namespace Executor

end Executor

/-- A database on which the first statement fails and every later one gives one row. The hook about
retries has one answer. -/
def Surroundings.flaky (answer : Value) : Surroundings ℕ where
  driver :=
    { connect := fun _ _ => pure 0
      dialectName := fun _ _ => "sqlite"
      prepare := fun _ _ => pure ()
      execute := fun _ => do
        let count ← Act.look fun count => count
        Act.change (· + 1)
        if count = 0 then throw (.raised "OperationalError" "server has gone away")
        else return ⟨some [[(.text "id", .int 7)]], 1, .null⟩
      start := fun _ => pure ()
      commit := fun _ => pure ()
      rollback := fun _ => pure ()
      command := fun _ _ => pure ()
      insertId := fun _ _ => .null
      close := fun _ => pure () }
  hooks := ⟨fun point => point = .retryDecider, fun _ => pure answer⟩
  sleep _ := pure ()
  adapters := .standard

end BoundSql
