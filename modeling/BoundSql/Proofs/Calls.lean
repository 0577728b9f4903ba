import BoundSql.Proofs.Histories

/-!
# Calls that run alike

A call of a builder asks for the connection, for runs of statements and for the key of an added row.
Two builders on one connection carry a call out alike as soon as these things are alike in their
sessions: they end with the same result, they hand the same over to be run, and they are left in
related states. Notes about the world outside are such a case.
-/

namespace BoundSql

variable {σ τ α : Type}

/-- What a builder asks for on a connection is alike in two sessions. -/
structure Surroundings.Hosts (name : String) (R : Session σ → Session τ → Prop)
    (around : Surroundings σ) (other : Surroundings τ) : Prop where
  /-- The connection is asked for alike. -/
  connection : Act.Sim R (Session.connection around name) (Session.connection other name)
  /-- Statements are run alike. -/
  run : ∀ sql params, around.Sim name sql params R other
  /-- The key of an added row is looked up alike. -/
  insertId : ∀ handle, Act.Sim R (Session.onOutside (Act.look (around.driver.insertId handle)))
    (Session.onOutside (Act.look (other.driver.insertId handle)))

namespace Builder

/-- The same builder on a connection in related sessions. -/
structure Alike (name : String) (R : Session σ → Session τ → Prop) (s : Builder × Session σ)
    (t : Builder × Session τ) : Prop where
  /-- The builders are the same. -/
  same : t.1 = s.1
  /-- They are on the connection. -/
  connection : s.1.connection = some name
  /-- The sessions are related. -/
  sessions : R s.2 t.2

variable {name : String} {R : Session σ → Session τ → Prop} {around : Surroundings σ}
  {other : Surroundings τ}

/-- What is alike for executors is alike for builders. -/
theorem onExecutor_sim {act : Act (Executor × Session σ) α} {later : Act (Executor × Session τ) α}
    (h : Act.Sim (Executor.Alike name R) act later) :
    Act.Sim (Alike name R) (onExecutor act) (onExecutor later) := by
  refine h.within (fun s t hst => ?_) fun s t u v hst huv => ?_
  · exact ⟨congrArg Builder.executor hst.same, hst.connection, hst.sessions⟩
  · refine ⟨?_, huv.connection, huv.sessions⟩
    rw [hst.same, huv.same]

/-- What is alike on the connection is alike for builders. -/
theorem onConnection_sim {act : String → Act (Session σ) α} {later : String → Act (Session τ) α}
    (h : Act.Sim R (act name) (later name)) :
    Act.Sim (Alike name R) (onConnection act) (onConnection later) := by
  intro s t hst
  have hname : t.1.connection = some name := hst.same ▸ hst.connection
  obtain ⟨hresult, hsessions⟩ := h s.2 t.2 hst.sessions
  rw [onConnection_apply hst.connection, onConnection_apply hname]
  exact ⟨hresult, hst.same, hst.connection, hsessions⟩

/-- What is seen of the builder is the same. -/
theorem look_sim (view : Builder → α) :
    Act.Sim (Alike name R) (Act.look fun s : Builder × Session σ => view s.1)
      (Act.look fun t => view t.1) :=
  Act.Sim.look fun _ _ hst => congrArg view hst.same

theorem changeQuery_sim (f : Query → Except Error Query) :
    Act.Sim (Alike name R) (changeQuery f) (changeQuery f) := by
  refine (look_sim Builder.query).bind fun q => ?_
  refine (Act.Sim.ofExcept (f q)).bind fun changed => ?_
  refine Act.Sim.change fun s t hst => ⟨?_, hst.connection, hst.sessions⟩
  rw [hst.same]

theorem dialect_sim (h : around.Hosts name R other) :
    Act.Sim (Alike name R) (dialect around) (dialect other) :=
  onConnection_sim (h.connection.bind fun _ => Act.Sim.pure _)

theorem compile_sim (h : around.Hosts name R other) (compile : Query → Except Error Compiled) :
    Act.Sim (Alike name R) (Builder.compile around compile) (Builder.compile other compile) := by
  refine (dialect_sim h).bind fun dialect => ?_
  refine (look_sim Builder.query).bind fun q => ?_
  exact (Act.Sim.ofExcept (compile q)).bind fun c => Act.Sim.pure _

theorem execute_sim (h : around.Hosts name R other) (sql : String) (params : List Value)
    (returnRows : Bool) :
    Act.Sim (Alike name R) (execute around sql params returnRows)
      (execute other sql params returnRows) :=
  onExecutor_sim (Executor.run_sim (h.run sql params) returnRows)

theorem present_sim (result : FetchMode → JsonStyle → Except Error α) :
    Act.Sim (Alike name R) (present result) (present result) :=
  (look_sim fun b => (b.mode, b.style)).bind fun _ => Act.Sim.ofExcept _

end Builder

variable {name : String} {R : Session σ → Session τ → Prop} {around : Surroundings σ}
  {other : Surroundings τ}

theorem Demand.ready_sim (h : around.Hosts name R other) (demand : Demand) :
    Act.Sim (Builder.Alike name R) (demand.ready around) (demand.ready other) := by
  cases demand with
  | raw sql params => exact Act.Sim.pure _
  | compiled change compile =>
    exact (Builder.changeQuery_sim change).bind fun _ => Builder.compile_sim h compile

namespace Program

theorem key_sim (h : around.Hosts name R other) :
    Act.Sim (Builder.Alike name R) (key.run around) (key.run other) := by
  refine (Builder.look_sim fun b => b.executor.lastError).bind fun lastError => ?_
  refine Act.Sim.ite (Act.Sim.pure _) ?_
  exact Builder.onConnection_sim (h.connection.bind fun opened => h.insertId opened.handle)

/-- A program is carried out alike, and what it hands over is the same, by induction on the
program. -/
theorem recorded_sim (h : around.Hosts name R other) (p : Program) {s : Builder × Session σ}
    {t : Builder × Session τ} (hst : Builder.Alike name R s t) :
    (p.recorded other t).1 = (p.recorded around s).1 ∧
      (p.recorded other t).2.1 = (p.recorded around s).2.1 ∧
      Builder.Alike name R (p.recorded around s).2.2 (p.recorded other t).2.2 := by
  induction p generalizing s t with
  | finish result => exact ⟨rfl, Builder.present_sim result s t hst⟩
  | key => exact ⟨rfl, key_sim h s t hst⟩
  | statement demand returnRows next ih =>
    have hsame := Demand.ready_sim h demand
    cases goes around demand returnRows s with
    | refused hready =>
      obtain ⟨u, hother, hended⟩ := hsame.exists_of_eq hst hready
      rw [recorded_of_refused hready, recorded_of_refused hother]
      exact ⟨rfl, rfl, hended⟩
    | @failed sql params _ _ _ hready hexecute =>
      obtain ⟨u, hother, hmade⟩ := hsame.exists_of_eq hst hready
      obtain ⟨v, hlater, hended⟩ :=
        (Builder.execute_sim h sql params returnRows).exists_of_eq hmade hexecute
      rw [recorded_of_failed hready hexecute, recorded_of_failed hother hlater]
      exact ⟨rfl, rfl, hended⟩
    | @passed sql params outcome _ _ hready hexecute =>
      obtain ⟨u, hother, hmade⟩ := hsame.exists_of_eq hst hready
      obtain ⟨v, hlater, hended⟩ :=
        (Builder.execute_sim h sql params returnRows).exists_of_eq hmade hexecute
      obtain ⟨hexchanges, hrest⟩ := ih outcome hended
      rw [recorded_of_passed hready hexecute, recorded_of_passed hother hlater]
      exact ⟨congrArg (List.cons _) hexchanges, hrest⟩

theorem run_sim (h : around.Hosts name R other) (p : Program) :
    Act.Sim (Builder.Alike name R) (p.run around) (p.run other) := by
  intro s t hst
  rw [← recorded_run, ← recorded_run]
  exact (recorded_sim h p hst).2

theorem exchanges_sim (h : around.Hosts name R other) (p : Program) {s : Builder × Session σ}
    {t : Builder × Session τ} (hst : Builder.Alike name R s t) :
    p.exchanges other t = p.exchanges around s :=
  (recorded_sim h p hst).1

end Program

/-- A call is carried out alike. -/
theorem TerminalCall.act_sim (h : around.Hosts name R other) (call : TerminalCall) :
    Act.Sim (Builder.Alike name R) (call.act around) (call.act other) := by
  rw [act_eq, act_eq]
  refine (Program.run_sim h call.program).always fun s t hst => ?_
  exact ⟨congrArg Builder.reset hst.same, hst.connection, hst.sessions⟩

/-- Notes have no part in what a builder asks for. -/
theorem Surroundings.noting_hosts (around : Surroundings σ) (name : String) :
    around.noting.Hosts name Session.Noted around where
  connection := Session.connection_noting around name
  run sql params := around.noting_sim sql params
  insertId handle := by
    rintro s t rfl
    exact ⟨rfl, rfl⟩

end BoundSql
