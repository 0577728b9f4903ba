import BoundSql.Proofs.Parallel

/-!
# What lasts of the connections

A property of the connections that lasts when a connection is opened and when a statement runs lasts
through every call of a builder that runs statements, and the builder stays on its connection. This
is said once for every such property.
-/

namespace BoundSql

variable {σ α β : Type} {P : Connections → Prop}

namespace Session

/-- An action keeps what holds of the connections. -/
def Lasts (P : Connections → Prop) (act : Act (Session σ) α) : Prop :=
  Act.Triple (fun s => P s.connections) act (fun _ s => P s.connections) fun s => P s.connections

theorem Lasts.bind {act : Act (Session σ) α} {next : α → Act (Session σ) β} (h : Lasts P act)
    (hnext : ∀ a, Lasts P (next a)) : Lasts P (act >>= next) :=
  Act.Triple.bind h hnext

/-- What leaves the session lets everything last. -/
theorem lasts_of_state {act : Act (Session σ) α} (h : ∀ s, (act s).2 = s) : Lasts P act :=
  Act.Triple.of_state h

theorem update_lasts {f : Connections → Connections} (hf : ∀ c, P c → P (f c)) :
    Lasts P (update f : Act (Session σ) Unit) :=
  Act.Triple.change fun s hs => hf s.connections hs

/-- What happens outside leaves the connections. -/
theorem onOutside_lasts (act : Act σ α) : Lasts P (onOutside act) :=
  Act.Triple.of_reached fun _ hs => hs

end Session

open Session (Lasts)

/-- What holds of the connections lasts when one is opened and when a statement runs. -/
structure Surroundings.Carrying (P : Connections → Prop) (around : Surroundings σ) : Prop where
  /-- A connection may be opened. -/
  connection : ∀ name, Lasts P (Session.connection around name)
  /-- A statement may be run. -/
  runBound : ∀ name sql values, Lasts P (Session.runBound around name sql values)

theorem Session.dialect_lasts {around : Surroundings σ} (h : around.Carrying P) (name : String) :
    Lasts P (dialect around name) :=
  (h.connection name).bind fun _ => lasts_of_state fun _ => rfl

/-! ## Builders -/

namespace Builder

/-- A builder is on a connection, and something holds of the connections. -/
structure On (chosen : Option String) (P : Connections → Prop) (s : Builder × Session σ) :
    Prop where
  /-- The builder is on the connection. -/
  connection : s.1.connection = chosen
  /-- Something holds of the connections. -/
  holds : P s.2.connections

/-- An action leaves builders on their connections and keeps what holds of the connections. -/
def Lasts (P : Connections → Prop) (act : Act (Builder × Session σ) α) : Prop :=
  ∀ chosen, Act.Triple (On chosen P) act (fun _ => On chosen P) (On chosen P)

theorem Lasts.bind {act : Act (Builder × Session σ) α} {next : α → Act (Builder × Session σ) β}
    (h : Lasts P act) (hnext : ∀ a, Lasts P (next a)) : Lasts P (act >>= next) :=
  fun chosen => (h chosen).bind fun a => hnext a chosen

/-- What leaves the state alone keeps it. -/
theorem lasts_of_state {act : Act (Builder × Session σ) α} (h : ∀ s, (act s).2 = s) :
    Lasts P act :=
  fun _ => Act.Triple.of_state h

/-- What lasts in a session lasts beside it. -/
theorem onSession_lasts {act : Act (Session σ) α} (h : Session.Lasts P act) :
    Lasts P (onSession act) :=
  fun _ => h.within (fun _ hs => hs.holds) (fun _ _ _ hs ht => ⟨hs.connection, ht⟩)
    fun _ _ hs ht => ⟨hs.connection, ht⟩

theorem changeQuery_lasts (f : Query → Except Error Query) :
    Lasts P (changeQuery f : Act (Builder × Session σ) Unit) := by
  refine Lasts.bind (lasts_of_state fun _ => rfl) fun q => ?_
  refine Lasts.bind (lasts_of_state fun _ => rfl) fun changed => ?_
  exact fun _ => Act.Triple.change fun _ hs => ⟨hs.connection, hs.holds⟩

/-- What lasts on every connection lasts on the one that was chosen. -/
theorem onConnection_lasts {act : String → Act (Session σ) α}
    (h : ∀ name, Session.Lasts P (act name)) : Lasts P (onConnection act) := by
  refine Lasts.bind (lasts_of_state fun _ => rfl) fun chosen => ?_
  exact onSession_lasts ((Session.lasts_of_state fun _ => rfl).bind h)

variable {around : Surroundings σ} (h : around.Carrying P)
include h

theorem compile_lasts (compiled : Query → Except Error Compiled) :
    Lasts P (compile around compiled) := by
  refine Lasts.bind (onConnection_lasts (Session.dialect_lasts h)) fun dialect => ?_
  refine Lasts.bind (lasts_of_state fun _ => rfl) fun q => ?_
  exact Lasts.bind (lasts_of_state fun _ => rfl) fun _ => lasts_of_state fun _ => rfl

theorem execute_lasts (sql : String) (params : List Value) (returnRows : Bool) :
    Lasts P (execute around sql params returnRows) := by
  refine fun chosen => Act.Triple.of_reached fun s hs => ?_
  rw [execute, onExecutor, Act.within_apply]
  cases hname : s.1.executor.connection with
  | some name =>
    have hkept := Executor.run_keeps params (h.runBound name sql) returnRows
      (s := (s.1.executor, s.2)) hname hs.holds
    exact ⟨hkept.1.trans (hname.symm.trans hs.connection), hkept.2⟩
  | none =>
    rw [Executor.run_unattached around hname]
    exact ⟨hs.connection, hs.holds⟩

end Builder

section Calls

variable {around : Surroundings σ} (h : around.Carrying P)
include h

theorem Demand.ready_lasts (demand : Demand) : Builder.Lasts P (demand.ready around) := by
  cases demand with
  | raw sql params => exact Builder.lasts_of_state fun _ => rfl
  | compiled change compile =>
    exact (Builder.changeQuery_lasts change).bind fun _ => Builder.compile_lasts h compile

/-- What lasts of the connections lasts through a program, by induction on the program. -/
theorem Program.run_lasts (p : Program) : Builder.Lasts P (p.run around) := by
  induction p with
  | finish result => exact Builder.lasts_of_state fun _ => rfl
  | key =>
    refine Builder.Lasts.bind (Builder.lasts_of_state fun _ => rfl) fun lastError => ?_
    have hkey : Builder.Lasts P (Builder.onConnection (Session.insertId around)) :=
      Builder.onConnection_lasts fun name =>
        (h.connection name).bind fun _ => Session.onOutside_lasts _
    exact fun chosen => Act.Triple.ite (fun _ => Act.Triple.pure fun _ hs => hs) fun _ =>
      hkey chosen
  | statement demand returnRows next ih =>
    refine (Demand.ready_lasts h demand).bind fun made => ?_
    exact (Builder.execute_lasts h made.1 made.2 returnRows).bind ih

/-- What lasts of the connections lasts through a call that runs statements, however it ends. -/
theorem TerminalCall.act_lasts (call : TerminalCall) : Builder.Lasts P (call.act around) := by
  intro chosen
  rw [act_eq]
  exact (Program.run_lasts h call.program chosen).always
    (fun _ _ hs => ⟨hs.connection, hs.holds⟩) fun _ hs => ⟨hs.connection, hs.holds⟩

end Calls

end BoundSql
