import BoundSql.Proofs.Calls
import BoundSql.Proofs.Journal

/-!
# Sessions side by side

Two sessions with the same connections keep the same connections as long as everything that they ask
for outside is alike. This is said once for the whole of a session: from the few things that a
driver, hooks and a clock are asked for it follows for connections, statements, transactions and the
calls of builders.
-/

namespace BoundSql

variable {σ τ α : Type}

/-- Everything that a session asks for outside is alike. -/
structure Surroundings.Parallel (Q : σ → τ → Prop) (around : Surroundings σ)
    (other : Surroundings τ) : Prop where
  /-- Connections are opened alike. -/
  connect : ∀ kind settings,
    Act.Sim Q (around.driver.connect kind settings) (other.driver.connect kind settings)
  /-- Handles speak the same dialects. -/
  dialectName : ∀ handle s t, Q s t →
    other.driver.dialectName handle t = around.driver.dialectName handle s
  /-- Statements are prepared alike. -/
  prepare : ∀ handle sql,
    Act.Sim Q (around.driver.prepare handle sql) (other.driver.prepare handle sql)
  /-- They are executed alike. -/
  execute : ∀ statement,
    Act.Sim Q (around.driver.execute statement) (other.driver.execute statement)
  /-- Transactions are started alike. -/
  start : ∀ handle, Act.Sim Q (around.driver.start handle) (other.driver.start handle)
  /-- They are committed alike. -/
  commit : ∀ handle, Act.Sim Q (around.driver.commit handle) (other.driver.commit handle)
  /-- They are rolled back alike. -/
  rollback : ∀ handle, Act.Sim Q (around.driver.rollback handle) (other.driver.rollback handle)
  /-- Commands are alike. -/
  command : ∀ handle sql,
    Act.Sim Q (around.driver.command handle sql) (other.driver.command handle sql)
  /-- The keys of added rows are the same. -/
  insertId : ∀ handle s t, Q s t →
    other.driver.insertId handle t = around.driver.insertId handle s
  /-- Connections are closed alike. -/
  close : ∀ handle, Act.Sim Q (around.driver.close handle) (other.driver.close handle)
  /-- There are the same hooks. -/
  has : other.hooks.has = around.hooks.has
  /-- They are called alike. -/
  hook : ∀ call, Act.Sim Q (around.hooks.call call) (other.hooks.call call)
  /-- Waiting is alike. -/
  sleep : ∀ time, Act.Sim Q (around.sleep time) (other.sleep time)
  /-- The adapters are the same. -/
  adapters : other.adapters = around.adapters

variable {Q : σ → τ → Prop} {around : Surroundings σ} {other : Surroundings τ}

/-! ## Sessions -/

namespace Session

/-- The same connections, and what is outside is related. -/
structure Parallel (Q : σ → τ → Prop) (s : Session σ) (t : Session τ) : Prop where
  /-- The connections are the same. -/
  connections : t.connections = s.connections
  /-- What is outside is related. -/
  outside : Q s.outside t.outside

/-- The same beside sessions that are side by side. -/
structure Beside {ρ : Type} (Q : σ → τ → Prop) (s : ρ × Session σ) (t : ρ × Session τ) : Prop where
  /-- What is beside the sessions is the same. -/
  same : t.1 = s.1
  /-- The sessions are side by side. -/
  sessions : Parallel Q s.2 t.2

theorem onOutside_parallel {act : Act σ α} {later : Act τ α} (h : Act.Sim Q act later) :
    Act.Sim (Parallel Q) (onOutside act) (onOutside later) :=
  h.within (fun _ _ hst => hst.outside) fun _ _ _ _ hst huv => ⟨hst.connections, huv⟩

theorem update_parallel (f : Connections → Connections) :
    Act.Sim (Parallel Q) (update f) (update f) :=
  Act.Sim.change fun _ _ hst => ⟨congrArg f hst.connections, hst.outside⟩

theorem view_parallel (f : Connections → α) : Act.Sim (Parallel Q) (view f) (view f) :=
  Act.Sim.look fun _ _ hst => congrArg f hst.connections

theorem getSettings_parallel (name : String) :
    Act.Sim (Parallel Q) (getSettings name) (getSettings name) :=
  fun _ _ hst => ⟨congrArg (Connections.getSettings · name) hst.connections, hst⟩

theorem chosenName_parallel (name : Option String) :
    Act.Sim (Parallel Q) (chosenName name) (chosenName name) :=
  fun _ _ hst => ⟨congrArg (Connections.chosenName · name) hst.connections, hst⟩

variable (h : around.Parallel Q other) (name : String)
include h

theorem opens_parallel : around.Opens name (Parallel Q) Eq Eq other where
  settings := Act.linked_eq_iff.mpr (getSettings_parallel name)
  resized {a b} hab := ⟨a.cacheSize, hab ▸ rfl⟩
  adapters := h.adapters
  connect hab kind := hab ▸ onOutside_parallel (h.connect kind _)
  dialectName handle := onOutside_parallel (Act.Sim.look (h.dialectName handle))
  command handle sql := onOutside_parallel (h.command handle sql)
  close handle := onOutside_parallel (h.close handle)
  keep hab handle dialect := by
    subst hab
    exact ⟨rfl, update_parallel _⟩
  notify _ _ := notify_sim h.has (fun call => onOutside_parallel (h.hook call)) _

/-- A connection is found or opened alike. -/
theorem connection_parallel :
    Act.Sim (Parallel Q) (connection around name) (connection other name) := by
  refine Act.linked_eq_iff.mp (connection_linked (opens_parallel h name) fun s t hst => ?_)
  rw [hst.connections]
  cases s.connections.opened.lookup name with
  | none => exact .none
  | some opened => exact .some rfl

theorem dialect_parallel : Act.Sim (Parallel Q) (dialect around name) (dialect other name) :=
  (connection_parallel h name).bind fun _ => Act.Sim.pure _

theorem transactionDepth_parallel :
    Act.Sim (Parallel Q) (transactionDepth around name) (transactionDepth other name) :=
  (connection_parallel h name).bind fun _ => view_parallel _

/-- A statement is found or prepared alike. -/
theorem statement_parallel (sql : String) :
    Act.Sim (Parallel Q) (statement around name sql) (statement other name sql) := by
  refine (connection_parallel h name).bind fun opened => ?_
  have hprepare : Act.Sim Q (prepare around opened.handle sql) (prepare other opened.handle sql) :=
    (h.prepare opened.handle sql).bind fun _ => Act.Sim.pure _
  refine (StatementCache.get_sim hprepare).within (fun s t hst => ?_) fun s t u v hst huv => ?_
  · exact ⟨congrArg (Connections.cacheOf · name) hst.connections, hst.outside⟩
  · refine ⟨?_, huv.2⟩
    rw [hst.connections, huv.1]

/-- Whatever an executor asks for is alike. -/
theorem sim_parallel (sql : String) (params : List Value) :
    around.Sim name sql params (Parallel Q) other where
  configured := (chosenName_parallel (some name)).bind fun chosen =>
    (getSettings_parallel chosen).bind fun _ => Act.Sim.pure chosen
  execute values _ := runBound_sim (statement_parallel h name sql) (fun _ => update_parallel _)
    (fun statement => onOutside_parallel (h.execute statement)) values
  has := h.has
  hook call := onOutside_parallel (h.hook call)
  sleep time := onOutside_parallel (h.sleep time)

theorem insertId_parallel :
    Act.Sim (Parallel Q) (insertId around name) (insertId other name) :=
  (connection_parallel h name).bind fun opened =>
    onOutside_parallel (Act.Sim.look (h.insertId opened.handle))

/-! ## Transactions -/

theorem requireSavepoints_parallel (fault : NestingFault) :
    Act.Sim (Parallel Q) (requireSavepoints around name fault)
      (requireSavepoints other name fault) :=
  (dialect_parallel h name).bind fun _ => Act.Sim.ite (Act.Sim.pure ()) (Act.Sim.throw _)

/-- What is asked for below the first level is alike. -/
theorem nesting_parallel (fault : NestingFault) (handle : Handle) (verb : String)
    (depth after : Nat) :
    Act.Sim (Parallel Q)
      (do
        requireSavepoints around name fault
        savepointCommand around handle verb depth
        update fun c => c.setDepth name after
        return after)
      (do
        requireSavepoints other name fault
        savepointCommand other handle verb depth
        update fun c => c.setDepth name after
        return after) := by
  refine (requireSavepoints_parallel h name fault).bind fun _ => ?_
  refine (onOutside_parallel (h.command handle _)).bind fun _ => ?_
  exact (update_parallel _).bind fun _ => Act.Sim.pure after

/-- A transaction begins alike. -/
theorem begin_parallel : Act.Sim (Parallel Q) (begin around name) (begin other name) := by
  refine (connection_parallel h name).bind fun opened => ?_
  refine (transactionDepth_parallel h name).bind fun depth => ?_
  refine Act.Sim.ite ?_ (nesting_parallel h name _ _ _ _ _)
  refine (onOutside_parallel (h.start opened.handle)).bind fun _ => ?_
  exact (update_parallel _).bind fun _ => Act.Sim.pure 1

/-- It ends alike. -/
theorem ending_parallel {finish : Handle → Act σ Unit} {later : Handle → Act τ Unit}
    (hfinish : ∀ handle, Act.Sim Q (finish handle) (later handle)) (fault : NestingFault)
    (verb : String) :
    Act.Sim (Parallel Q) (ending around name finish fault verb)
      (ending other name later fault verb) := by
  refine (connection_parallel h name).bind fun opened => ?_
  refine (transactionDepth_parallel h name).bind fun depth => ?_
  refine Act.Sim.ite (Act.Sim.pure 0) ?_
  refine Act.Sim.ite ?_ (nesting_parallel h name _ _ _ _ _)
  refine (onOutside_parallel (hfinish opened.handle)).bind fun _ => ?_
  exact (update_parallel _).bind fun _ => Act.Sim.pure 0

end Session

/-- A call about transactions is made alike. -/
theorem TransactionCall.act_parallel (h : around.Parallel Q other) (name : String)
    (call : TransactionCall) :
    Act.Sim (Session.Parallel Q) (call.act around name) (call.act other name) := by
  cases call with
  | begin => exact Session.begin_parallel h name
  | commit => exact Session.ending_parallel h name h.commit _ _
  | rollback => exact Session.ending_parallel h name h.rollback _ _

/-! ## Builders -/

/-- Without a connection a run ends before anything is asked for. -/
theorem Executor.run_unattached (around : Surroundings σ) {x : Executor}
    (h : x.connection = none) (s : Session σ) (sql : String) (params : List Value)
    (returnRows : Bool) :
    run around sql params returnRows (x, s) =
      (BoundValue.ofValues params >>= fun _ =>
        .error (.configuration (.unknownConnection none s.connections.names)), x.clearLast, s) := by
  have hcleared : (x.clearLast).connection = none := h
  rw [run, note, Act.bind_of_ok (Act.change_apply _ _)]
  cases hbound : BoundValue.ofValues params with
  | error e => rfl
  | ok bound =>
    rw [Act.bind_of_ok (Act.ofExcept_apply _ _), Act.bind_of_ok (Act.look_apply _ _), hcleared]
    rfl

namespace Builder

open Session (Beside)

theorem look_parallel (view : Builder → α) :
    Act.Sim (Beside Q) (Act.look fun s : Builder × Session σ => view s.1)
      (Act.look fun t => view t.1) :=
  Act.Sim.look fun _ _ hst => congrArg view hst.same

theorem changeQuery_parallel (f : Query → Except Error Query) :
    Act.Sim (Beside Q) (changeQuery f) (changeQuery f) := by
  refine (look_parallel Builder.query).bind fun q => ?_
  refine (Act.Sim.ofExcept (f q)).bind fun changed => ?_
  refine Act.Sim.change fun s t hst => ⟨?_, hst.sessions⟩
  rw [hst.same]

/-- What is alike on every connection is alike on the one that was chosen, if any. -/
theorem onConnection_parallel {act : String → Act (Session σ) α}
    {later : String → Act (Session τ) α}
    (h : ∀ name, Act.Sim (Session.Parallel Q) (act name) (later name)) :
    Act.Sim (Beside Q) (onConnection act) (onConnection later) := by
  refine (look_parallel Builder.connection).bind fun chosen => ?_
  refine Act.Sim.within ((Session.chosenName_parallel chosen).bind h) (fun _ _ hst => hst.sessions)
    fun _ _ _ _ hst huv => ⟨hst.same, huv⟩

variable (h : around.Parallel Q other)
include h

theorem compile_parallel (compiled : Query → Except Error Compiled) :
    Act.Sim (Beside Q) (compile around compiled) (compile other compiled) := by
  refine (onConnection_parallel (Session.dialect_parallel h)).bind fun dialect => ?_
  refine (look_parallel Builder.query).bind fun q => ?_
  exact (Act.Sim.ofExcept (compiled q)).bind fun c => Act.Sim.pure _

/-- A statement is run alike, with a connection or without. -/
theorem execute_parallel (sql : String) (params : List Value) (returnRows : Bool) :
    Act.Sim (Beside Q) (execute around sql params returnRows)
      (execute other sql params returnRows) := by
  intro s t hst
  have hname : t.1.executor = s.1.executor := congrArg Builder.executor hst.same
  rw [execute, execute, onExecutor, onExecutor, Act.within_apply, Act.within_apply]
  cases hchosen : s.1.executor.connection with
  | some name =>
    have hsim := Executor.run_sim (Session.sim_parallel h name sql params) returnRows
    obtain ⟨hresult, hended⟩ :=
      hsim (s.1.executor, s.2) (t.1.executor, t.2) ⟨hname, hchosen, hst.sessions⟩
    refine ⟨hresult, ?_, hended.sessions⟩
    rw [hended.same, hst.same]
  | none =>
    have hother : t.1.executor.connection = none := by rw [hname, hchosen]
    rw [Executor.run_unattached around hchosen, Executor.run_unattached other hother,
      hst.sessions.connections, hst.same]
    exact ⟨rfl, rfl, hst.sessions⟩

end Builder

section Calls

variable (h : around.Parallel Q other)
include h

theorem Demand.ready_parallel (demand : Demand) :
    Act.Sim (Session.Beside Q) (demand.ready around) (demand.ready other) := by
  cases demand with
  | raw sql params => exact Act.Sim.pure _
  | compiled change compile =>
    exact (Builder.changeQuery_parallel change).bind fun _ => Builder.compile_parallel h compile

/-- A program is carried out alike, by induction on the program. -/
theorem Program.run_parallel (p : Program) :
    Act.Sim (Session.Beside Q) (p.run around) (p.run other) := by
  induction p with
  | finish result =>
    exact (Builder.look_parallel fun b => (b.mode, b.style)).bind fun _ => Act.Sim.ofExcept _
  | key =>
    refine (Builder.look_parallel fun b => b.executor.lastError).bind fun lastError => ?_
    exact Act.Sim.ite (Act.Sim.pure _)
      (Builder.onConnection_parallel (Session.insertId_parallel h))
  | statement demand returnRows next ih =>
    refine (Demand.ready_parallel h demand).bind fun made => ?_
    exact (Builder.execute_parallel h made.1 made.2 returnRows).bind ih

/-- A call of a builder is carried out alike. -/
theorem TerminalCall.act_parallel (call : TerminalCall) :
    Act.Sim (Session.Beside Q) (call.act around) (call.act other) := by
  rw [act_eq, act_eq]
  refine (Program.run_parallel h call.program).always fun s t hst => ?_
  exact ⟨congrArg Builder.reset hst.same, hst.sessions⟩

end Calls

end BoundSql
