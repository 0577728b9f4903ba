import BoundSql.Proofs.Operations
import BoundSql.Proofs.Scripts
import BoundSql.Proofs.Serving

/-!
# Uses of a shared session

Builders that share a session are used one after another, each in any way: clauses and modes change,
builders are made of others, statements run, transactions begin and end, and the session itself is
asked for its operations. A use that ends with an error leaves what it has reached. Two facts are
proved of each use and by induction of all histories: sessions side by side stay side by side, and
what lasts of the connections through single steps lasts through all.
-/

namespace BoundSql

open Session (Beside)

variable {σ τ ι ρ α : Type}

/-! ## Uses -/

/-- Something that is done with builders that share a session. -/
inductive SharedUse (ι : Type) where
  /-- Changes builders in any way: their clauses, their modes, or which builders there are. -/
  | change (f : (ι → Builder) → ι → Builder)
  /-- Makes a call of a builder that runs statements. -/
  | call (who : ι) (terminal : TerminalCall)
  /-- Makes a call of a builder about transactions. -/
  | transact (who : ι) (asked : TransactionCall)
  /-- Asks a builder for the depth of transactions. -/
  | depth (who : ι)
  /-- Asks a builder for the health of its connection. -/
  | health (who : ι)
  /-- Asks the session for an operation. -/
  | operate (operation : Operation)

namespace SharedUse

variable [DecidableEq ι]

/-- Makes a use. -/
def act (around : Surroundings σ) : SharedUse ι → Act (Shared ι σ) Unit
  | .change f => Act.change fun s => (f s.1, s.2)
  | .call who terminal => do
    let _ ← Shared.onBuilder who (terminal.act around)
    return ()
  | .transact who asked => do
    let _ ← Shared.onBuilder who (Builder.onConnection (asked.act around))
    return ()
  | .depth who => do
    let _ ← Shared.onBuilder who (Builder.transactionDepth around)
    return ()
  | .health who => do
    let _ ← Shared.onBuilder who (Builder.healthCheck around)
    return ()
  | .operate operation => Executor.onSession (operation.act around)

/-- What is reached by a use. -/
def perform (around : Surroundings σ) (s : Shared ι σ) (use : SharedUse ι) : Shared ι σ :=
  (use.act around s).2

/-- What is reached by uses one after another. -/
def performAll (around : Surroundings σ) (uses : List (SharedUse ι)) (s : Shared ι σ) :
    Shared ι σ :=
  uses.foldl (perform around) s

theorem performAll_concat (around : Surroundings σ) (uses : List (SharedUse ι))
    (use : SharedUse ι) (s : Shared ι σ) :
    performAll around (uses ++ [use]) s = perform around (performAll around uses s) use :=
  List.foldl_concat _ _ _ _

/-- A call leaves its builder and the session as it has reached them. -/
theorem perform_call (around : Surroundings σ) (s : Shared ι σ) (who : ι)
    (terminal : TerminalCall) :
    perform around s (.call who terminal) =
      Shared.put who (terminal.act around (Shared.one who s)).2 s := by
  rw [perform, act, Act.bind_apply, Shared.onBuilder, Act.within_apply]
  cases (terminal.act around (Shared.one who s)).1 with
  | ok v => rfl
  | error e => rfl

end SharedUse

/-! ## Side by side -/

section Parallel

variable {Q : σ → τ → Prop} {around : Surroundings σ} {other : Surroundings τ}

/-- What is alike in sessions is alike beside them. -/
theorem Session.onSession_parallel {act : Act (Session σ) α} {later : Act (Session τ) α}
    (h : Act.Sim (Parallel Q) act later) :
    Act.Sim (Beside (ρ := ρ) Q) (Executor.onSession act) (Executor.onSession later) :=
  h.within (fun _ _ hst => hst.sessions) fun _ _ _ _ hst huv => ⟨hst.same, huv⟩

/-- Settings are taken in alike. -/
theorem Session.amend_parallel (f : Connections → Except Error Connections) :
    Act.Sim (Parallel Q) (amend f) (amend f) := by
  intro s t hst
  unfold amend
  rw [hst.connections]
  cases f s.connections with
  | ok c => exact ⟨rfl, rfl, hst.outside⟩
  | error e => exact ⟨rfl, hst⟩

variable (h : around.Parallel Q other)
include h

/-- Connections are closed alike. -/
theorem Session.closeConnection_parallel (name : String) :
    Act.Sim (Parallel Q) (closeConnection around name) (closeConnection other name) := by
  refine (view_parallel _).bind fun opened? => ?_
  refine (update_parallel _).bind fun _ => ?_
  cases opened? with
  | none => exact Act.Sim.pure ()
  | some opened =>
    exact (onOutside_parallel (h.close opened.handle)).attempt.bind fun _ => Act.Sim.pure ()

theorem Session.closeConnections_parallel (names : List String) :
    Act.Sim (Parallel Q) (closeConnections around names) (closeConnections other names) := by
  induction names with
  | nil => exact Act.Sim.pure ()
  | cons name rest ih => exact (closeConnection_parallel h name).bind fun _ => ih

/-- Operations are carried out alike. -/
theorem Operation.act_parallel (operation : Operation) :
    Act.Sim (Session.Parallel Q) (operation.act around) (operation.act other) := by
  have hconnection := Session.connection_parallel h
  cases operation with
  | add name settings => exact Session.amend_parallel fun c => c.add name settings
  | addMapping name fields => exact Session.amend_parallel fun c => c.addMapping name fields
  | connection name => exact (hconnection name).bind fun _ => Act.Sim.pure ()
  | dialect name => exact (Session.dialect_parallel h name).bind fun _ => Act.Sim.pure ()
  | statement name sql =>
    exact (Session.statement_parallel h name sql).bind fun _ => Act.Sim.pure ()
  | statementCache name =>
    exact ((hconnection name).bind fun _ => Session.view_parallel _).bind fun _ => Act.Sim.pure ()
  | transaction name call => exact (call.act_parallel h name).bind fun _ => Act.Sim.pure ()
  | close name => exact Session.closeConnection_parallel h name
  | closeAll =>
    exact (Session.view_parallel _).bind fun names => Session.closeConnections_parallel h names

/-- The health of a connection is asked for alike. -/
theorem Builder.healthCheck_parallel :
    Act.Sim (Beside Q) (healthCheck around) (healthCheck other) := by
  have hprobe : ∀ name, Act.Sim (Session.Parallel Q) (probe around name) (probe other name) := by
    intro name
    refine (Session.connection_parallel h name).bind fun opened => ?_
    refine Session.onOutside_parallel ?_
    refine Act.Sim.bind ((h.prepare opened.handle _).bind fun _ => Act.Sim.pure _) fun p => ?_
    exact (h.execute p).bind fun _ => Act.Sim.pure ()
  unfold healthCheck
  rw [h.has]
  refine Act.Sim.ite ?_ ?_
  · refine (look_parallel Builder.connection).bind fun chosen => ?_
    have hhook := Session.onOutside_parallel (h.hook (.healthCheck chosen))
    exact (Session.onSession_parallel hhook).bind fun _ => Act.Sim.pure _
  · refine (onConnection_parallel hprobe).attempt.bind fun ended => ?_
    cases ended with
    | ok _ => exact Act.Sim.pure true
    | error _ => exact Act.Sim.pure false

/-- What a builder asks for on a connection is alike in sessions side by side. -/
theorem Surroundings.Parallel.hosts (name : String) :
    around.Hosts name (Session.Parallel Q) other where
  connection := Session.connection_parallel h name
  run sql params := Session.sim_parallel h name sql params
  insertId handle := Session.onOutside_parallel (Act.Sim.look (h.insertId handle))

variable [DecidableEq ι]

/-- A use is made alike. -/
theorem SharedUse.act_parallel (use : SharedUse ι) :
    Act.Sim (Beside Q) (use.act around) (use.act other) := by
  cases use with
  | change f => exact Act.Sim.change fun s t hst => ⟨congrArg f hst.same, hst.sessions⟩
  | call who terminal =>
    exact (Shared.onBuilder_parallel (terminal.act_parallel h) who).bind fun _ => Act.Sim.pure ()
  | transact who asked =>
    have hcall := Builder.onConnection_parallel fun name => asked.act_parallel h name
    exact (Shared.onBuilder_parallel hcall who).bind fun _ => Act.Sim.pure ()
  | depth who =>
    have hdepth := Builder.onConnection_parallel (Session.transactionDepth_parallel h)
    exact (Shared.onBuilder_parallel hdepth who).bind fun _ => Act.Sim.pure ()
  | health who =>
    exact (Shared.onBuilder_parallel (Builder.healthCheck_parallel h) who).bind fun _ =>
      Act.Sim.pure ()
  | operate operation => exact Session.onSession_parallel (operation.act_parallel h)

/-- After the same uses sessions are still side by side, by induction on the uses. -/
theorem SharedUse.performAll_parallel (uses : List (SharedUse ι)) {s : Shared ι σ} {t : Shared ι τ}
    (hst : Beside Q s t) : Beside Q (performAll around uses s) (performAll other uses t) := by
  induction uses generalizing s t with
  | nil => exact hst
  | cons use rest ih => exact ih (act_parallel h use s t hst).2

end Parallel

/-! ## What lasts -/

/-- What holds of the connections lasts through each thing that a session does with them. -/
structure Surroundings.Lasting (P : Connections → Prop) (around : Surroundings σ) : Prop
    extends around.Carrying P where
  /-- A statement may be prepared. -/
  statement : ∀ name sql, Session.Lasts P (Session.statement around name sql)
  /-- A depth may be set. -/
  setDepth : ∀ c name depth, P c → P (c.setDepth name depth)
  /-- A connection may be forgotten. -/
  forget : ∀ c name, P c → P (c.forget name)
  /-- Settings may be taken in. -/
  configured : ∀ c settings, P c → P { c with settings := settings }

section Lasting

open Session (Lasts lasts_of_state update_lasts onOutside_lasts)

variable {P : Connections → Prop} {around : Surroundings σ} (h : around.Lasting P)
include h

/-! ### Transactions and closing -/

theorem Session.transactionDepth_lasts (name : String) :
    Lasts P (transactionDepth around name) :=
  (h.connection name).bind fun _ => lasts_of_state fun _ => rfl

/-- What holds of the connections lasts through what is asked for below the first level. -/
theorem Session.nesting_lasts (name : String) (fault : NestingFault) (handle : Handle)
    (verb : String) (depth after : Nat) :
    Lasts P (do
      requireSavepoints around name fault
      savepointCommand around handle verb depth
      update fun c => c.setDepth name after
      return after) := by
  have hrequire : Lasts P (requireSavepoints around name fault) := by
    refine (dialect_lasts h.toCarrying name).bind fun dialect => ?_
    exact Act.Triple.ite (fun _ => Act.Triple.pure fun _ hs => hs) fun _ =>
      Act.Triple.throw fun _ hs => hs
  refine hrequire.bind fun _ => (onOutside_lasts _).bind fun _ => ?_
  refine (update_lasts fun c hc => h.setDepth c name after hc).bind fun _ => ?_
  exact Act.Triple.pure fun _ hs => hs

theorem Session.begin_lasts (name : String) : Lasts P (begin around name) := by
  refine (h.connection name).bind fun opened => ?_
  refine (transactionDepth_lasts h name).bind fun depth => ?_
  refine Act.Triple.ite (fun _ => ?_) fun _ => nesting_lasts h name _ _ _ _ _
  refine (onOutside_lasts _).bind fun _ => ?_
  refine (update_lasts fun c hc => h.setDepth c name 1 hc).bind fun _ => ?_
  exact Act.Triple.pure fun _ hs => hs

theorem Session.ending_lasts (name : String) (finish : Handle → Act σ Unit) (fault : NestingFault)
    (verb : String) : Lasts P (ending around name finish fault verb) := by
  refine (h.connection name).bind fun opened => ?_
  refine (transactionDepth_lasts h name).bind fun depth => ?_
  refine Act.Triple.ite (fun _ => Act.Triple.pure fun _ hs => hs) fun _ => ?_
  refine Act.Triple.ite (fun _ => ?_) fun _ => nesting_lasts h name _ _ _ _ _
  refine (onOutside_lasts _).bind fun _ => ?_
  refine (update_lasts fun c hc => h.setDepth c name 0 hc).bind fun _ => ?_
  exact Act.Triple.pure fun _ hs => hs

theorem TransactionCall.act_lasts (name : String) (call : TransactionCall) :
    Lasts P (call.act around name) := by
  cases call with
  | begin => exact Session.begin_lasts h name
  | commit => exact Session.ending_lasts h name _ _ _
  | rollback => exact Session.ending_lasts h name _ _ _

theorem Session.closeConnection_lasts (name : String) : Lasts P (closeConnection around name) := by
  refine (lasts_of_state fun _ => rfl).bind fun opened? => ?_
  refine (update_lasts fun c hc => h.forget c name hc).bind fun _ => ?_
  cases opened? with
  | none => exact Act.Triple.pure fun _ hs => hs
  | some opened => exact Act.Triple.ignoring (Act.Triple.of_reached fun _ hs => hs)

theorem Session.closeConnections_lasts (names : List String) :
    Lasts P (closeConnections around names) := by
  induction names with
  | nil => exact Act.Triple.pure fun _ hs => hs
  | cons name rest ih => exact (closeConnection_lasts h name).bind fun _ => ih

/-- Settings that are taken in let last what does not depend on them. -/
theorem Session.amend_lasts (f : Connections → Except Error Connections)
    (hf : ∀ c c', f c = .ok c' → ∃ name settings,
      c' = { c with settings := putNamed name settings c.settings }) :
    Lasts P (amend f : Act (Session σ) Unit) := by
  refine Act.Triple.of_reached fun s hs => ?_
  unfold amend
  cases hresult : f s.connections with
  | error e => exact hs
  | ok c =>
    obtain ⟨name, settings, rfl⟩ := hf _ _ hresult
    exact h.configured s.connections _ hs

theorem Operation.act_lasts (operation : Operation) : Lasts P (operation.act around) := by
  cases operation with
  | add name settings =>
    show Lasts P (Session.amend fun c => c.add name settings)
    exact Session.amend_lasts h _ fun _ _ => Connections.exists_of_add
  | addMapping name fields =>
    show Lasts P (Session.amend fun c => c.addMapping name fields)
    exact Session.amend_lasts h _ fun _ _ => Connections.exists_of_addMapping
  | connection name => exact Act.Triple.ignoring (h.connection name)
  | dialect name => exact Act.Triple.ignoring (Session.dialect_lasts h.toCarrying name)
  | statement name sql => exact Act.Triple.ignoring (h.statement name sql)
  | statementCache name =>
    exact Act.Triple.ignoring ((h.connection name).bind fun _ => lasts_of_state fun _ => rfl)
  | transaction name call => exact Act.Triple.ignoring (call.act_lasts h name)
  | close name => exact Session.closeConnection_lasts h name
  | closeAll =>
    exact (lasts_of_state fun _ => rfl).bind fun names => Session.closeConnections_lasts h names

theorem Builder.healthCheck_lasts : Lasts P (healthCheck around) := by
  have hprobe : ∀ name, Session.Lasts P (probe around name) :=
    fun name => (h.connection name).bind fun _ => onOutside_lasts _
  intro chosen
  refine Act.Triple.ite (fun _ => ?_) fun _ => ?_
  · refine Lasts.bind (lasts_of_state fun _ => rfl) (fun name => ?_) chosen
    exact (onSession_lasts (onOutside_lasts _)).bind fun _ => lasts_of_state fun _ => rfl
  · have hattempt : Lasts P (Act.attempt (onConnection (probe around))) := fun chosen =>
      Act.Triple.of_reached ((onConnection_lasts hprobe chosen).always_ends)
    refine Lasts.bind hattempt (fun ended => ?_) chosen
    cases ended with
    | ok _ => exact lasts_of_state fun _ => rfl
    | error _ => exact lasts_of_state fun _ => rfl

/-! ### Shared sessions -/

omit h

/-- An action on a shared session keeps what holds of the connections. -/
def Shared.Lasts (P : Connections → Prop) (act : Act (Shared ι σ) α) : Prop :=
  Act.Triple (fun s => P s.2.connections) act (fun _ s => P s.2.connections)
    fun s => P s.2.connections

theorem Shared.onSession_lasts {act : Act (Session σ) α} (hact : Session.Lasts P act) :
    Lasts (ι := ι) P (Executor.onSession act) :=
  hact.within (fun _ hs => hs) (fun _ _ _ _ ht => ht) fun _ _ _ ht => ht

variable [DecidableEq ι]

/-- What lasts beside one of the builders lasts beside all. -/
theorem Shared.onBuilder_lasts {act : Act (Builder × Session σ) α} (hact : Builder.Lasts P act)
    (who : ι) : Lasts P (onBuilder who act) :=
  Act.Triple.of_reached fun s hs => ((hact _).always_ends (one who s) ⟨rfl, hs⟩).holds

include h

/-- What lasts of the connections lasts through each use. -/
theorem SharedUse.act_lasts (use : SharedUse ι) : Shared.Lasts P (use.act around) := by
  cases use with
  | change f => exact Act.Triple.change fun _ hs => hs
  | call who terminal =>
    exact Act.Triple.ignoring (Shared.onBuilder_lasts (terminal.act_lasts h.toCarrying) who)
  | transact who asked =>
    have hcall := Builder.onConnection_lasts fun name => asked.act_lasts h name
    exact Act.Triple.ignoring (Shared.onBuilder_lasts hcall who)
  | depth who =>
    have hdepth := Builder.onConnection_lasts (Session.transactionDepth_lasts h)
    exact Act.Triple.ignoring (Shared.onBuilder_lasts hdepth who)
  | health who =>
    exact Act.Triple.ignoring (Shared.onBuilder_lasts (Builder.healthCheck_lasts h) who)
  | operate operation => exact Shared.onSession_lasts (operation.act_lasts h)

/-- It lasts through all uses, by induction on the uses. -/
theorem SharedUse.performAll_lasts (uses : List (SharedUse ι)) {s : Shared ι σ}
    (hs : P s.2.connections) : P (performAll around uses s).2.connections := by
  induction uses generalizing s with
  | nil => exact hs
  | cons use rest ih => exact ih ((act_lasts h use).always_ends s hs)

end Lasting

/-! ## Sound caches -/

theorem Session.connection_sound (around : Surroundings σ) (name : String) :
    Session.Lasts Connections.Sound (connection around name) :=
  connection_keeps_connections around fun _ _ _ size hc =>
    hc.keep (StatementCache.holds_ofSize size)

/-- A statement that is found or prepared, on a connection that is found or opened, is kept where it
belongs. -/
theorem Session.statement_sound (around : Surroundings σ) (name sql : String) :
    Session.Lasts Connections.Sound (statement around name sql) := by
  intro s hs
  have hconnected := connection_sound around name s hs
  have hfound := connection_found around name s trivial
  generalize hended : connection around name s = ended at hconnected hfound
  obtain ⟨result, t⟩ := ended
  cases result with
  | error e =>
    rw [statement, Act.bind_of_error hended]
    exact hconnected
  | ok opened =>
    have hstable : Stable name opened t.connections.outline (fun _ => True) t :=
      ⟨hconnected, ⟨opened, hfound, rfl⟩, rfl, trivial⟩
    have hagain : connection around name t = (.ok opened, t) := connection_of_lookup around hfound
    have hsame : statement around name sql s = statement around name sql t := by
      rw [statement, Act.bind_of_ok hended, Act.bind_of_ok hagain]
    have hprepare := Act.Triple.any (P := fun _ => True) (around.driver.prepare opened.handle sql)
    have hmade := statement_ends hprepare.split t hstable
    rw [hsame]
    generalize statement around name sql t = made at hmade
    obtain ⟨result, u⟩ := made
    cases result with
    | ok p => exact hmade.2.sound
    | error e => exact hmade.sound

/-- Caches of prepared statements stay sound. -/
theorem Surroundings.sound_lasting (around : Surroundings σ) :
    around.Lasting Connections.Sound where
  connection name := Session.connection_sound around name
  runBound name sql values :=
    Act.Triple.of_reached fun s hs => (Session.runBound_answers around name sql values s hs).1
  statement name sql := Session.statement_sound around name sql
  setDepth c name depth hc := hc
  forget c name hc := by
    intro other opened hopened
    rw [Connections.forget, lookup_dropNamed] at hopened
    by_cases hother : other = name
    · rw [if_pos hother] at hopened
      cases hopened
    · rw [if_neg hother] at hopened
      exact hc other opened hopened
  configured c settings hc := hc

end BoundSql
