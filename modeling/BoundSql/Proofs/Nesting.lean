import BoundSql.Proofs.Connections
import BoundSql.Proofs.Requests
import BoundSql.Proofs.Savepoints

/-!
# Nested transactions on a database with savepoints

A session nests transactions by the names of savepoints and a depth. The main statement is that on a
database with savepoints this is the same as a stack of snapshots: whichever requests are made, the
content is what the stack has, and the depth is its height. What statements do to the content is
left open, as are the hooks and everything else outside.
-/

namespace BoundSql

variable {κ ρ α β : Type}

/-! ## A database with savepoints -/

namespace Surroundings

/-- Does something that has no part in transactions. -/
def onData (act : Act (κ × ρ) α) : Act ((κ × ρ) × TransactionLog κ) α :=
  Act.within Prod.fst (fun t s => (t, s.2)) act

/-- Takes a step of transactions. One that cannot be taken is an error of the database. -/
def transacting (step : κ × TransactionLog κ → Option (κ × TransactionLog κ)) :
    Act ((κ × ρ) × TransactionLog κ) Unit := fun s =>
  match step (s.1.1, s.2) with
  | some (content, log) => (.ok (), ((content, s.1.2), log))
  | none => (.error (.raised "OperationalError" "no such transaction or savepoint"), s)

/-- Rolls back what is open. -/
def abandon (s : (κ × ρ) × TransactionLog κ) : (κ × ρ) × TransactionLog κ :=
  match s.2.before with
  | some before => ((before, s.1.2), {})
  | none => (s.1, {})

variable (around : Surroundings (κ × ρ))

/-- The driver of a database with savepoints. Apart from transactions it does what another one
does. -/
def savepointDriver : Driver ((κ × ρ) × TransactionLog κ) where
  connect kind settings := onData (around.driver.connect kind settings)
  dialectName handle s := around.driver.dialectName handle s.1
  prepare handle sql := onData (around.driver.prepare handle sql)
  execute p := onData (around.driver.execute p)
  start _ := transacting TransactionLog.start
  commit _ := transacting TransactionLog.commit
  rollback _ := transacting TransactionLog.rollback
  command handle sql :=
    match SavepointStatement.read sql with
    | some statement => transacting (TransactionLog.apply statement)
    | none => onData (around.driver.command handle sql)
  insertId handle s := around.driver.insertId handle s.1
  close handle := do
    Act.change abandon
    onData (around.driver.close handle)

/-- The same surroundings with savepoints and transactions in the database. -/
def withSavepoints : Surroundings ((κ × ρ) × TransactionLog κ) where
  driver := around.savepointDriver
  hooks := { has := around.hooks.has, call := fun call => onData (around.hooks.call call) }
  sleep time := onData (around.sleep time)
  adapters := around.adapters

theorem command_of_read {sql : String} {statement : SavepointStatement} (handle : Handle)
    (h : SavepointStatement.read sql = some statement) :
    around.withSavepoints.driver.command handle sql =
      transacting (TransactionLog.apply statement) := by
  simp only [withSavepoints, savepointDriver, h]

theorem command_of_read_none {sql : String} (handle : Handle)
    (h : SavepointStatement.read sql = none) :
    around.withSavepoints.driver.command handle sql =
      onData (around.driver.command handle sql) := by
  simp only [withSavepoints, savepointDriver, h]

end Surroundings

/-! ## A stack of snapshots -/

/-- A session with the contents that were saved, the latest first. Its own surroundings know no
transactions. -/
structure SnapshotSession (κ ρ : Type) where
  /-- The session. -/
  session : Session (κ × ρ)
  /-- The saved contents. -/
  saved : List κ := []

namespace SnapshotSession

/-- The content. -/
def content (m : SnapshotSession κ ρ) : κ := m.session.outside.1

/-- Does something with the session. -/
def onSession (act : Act (Session (κ × ρ)) α) : Act (SnapshotSession κ ρ) α :=
  Act.within session (fun t m => { m with session := t }) act

/-- Takes a step of snapshots. -/
def step (f : κ × List κ → κ × List κ) (m : SnapshotSession κ ρ) : SnapshotSession κ ρ :=
  let next := f (m.content, m.saved)
  ⟨⟨m.session.connections, (next.1, m.session.outside.2)⟩, next.2⟩

variable (around : Surroundings (κ × ρ)) (name : String)

/-- Takes a step of snapshots on a connection, which is opened if it is not open; the height
then. -/
def level (f : κ × List κ → κ × List κ) : Act (SnapshotSession κ ρ) Nat := do
  let _ ← onSession (Session.connection around name)
  Act.change (step f)
  Act.look fun m => m.saved.length

/-- Carries a request out. -/
def act : Request → Act (SnapshotSession κ ρ) Unit
  | .begin => do
    let _ ← level around name Snapshots.begin
    return ()
  | .commit => do
    let _ ← level around name Snapshots.commit
    return ()
  | .rollback => do
    let _ ← level around name Snapshots.rollback
    return ()
  | .run executor sql params returnRows =>
    onSession ((Request.run executor sql params returnRows).act around name)

/-- The session after requests that are made one after another. -/
def performAll (m : SnapshotSession κ ρ) (requests : List Request) : SnapshotSession κ ρ :=
  requests.foldl (fun m request => (act around name request m).2) m

end SnapshotSession

namespace Session

open Connections

/-- Two sessions have opened the same connections and reached the same data. The depth on a name is
the count of saved contents, and what the database keeps belongs to them. -/
structure Tracking (name : String) (saved : List κ) (s : Session ((κ × ρ) × TransactionLog κ))
    (t : Session (κ × ρ)) : Prop where
  /-- They have the same settings. -/
  settings : t.connections.settings = s.connections.settings
  /-- They have opened the same connections. -/
  opened : t.connections.opened = s.connections.opened
  /-- They have reached the same data. -/
  data : t.outside = s.outside.1
  /-- Marks and snapshots belong together. -/
  tracks : Tracks saved s.outside.2
  /-- The depth is the count of saved contents. -/
  depth_eq : s.connections.depth name = saved.length
  /-- The connection has savepoints if it is open. -/
  hasSavepoints : ∀ opened, s.connections.opened.lookup name = some opened →
    opened.dialect.hasSavepoints = true
  /-- Nothing is saved before it is open. -/
  closed : s.connections.opened.lookup name = none → saved = []

variable {name : String} {saved : List κ} {around : Surroundings (κ × ρ)}

/-! ## What keeps the marks -/

/-- What has no part in transactions is alike and keeps what the database keeps of them. -/
theorem onData_sim (P : TransactionLog κ → Prop) (act : Act (κ × ρ) α) :
    Act.Sim (fun s t => t = s.1 ∧ P s.2) (Surroundings.onData act) act := by
  rintro ⟨data, log⟩ _ ⟨rfl, hlog⟩
  exact ⟨rfl, rfl, hlog⟩

theorem data_sim (act : Act (κ × ρ) α) :
    Act.Sim (Tracking name saved) (onOutside (Surroundings.onData act)) (onOutside act) := by
  refine (onData_sim (Tracks saved) act).within (fun s t h => ⟨h.data, h.tracks⟩) ?_
  intro s t u v h huv
  exact ⟨h.settings, h.opened, huv.1, huv.2, h.depth_eq, h.hasSavepoints, h.closed⟩

theorem notify_tracking (call : HookCall) :
    Act.Sim (Tracking name saved) (onOutside (around.withSavepoints.hooks.notify call))
      (onOutside (around.hooks.notify call)) := by
  have hhas : around.hooks.has = around.withSavepoints.hooks.has := rfl
  exact notify_sim hhas (fun _ => data_sim _) call

/-- Closing is alike while nothing is saved: then there is nothing to roll back. -/
theorem close_tracking (handle : Handle) :
    Act.Sim (Tracking name ([] : List κ)) (onOutside (around.withSavepoints.driver.close handle))
      (onOutside (around.driver.close handle)) := by
  intro s t h
  have hkept : Surroundings.abandon s.outside = s.outside := by
    have houtside : s.outside = (s.outside.1, {}) := Prod.ext rfl h.tracks.log_eq_rest
    rw [houtside]
    rfl
  have hclose : around.withSavepoints.driver.close handle s.outside =
      Surroundings.onData (around.driver.close handle) s.outside := by
    have hchange : (Act.change Surroundings.abandon : Act ((κ × ρ) × TransactionLog κ) Unit)
        s.outside = (.ok (), s.outside) := by rw [Act.change_apply, hkept]
    exact Act.bind_of_ok hchange
  have hsame : onOutside (around.withSavepoints.driver.close handle) s =
      onOutside (Surroundings.onData (around.driver.close handle)) s := by
    simp only [onOutside, Act.within_apply, hclose]
  rw [hsame]
  exact data_sim _ s t h

/-- So is choosing the character set of a new connection. -/
theorem chooseCharset_tracking (handle : Handle) (dialect : Dialect)
    (settings : ConnectionSettings) :
    Act.Sim (Tracking name ([] : List κ))
      (chooseCharset around.withSavepoints name handle dialect settings)
      (chooseCharset around name handle dialect settings) := by
  unfold chooseCharset
  refine Act.Sim.ite ?_ (Act.Sim.pure ())
  refine Act.Sim.ite ?_ ?_
  · rw [around.command_of_read_none handle (SavepointStatement.read_charset _)]
    refine (data_sim _).attempt.bind fun ended => ?_
    cases ended with
    | ok _ => exact Act.Sim.pure ()
    | error e =>
      refine (close_tracking handle).bind fun _ => ?_
      refine (Act.Sim.ofExcept _).bind fun shown => ?_
      exact Act.Sim.throw _
  · exact (close_tracking handle).bind fun _ => Act.Sim.throw _

/-- Keeping a new connection that has savepoints is alike. -/
theorem keep_tracking (opened : Opened) (hsavepoints : opened.dialect.hasSavepoints = true) :
    Act.Sim (Tracking name ([] : List κ))
      (update fun c => c.keep name opened : Act (Session ((κ × ρ) × TransactionLog κ)) Unit)
      (update fun c => c.keep name opened) := by
  refine Act.Sim.change fun s t h => ?_
  have hlookup : (s.connections.keep name opened).opened.lookup name = some opened := by
    rw [keep, lookup_putNamed, if_pos rfl]
  constructor
  · exact h.settings
  · exact congrArg (putNamed name opened) h.opened
  · exact h.data
  · exact h.tracks
  · exact depth_keep _ _ _
  · intro found hfound
    obtain rfl : opened = found := Option.some.inj (hlookup.symm.trans hfound)
    exact hsavepoints
  · exact fun _ => rfl

/-- Every dialect that the driver names has savepoints. -/
def NamesSavepoints (around : Surroundings (κ × ρ)) : Prop :=
  ∀ handle data, (Dialect.ofDriver (around.driver.dialectName handle data)).hasSavepoints = true

/-- The same settings are found. -/
theorem Tracking.getSettings_eq {s : Session ((κ × ρ) × TransactionLog κ)} {t : Session (κ × ρ)}
    (h : Tracking name saved s t) (other : String) :
    t.connections.getSettings other = s.connections.getSettings other := by
  rw [Connections.getSettings, Connections.getSettings, names, names, h.settings]

/-- Opening a connection is alike. -/
theorem openConnection_tracking (hsavepoints : NamesSavepoints around) :
    Act.Sim (Tracking name ([] : List κ)) (openConnection around.withSavepoints name)
      (openConnection around name) := by
  unfold openConnection
  refine Act.Sim.bind ?_ fun settings => ?_
  · exact fun s t h => ⟨h.getSettings_eq name, h⟩
  refine (Act.Sim.ofExcept _).bind fun kind => ?_
  refine (data_sim _).attempt.bind fun ended => ?_
  cases ended with
  | error e =>
    refine (Act.Sim.ofExcept _).bind fun shown => ?_
    exact Act.Sim.throw _
  | ok handle =>
    refine (data_sim (Act.look (around.driver.dialectName handle))).bindOk
      fun driverName s t _ hnamed => ?_
    -- The name was read in this state, so the dialect that is kept is one the driver names.
    have hdriver : around.driver.dialectName handle s.outside.1 = driverName :=
      Except.ok.inj hnamed
    have hdialect := hsavepoints handle s.outside.1
    rw [hdriver] at hdialect
    refine (chooseCharset_tracking handle _ settings).bind fun _ => ?_
    let opened : Opened :=
      ⟨handle, Dialect.ofDriver driverName, StatementCache.ofSize settings.cacheSize⟩
    refine (keep_tracking opened hdialect).bind fun _ => ?_
    refine (Act.Sim.ofExcept _).bind fun shown => ?_
    exact (notify_tracking _).bind fun _ => Act.Sim.pure _

/-- Asking for a connection is alike, whether it is open or not. -/
theorem connection_tracking (hsavepoints : NamesSavepoints around) :
    Act.Sim (Tracking name saved) (connection around.withSavepoints name)
      (connection around name) := by
  intro s t h
  have hopened : t.connections.opened.lookup name = s.connections.opened.lookup name := by
    rw [h.opened]
  cases hfound : s.connections.opened.lookup name with
  | some opened =>
    rw [connection_of_lookup _ hfound, connection_of_lookup _ (hopened.trans hfound)]
    exact ⟨rfl, h⟩
  | none =>
    obtain rfl := h.closed hfound
    rw [connection_of_lookup_none _ hfound, connection_of_lookup_none _ (hopened.trans hfound)]
    exact openConnection_tracking hsavepoints s t h

/-- The cache of prepared statements has no part in this. -/
theorem Tracking.setCache {s : Session ((κ × ρ) × TransactionLog κ)} {t : Session (κ × ρ)}
    (h : Tracking name saved s t) (cache : StatementCache Prepared) :
    Tracking name saved ⟨s.connections.setCache name cache, s.outside⟩
      ⟨t.connections.setCache name cache, t.outside⟩ := by
  have hlookup := lookup_setCache s.connections name cache
  constructor
  · rw [settings_setCache, settings_setCache, h.settings]
  · exact opened_setCache_congr name h.opened cache
  · exact h.data
  · exact h.tracks
  · rw [depth_setCache, h.depth_eq]
  · intro found hfound
    obtain ⟨opened, hopened, rfl⟩ := Option.map_eq_some_iff.mp (hlookup.symm.trans hfound)
    exact h.hasSavepoints opened hopened
  · intro hnone
    exact h.closed (Option.map_eq_none_iff.mp (hlookup.symm.trans hnone))

/-- Looking a statement up is alike. -/
theorem statement_tracking (hsavepoints : NamesSavepoints around) (sql : String) :
    Act.Sim (Tracking name saved) (statement around.withSavepoints name sql)
      (statement around name sql) := by
  refine (connection_tracking hsavepoints).bind fun opened => ?_
  have hprepare : Act.Sim (fun s t => t = s.1 ∧ Tracks saved s.2)
      (prepare around.withSavepoints opened.handle sql) (prepare around opened.handle sql) :=
    (onData_sim (Tracks saved) _).bind fun _ => Act.Sim.pure _
  refine (StatementCache.get_sim hprepare).within ?_ ?_
  · exact fun s t h => ⟨cacheOf_congr name h.opened, h.data, h.tracks⟩
  · rintro s t ⟨cache, world⟩ ⟨_, data⟩ h ⟨rfl, hdata, htracks⟩
    have hmoved : Tracking name saved ⟨s.connections, world⟩ ⟨t.connections, data⟩ :=
      ⟨h.settings, h.opened, hdata, htracks, h.depth_eq, h.hasSavepoints, h.closed⟩
    exact hmoved.setCache _

/-- Everything that a run of an executor asks for is alike. -/
theorem surroundings_tracking (hsavepoints : NamesSavepoints around) (sql : String)
    (params : List Value) :
    around.withSavepoints.Sim name sql params (Tracking name saved) around where
  configured := by
    intro s t h
    rw [Executor.configuredName_some, Executor.configuredName_some, h.getSettings_eq]
    exact ⟨rfl, h⟩
  execute values _ := by
    refine runBound_sim (statement_tracking hsavepoints sql) ?_ (fun p => data_sim _) values
    intro p
    refine Act.Sim.change fun s t h => ?_
    dsimp only
    rw [cacheOf_congr name h.opened]
    exact h.setCache _
  has := rfl
  hook call := data_sim _
  sleep time := data_sim _

/-! ## What requests do to marks and snapshots -/

/-- A session on a database with savepoints is where one with snapshots is. -/
def Follows (name : String) (s : Session ((κ × ρ) × TransactionLog κ))
    (m : SnapshotSession κ ρ) : Prop :=
  Tracking name m.saved s m.session

variable {s : Session ((κ × ρ) × TransactionLog κ)} {m : SnapshotSession κ ρ} {opened : Opened}

theorem Follows.matches (h : Follows name s m) :
    Matches (s.outside.1.1, s.outside.2) (m.content, m.saved) :=
  ⟨congrArg Prod.fst h.data, h.tracks⟩

/-- An open connection is found, and what goes on from there goes on alike. -/
theorem found_sim (hsavepoints : NamesSavepoints around)
    {next : Opened → Act (Session ((κ × ρ) × TransactionLog κ)) β}
    {other : Opened → Act (SnapshotSession κ ρ) β}
    (hnext : ∀ opened s m, Follows name s m →
      s.connections.opened.lookup name = some opened →
      (other opened m).1 = (next opened s).1 ∧
        Follows name (next opened s).2 (other opened m).2) :
    Act.Sim (Follows name) (connection around.withSavepoints name >>= next)
      (SnapshotSession.onSession (connection around name) >>= other) := by
  intro s m h
  obtain ⟨hresult, hstates⟩ := connection_tracking hsavepoints s m.session h
  have hfound := connection_found around.withSavepoints name s trivial
  rw [Act.bind_apply, Act.bind_apply, SnapshotSession.onSession, Act.within_apply]
  generalize connection around.withSavepoints name s = ended at hresult hstates hfound
  generalize connection around name m.session = otherEnded at hresult hstates
  obtain ⟨result, s⟩ := ended
  obtain ⟨otherResult, t⟩ := otherEnded
  obtain rfl : otherResult = result := hresult
  cases otherResult with
  | ok opened => exact hnext opened s _ hstates hfound
  | error e => exact ⟨rfl, hstates⟩

theorem transactionDepth_found (h : s.connections.opened.lookup name = some opened) :
    transactionDepth around.withSavepoints name s = (.ok (s.connections.depth name), s) := by
  rw [transactionDepth, Act.bind_of_ok (connection_of_lookup _ h)]
  rfl

/-- Where savepoints exist nothing is refused. -/
theorem requireSavepoints_found (h : Follows name s m)
    (hfound : s.connections.opened.lookup name = some opened) (fault : NestingFault) :
    requireSavepoints around.withSavepoints name fault s = (.ok (), s) := by
  have hdialect : dialect around.withSavepoints name s = (.ok opened.dialect, s) := by
    rw [dialect, Act.bind_of_ok (connection_of_lookup _ hfound)]
    rfl
  rw [requireSavepoints, Act.bind_of_ok hdialect, if_pos (h.hasSavepoints opened hfound)]
  rfl

/-- A step of the database and the new depth together are a step of snapshots. -/
theorem advance (h : Follows name s m)
    (hfound : s.connections.opened.lookup name = some opened)
    {step : κ × TransactionLog κ → Option (κ × TransactionLog κ)}
    {f : κ × List κ → κ × List κ} {depth : Nat}
    (hstep : ∃ s', step (s.outside.1.1, s.outside.2) = some s' ∧
      Matches s' (f (m.content, m.saved)))
    (hdepth : (f (m.content, m.saved)).2.length = depth) :
    let real : Act (Session ((κ × ρ) × TransactionLog κ)) Nat := do
      onOutside (Surroundings.transacting step)
      update fun c => c.setDepth name depth
      return depth
    let ideal : Act (SnapshotSession κ ρ) Nat := do
      Act.change (SnapshotSession.step f)
      Act.look fun m => m.saved.length
    (ideal m).1 = (real s).1 ∧ Follows name (real s).2 (ideal m).2 := by
  obtain ⟨⟨content, log⟩, hstep, hmatches⟩ := hstep
  intro real ideal
  have hreal : real s =
      (.ok depth, ⟨s.connections.setDepth name depth, ((content, s.outside.1.2), log)⟩) := by
    have htaken : onOutside (Surroundings.transacting step) s =
        (.ok (), ⟨s.connections, ((content, s.outside.1.2), log)⟩) := by
      simp only [onOutside, Act.within_apply, Surroundings.transacting, hstep]
    exact Act.bind_of_ok htaken
  have hideal : ideal m = (.ok (m.step f).saved.length, m.step f) := rfl
  have hrest : m.session.outside.2 = s.outside.1.2 := congrArg Prod.snd h.data
  rw [hreal, hideal]
  constructor
  · exact congrArg Except.ok hdepth
  · constructor
    · exact h.settings
    · exact h.opened
    · exact Prod.ext hmatches.content hrest
    · exact hmatches.tracks
    · rw [depth_setDepth]
      exact hdepth.symm
    · exact h.hasSavepoints
    · intro hnone
      exact absurd (hfound.symm.trans hnone) (Option.some_ne_none _)

/-- A transaction that begins is a snapshot. -/
theorem begin_follows (hsavepoints : NamesSavepoints around) :
    Act.Sim (Follows name) (begin around.withSavepoints name)
      (SnapshotSession.level around name Snapshots.begin) := by
  unfold begin SnapshotSession.level
  refine found_sim hsavepoints fun opened s m h hfound => ?_
  rw [Act.bind_of_ok (transactionDepth_found hfound), h.depth_eq]
  by_cases hzero : m.saved.length = 0
  · rw [if_pos hzero]
    have hstart := h.matches.start (List.length_eq_zero_iff.mp hzero)
    exact advance h hfound hstart (by simp [Snapshots.begin, hzero])
  · rw [if_neg hzero, Act.bind_of_ok (requireSavepoints_found h hfound .begin), savepointCommand,
      around.command_of_read opened.handle (SavepointStatement.read_set _)]
    have hset := h.matches.set fun hnil => hzero (List.length_eq_zero_iff.mpr hnil)
    exact advance h hfound hset rfl

/-- A transaction that ends is a step of snapshots: at depth one by what the driver has for that,
deeper by what it does to savepoints, and without a transaction nothing happens. -/
theorem ending_follows (hsavepoints : NamesSavepoints around)
    {finish : Handle → Act ((κ × ρ) × TransactionLog κ) Unit} (fault : NestingFault)
    {verb : String} {close : κ × TransactionLog κ → Option (κ × TransactionLog κ)}
    {statement : String → SavepointStatement} {f : κ × List κ → κ × List κ}
    (hfinish : ∀ handle, finish handle = Surroundings.transacting close)
    (hread : ∀ mark, SavepointStatement.read (verb ++ mark) = some (statement mark))
    (hnone : ∀ content : κ, f (content, []) = (content, []))
    (hlength : ∀ s, (f s).2.length = s.2.length - 1)
    (hclose : ∀ s t, Matches s t → t.2.length = 1 → ∃ s', close s = some s' ∧ Matches s' (f t))
    (happly : ∀ s t, Matches s t → 2 ≤ t.2.length →
      ∃ s', TransactionLog.apply (statement (savepointName t.2.length)) s = some s' ∧
        Matches s' (f t)) :
    Act.Sim (Follows name) (ending around.withSavepoints name finish fault verb)
      (SnapshotSession.level around name f) := by
  unfold ending SnapshotSession.level
  refine found_sim hsavepoints fun opened s m h hfound => ?_
  rw [Act.bind_of_ok (transactionDepth_found hfound), h.depth_eq]
  by_cases hzero : m.saved.length = 0
  · rw [if_pos hzero]
    -- There is nothing to take from the stack, and the database is not asked.
    have hsame : m.step f = m := by
      obtain ⟨session, saved⟩ := m
      obtain rfl : saved = [] := List.length_eq_zero_iff.mp hzero
      rw [SnapshotSession.step, hnone]
      rfl
    have hideal : (do
        Act.change (SnapshotSession.step f)
        Act.look fun m => m.saved.length : Act (SnapshotSession κ ρ) Nat) m = (.ok 0, m) := by
      rw [Act.bind_of_ok (Act.change_apply _ _), Act.look_apply, hsame, hzero]
    rw [hideal]
    exact ⟨rfl, h⟩
  · rw [if_neg hzero]
    by_cases hone : m.saved.length = 1
    · rw [if_pos hone, hfinish]
      have hended := hclose _ _ h.matches hone
      exact advance h hfound hended (by rw [hlength, hone])
    · rw [if_neg hone, Act.bind_of_ok (requireSavepoints_found h hfound fault), savepointCommand,
        around.command_of_read opened.handle (hread _)]
      have hdeep : 2 ≤ m.saved.length := by omega
      have hended := happly _ _ h.matches hdeep
      exact advance h hfound hended (hlength _)

/-- A commit forgets a snapshot. -/
theorem commit_follows (hsavepoints : NamesSavepoints around) :
    Act.Sim (Follows name) (commit around.withSavepoints name)
      (SnapshotSession.level around name Snapshots.commit) := by
  rw [commit_eq_ending]
  refine ending_follows hsavepoints .commit (fun _ => rfl) SavepointStatement.read_release
    (fun _ => rfl) ?_ (fun _ _ h => h.commit) (fun _ _ h => h.release)
  exact fun s => List.length_tail

/-- A rollback goes back to a snapshot. -/
theorem rollback_follows (hsavepoints : NamesSavepoints around) :
    Act.Sim (Follows name) (rollback around.withSavepoints name)
      (SnapshotSession.level around name Snapshots.rollback) := by
  rw [rollback_eq_ending]
  refine ending_follows hsavepoints .rollback (fun _ => rfl) SavepointStatement.read_rollBackTo
    (fun _ => rfl) ?_ (fun _ _ h => h.rollback) (fun _ _ h => h.rollBackTo)
  rintro ⟨content, saved⟩
  cases saved <;> rfl

/-- Every request ends the same way on both sides. -/
theorem act_follows (hsavepoints : NamesSavepoints around) (request : Request) :
    Act.Sim (Follows name) (request.act around.withSavepoints name)
      (SnapshotSession.act around name request) := by
  cases request with
  | begin => exact (begin_follows hsavepoints).bind fun _ => Act.Sim.pure ()
  | commit => exact (commit_follows hsavepoints).bind fun _ => Act.Sim.pure ()
  | rollback => exact (rollback_follows hsavepoints).bind fun _ => Act.Sim.pure ()
  | run executor sql params returnRows =>
    intro s m h
    exact Request.run_sim (surroundings_tracking hsavepoints sql params) executor returnRows s
      m.session h

/-- So do requests one after another, by induction on them. -/
theorem performAll_follows (hsavepoints : NamesSavepoints around) (h : Follows name s m)
    (requests : List Request) :
    Follows name (Request.performAll around.withSavepoints name s requests)
      (SnapshotSession.performAll around name m requests) := by
  induction requests generalizing s m with
  | nil => exact h
  | cons request rest ih => exact ih (act_follows hsavepoints request s m h).2

/-- A session at depth zero on a database without an open transaction is where one without snapshots
is, whether the connection is open or not. -/
theorem follows_start {connections : Connections} (hdepth : connections.depth name = 0)
    (hopened : ∀ opened, connections.opened.lookup name = some opened →
      opened.dialect.hasSavepoints = true) (data : κ × ρ) :
    Follows name ⟨connections, (data, {})⟩ ⟨⟨connections, data⟩, []⟩ := by
  constructor
  · rfl
  · rfl
  · rfl
  · exact Tracks.rest
  · exact hdepth
  · exact hopened
  · exact fun _ => rfl

end Session

/-- Nested transactions are a stack of snapshots. On a dialect with savepoints and a database that
keeps marks the usual way, starting at depth zero, whichever requests were made: the content is the
one of the stack, the depth is its height, and whatever is requested next ends the same way, so no
step of a transaction is ever refused by the database. -/
theorem Session.content_eq_snapshots (around : Surroundings (κ × ρ)) (name : String)
    (hsavepoints : NamesSavepoints around) (connections : Connections)
    (hdepth : connections.depth name = 0)
    (hopened : ∀ opened, connections.opened.lookup name = some opened →
      opened.dialect.hasSavepoints = true)
    (content : κ) (rest : ρ) (requests : List Request) :
    let s := Request.performAll around.withSavepoints name
      ⟨connections, ((content, rest), {})⟩ requests
    let m := SnapshotSession.performAll around name ⟨⟨connections, (content, rest)⟩, []⟩ requests
    s.outside.1.1 = m.content ∧ s.connections.depth name = m.saved.length ∧
      ∀ request : Request, (request.act around.withSavepoints name s).1 =
        (SnapshotSession.act around name request m).1 := by
  intro s m
  have hfollows : Follows name s m :=
    performAll_follows hsavepoints (follows_start hdepth hopened (content, rest)) requests
  refine ⟨?_, hfollows.depth_eq, ?_⟩
  · exact hfollows.matches.content.symm
  · intro request
    exact (act_follows hsavepoints request s m hfollows).1.symm

/-- A database whose content is the count of statements that ran. -/
def Surroundings.counting : Surroundings (Nat × Unit) where
  driver :=
    { connect := fun _ _ => pure 0
      dialectName := fun _ _ => "sqlite"
      prepare := fun _ _ => pure ()
      execute := fun _ => do
        Act.change fun s => (s.1 + 1, s.2)
        return ⟨none, 1, .null⟩
      start := fun _ => pure ()
      commit := fun _ => pure ()
      rollback := fun _ => pure ()
      command := fun _ _ => pure ()
      insertId := fun _ _ => .null
      close := fun _ => pure () }
  hooks := ⟨fun _ => false, fun _ => pure .null⟩
  sleep _ := pure ()
  adapters := .standard

/-- A savepoint that was rolled back to stays behind, and its name is used again. -/
theorem Session.content_eq_snapshots_counting :
    let settings : ConnectionSettings := ⟨"sqlite://", "", "", "", 0, false, [], 8⟩
    let connections : Connections := { settings := [("main", settings)] }
    let executor : Executor := { connection := none }
    let write := Request.run executor "DELETE FROM users" [] false
    let requests := [.begin, write, .begin, write, .rollback, .begin, write, .commit, .begin,
      .rollback]
    let s := Request.performAll Surroundings.counting.withSavepoints "main"
      ⟨connections, ((0, ()), {})⟩ requests
    let m := SnapshotSession.performAll Surroundings.counting "main"
      ⟨⟨connections, (0, ())⟩, []⟩ requests
    NamesSavepoints Surroundings.counting ∧ connections.depth "main" = 0 ∧
      connections.opened.lookup "main" = none ∧ s.outside.1.1 = 2 ∧
      s.outside.1.1 = m.content ∧ s.connections.depth "main" = m.saved.length := by
  intro settings connections executor write requests s m
  have hsavepoints : NamesSavepoints Surroundings.counting := by
    intro handle data
    show (Dialect.ofDriver "sqlite").hasSavepoints = true
    decide +kernel
  have hclosed : connections.opened.lookup "main" = none := rfl
  have hdepth : connections.depth "main" = 0 := rfl
  have hopened : ∀ opened, connections.opened.lookup "main" = some opened →
      opened.dialect.hasSavepoints = true := by
    intro opened hfound
    rw [hclosed] at hfound
    cases hfound
  obtain ⟨hcontent, hheight, -⟩ := Session.content_eq_snapshots Surroundings.counting "main"
    hsavepoints connections hdepth hopened 0 () requests
  unfold s m
  refine ⟨hsavepoints, hdepth, hclosed, ?_, hcontent, hheight⟩
  decide +kernel

end BoundSql
