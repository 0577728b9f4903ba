import BoundSql.Proofs.Notes
import BoundSql.Proofs.Statements
import Mathlib.Logic.Function.Basic

/-!
# Caches cannot be seen

Two systems differ in the room for prepared statements and in nothing else. Preparing a statement
does not fail and is not noticed by anything that follows. Then calls of executors end the same way
in both, hooks are told the same, and the same statements are executed with the same values. The two
runs are kept in step by what caches have no part in: the outline of all connections and what can be
seen of the world outside. That a cache may hold a statement with values of an earlier call does not
matter, since each call drops them before it binds its own.
-/

namespace BoundSql

variable {σ τ α : Type}

/-- Two states that look the same. -/
def SameView (view : σ → τ) (s t : σ) : Prop := view t = view s

/-- Preparing a statement does not fail, and nothing that can be seen depends on it. -/
structure Surroundings.IgnoresPreparing (view : σ → τ) (around : Surroundings σ) : Prop where
  /-- Preparing does not fail and cannot be seen. -/
  prepare : ∀ handle sql s, (around.driver.prepare handle sql s).1 = .ok () ∧
    view (around.driver.prepare handle sql s).2 = view s
  /-- Lines are opened alike whatever room there is for prepared statements. -/
  connect : ∀ kind settings size, Act.Sim (SameView view) (around.driver.connect kind settings)
    (around.driver.connect kind { settings with cacheSize := size })
  /-- A handle speaks the same dialect. -/
  dialectName : ∀ handle s t, SameView view s t →
    around.driver.dialectName handle t = around.driver.dialectName handle s
  /-- A statement with its values is executed alike. -/
  execute : ∀ p, Act.Sim (SameView view) (around.driver.execute p) (around.driver.execute p)
  /-- Commands are alike. -/
  command : ∀ handle sql, Act.Sim (SameView view) (around.driver.command handle sql)
    (around.driver.command handle sql)
  /-- So is closing a line. -/
  close : ∀ handle, Act.Sim (SameView view) (around.driver.close handle)
    (around.driver.close handle)
  /-- So are hooks. -/
  hook : ∀ call, Act.Sim (SameView view) (around.hooks.call call) (around.hooks.call call)
  /-- So is waiting. -/
  sleep : ∀ time, Act.Sim (SameView view) (around.sleep time) (around.sleep time)

/-- What can be seen together with the notes: all but those about preparing. -/
def withNotes (view : σ → τ) (s : σ × List Note) : τ × List Note :=
  (view s.1, s.2.filter Note.isVisible)

namespace Surroundings.IgnoresPreparing

variable {view : σ → τ} {around : Surroundings σ}

theorem quietly {act other : Act σ α} (h : Act.Sim (SameView view) act other) :
    Act.Sim (SameView (withNotes view)) act.quietly other.quietly := by
  intro s t hst
  obtain ⟨hview, hnotes⟩ := Prod.ext_iff.mp hst
  obtain ⟨hresult, hstates⟩ := h s.1 t.1 hview
  exact ⟨hresult, Prod.ext hstates hnotes⟩

theorem noted {act other : Act σ α} (h : Act.Sim (SameView view) act other)
    (note : Except Error α → Note) :
    Act.Sim (SameView (withNotes view)) (act.noted note) (other.noted note) := by
  intro s t hst
  obtain ⟨hview, hnotes⟩ := Prod.ext_iff.mp hst
  obtain ⟨hresult, hstates⟩ := h s.1 t.1 hview
  refine ⟨hresult, Prod.ext hstates ?_⟩
  have hsame : (t.2 ++ [note (other t.1).1]).filter Note.isVisible =
      (s.2 ++ [note (act s.1).1]).filter Note.isVisible := by
    rw [hresult, List.filter_append, List.filter_append]
    exact congrArg (· ++ _) hnotes
  exact hsame

/-- What is written down does not depend on preparing, notes about preparing apart. -/
theorem noting (h : around.IgnoresPreparing view) :
    around.noting.IgnoresPreparing (withNotes view) where
  prepare handle sql s := by
    obtain ⟨hresult, hview⟩ := h.prepare handle sql s.1
    refine ⟨hresult, Prod.ext hview ?_⟩
    have hnotes :
        (s.2 ++ [Note.prepared handle sql (around.driver.prepare handle sql s.1).1]).filter
          Note.isVisible = s.2.filter Note.isVisible := by
      rw [List.filter_append]
      exact List.append_nil _
    exact hnotes
  connect kind settings size := quietly (h.connect kind settings size)
  dialectName handle s t hst := h.dialectName handle s.1 t.1 (Prod.ext_iff.mp hst).1
  execute p := noted (h.execute p) _
  command handle sql := quietly (h.command handle sql)
  close handle := quietly (h.close handle)
  hook call := noted (h.hook call) _
  sleep time := noted (h.sleep time) fun _ => .slept time

end Surroundings.IgnoresPreparing

namespace Session

variable {view : σ → τ} {around : Surroundings σ} {name sql : String}

/-- Two sessions that differ in sound caches and in the room for them, and in what cannot be
seen. -/
structure Twins (view : σ → τ) (s t : Session σ) : Prop where
  /-- The outlines of all connections are the same. -/
  outline_eq : t.connections.outline = s.connections.outline
  /-- The caches of the one are sound. -/
  sound : s.connections.Sound
  /-- The caches of the other are sound. -/
  otherSound : t.connections.Sound
  /-- The worlds outside look the same. -/
  view_eq : SameView view s.outside t.outside

/-- Settings with the same content but for the room for prepared statements. -/
def Resized (a b : ConnectionSettings) : Prop := b.unsized = a.unsized

theorem Resized.size {a b : ConnectionSettings} (h : Resized a b) :
    b = { a with cacheSize := b.cacheSize } := by
  cases a
  cases b
  injection h with h1 h2 h3 h4 h5 h6 h7 h8
  subst h1 h2 h3 h4 h5 h6 h7
  rfl

theorem outside_twins {act other : Act σ α} (h : Act.Sim (SameView view) act other) :
    Act.Sim (Twins view) (onOutside act) (onOutside other) :=
  h.within (fun _ _ hst => hst.view_eq) fun _ _ _ _ hst huv =>
    ⟨hst.outline_eq, hst.sound, hst.otherSound, huv⟩

/-- The names that have settings are the same. -/
theorem Twins.names_eq {s t : Session σ} (h : Twins view s t) :
    t.connections.names = s.connections.names := by
  have hnames : ∀ c : Connections, c.outline.names = c.names := by
    intro c
    rw [Connections.names, Connections.names, Connections.outline, List.map_map]
    rfl
  have hsame := congrArg Connections.names h.outline_eq
  rw [hnames, hnames] at hsame
  exact hsame

/-- A name has resized settings in both, or is missed in both alike. -/
theorem getSettings_twins (name : String) :
    Act.Linked (Twins view) Resized (getSettings name) (getSettings name) := by
  intro s t h
  refine ⟨?_, h⟩
  have hsettings := Connections.getSettings_outline t.connections name
  rw [h.outline_eq, Connections.getSettings_outline] at hsettings
  show Act.Matching Resized (s.connections.getSettings name) (t.connections.getSettings name)
  cases hfound : s.connections.getSettings name with
  | ok a =>
    rw [hfound] at hsettings
    cases hother : t.connections.getSettings name with
    | ok b =>
      rw [hother] at hsettings
      exact (Except.ok.inj hsettings).symm
    | error e =>
      rw [hother] at hsettings
      cases hsettings
  | error e =>
    rw [hfound] at hsettings
    cases hother : t.connections.getSettings name with
    | ok b =>
      rw [hother] at hsettings
      cases hsettings
    | error other =>
      rw [hother] at hsettings
      exact (Except.error.inj hsettings).symm

/-- Connections of twins are opened alike, up to their caches. -/
theorem opens_twins (h : around.IgnoresPreparing view) (name : String) :
    around.Opens name (Twins view) Resized (fun o p => p.bare = o.bare) around where
  settings := getSettings_twins name
  resized {a b} hab := ⟨b.cacheSize, hab.size⟩
  adapters := rfl
  connect {a b} hab kind := by
    rw [hab.size]
    exact outside_twins (h.connect kind a _)
  dialectName handle :=
    outside_twins (Act.Sim.look fun s t hst => h.dialectName handle s t hst)
  command handle sql := outside_twins (h.command handle sql)
  close handle := outside_twins (h.close handle)
  keep {a b} hab handle dialect := by
    refine ⟨rfl, Act.Sim.change fun s t hst => ?_⟩
    have hempty : ∀ size, Opened.Sound ⟨handle, dialect, StatementCache.ofSize size⟩ :=
      fun size => StatementCache.holds_ofSize size
    refine ⟨?_, hst.sound.keep (hempty _), hst.otherSound.keep (hempty _), hst.view_eq⟩
    dsimp only
    rw [Connections.outline_keep, Connections.outline_keep, hst.outline_eq]
    rfl
  notify shown driver := notify_sim rfl (fun call => outside_twins (h.hook call)) _

/-- Connections of twins are found or opened alike, up to their caches. -/
theorem connection_twins (h : around.IgnoresPreparing view) (name : String) :
    Act.Linked (Twins view) (fun o p => p.bare = o.bare) (connection around name)
      (connection around name) := by
  refine connection_linked (opens_twins h name) fun s t hst => ?_
  have hopened := Connections.lookup_outline t.connections name
  rw [hst.outline_eq, Connections.lookup_outline] at hopened
  cases hfound : s.connections.opened.lookup name with
  | none =>
    rw [hfound] at hopened
    rw [Option.map_eq_none_iff.mp hopened.symm]
    exact .none
  | some opened =>
    rw [hfound] at hopened
    obtain ⟨other, hother, hbare⟩ := Option.map_eq_some_iff.mp hopened.symm
    rw [hother]
    exact .some hbare

/-- On an open connection a statement ends as it ends when it is executed, whatever the cache
held. -/
theorem runBound_seen (h : around.IgnoresPreparing view) {opened : Opened} {outlined : Connections}
    (sql : String) (values : List BoundValue) (seen : σ) :
    let p : Prepared := ⟨opened.handle, sql, positioned 1 values⟩
    Act.Ends (Stable name opened outlined (SameView view seen)) (runBound around name sql values)
      fun r => Stable name opened outlined fun s =>
        r = (around.driver.execute p seen).1 ∧
          SameView view (around.driver.execute p seen).2 s := by
  intro p
  refine runBound_ends ?_ fun s hs => h.execute p seen s hs
  intro s hs
  obtain ⟨hresult, hview⟩ := h.prepare opened.handle sql s
  rw [hresult]
  exact hview.trans hs

/-- A statement runs alike in twins: each of them finds or prepares it and binds the values of the
call alone. -/
theorem runBound_twins (h : around.IgnoresPreparing view) (name sql : String)
    (values : List BoundValue) :
    Act.Sim (Twins view) (runBound around name sql values) (runBound around name sql values) := by
  intro s t hst
  obtain ⟨hresults, hstates⟩ := connection_twins h name s t hst
  have hfound := connection_found around name s trivial
  have hother := connection_found around name t trivial
  generalize hs : connection around name s = ended at hresults hstates hfound
  generalize ht : connection around name t = otherEnded at hresults hstates hother
  obtain ⟨result, s'⟩ := ended
  obtain ⟨otherResult, t'⟩ := otherEnded
  cases result with
  | error e =>
    cases otherResult with
    | ok opened => exact hresults.elim
    | error other =>
      rw [runBound_of_connection_error hs, runBound_of_connection_error ht]
      exact ⟨congrArg Except.error hresults, hstates⟩
  | ok opened =>
    cases otherResult with
    | error other => exact hresults.elim
    | ok otherOpened =>
      rw [runBound_of_connection_ok hs, runBound_of_connection_ok ht]
      have hstable : Stable name opened s'.connections.outline (SameView view s'.outside) s' :=
        ⟨hstates.sound, ⟨opened, hfound, rfl⟩, rfl, rfl⟩
      have hotherStable :
          Stable name opened s'.connections.outline (SameView view s'.outside) t' :=
        ⟨hstates.otherSound, ⟨otherOpened, hother, hresults⟩, hstates.outline_eq,
          hstates.view_eq⟩
      have hrun := runBound_seen h sql values s'.outside s' hstable
      have hotherRun := runBound_seen h sql values s'.outside t' hotherStable
      refine ⟨hotherRun.outside.1.trans hrun.outside.1.symm, ?_, hrun.sound, hotherRun.sound, ?_⟩
      · rw [hrun.outline_eq, hotherRun.outline_eq]
      · exact hotherRun.outside.2.trans hrun.outside.2.symm

/-- All that an executor asks for is alike in twins. -/
theorem surroundings_twins (h : around.IgnoresPreparing view) (name sql : String)
    (params : List Value) : around.Sim name sql params (Twins view) around where
  configured := by
    have hname : (configuredName (some name) : Act (Session σ) String) =
        (getSettings name >>= fun _ => pure name) := rfl
    rw [hname]
    refine Act.linked_eq_iff.mp ((getSettings_twins name).bind fun a b _ => ?_)
    exact Act.Linked.pure rfl
  execute values _ := runBound_twins h name sql values
  has := rfl
  hook call := outside_twins (h.hook call)
  sleep time := outside_twins (h.sleep time)

end Session

/-- An executor without a connection has nothing to run on. -/
theorem Executor.run_unnamed (around : Surroundings σ) {x : Executor} (h : x.connection = none)
    (s : Session σ) (sql : String) (params : List Value) (returnRows : Bool) :
    run around sql params returnRows (x, s) =
      ((BoundValue.ofValues params).bind fun _ =>
        .error (.configuration (.unknownConnection none s.connections.names)), x.clearLast, s) := by
  have hchosen : x.clearLast.connection = none := h
  unfold run note
  rw [Act.bind_of_ok (Act.change_apply _ _)]
  cases hbound : BoundValue.ofValues params with
  | error e => rfl
  | ok bound =>
    rw [Act.bind_of_ok (Act.ofExcept_apply _ _), Act.bind_of_ok (Act.look_apply _ _), hchosen]
    rfl

/-! ## Statements with their own values -/

/-- Whatever statement was executed, it had a text and values of its own. -/
def OwnNotes (sql : String) (bound : List BoundValue) (notes : List Note) : Prop :=
  ∀ text values ended, Note.executed text values ended ∈ notes →
    text = sql ∧ values = positioned 1 bound

theorem OwnNotes.append {sql : String} {bound : List BoundValue} {notes : List Note}
    (h : OwnNotes sql bound notes) {note : Note} (hnote : OwnNotes sql bound [note]) :
    OwnNotes sql bound (notes ++ [note]) := by
  intro text values ended hmem
  rcases List.mem_append.mp hmem with hmem | hmem
  · exact h text values ended hmem
  · exact hnote text values ended hmem

/-- A note that is not about executing a statement says nothing about texts and values. -/
theorem ownNotes_singleton {sql : String} {bound : List BoundValue} {note : Note}
    (h : ∀ text values ended, note ≠ .executed text values ended) :
    OwnNotes sql bound [note] := by
  intro text values ended hmem
  exact absurd (List.mem_singleton.mp hmem).symm (h text values ended)

namespace Session

variable {around : Surroundings σ} {name sql : String} {params : List Value}
  {bound : List BoundValue}

/-- Sound caches, and notes of statements that were executed with one text and its values. -/
def Owning (sql : String) (bound : List BoundValue) (s : Session (σ × List Note)) : Prop :=
  s.connections.Sound ∧ OwnNotes sql bound s.outside.2

theorem connection_owning (around : Surroundings σ) (name : String) :
    Act.Triple (Owning sql bound) (connection around.noting name) (fun _ => Owning sql bound)
      (Owning sql bound) := by
  refine connection_keeps (around.noting_opensKeeping name ?_) ?_
  · intro notes shown driver ended hnotes
    exact hnotes.append (ownNotes_singleton fun _ _ _ h => nomatch h)
  · intro c handle dialect size hc
    exact hc.keep (StatementCache.holds_ofSize size)

/-- A statement is executed with its own text and the values of the call. -/
theorem runBound_owning (around : Surroundings σ) (name sql : String) (bound : List BoundValue) :
    Act.Triple (Owning sql bound) (runBound around.noting name sql bound)
      (fun _ => Owning sql bound) (Owning sql bound) := by
  have hprepare : ∀ handle, Act.Triple (fun s : σ × List Note => OwnNotes sql bound s.2)
      (around.noting.driver.prepare handle sql) (fun _ s => OwnNotes sql bound s.2)
      fun s => OwnNotes sql bound s.2 := by
    intro handle
    refine Act.noted_keeps (fun notes result hnotes => ?_) _
    exact hnotes.append (ownNotes_singleton fun _ _ _ h => nomatch h)
  have hexecute : ∀ handle, Act.Triple (fun s : σ × List Note => OwnNotes sql bound s.2)
      (around.noting.driver.execute ⟨handle, sql, positioned 1 bound⟩)
      (fun _ s => OwnNotes sql bound s.2) fun s => OwnNotes sql bound s.2 := by
    intro handle
    refine Act.noted_keeps (fun notes result hnotes => hnotes.append ?_) _
    intro text values ended hmem
    cases List.mem_singleton.mp hmem
    exact ⟨rfl, Prepared.boundValues_positioned _ _ _ _⟩
  have hrun := runBound_connecting (connection_owning around name).split
    (fun handle => (hprepare handle).split) fun handle => (hexecute handle).always_ends
  refine Act.Triple.of_reached fun s hs => ?_
  rcases hrun s hs with ⟨hsound, -, hnotes⟩ | ⟨e, -, hs⟩
  · exact ⟨hsound, hnotes⟩
  · exact hs

/-- Hooks and waits have no part in that. -/
theorem outside_owning {act : Act σ α} (note : Except Error α → Note)
    (h : ∀ result text values ended, note result ≠ .executed text values ended) :
    Act.Triple (Owning sql bound) (onOutside (act.noted note)) (fun _ => Owning sql bound)
      (Owning sql bound) := by
  refine onOutside_keeps (Act.noted_keeps (fun notes result hnotes => ?_) act)
  exact hnotes.append (ownNotes_singleton (h result))

/-- So a whole run keeps to its text and its values. -/
theorem surroundings_owning (around : Surroundings σ) (name : String)
    (hbound : BoundValue.ofValues params = .ok bound) :
    around.noting.Sim name sql params (fun s t => t = s ∧ Owning sql bound s) around.noting where
  configured := by
    refine (Act.Triple.of_state fun s => ?_).sim
    rw [Executor.configuredName_some]
  execute values hvalues := by
    obtain rfl : bound = values := Except.ok.inj (hbound.symm.trans hvalues)
    exact (runBound_owning around name sql bound).sim
  has := rfl
  hook call := (outside_owning (.called call) fun _ _ _ _ h => nomatch h).sim
  sleep time := (outside_owning (fun _ => .slept time) fun _ _ _ _ h => nomatch h).sim

end Session

/-- In a run every statement is executed with its own text and the values of the call, each at its
position, whatever the cache holds and however often the run is repeated. -/
theorem Executor.run_own (around : Surroundings σ) (x : Executor) {s : Session σ}
    (hsound : s.connections.Sound) (sql : String) (params : List Value) (returnRows : Bool) :
    let ended := run around.noting sql params returnRows (x, s.unnoted)
    ended.2.2.connections.Sound ∧ ∀ text values result,
      Note.executed text values result ∈ ended.2.2.notes →
        text = sql ∧ ∃ bound, BoundValue.ofValues params = .ok bound ∧
          values = positioned 1 bound := by
  intro ended
  cases hname : x.connection with
  | none =>
    unfold ended
    rw [run_unnamed _ hname]
    exact ⟨hsound, fun _ _ _ hmem => nomatch hmem⟩
  | some name =>
    cases hbound : BoundValue.ofValues params with
    | error e =>
      have hrun : ended = (.error e, x.clearLast, s.unnoted) := by
        unfold ended run note
        rw [Act.bind_of_ok (Act.change_apply _ _), hbound]
        rfl
      rw [hrun]
      exact ⟨hsound, fun _ _ _ hmem => nomatch hmem⟩
    | ok bound =>
      have hstart : Session.Owning sql bound s.unnoted := ⟨hsound, fun _ _ _ hmem => nomatch hmem⟩
      have hsim := run_sim (Session.surroundings_owning around name hbound) returnRows
        (x, s.unnoted) (x, s.unnoted) ⟨rfl, hname, rfl, hstart⟩
      obtain ⟨hkept, hown⟩ := hsim.2.sessions.2
      exact ⟨hkept, fun text values result hmem =>
        ⟨(hown text values result hmem).1, bound, rfl, (hown text values result hmem).2⟩⟩

/-! ## Calls one after another -/

/-- A call of one of several executors. -/
structure Errand where
  /-- The number of the executor. -/
  executor : ℕ
  /-- The text of the statement. -/
  sql : String
  /-- Its parameters. -/
  params : List Value
  /-- Rows are asked for, not the count of rows that were touched. -/
  returnRows : Bool

namespace Errand

variable {view : σ → τ} {around : Surroundings σ}

/-- Carries a call out. All executors work in one session. -/
def act (around : Surroundings σ) (e : Errand) : Act ((ℕ → Executor) × Session σ) Outcome :=
  Act.within (fun s => (s.1 e.executor, s.2))
    (fun t s => (Function.update s.1 e.executor t.1, t.2))
    (Executor.run around e.sql e.params e.returnRows)

/-- The executors and their session after calls that are carried out one after another. -/
def performAll (around : Surroundings σ) (s : (ℕ → Executor) × Session σ)
    (errands : List Errand) : (ℕ → Executor) × Session σ :=
  errands.foldl (fun s e => (e.act around s).2) s

/-- A call ends alike in twins. -/
theorem act_twins (h : around.IgnoresPreparing view) (e : Errand) :
    Act.Sim (fun s t => t.1 = s.1 ∧ Session.Twins view s.2 t.2) (e.act around) (e.act around) := by
  rintro ⟨executors, s⟩ ⟨otherExecutors, t⟩ ⟨hexecutors, hst⟩
  obtain rfl : otherExecutors = executors := hexecutors
  unfold act
  rw [Act.within_apply, Act.within_apply]
  dsimp only
  cases hname : (otherExecutors e.executor).connection with
  | some name =>
    have hrun := Executor.run_sim (Session.surroundings_twins h name e.sql e.params) e.returnRows
      (otherExecutors e.executor, s) (otherExecutors e.executor, t) ⟨rfl, hname, hst⟩
    obtain ⟨hresult, hstates⟩ := hrun
    refine ⟨hresult, ?_, hstates.sessions⟩
    exact congrArg (Function.update otherExecutors e.executor) hstates.same
  | none =>
    rw [Executor.run_unnamed around hname, Executor.run_unnamed around hname, hst.names_eq]
    exact ⟨rfl, rfl, hst⟩

end Errand

/-- What is known of a call that was carried out. -/
structure Transcript where
  /-- What the caller got. -/
  result : Except Error Outcome
  /-- What was asked of the world outside meanwhile, preparing statements apart. -/
  notes : List Note
  /-- The executor afterwards, with its log and what it knows about its last statement. -/
  executor : Executor

/-- The transcripts of calls that are carried out one after another. -/
def transcripts (around : Surroundings σ) (s : (ℕ → Executor) × Session σ) :
    List Errand → List Transcript
  | [] => []
  | e :: rest =>
    let ended := e.act around.noting (s.1, s.2.unnoted)
    ⟨ended.1, ended.2.2.notes.filter Note.isVisible, ended.2.1 e.executor⟩ ::
      transcripts around (ended.2.1, ended.2.2.plain) rest

/-- Statements were executed with the text and the values of the call alone. -/
def Transcript.IsOwn (e : Errand) (t : Transcript) : Prop :=
  ∀ text values ended, Note.executed text values ended ∈ t.notes →
    text = e.sql ∧ ∃ bound, BoundValue.ofValues e.params = .ok bound ∧ values = positioned 1 bound

variable {view : σ → τ} {around : Surroundings σ}

/-- Twins have the same transcripts, by induction on the calls. -/
theorem transcripts_twins (h : around.IgnoresPreparing view) {s t : Session σ}
    (hst : Session.Twins view s t) (executors : ℕ → Executor) (errands : List Errand) :
    transcripts around (executors, t) errands = transcripts around (executors, s) errands := by
  induction errands generalizing executors s t with
  | nil => rfl
  | cons e rest ih =>
    have hstart : Session.Twins (withNotes view) s.unnoted t.unnoted :=
      ⟨hst.outline_eq, hst.sound, hst.otherSound, Prod.ext hst.view_eq rfl⟩
    obtain ⟨hresult, hexecutors, hended⟩ :=
      Errand.act_twins h.noting e (executors, s.unnoted) (executors, t.unnoted) ⟨rfl, hstart⟩
    obtain ⟨hview, hnotes⟩ := Prod.ext_iff.mp hended.view_eq
    have htwins : Session.Twins view (e.act around.noting (executors, s.unnoted)).2.2.plain
        (e.act around.noting (executors, t.unnoted)).2.2.plain :=
      ⟨hended.outline_eq, hended.sound, hended.otherSound, hview⟩
    have hplain := ih htwins (e.act around.noting (executors, s.unnoted)).2.1
    rw [transcripts, transcripts]
    dsimp only
    rw [hresult, hexecutors]
    refine congrArg₂ List.cons ?_ hplain
    exact congrArg (fun notes => Transcript.mk _ notes _) hnotes

/-- Each call executes statements with its own values, by induction on the calls. -/
theorem transcripts_own {s : Session σ} (hs : s.connections.Sound) (executors : ℕ → Executor)
    (errands : List Errand) :
    List.Forall₂ Transcript.IsOwn errands (transcripts around (executors, s) errands) := by
  induction errands generalizing executors s with
  | nil => exact .nil
  | cons e rest ih =>
    obtain ⟨hsound, hown⟩ :=
      Executor.run_own around (executors e.executor) hs e.sql e.params e.returnRows
    refine .cons (fun text values ended hmem => ?_) (ih hsound _)
    exact hown text values ended (List.mem_of_mem_filter hmem)

/-- The connections with other rooms for prepared statements. -/
def Connections.resized (sizes : String → Int) (c : Connections) : Connections :=
  { c with settings := c.settings.map fun e => (e.1, { e.2 with cacheSize := sizes e.1 }) }

theorem Connections.outline_resized (sizes : String → Int) (c : Connections) :
    (c.resized sizes).outline = c.outline := by
  rw [Connections.outline, Connections.resized, Connections.outline, List.map_map]
  rfl

/-- Caches cannot be seen. From sessions in which nothing has been opened, whatever room there is
for prepared statements on each connection, the same calls of executors end the same way, leave the
same behind in the executors, tell the same to hooks and execute the same statements with the same
values. Each call executes its own text with its own values, and nothing that was bound earlier. -/
theorem transcripts_resized (h : around.IgnoresPreparing view) {c : Connections}
    (hclosed : c.opened = []) (outside : σ) (sizes otherSizes : String → Int)
    (executors : ℕ → Executor) (errands : List Errand) :
    let told := fun sizes => transcripts around (executors, ⟨c.resized sizes, outside⟩) errands
    told otherSizes = told sizes ∧ List.Forall₂ Transcript.IsOwn errands (told sizes) := by
  intro told
  have hsound : ∀ sizes, (c.resized sizes).Sound := by
    intro sizes name opened hfound
    have hnone : c.opened.lookup name = some opened := hfound
    rw [hclosed] at hnone
    cases hnone
  have htwins : Session.Twins view ⟨c.resized sizes, outside⟩ ⟨c.resized otherSizes, outside⟩ := by
    refine ⟨?_, hsound sizes, hsound otherSizes, rfl⟩
    rw [Connections.outline_resized, Connections.outline_resized]
  exact ⟨transcripts_twins h htwins executors errands,
    transcripts_own (hsound sizes) executors errands⟩

/-- A database that keeps what is executed on it and refuses one text, beside a count of what was
prepared. A statement that failed is tried once more. -/
def Surroundings.ledger : Surroundings (List (String × List (Nat × BoundValue)) × ℕ) where
  driver :=
    { connect := fun _ _ => pure 0
      dialectName := fun _ _ => "sqlite"
      prepare := fun _ _ => Act.change fun s => (s.1, s.2 + 1)
      execute := fun p => do
        Act.change fun s => (s.1 ++ [(p.sql, p.boundValues)], s.2)
        if p.sql = "VACUUM" then throw (.raised "OperationalError" "database is locked")
        else
          let count ← Act.look fun s => s.1.length
          return ⟨none, count, .null⟩
      start := fun _ => pure ()
      commit := fun _ => pure ()
      rollback := fun _ => pure ()
      command := fun _ _ => pure ()
      insertId := fun _ _ => .null
      close := fun _ => pure () }
  hooks := ⟨fun point => point = .retryDecider, fun _ => pure (.ofNamed [("retries", .int 1)])⟩
  sleep _ := pure ()
  adapters := .standard

theorem Surroundings.ledger_ignoresPreparing : ledger.IgnoresPreparing Prod.fst where
  prepare _ _ _ := ⟨rfl, rfl⟩
  connect _ _ _ := Act.Sim.pure _
  dialectName _ _ _ _ := rfl
  execute p := by
    refine Act.Sim.bind (Act.Sim.change fun s t hst => congrArg (· ++ _) hst) fun _ => ?_
    refine Act.Sim.ite (Act.Sim.throw _) ?_
    refine Act.Sim.bind (Act.Sim.look fun s t hst => congrArg List.length hst) fun count => ?_
    exact Act.Sim.pure _
  command _ _ := Act.Sim.pure _
  close _ := Act.Sim.pure _
  hook _ := Act.Sim.pure _
  sleep _ := Act.Sim.pure _

/-- With room for statements fewer are prepared than without, and nothing else is different. -/
theorem transcripts_resized_ledger :
    let settings : ConnectionSettings := ⟨"sqlite://", "", "", "", 0, false, [], 8⟩
    let c : Connections := { settings := [("main", settings)] }
    let executors : ℕ → Executor := fun _ => { connection := some "main" }
    let errands : List Errand :=
      [⟨0, "DELETE FROM users WHERE id = ?", [.int 1], false⟩, ⟨1, "VACUUM", [], false⟩,
        ⟨0, "DELETE FROM users WHERE id = ?", [.text "a", .null], true⟩]
    let with8 : (ℕ → Executor) × Session _ := (executors, ⟨c.resized fun _ => 8, ([], 0)⟩)
    let with0 : (ℕ → Executor) × Session _ := (executors, ⟨c.resized fun _ => 0, ([], 0)⟩)
    Surroundings.ledger.IgnoresPreparing Prod.fst ∧ c.opened = [] ∧
      transcripts Surroundings.ledger with0 errands =
        transcripts Surroundings.ledger with8 errands ∧
      List.Forall₂ Transcript.IsOwn errands (transcripts Surroundings.ledger with8 errands) ∧
      (Errand.performAll Surroundings.ledger with8 errands).2.outside.2 = 2 ∧
      (Errand.performAll Surroundings.ledger with0 errands).2.outside.2 = 4 := by
  intro settings c executors errands with8 with0
  have hclosed : c.opened = [] := rfl
  obtain ⟨hsame, hown⟩ := transcripts_resized Surroundings.ledger_ignoresPreparing hclosed ([], 0)
    (fun _ => 8) (fun _ => 0) executors errands
  refine ⟨Surroundings.ledger_ignoresPreparing, hclosed, hsame, hown, ?_, ?_⟩
  · decide +kernel
  · decide +kernel

end BoundSql
