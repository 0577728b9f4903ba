import BoundSql.Proofs.Retries
import BoundSql.Proofs.Terminals

/-!
# Statements that are served

In calm surroundings a statement on a connection that has settings is settled, whatever the database
does at each attempt, also when the connection itself cannot be had. In safe mode that gives an
outcome: what the database answered to the text of the statement, or an empty result. Settings stay,
a connection that was open stays open, and caches stay sound.
-/

namespace BoundSql

variable {σ α : Type}

/-- The database has an answer to a text: there is a world in which it gives it. -/
def Surroundings.Answers (around : Surroundings σ) (sql : String) (result : StatementResult) :
    Prop :=
  ∃ p s, p.sql = sql ∧ (around.driver.execute p s).1 = .ok result

/-- Outcomes that a statement may have in safe mode. -/
inductive Surroundings.Yields (around : Surroundings σ) (sql : String) : Bool → Outcome → Prop
  /-- No rows, because it failed or because rows were not to be read. -/
  | nothing : Yields around sql true (.rows [])
  /-- Rows that the database answered. -/
  | rows {result : StatementResult} (h : around.Answers sql result) :
      Yields around sql true (.rows (result.rows.getD []))
  /-- A count. -/
  | count (n : Int) : Yields around sql false (.count n)

/-! ## Connections -/

/-- The connection of a name has settings, and it is open if it was. -/
structure Connections.Usable (name : String) (wasOpen : Bool) (c : Connections) : Prop where
  /-- It has settings. -/
  configured : ∃ settings, c.getSettings name = .ok settings
  /-- It is open if it was. -/
  isOpen : wasOpen = true → c.isOpen name = true

namespace Connections.Usable

variable {name : String} {wasOpen : Bool} {c : Connections}

theorem keep (h : c.Usable name wasOpen) (opened : Opened) :
    (c.keep name opened).Usable name wasOpen :=
  ⟨h.configured, fun _ => c.isOpen_keep name opened⟩

theorem setCache (h : c.Usable name wasOpen) (cache : StatementCache Prepared) :
    (c.setCache name cache).Usable name wasOpen := by
  refine ⟨?_, fun hopen => (c.isOpen_setCache name cache name).trans (h.isOpen hopen)⟩
  have hsettings : (c.setCache name cache).getSettings name = c.getSettings name := by
    rw [getSettings, getSettings, names, names, settings_setCache]
  rw [hsettings]
  exact h.configured

end Connections.Usable

namespace Session

variable {around : Surroundings σ} {name sql : String} {wasOpen : Bool} {P : Connections → Prop}

/-- Whatever world there is, opening a connection keeps to it. -/
theorem opensKeeping_true (around : Surroundings σ) (name : String) :
    around.OpensKeeping name fun _ => True where
  connect _ _ := Act.Triple.any _
  command _ _ := Act.Triple.any _
  close _ := Act.Triple.any _
  notify _ _ := Act.Triple.any _

/-- Asking for a connection keeps what keeping a new one does not break. -/
theorem connection_keeps_connections (around : Surroundings σ)
    (hkeep : ∀ c handle dialect size, P c →
      P (c.keep name ⟨handle, dialect, StatementCache.ofSize size⟩)) :
    Act.Triple (fun s : Session σ => P s.connections) (connection around name)
      (fun _ s => P s.connections) fun s => P s.connections :=
  (connection_keeps (opensKeeping_true around name) hkeep).weaken (fun _ hs => ⟨hs, trivial⟩)
    (fun _ _ hs => hs.1) fun _ hs => hs.1

/-- So does a connection that could be had. -/
theorem connection_ok_keeps {s t : Session σ} {opened : Opened}
    (hconnection : connection around name s = (.ok opened, t))
    (hkeep : ∀ c handle dialect size, P c →
      P (c.keep name ⟨handle, dialect, StatementCache.ofSize size⟩))
    (hs : P s.connections) : P t.connections := by
  have hkept := connection_keeps_connections around hkeep s hs
  rw [hconnection] at hkept
  exact hkept

/-- Running a statement keeps what opening its connection and setting its cache do not break. -/
theorem runBound_keeps (around : Surroundings σ) (sql : String) (values : List BoundValue)
    (hkeep : ∀ c handle dialect size, P c →
      P (c.keep name ⟨handle, dialect, StatementCache.ofSize size⟩))
    (hset : ∀ c cache, P c → P (c.setCache name cache)) :
    Act.Triple (fun s : Session σ => P s.connections) (runBound around name sql values)
      (fun _ s => P s.connections) fun s => P s.connections := by
  have hstatement : Act.Triple (fun s : Session σ => P s.connections) (statement around name sql)
      (fun _ s => P s.connections) fun s => P s.connections := by
    refine (connection_keeps_connections around hkeep).bind fun opened => ?_
    exact Act.Triple.of_reached fun s hs => hset _ _ hs
  refine hstatement.bind fun p => ?_
  refine Act.Triple.bind (R := fun _ s => P s.connections) ?_ fun _ => ?_
  · exact Act.Triple.change fun s hs => hset _ _ hs
  · exact Act.Triple.of_reached fun s hs => hs

/-- A connection that can be used, sound caches, and attempts in which the database answered to the
text. -/
structure Serving (around : Surroundings σ) (name sql : String) (wasOpen : Bool) (T : Tally)
    (s : Session σ) : Prop where
  /-- The connection can be used. -/
  usable : s.connections.Usable name wasOpen
  /-- The caches are sound. -/
  sound : s.connections.Sound
  /-- The database answered to the text. -/
  answered : ∀ result, .ok result ∈ T.attempts → around.Answers sql result

/-- What is answered to a statement is an answer to its text, and caches stay sound. -/
theorem runBound_answers (around : Surroundings σ) (name sql : String)
    (values : List BoundValue) :
    Act.Ends (fun s : Session σ => s.connections.Sound) (runBound around name sql values)
      fun r s => s.connections.Sound ∧ ∀ result, r = .ok result → around.Answers sql result := by
  let Q (r : Except Error StatementResult) (_ : σ) : Prop :=
    ∀ result, r = .ok result → around.Answers sql result
  have hconnection : Act.Ends (fun s : Session σ => s.connections.Sound) (connection around name)
      (Act.Split (fun _ s => s.connections.Sound ∧ True) fun _ s => s.connections.Sound) :=
    ((connection_keeps_connections around fun c handle dialect size hc =>
      hc.keep (StatementCache.holds_ofSize size)).weaken (fun _ hs => hs)
        (fun _ _ hs => ⟨hs, trivial⟩) fun _ hs => hs).split
  have hprepare : ∀ handle, Act.Ends (fun _ : σ => True) (around.driver.prepare handle sql)
      (Act.Split (fun _ _ => True) fun e => Q (.error e)) := by
    intro handle
    refine (Act.Triple.any _).split.weaken (fun _ hs => hs) fun r s _ => ?_
    cases r with
    | ok _ => trivial
    | error e => exact fun result h => nomatch h
  have hexecute : ∀ handle, Act.Ends (fun _ : σ => True)
      (around.driver.execute ⟨handle, sql, positioned 1 values⟩) Q :=
    fun handle s _ result hresult => ⟨_, s, rfl, hresult⟩
  refine (runBound_connecting hconnection hprepare hexecute).weaken (fun _ hs => hs) ?_
  rintro r s (⟨hsound, -, hanswers⟩ | ⟨e, rfl, hsound⟩)
  · exact ⟨hsound, hanswers⟩
  · exact ⟨hsound, fun result h => nomatch h⟩

/-- So a statement is served. -/
theorem runBound_serving (around : Surroundings σ) (name sql : String) (wasOpen : Bool)
    (values : List BoundValue) (T : Tally) :
    Act.Ends (Serving around name sql wasOpen T) (runBound around name sql values) fun r =>
      Serving around name sql wasOpen (T.append (.tried r)) := by
  intro s hs
  have husable := (runBound_keeps (P := Connections.Usable name wasOpen) around sql values
    (fun c handle dialect size hc => hc.keep _)
    fun c cache hc => hc.setCache cache).always_ends s hs.usable
  obtain ⟨hsound, hanswers⟩ := runBound_answers around name sql values s hs.sound
  refine ⟨husable, hsound, fun result hmem => ?_⟩
  rcases List.mem_append.mp hmem with hmem | hmem
  · exact hs.answered result hmem
  · exact hanswers result (List.mem_singleton.mp hmem).symm

/-- What happens outside leaves the connections. -/
theorem outside_serving {T : Tally} {act : Act σ α} {p : α → Prop}
    (h : ∀ s, ∃ a, (act s).1 = .ok a ∧ p a) :
    Act.Triple (Serving around name sql wasOpen T) (onOutside act)
      (fun a s => Serving around name sql wasOpen T s ∧ p a) fun _ => False := by
  intro s hs
  obtain ⟨a, ha, hp⟩ := h s.outside
  have hok : (onOutside act s).1 = .ok a := ha
  rw [hok]
  exact ⟨⟨hs.usable, hs.sound, hs.answered⟩, hp⟩

/-- Attempts alone decide what the database answered. -/
theorem Serving.of_attempts {T U : Tally} {s : Session σ}
    (h : Serving around name sql wasOpen T s) (hattempts : U.attempts = T.attempts) :
    Serving around name sql wasOpen U s :=
  ⟨h.usable, h.sound, hattempts ▸ h.answered⟩

end Session

/-- In calm surroundings all that an attempt asks for is served. -/
theorem Surroundings.Calm.serves {around : Surroundings σ} (h : around.Calm) (name sql : String)
    (bound : List BoundValue) (wasOpen : Bool) :
    Executor.Tracks around name sql bound (Session.Serving around name sql wasOpen) where
  execute T := Session.runBound_serving around name sql wasOpen bound T
  notify T call _ :=
    (Session.outside_serving (p := fun _ => True) fun s => ⟨(), h.notify call s, trivial⟩).weaken
      (fun _ hs => hs) (fun _ _ hs => hs.1) fun _ hs => hs
  consult T call error failure := by
    refine (Session.outside_serving fun s => ?_).weaken (fun _ hs => hs)
      (fun _ _ hs => ⟨hs.1.of_attempts (List.append_nil _), hs.2⟩) fun _ hs => hs
    obtain ⟨answer, hanswer⟩ := h.hook (.retryDecider call error failure) s
    exact ⟨answer, hanswer, h.plan call error failure s answer hanswer⟩
  sleep T time :=
    (Session.outside_serving (p := fun _ => True) fun s => ⟨(), h.sleep time s, trivial⟩).weaken
      (fun _ hs => hs) (fun _ _ hs => hs.1.of_attempts (List.append_nil _)) fun _ hs => hs

namespace Executor

/-- Parameters that can be bound and noted. -/
def Writable (params : List Value) : Prop :=
  (∃ bound, BoundValue.ofValues params = .ok bound) ∧ params.forM Value.checkNumeral = .ok ()

end Executor

end BoundSql
