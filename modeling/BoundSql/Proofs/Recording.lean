import BoundSql.Proofs.Handovers
import BoundSql.Proofs.Levels
import BoundSql.Proofs.Parallel

/-!
# What is asked for

The calls of the driver and of hooks that an action makes, in order, read off a journal that was
empty before. What a journal has already makes no difference, so a chain asks for what its actions
ask for one after another.
-/

namespace BoundSql

variable {σ ρ α β : Type}

namespace Session

/-- The same session with a journal. -/
def withJournal (s : ρ × Session σ) (journal : Journal Unit) : ρ × Session (σ × Journal Unit) :=
  (s.1, ⟨s.2.connections, s.2.outside, journal⟩)

/-- What an action with a journal asks for, in order. -/
def asked (recorder : Act (ρ × Session (σ × Journal Unit)) α) (s : ρ × Session σ) :
    List DriverCall :=
  (recorder (withJournal s [])).2.2.journal.map Prod.snd

/-- An action with a journal does what another one does without, and enters what it asks for. -/
def Records (recorder : Act (ρ × Session (σ × Journal Unit)) α) (act : Act (ρ × Session σ) α) :
    Prop :=
  ∀ s journal, recorder (withJournal s journal) =
    ((act s).1, withJournal (act s).2 (journal.enter () (asked recorder s)))

theorem asked_of_entered {recorder : Act (ρ × Session (σ × Journal Unit)) α} {s t : ρ × Session σ}
    {result : Except Error α} {calls : List DriverCall}
    (h : recorder (withJournal s []) = (result, withJournal t (Journal.enter [] () calls))) :
    asked recorder s = calls := by
  rw [asked, h]
  simp [withJournal, journal, Journal.enter, Function.comp_def]

/-- A result that is put in the place of another one asks for nothing. -/
theorem asked_bind_ofExcept (recorder : Act (ρ × Session (σ × Journal Unit)) α)
    (result : Except Error β) (s : ρ × Session σ) :
    asked (recorder >>= fun _ => Act.ofExcept result) s = asked recorder s := by
  rw [asked, asked, Act.bind_apply]
  generalize recorder (withJournal s []) = ended
  obtain ⟨first, t⟩ := ended
  cases first <;> rfl

namespace Records

variable {recorder : Act (ρ × Session (σ × Journal Unit)) α} {act : Act (ρ × Session σ) α}
  {next : α → Act (ρ × Session σ) β} {recorderNext : α → Act (ρ × Session (σ × Journal Unit)) β}
  {s t : ρ × Session σ} {a : α}

/-- A chain that goes on asks for what comes next behind what came first. -/
theorem asked_bind_of_ok (h : Records recorder act)
    (hnext : ∀ a, Records (recorderNext a) (next a)) (hact : act s = (.ok a, t)) :
    asked (recorder >>= recorderNext) s = asked recorder s ++ asked (recorderNext a) t := by
  have hfirst := h s []
  rw [hact] at hfirst
  have hchain := (Act.bind_of_ok hfirst).trans (hnext a t _)
  rw [← Journal.enter_append] at hchain
  exact asked_of_entered hchain

/-- A chain that does not go on asks for what came first. -/
theorem asked_bind_of_error (h : Records recorder act) {e : Error} (hact : act s = (.error e, t)) :
    asked (recorder >>= recorderNext) s = asked recorder s := by
  have hfirst := h s []
  rw [hact] at hfirst
  exact asked_of_entered (Act.bind_of_error hfirst)

/-- Chains are recorded when their actions are. -/
theorem bind (h : Records recorder act) (hnext : ∀ a, Records (recorderNext a) (next a)) :
    Records (recorder >>= recorderNext) (act >>= next) := by
  intro s journal
  have hfirst := h s journal
  generalize hact : act s = ended at hfirst
  obtain ⟨result, t⟩ := ended
  cases result with
  | ok a =>
    rw [h.asked_bind_of_ok hnext hact, Journal.enter_append, Act.bind_of_ok hfirst,
      Act.bind_of_ok hact, hnext a t]
  | error e => rw [h.asked_bind_of_error hact, Act.bind_of_error hfirst, Act.bind_of_error hact]

/-- What a chain asks for begins with what its first action asks for. -/
theorem exists_asked_bind (h : Records recorder act)
    (hnext : ∀ a, Records (recorderNext a) (next a)) (s : ρ × Session σ) :
    ∃ more, asked (recorder >>= recorderNext) s = asked recorder s ++ more := by
  cases hact : act s with
  | mk result t =>
    cases result with
    | ok a => exact ⟨_, h.asked_bind_of_ok hnext hact⟩
    | error e => exact ⟨[], by rw [h.asked_bind_of_error hact, List.append_nil]⟩

/-- An action that goes on from where another one ends asks for what that one asks for and for what
is asked for from there on. -/
theorem asked_of_start {first : Act (ρ × Session σ) β}
    {recorderFirst : Act (ρ × Session (σ × Journal Unit)) β} {b : β} (h : Records recorder act)
    (hfirst : Records recorderFirst first) (hstart : first s = (.ok b, t))
    (hgoes : ∀ u v, recorderFirst u = (.ok b, v) → recorder u = recorder v) :
    asked recorder s = asked recorderFirst s ++ asked recorder t := by
  have hbegun := hfirst s []
  rw [hstart] at hbegun
  have hended := (hgoes _ _ hbegun).trans (h t _)
  rw [← Journal.enter_append] at hended
  exact asked_of_entered hended

/-- Looking at the end of an action asks for nothing. -/
theorem attempt (h : Records recorder act) : Records (Act.attempt recorder) (Act.attempt act) := by
  intro s journal
  rw [Act.attempt_apply, h s journal]
  rfl

end Records

/-! ## Journals make no difference -/

/-- The same outside, and a journal that has more in front. -/
def Behind (journal : Journal Unit) (s t : σ × Journal Unit) : Prop :=
  t.1 = s.1 ∧ t.2 = journal ++ s.2

theorem entered_behind (journal : Journal Unit) (entry : Except Error α → Unit × DriverCall)
    (act : Act σ α) : Act.Sim (Behind journal) (act.entered entry) (act.entered entry) := by
  rintro s ⟨outside, entries⟩ ⟨hsame, hentries⟩
  dsimp only at hsame hentries
  subst hsame hentries
  exact ⟨rfl, rfl, List.append_assoc _ _ _⟩

/-- Surroundings with a journal do what they do without. -/
theorem journaling_parallel {ℓ : Type} (around : Surroundings σ) (label : ℓ) :
    (around.journaling label).Parallel (fun s t => t = s.1) around where
  connect _ _ := Act.entered_sim _ _
  dialectName := by
    rintro handle s t rfl
    rfl
  prepare := around.prepare_journaled label
  execute _ := Act.entered_sim _ _
  start := around.start_journaled label
  commit := around.commit_journaled label
  rollback := around.rollback_journaled label
  command := around.command_journaled label
  insertId := by
    rintro handle s t rfl
    rfl
  close := around.close_journaled label
  has := rfl
  hook _ := Act.entered_sim _ _
  sleep := by
    rintro time s t rfl
    exact ⟨rfl, rfl⟩
  adapters := rfl

/-- They do the same behind more entries. -/
theorem journaling_parallel_behind (around : Surroundings σ) (journal : Journal Unit) :
    (around.journaling ()).Parallel (Behind journal) (around.journaling ()) where
  connect _ _ := entered_behind _ _ _
  dialectName _ _ _ hst := congrArg (around.driver.dialectName _) hst.1
  prepare _ _ := entered_behind _ _ _
  execute _ := entered_behind _ _ _
  start _ := entered_behind _ _ _
  commit _ := entered_behind _ _ _
  rollback _ := entered_behind _ _ _
  command _ _ := entered_behind _ _ _
  insertId _ _ _ hst := congrArg (around.driver.insertId _) hst.1
  close _ := entered_behind _ _ _
  has := rfl
  hook _ := entered_behind _ _ _
  sleep := by
    rintro time s ⟨outside, entries⟩ ⟨hsame, hentries⟩
    dsimp only at hsame hentries
    subst hsame hentries
    exact ⟨rfl, rfl, rfl⟩
  adapters := rfl

/-- What is alike beside parallel sessions is recorded. -/
theorem Records.of_beside {recorder : Act (ρ × Session (σ × Journal Unit)) α}
    {act : Act (ρ × Session σ) α} (hplain : Act.Sim (Beside fun s t => t = s.1) recorder act)
    (hbehind : ∀ journal, Act.Sim (Beside (Behind journal)) recorder recorder) :
    Records recorder act := by
  intro s journal
  obtain ⟨hresult, hplain⟩ := hplain (withJournal s []) s ⟨rfl, rfl, rfl⟩
  have hstart : Beside (Behind journal) (withJournal s []) (withJournal s journal) :=
    ⟨rfl, rfl, rfl, (List.append_nil journal).symm⟩
  obtain ⟨hsame, hbehind⟩ := hbehind journal _ _ hstart
  have hentries : Journal.enter journal () (asked recorder s) =
      journal ++ (recorder (withJournal s [])).2.2.journal := by
    simp [Journal.enter, asked, Function.comp_def]
  refine Prod.ext (hsame.trans hresult.symm) (Prod.ext (hbehind.same.trans hplain.same.symm) ?_)
  generalize recorder (withJournal s journal) = ended at hbehind
  obtain ⟨_, _, connections, outside, entries⟩ := ended
  obtain ⟨-, hconnections, houtside, hjournal⟩ := hbehind
  dsimp only at hconnections houtside hjournal
  rw [withJournal, hplain.sessions.connections, hplain.sessions.outside, hentries, hconnections,
    houtside, hjournal]
  rfl

/-- What is alike in parallel sessions is recorded. -/
theorem Records.of_parallel {recorder : Act (Session (σ × Journal Unit)) α}
    {act : Act (Session σ) α} (hplain : Act.Sim (Parallel fun s t => t = s.1) recorder act)
    (hbehind : ∀ journal, Act.Sim (Parallel (Behind journal)) recorder recorder) :
    Records (Executor.onSession (ρ := ρ) recorder) (Executor.onSession act) :=
  .of_beside
    (hplain.within (fun _ _ hst => hst.sessions) fun _ _ _ _ hst huv => ⟨hst.same, huv⟩)
    fun journal => (hbehind journal).within (fun _ _ hst => hst.sessions)
      fun _ _ _ _ hst huv => ⟨hst.same, huv⟩

variable (around : Surroundings σ) (name : String)

theorem connection_records :
    Records (Executor.onSession (ρ := ρ) (connection (around.journaling ()) name))
      (Executor.onSession (connection around name)) :=
  .of_parallel (connection_parallel (journaling_parallel around ()) name)
    fun journal => connection_parallel (journaling_parallel_behind around journal) name

theorem begin_records :
    Records (Executor.onSession (ρ := ρ) (begin (around.journaling ()) name))
      (Executor.onSession (begin around name)) :=
  .of_parallel (begin_parallel (journaling_parallel around ()) name)
    fun journal => begin_parallel (journaling_parallel_behind around journal) name

end Session

/-! ## Calls about transactions -/

/-- The call is about a transaction: the driver is asked to begin or end one, or for a statement
about a savepoint. -/
def DriverCall.isTransactional : DriverCall → Bool
  | .started _ _ | .committed _ _ | .rolledBack _ _ => true
  | .commanded _ sql _ => (SavepointStatement.read sql).isSome
  | _ => false

/-- No call about a transaction has failed. -/
def Undisturbed (calls : List DriverCall) : Prop :=
  ∀ call ∈ calls, call.isTransactional = true → call.succeeded = true

namespace Undisturbed

variable {calls more : List DriverCall}

theorem nil : Undisturbed [] := fun _ h => nomatch h

theorem append_iff : Undisturbed (calls ++ more) ↔ Undisturbed calls ∧ Undisturbed more :=
  List.forall_mem_append

theorem single_iff {call : DriverCall} :
    Undisturbed [call] ↔ (call.isTransactional = true → call.succeeded = true) :=
  List.forall_mem_singleton

end Undisturbed

/-- A driver whose calls about transactions never fail. -/
structure Driver.Transacts (driver : Driver σ) : Prop where
  /-- A transaction can always be started. -/
  start : ∀ handle s, (driver.start handle s).1.isOk = true
  /-- It can always be committed. -/
  commit : ∀ handle s, (driver.commit handle s).1.isOk = true
  /-- It can always be rolled back. -/
  rollback : ∀ handle s, (driver.rollback handle s).1.isOk = true
  /-- Every statement about a savepoint is taken. -/
  command : ∀ handle sql s, (SavepointStatement.read sql).isSome = true →
    (driver.command handle sql s).1.isOk = true

namespace Session

/-- An entry that tells of no failure may be made. -/
theorem entered_undisturbed {entry : Except Error α → Unit × DriverCall} {act : Act σ α}
    (h : ∀ s, Undisturbed [(entry (act s).1).2]) :
    Act.Sim (fun s t => t = s ∧ Undisturbed (s.2.map Prod.snd)) (act.entered entry)
      (act.entered entry) := by
  rintro s t ⟨rfl, hs⟩
  refine ⟨rfl, rfl, ?_⟩
  rw [Act.entered_apply, List.map_append]
  exact Undisturbed.append_iff.mpr ⟨hs, h _⟩

/-- With a driver whose calls about transactions never fail nothing is ever disturbed. -/
theorem journaling_undisturbed {around : Surroundings σ} (h : around.driver.Transacts) :
    (around.journaling ()).Parallel (fun s t => t = s ∧ Undisturbed (s.2.map Prod.snd))
      (around.journaling ()) where
  connect _ _ := entered_undisturbed fun _ => Undisturbed.single_iff.mpr nofun
  dialectName _ _ _ hst := congrArg _ hst.1
  prepare _ _ := entered_undisturbed fun _ => Undisturbed.single_iff.mpr nofun
  execute _ := entered_undisturbed fun _ => Undisturbed.single_iff.mpr nofun
  start handle := entered_undisturbed fun s => Undisturbed.single_iff.mpr fun _ => h.start handle s
  commit handle :=
    entered_undisturbed fun s => Undisturbed.single_iff.mpr fun _ => h.commit handle s
  rollback handle :=
    entered_undisturbed fun s => Undisturbed.single_iff.mpr fun _ => h.rollback handle s
  command handle sql :=
    entered_undisturbed fun s => Undisturbed.single_iff.mpr (h.command handle sql s)
  insertId _ _ _ hst := congrArg _ hst.1
  close _ := entered_undisturbed fun _ => Undisturbed.single_iff.mpr nofun
  has := rfl
  hook _ := entered_undisturbed fun _ => Undisturbed.single_iff.mpr nofun
  sleep time := by
    rintro s t ⟨rfl, hs⟩
    exact ⟨rfl, rfl, hs⟩
  adapters := rfl

/-- What an action asks for is undisturbed where everything is. -/
theorem asked_undisturbed {recorder : Act (ρ × Session (σ × Journal Unit)) α}
    (h : Act.Sim (Beside fun s t => t = s ∧ Undisturbed (s.2.map Prod.snd)) recorder recorder)
    (s : ρ × Session σ) : Undisturbed (asked recorder s) :=
  (h (withJournal s []) (withJournal s []) ⟨rfl, rfl, rfl, Undisturbed.nil⟩).2.sessions.outside.2

end Session

end BoundSql
