import BoundSql.Proofs.Attempts
import BoundSql.Proofs.Notes
import BoundSql.Proofs.Statements
import Mathlib.Data.List.Induction

/-!
# Statements that take effect again

A statement may take effect more than once in a run, because the hook behind a success is inside the
guard of an attempt: when it fails, the attempt has failed, and a plan of the hook about retries may
ask for another one. Nothing else makes a run repeat what has succeeded. The notes of a run are
watched one by one for what they say of the last success, for every behaviour of the database and of
the hooks.
-/

namespace BoundSql

variable {σ : Type}

/-! ## Watching notes -/

namespace Note

/-- The note is about a statement that was executed. -/
def isExecution : Note → Bool
  | .executed _ _ _ => true
  | _ => false

/-- The note is about a statement that was executed and succeeded. -/
def isSuccess : Note → Bool
  | .executed _ _ (.ok _) => true
  | _ => false

/-- The note is about a hook behind a success that failed. -/
def isProtest : Note → Bool
  | .called (.afterQuery _ _) (.error _) => true
  | _ => false

/-- The hook behind a success was told of a result and failed. -/
def Protests (result : StatementResult) (note : Note) : Prop :=
  ∃ success rows e, note = .called (.afterQuery success rows) (.error e) ∧
    success.rowCount = result.rowCount

end Note

/-- What notes say of the last success. -/
inductive Watch where
  /-- There was none, or the hook behind it failed. -/
  | clear
  /-- It was the last thing that was noted. -/
  | answered (result : StatementResult)
  /-- It stands: something else than a failure of the hook behind it was noted next. -/
  | standing
  /-- Something was executed although there was a success that stood. -/
  | repeated

namespace Watch

/-- What is said with one more note. -/
def step : Watch → Note → Watch
  | .clear, .executed _ _ (.ok result) => .answered result
  | .answered _, .executed _ _ _ => .repeated
  | .standing, .executed _ _ _ => .repeated
  | .answered result, .called (.afterQuery success _) (.error _) =>
    if success.rowCount = result.rowCount then .clear else .standing
  | .answered _, _ => .standing
  | watch, _ => watch

/-- What some notes say. -/
def of (notes : List Note) : Watch := notes.foldl step .clear

theorem of_append_singleton (notes : List Note) (note : Note) :
    of (notes ++ [note]) = (of notes).step note := by
  rw [of, of, List.foldl_append]
  rfl

/-- What was repeated stays repeated. -/
theorem foldl_repeated (notes : List Note) : notes.foldl step .repeated = .repeated := by
  induction notes with
  | nil => rfl
  | cons note notes ih => exact ih

/-- After a success that stands every execution is a repetition. -/
theorem foldl_standing {notes : List Note} (h : ∃ note ∈ notes, note.isExecution) :
    notes.foldl step .standing = .repeated := by
  induction notes with
  | nil =>
    obtain ⟨note, hmem, -⟩ := h
    cases hmem
  | cons note notes ih =>
    by_cases hnote : note.isExecution
    · cases note with
      | executed sql values ended => exact foldl_repeated notes
      | _ => cases hnote
    · have hstep : step .standing note = .standing := by
        cases note with
        | executed sql values ended => exact absurd rfl hnote
        | _ => rfl
      rw [List.foldl_cons, hstep]
      refine ih ?_
      obtain ⟨other, hmem, hother⟩ := h
      rcases List.mem_cons.mp hmem with rfl | hmem
      · exact absurd hother hnote
      · exact ⟨other, hmem, hother⟩

/-- A success stands with the next note, or it is repeated, unless the hook behind it fails. -/
theorem step_answered (result : StatementResult) (note : Note) :
    step (.answered result) note = .standing ∨ step (.answered result) note = .repeated ∨
      note.Protests result := by
  cases note with
  | prepared handle sql ended => exact .inl rfl
  | executed sql values ended => exact .inr (.inl rfl)
  | slept time => exact .inl rfl
  | called call ended =>
    cases call with
    | afterQuery success rows =>
      cases ended with
      | ok answer => exact .inl rfl
      | error e =>
        by_cases hcount : success.rowCount = result.rowCount
        · exact .inr (.inr ⟨success, rows, e, rfl, hcount⟩)
        · exact .inl (if_neg hcount)
    | _ => exact .inl rfl

/-- Where nothing is repeated the hook fails between a success and a later execution, right behind
the success. -/
theorem protests_of_not_repeated {before between after : List Note} {sql : String}
    {values : List (Nat × BoundValue)} {result : StatementResult} {note : Note}
    (hnote : note.isExecution)
    (h : of (before ++ .executed sql values (.ok result) :: between ++ note :: after) ≠ .repeated) :
    ∃ protest more, between = protest :: more ∧ protest.Protests result := by
  rw [of, List.foldl_append, List.foldl_append, List.foldl_cons] at h
  have hclear : before.foldl step .clear = .clear := by
    cases hbefore : before.foldl step .clear with
    | clear => rfl
    | _ =>
      rw [hbefore] at h
      refine absurd ?_ h
      show (note :: after).foldl step (between.foldl step .repeated) = .repeated
      rw [foldl_repeated, foldl_repeated]
  have hanswered : (between ++ note :: after).foldl step (.answered result) ≠ .repeated := by
    rw [List.foldl_append]
    rw [hclear] at h
    exact h
  cases between with
  | nil =>
    cases note with
    | executed again others ended => exact absurd (foldl_repeated after) hanswered
    | _ => cases hnote
  | cons next more =>
    refine ⟨next, more, rfl, ?_⟩
    rw [List.cons_append, List.foldl_cons] at hanswered
    rcases step_answered result next with hstep | hstep | hprotest
    · rw [hstep] at hanswered
      exact absurd (foldl_standing ⟨note, List.mem_append_right _ List.mem_cons_self, hnote⟩)
        hanswered
    · rw [hstep] at hanswered
      exact absurd (foldl_repeated _) hanswered
    · exact hprotest

/-- How many successes there are for which no hook has failed. -/
def due : Watch → Nat
  | .clear => 0
  | _ => 1

/-- One more note that is no repetition is no success, or it is one that becomes due, or it is about
a hook that failed. -/
theorem count_step {watch : Watch} {note : Note} (h : watch.step note ≠ .repeated) :
    watch ≠ .repeated ∧ (if note.isSuccess then 1 else 0) + watch.due ≤
      (if note.isProtest then 1 else 0) + (watch.step note).due := by
  cases watch with
  | repeated => exact absurd rfl h
  | clear =>
    refine ⟨nofun, ?_⟩
    cases note with
    | executed sql values ended => cases ended <;> exact Nat.le_refl _
    | _ => exact Nat.zero_le _
  | standing =>
    refine ⟨nofun, ?_⟩
    cases note with
    | executed sql values ended => exact absurd rfl h
    | _ => exact Nat.le_add_left _ _
  | answered result =>
    refine ⟨nofun, ?_⟩
    cases note with
    | prepared handle sql ended => exact Nat.le_refl _
    | executed sql values ended => exact absurd rfl h
    | slept time => exact Nat.le_refl _
    | called call ended =>
      cases call with
      | afterQuery success rows =>
        cases ended with
        | ok answer => exact Nat.le_refl _
        | error e => exact Nat.le_add_right 1 _
      | _ => exact Nat.le_refl _

/-- Where nothing is repeated there is at most one success more than hooks that failed behind one,
by induction on the notes from the last one on. -/
theorem count_le {notes : List Note} (h : of notes ≠ .repeated) :
    notes.countP Note.isSuccess ≤ notes.countP Note.isProtest + (of notes).due := by
  induction notes using List.reverseRecOn with
  | nil => exact Nat.le_refl 0
  | append_singleton notes note ih =>
    rw [of_append_singleton] at h ⊢
    obtain ⟨hbefore, hcount⟩ := count_step h
    have hnotes := ih hbefore
    rw [List.countP_append, List.countP_append, List.countP_singleton, List.countP_singleton]
    omega

theorem due_le_one (watch : Watch) : watch.due ≤ 1 := by
  cases watch with
  | clear => exact Nat.zero_le 1
  | _ => exact Nat.le_refl 1

end Watch

/-! ## What a run does to its notes -/

/-- The world with notes that say something of the last success. -/
def Watched (p : Watch → Prop) (s : σ × List Note) : Prop := p (Watch.of s.2)

/-- Nothing was repeated. -/
def Watch.Unrepeated (watch : Watch) : Prop := watch ≠ .repeated

/-- There is no success that stands. -/
def Watch.IsClear (watch : Watch) : Prop := watch = .clear

namespace Watch.IsClear

theorem unrepeated {watch : Watch} (h : watch.IsClear) : watch.Unrepeated := by
  rw [IsClear] at h
  rw [h]
  exact nofun

/-- No success stands unless there is a new one. -/
theorem append {notes : List Note} (h : (of notes).IsClear) {note : Note}
    (hnote : note.isSuccess = false) : (of (notes ++ [note])).IsClear := by
  rw [IsClear] at h ⊢
  rw [of_append_singleton, h]
  cases note with
  | executed sql values ended =>
    cases ended with
    | ok result => cases hnote
    | error e => rfl
  | _ => rfl

end Watch.IsClear

open Watch (IsClear Unrepeated)

/-- What is written down leaves it at that no success stands, if it is none itself. -/
theorem noted_clear {α : Type} {note : Except Error α → Note}
    (hnote : ∀ ended, (note ended).isSuccess = false) (act : Act σ α) :
    Act.Triple (Watched IsClear) (act.noted note) (fun _ => Watched IsClear) (Watched IsClear) :=
  Act.noted_keeps (K := fun notes => (Watch.of notes).IsClear)
    (fun _ ended hclear => hclear.append (hnote ended)) act

namespace Session

variable (around : Surroundings σ)

/-- A hook leaves it at that as well. -/
theorem notify_clear (call : HookCall) :
    Act.Triple (Watched IsClear) (around.noting.hooks.notify call) (fun _ => Watched IsClear)
      (Watched IsClear) :=
  around.noting_notify (K := fun notes => (Watch.of notes).IsClear) call
    fun _ _ hclear => hclear.append rfl

/-- An execution leaves a success that was just answered, or none. -/
theorem execute_watched (p : Prepared) :
    Act.Ends (Watched IsClear) (around.noting.driver.execute p)
      (Act.Split (fun result => Watched (· = .answered result)) fun _ => Watched IsClear) := by
  intro s hs
  have hnotes : (around.noting.driver.execute p s).2.2 =
      s.2 ++ [.executed p.sql p.boundValues (around.driver.execute p s.1).1] := rfl
  have hclear : Watch.of s.2 = .clear := hs
  show Act.Split _ _ (around.driver.execute p s.1).1 _
  cases hended : (around.driver.execute p s.1).1 with
  | ok result =>
    show Watch.of (around.noting.driver.execute p s).2.2 = .answered result
    rw [hnotes, hended, Watch.of_append_singleton, hclear]
    rfl
  | error e =>
    show Watch.of (around.noting.driver.execute p s).2.2 = .clear
    rw [hnotes, hended, Watch.of_append_singleton, hclear]
    rfl

/-- A statement that runs where no success stands leaves a success that was just answered, or
none. -/
theorem runBound_watched (name sql : String) (values : List BoundValue) :
    Act.Ends (fun s => Watched IsClear s.outside) (runBound around.noting name sql values)
      (Act.Split (fun result s => Watched (· = .answered result) s.outside)
        fun _ s => Watched IsClear s.outside) := by
  have hopens := around.noting_opensKeeping name (K := fun notes => (Watch.of notes).IsClear)
    fun _ _ _ _ hclear => hclear.append rfl
  have hprepare : ∀ handle, Act.Triple (Watched IsClear) (around.noting.driver.prepare handle sql)
      (fun _ => Watched IsClear) (Watched IsClear) :=
    fun handle => noted_clear (fun _ => rfl) _
  have hrun := runBound_outside
    (Q := Act.Split (fun result => Watched (· = .answered result)) fun _ => Watched IsClear)
    hopens hprepare (execute_watched around) (fun _ _ hs => hs) values
  refine hrun.weaken (fun _ hs => hs) fun r s hs => ?_
  cases r with
  | ok result => exact hs
  | error e => exact hs

/-- The hook behind a success leaves no success that stands if it fails. -/
theorem afterQuery_watched (success : Success) (rows : Option (List Row))
    (result : StatementResult) (h : success.rowCount = result.rowCount) :
    Act.Triple (Watched (· = .answered result))
      (around.noting.hooks.notify (.afterQuery success rows)) (fun _ => Watched Unrepeated)
      (Watched IsClear) := by
  unfold Hooks.notify
  refine Act.Triple.ite (fun _ => ?_) fun _ => Act.Triple.pure fun s hs => ?_
  · refine Act.Triple.ignoring fun s hs => ?_
    let call := HookCall.afterQuery success rows
    have hnotes : (around.noting.hooks.call call s).2.2 =
        s.2 ++ [.called call (around.hooks.call call s.1).1] := rfl
    have hanswered : Watch.of s.2 = .answered result := hs
    show Act.Post _ _ (around.hooks.call call s.1).1 _
    cases hended : (around.hooks.call call s.1).1 with
    | ok answer =>
      show Watch.of (around.noting.hooks.call call s).2.2 ≠ .repeated
      rw [hnotes, hended, Watch.of_append_singleton, hanswered]
      exact nofun
    | error e =>
      show Watch.of (around.noting.hooks.call call s).2.2 = .clear
      rw [hnotes, hended, Watch.of_append_singleton, hanswered]
      exact if_pos h
  · have hanswered : Watch.of s.2 = .answered result := hs
    show Watch.of s.2 ≠ .repeated
    rw [hanswered]
    exact nofun

end Session

namespace Executor

variable {around : Surroundings σ}

/-- An executor in a session whose notes say something of the last success. -/
def Watching (p : Watch → Prop) (s : Executor × Session (σ × List Note)) : Prop :=
  Watched p s.2.outside

theorem Watching.unrepeated {s : Executor × Session (σ × List Note)} (h : Watching IsClear s) :
    Watching Unrepeated s := Watch.IsClear.unrepeated h

/-- What is known of something outside is known of an executor. -/
theorem onOutside_watching {α : Type} {p q r : Watch → Prop} {act : Act (σ × List Note) α}
    (h : Act.Triple (Watched p) act (fun _ => Watched q) (Watched r)) :
    Act.Triple (Watching p) (onOutside act : Act (Executor × Session (σ × List Note)) α)
      (fun _ => Watching q) (Watching r) :=
  (h.within (S := fun s : Session (σ × List Note) => Watched p s.outside)
    (T := fun _ s => Watched q s.outside) (F := fun s => Watched r s.outside)
    (fun _ hs => hs) (fun _ _ _ _ ht => ht) fun _ _ _ ht => ht).within (fun _ hs => hs)
      (fun _ _ _ _ ht => ht) fun _ _ _ ht => ht

/-- A note in the executor has no part in it. -/
theorem note_watching {p : Watch → Prop} (f : Executor → Executor) :
    Act.Triple (Watching p) (note f : Act (Executor × Session (σ × List Note)) Unit)
      (fun _ => Watching p) (Watching p) :=
  Act.Triple.of_reached fun _ hs => hs

variable (around) (call : Call) (bound : List BoundValue)

/-- The guarded part of an attempt leaves a success, or it fails and leaves none that stands. -/
theorem execute_watching (fetchRows : Bool) :
    Act.Triple (Watching IsClear) (execute around.noting call bound fetchRows)
      (fun _ => Watching Unrepeated) (Watching IsClear) := by
  rw [execute_eq]
  have hrun : Act.Ends (Watching IsClear)
      (onSession (Session.runBound around.noting call.connection call.sql bound) :
        Act (Executor × Session (σ × List Note)) _)
      (Act.Split (fun result => Watching (· = .answered result)) fun _ => Watching IsClear) := by
    refine (Session.runBound_watched around call.connection call.sql bound).within
      (fun _ hs => hs) fun r s t _ ht => ?_
    cases r with
    | ok result => exact ht
    | error e => exact ht
  intro s hs
  have hfirst := hrun s hs
  rw [Act.bind_apply]
  generalize (onSession (Session.runBound around.noting call.connection call.sql bound) :
    Act (Executor × Session (σ × List Note)) _) s = ended at hfirst
  obtain ⟨result, t⟩ := ended
  cases result with
  | error e => exact hfirst
  | ok result =>
    refine (Act.Triple.bind (R := fun _ => Watching (· = .answered result)) ?_ fun _ => ?_) t hfirst
    · exact fun _ hs => hs
    · refine (onOutside_watching (Session.afterQuery_watched around _ _ result rfl)).bind fun _ => ?_
      exact Act.Triple.pure fun _ hs => hs

/-- What an attempt leaves: a success that was not repeated, or none that stands. -/
def Attempted (r : Except FailedAttempt Outcome) (s : Executor × Session (σ × List Note)) : Prop :=
  match r with
  | .ok _ => Watching Unrepeated s
  | .error _ => Watching IsClear s

/-- A failed attempt leaves no success that stands. -/
theorem attempt_watching (fetchRows returnRows : Bool) :
    Act.Triple (Watching IsClear) (attempt around.noting call bound fetchRows returnRows) Attempted
      (Watching Unrepeated) := by
  have hbefore := onOutside_watching (Session.notify_clear around (.beforeQuery call))
  refine (hbefore.failing fun _ hs => hs.unrepeated).bind fun _ => ?_
  refine (execute_watching around call bound fetchRows).attempt.bind fun ended => ?_
  cases ended with
  | ok answer => exact Act.Triple.pure fun _ hs => hs
  | error e =>
    refine ((note_watching _).failing fun _ hs => hs.unrepeated).bind fun _ => ?_
    have hfailure := onOutside_watching
      (Session.notify_clear around (.onError ⟨call, e.message, e.kind⟩))
    refine (hfailure.failing fun _ hs => hs.unrepeated).bind fun _ => ?_
    exact Act.Triple.pure fun _ hs => hs

/-- Waiting leaves it at that no success stands. -/
theorem pause_watching (delay : Int) :
    Act.Triple (Watching IsClear) (pause around.noting delay) (fun _ => Watching IsClear)
      (Watching IsClear) := by
  unfold pause
  refine Act.Triple.ite (fun _ => ?_) fun _ => Act.Triple.pure fun _ hs => hs
  exact Act.Triple.ofExcept.bind fun time => onOutside_watching (noted_clear (fun _ => rfl) _)

/-- So does asking about retries. -/
theorem askRetry_watching (failed : FailedAttempt) :
    Act.Triple (Watching IsClear) (askRetry around.noting call failed) (fun _ => Watching IsClear)
      (Watching IsClear) := by
  unfold askRetry
  refine Act.Triple.ite (fun _ => ?_) fun _ => Act.Triple.pure fun _ hs => hs
  exact (onOutside_watching (noted_clear (fun _ => rfl) _)).bind fun answer => Act.Triple.ofExcept

/-- Further attempts repeat no success that stands, by induction on how many are left. -/
theorem tries_watching (fetchRows returnRows : Bool) (delay : Int) (left : Nat)
    (last : FailedAttempt) :
    Act.Triple (Watching IsClear)
      (tries around.noting call bound fetchRows returnRows delay left last)
      (fun _ => Watching Unrepeated) (Watching Unrepeated) := by
  induction left generalizing last with
  | zero => exact Act.Triple.pure fun _ hs => hs.unrepeated
  | succ left ih =>
    refine ((pause_watching around delay).failing fun _ hs => hs.unrepeated).bind fun _ => ?_
    refine (attempt_watching around call bound fetchRows returnRows).bind fun ended => ?_
    cases ended with
    | ok outcome => exact Act.Triple.pure fun _ hs => hs
    | error again => exact ih again

/-- All attempts to run a statement repeat no success that stands. -/
theorem settle_watching (returnRows : Bool) :
    Act.Triple (Watching IsClear) (settle around.noting call bound returnRows)
      (fun _ => Watching Unrepeated) (Watching Unrepeated) := by
  refine (attempt_watching around call bound returnRows returnRows).bind fun ended => ?_
  cases ended with
  | ok outcome => exact Act.Triple.pure fun _ hs => hs
  | error failed =>
    refine ((askRetry_watching around call failed).failing fun _ hs => hs.unrepeated).bind
      fun decision => ?_
    cases decision with
    | none => exact Act.Triple.pure fun _ hs => hs.unrepeated
    | some decision =>
      refine (tries_watching around call bound _ returnRows _ _ failed).bind fun ended => ?_
      exact Act.Triple.pure fun _ hs => hs

/-- So does a run. -/
theorem run_watching (sql : String) (params : List Value) (returnRows : Bool) :
    Act.Triple (Watching IsClear) (run around.noting sql params returnRows)
      (fun _ => Watching Unrepeated) (Watching Unrepeated) := by
  have hopening : Act.Triple (Watching IsClear)
      (opening sql params : Act (Executor × Session (σ × List Note)) _)
      (fun _ => Watching IsClear) (Watching IsClear) := by
    refine (note_watching clearLast).bind fun _ => ?_
    refine Act.Triple.ofExcept.bind fun bound => ?_
    refine Act.Triple.bind (R := fun _ => Watching IsClear) (fun _ hs => hs) fun chosen => ?_
    have hname : Act.Triple (Watching IsClear)
        (onSession (Session.configuredName chosen) : Act (Executor × Session (σ × List Note)) _)
        (fun _ => Watching IsClear) (Watching IsClear) := by
      refine Act.Triple.of_state fun s => ?_
      cases chosen with
      | none => rfl
      | some name => rw [onSession, Act.within_apply, configuredName_some]
    refine hname.bind fun name => Act.Triple.ofExcept.bind fun _ => ?_
    exact Act.Triple.pure fun _ hs => hs
  rw [run_eq]
  refine Act.Triple.bind (R := fun _ => Watching Unrepeated) ?_ fun settled => ?_
  · refine (hopening.failing fun _ hs => hs.unrepeated).bind fun (call, bound) => ?_
    exact settle_watching around call bound returnRows
  · exact Act.Triple.of_state fun s => by rw [conclude_apply]

/-- A run executes a statement again after a success only if the hook behind that success failed: it
was told of the result, and nothing else came between. So there is at most one success more than
failures of the hook. -/
theorem run_repeats (around : Surroundings σ) (x : Executor) (s : Session σ) (sql : String)
    (params : List Value) (returnRows : Bool) :
    let notes := (run around.noting sql params returnRows (x, s.unnoted)).2.2.notes
    (∀ before between after text values result again, again.isExecution = true →
      notes = before ++ .executed text values (.ok result) :: between ++ again :: after →
        ∃ protest more, protest.Protests result ∧ between = protest :: more) ∧
    notes.countP Note.isSuccess ≤ notes.countP Note.isProtest + 1 := by
  intro notes
  have hunrepeated : Watch.of notes ≠ .repeated :=
    (run_watching around sql params returnRows).always_ends (x, s.unnoted) rfl
  refine ⟨fun before between after text values result again hagain hnotes => ?_, ?_⟩
  · rw [hnotes] at hunrepeated
    obtain ⟨protest, more, hbetween, hprotest⟩ :=
      Watch.protests_of_not_repeated hagain hunrepeated
    exact ⟨protest, more, hprotest, hbetween⟩
  · have hcount := Watch.count_le hunrepeated
    have hdue := (Watch.of notes).due_le_one
    omega

end Executor

/-- A database that answers every statement with one changed row. The hook behind a success fails,
and the one about retries has one answer. -/
def Surroundings.protesting (answer : Value) : Surroundings ℕ where
  driver :=
    { connect := fun _ _ => pure 0
      dialectName := fun _ _ => "sqlite"
      prepare := fun _ _ => pure ()
      execute := fun _ => do
        Act.change (· + 1)
        return ⟨none, 1, .null⟩
      start := fun _ => pure ()
      commit := fun _ => pure ()
      rollback := fun _ => pure ()
      command := fun _ _ => pure ()
      insertId := fun _ _ => .null
      close := fun _ => pure () }
  hooks :=
    { has := fun point => point = .afterQuery ∨ point = .retryDecider
      call := fun call =>
        if call.point = .afterQuery then throw (.raised "RuntimeError" "audit sink down")
        else pure answer }
  sleep _ := pure ()
  adapters := .standard

/-- Only the hook behind a success fails, and still the database makes the change twice. -/
theorem Executor.run_changes_twice :
    let settings : ConnectionSettings := ⟨"sqlite://", "", "", "", 0, false, [], 8⟩
    let s : Session ℕ := ⟨{ settings := [("main", settings)] }, 0⟩
    let x : Executor := { connection := some "main" }
    let around := Surroundings.protesting (.ofNamed [("retries", .int 1)])
    let notes :=
      (Executor.run around.noting "UPDATE t SET a = 1" [] false (x, s.unnoted)).2.2.notes
    (∀ call, call.point ≠ .afterQuery → ∀ count, (around.hooks.call call count).1.isOk = true) ∧
      notes.countP Note.isSuccess = 2 := by
  intro settings s x around notes
  refine ⟨fun call hcall count => ?_, by decide +kernel⟩
  dsimp only [around, Surroundings.protesting]
  rw [if_neg hcall]
  rfl

end BoundSql
