import BoundSql.Proofs.Opening

/-!
# Notes about the world outside

Surroundings that do what others do and write down what is asked of them: statements that are
prepared and executed, calls of hooks, and waits. Nothing reads the notes, so every run ends as it
does without them. What a run does is said by its notes.
-/

namespace BoundSql

/-- Something that was asked of the world outside, and how it ended. -/
inductive Note where
  /-- A statement was prepared on a handle. -/
  | prepared (handle : Handle) (sql : String) (ended : Except Error Unit)
  /-- A statement was executed with values by position. -/
  | executed (sql : String) (values : List (Nat × BoundValue))
      (ended : Except Error StatementResult)
  /-- A hook was called. -/
  | called (call : HookCall) (ended : Except Error Value)
  /-- Some seconds were waited. -/
  | slept (time : Double)

namespace Note

/-- How the attempt to run a statement ended that a note is about. An attempt ends where preparing
it fails, and else with its execution. -/
def attempt? : Note → Option (Except Error StatementResult)
  | .prepared _ _ (.error e) => some (.error e)
  | .executed _ _ ended => some ended
  | _ => none

/-- The answer of the hook that decides about retries. -/
def decision? : Note → Option Value
  | .called (.retryDecider _ _ _) (.ok answer) => some answer
  | _ => none

/-- The seconds that were waited. -/
def sleep? : Note → Option Double
  | .slept time => some time
  | _ => none

/-- The note is not about preparing a statement. -/
def isVisible : Note → Bool
  | .prepared _ _ _ => false
  | _ => true

end Note

variable {σ α : Type}

/-- Does something beside the notes. -/
def Act.quietly (act : Act σ α) : Act (σ × List Note) α :=
  Act.within Prod.fst (fun t s => (t, s.2)) act

/-- Does something beside the notes and writes down how it ended. -/
def Act.noted (note : Except Error α → Note) (act : Act σ α) : Act (σ × List Note) α := fun s =>
  let (result, t) := act s.1
  (result, t, s.2 ++ [note result])

/-- What is done beside the notes keeps what holds of them. -/
theorem Act.quietly_keeps {K : List Note → Prop} (act : Act σ α) :
    Act.Triple (fun s => K s.2) act.quietly (fun _ s => K s.2) fun s => K s.2 :=
  Act.Triple.of_reached fun _ hs => hs

/-- What holds of notes holds further on if one more does not break it. -/
theorem Act.noted_keeps {K : List Note → Prop} {note : Except Error α → Note}
    (h : ∀ notes result, K notes → K (notes ++ [note result])) (act : Act σ α) :
    Act.Triple (fun s => K s.2) (act.noted note) (fun _ s => K s.2) fun s => K s.2 :=
  Act.Triple.of_reached fun _ hs => h _ _ hs

/-- Surroundings that do the same and write it down. -/
def Surroundings.noting (around : Surroundings σ) : Surroundings (σ × List Note) where
  driver :=
    { connect := fun kind settings => (around.driver.connect kind settings).quietly
      dialectName := fun handle s => around.driver.dialectName handle s.1
      prepare := fun handle sql => (around.driver.prepare handle sql).noted (.prepared handle sql)
      execute := fun p => (around.driver.execute p).noted (.executed p.sql p.boundValues)
      start := fun handle => (around.driver.start handle).quietly
      commit := fun handle => (around.driver.commit handle).quietly
      rollback := fun handle => (around.driver.rollback handle).quietly
      command := fun handle sql => (around.driver.command handle sql).quietly
      insertId := fun handle s => around.driver.insertId handle s.1
      close := fun handle => (around.driver.close handle).quietly }
  hooks :=
    { has := around.hooks.has
      call := fun call => (around.hooks.call call).noted (.called call) }
  sleep time := (around.sleep time).noted fun _ => .slept time
  adapters := around.adapters

namespace Session

/-- The session without notes. -/
def plain (s : Session (σ × List Note)) : Session σ := ⟨s.connections, s.outside.1⟩

/-- The session with an empty list of notes. -/
def unnoted (s : Session σ) : Session (σ × List Note) := ⟨s.connections, s.outside, []⟩

/-- The notes. -/
def notes (s : Session (σ × List Note)) : List Note := s.outside.2

/-- A session with notes and the same one without. -/
def Noted (s : Session (σ × List Note)) (t : Session σ) : Prop := t = s.plain

theorem quietly_sim (act : Act σ α) : Act.Sim Noted (onOutside act.quietly) (onOutside act) := by
  rintro s t rfl
  exact ⟨rfl, rfl⟩

theorem noted_sim (note : Except Error α → Note) (act : Act σ α) :
    Act.Sim Noted (onOutside (act.noted note)) (onOutside act) := by
  rintro s t rfl
  exact ⟨rfl, rfl⟩

variable (around : Surroundings σ) (name : String)

/-- Notes have no part in how a connection is opened. -/
theorem noting_opens : around.noting.Opens name Noted Eq Eq around where
  settings := by
    rintro s t rfl
    exact ⟨Act.matching_eq_iff.mpr rfl, rfl⟩
  resized {a b} hab := ⟨a.cacheSize, hab ▸ rfl⟩
  adapters := rfl
  connect hab kind := hab ▸ quietly_sim _
  dialectName handle := by
    rintro s t rfl
    exact ⟨rfl, rfl⟩
  command handle sql := quietly_sim _
  close handle := quietly_sim _
  keep hab handle dialect := by
    subst hab
    refine ⟨rfl, Act.Sim.change ?_⟩
    rintro s t rfl
    rfl
  notify shown driver := by
    have hhas : around.hooks.has = around.noting.hooks.has := rfl
    exact notify_sim hhas (fun call => noted_sim _ _) _

/-- A connection is found or opened with notes as it is without. -/
theorem connection_noting :
    Act.Sim Noted (connection around.noting name) (connection around name) := by
  refine Act.linked_eq_iff.mp (connection_linked (noting_opens around name) ?_)
  rintro s t rfl
  show Option.Rel Eq (s.connections.opened.lookup name) (s.connections.opened.lookup name)
  cases s.connections.opened.lookup name with
  | none => exact .none
  | some opened => exact .some rfl

/-- So is a statement. -/
theorem statement_noting (sql : String) :
    Act.Sim Noted (statement around.noting name sql) (statement around name sql) := by
  refine (connection_noting around name).bind fun opened => ?_
  have hprepare : Act.Sim (fun s t => t = s.1) (prepare around.noting opened.handle sql)
      (prepare around opened.handle sql) := by
    refine Act.Sim.bind ?_ fun _ => Act.Sim.pure _
    rintro s t rfl
    exact ⟨rfl, rfl⟩
  refine (StatementCache.get_sim hprepare).within ?_ ?_
  · rintro s t rfl
    exact ⟨rfl, rfl⟩
  · rintro s t ⟨cache, world⟩ ⟨otherCache, otherWorld⟩ rfl ⟨hcache, hworld⟩
    dsimp only at hcache hworld
    subst hcache hworld
    rfl

end Session

namespace Surroundings

variable (around : Surroundings σ) {name : String}

/-- A hook that is notified keeps what holds of notes if the note about it does not break it. -/
theorem noting_notify {K : List Note → Prop} (call : HookCall)
    (h : ∀ notes ended, K notes → K (notes ++ [.called call ended])) :
    Act.Triple (fun s => K s.2) (around.noting.hooks.notify call) (fun _ s => K s.2)
      fun s => K s.2 := by
  unfold Hooks.notify
  refine Act.Triple.ite (fun _ => ?_) fun _ => Act.Triple.pure fun _ hs => hs
  exact (Act.noted_keeps h _).ignoring

/-- Opening a connection is not written down, but for the call of its hook. -/
theorem noting_opensKeeping (name : String) {K : List Note → Prop}
    (h : ∀ notes shown driver ended, K notes →
      K (notes ++ [.called (.onConnect name shown driver) ended])) :
    around.noting.OpensKeeping name fun s => K s.2 where
  connect _ _ := Act.quietly_keeps _
  command _ _ := Act.quietly_keeps _
  close _ := Act.quietly_keeps _
  notify shown driver := around.noting_notify _ fun notes ended => h notes shown driver ended

/-- All that an executor asks for is done with notes as it is without. -/
theorem noting_sim (sql : String) (params : List Value) :
    around.noting.Sim name sql params Session.Noted around where
  configured := by
    rintro s t rfl
    rw [Executor.configuredName_some, Executor.configuredName_some]
    exact ⟨rfl, rfl⟩
  execute values _ := by
    refine Session.runBound_sim (Session.statement_noting around name sql) ?_
      (fun p => Session.noted_sim _ _) values
    intro p
    refine Act.Sim.change ?_
    rintro s t rfl
    rfl
  has := rfl
  hook call := Session.noted_sim _ _
  sleep time := Session.noted_sim (fun _ => .slept time) _

end Surroundings

end BoundSql
