import BoundSql.Error

/-!
# Actions

An action works on a state and ends with a value or an error. The state it has reached stays in
either case, so what happened before an error is not lost. `Act.attempt` turns an error into a
value, `Act.always` changes the state at the end whatever the end was, and `Act.within` runs an
action on a part of a larger state.
-/

namespace BoundSql

/-- A computation with a state that may fail and keeps its state when it does. -/
def Act (σ α : Type) : Type := σ → Except Error α × σ

namespace Act

variable {σ τ α β : Type}

/-- Runs an action from a state. -/
def run (act : Act σ α) (s : σ) : Except Error α × σ := act s

/-- Ends with a value at once. -/
def done (a : α) : Act σ α := fun s => (.ok a, s)

/-- Ends with an error at once. -/
def fail (e : Error) : Act σ α := fun s => (.error e, s)

/-- Goes on with the value of an action; an error ends the whole. -/
def andThen (act : Act σ α) (next : α → Act σ β) : Act σ β := fun s =>
  match act s with
  | (.ok a, t) => next a t
  | (.error e, t) => (.error e, t)

/-- Goes on with another action after an error. -/
def orElse (act : Act σ α) (other : Error → Act σ α) : Act σ α := fun s =>
  match act s with
  | (.ok a, t) => (.ok a, t)
  | (.error e, t) => other e t

instance : Monad (Act σ) where
  pure := done
  bind := andThen

instance : MonadExceptOf Error (Act σ) where
  throw := fail
  tryCatch := orElse

/-- The state. -/
def state : Act σ σ := fun s => (.ok s, s)

/-- A view of the state. -/
def look (view : σ → α) : Act σ α := fun s => (.ok (view s), s)

/-- Changes the state. -/
def change (f : σ → σ) : Act σ Unit := fun s => (.ok (), f s)

/-- A result that does not depend on the state. -/
def ofExcept (result : Except Error α) : Act σ α := fun s => (result, s)

/-- The end of an action as a value. -/
def attempt (act : Act σ α) : Act σ (Except Error α) := fun s =>
  let (result, t) := act s
  (.ok result, t)

/-- Changes the state when the action has ended, however it ended. -/
def always (act : Act σ α) (finish : σ → σ) : Act σ α := fun s =>
  let (result, t) := act s
  (result, finish t)

/-- Runs an action on a part of the state. -/
def within (part : τ → σ) (put : σ → τ → τ) (act : Act σ α) : Act τ α := fun s =>
  let (result, t) := act (part s)
  (result, put t s)

@[simp] theorem pure_apply (a : α) (s : σ) : (pure a : Act σ α) s = (.ok a, s) := rfl

theorem bind_apply (act : Act σ α) (next : α → Act σ β) (s : σ) :
    (act >>= next) s =
      match act s with
      | (.ok a, t) => next a t
      | (.error e, t) => (.error e, t) := rfl

@[simp] theorem throw_apply (e : Error) (s : σ) : (throw e : Act σ α) s = (.error e, s) := rfl

@[simp] theorem look_apply (view : σ → α) (s : σ) : look view s = (.ok (view s), s) := rfl

@[simp] theorem change_apply (f : σ → σ) (s : σ) : change f s = (.ok (), f s) := rfl

@[simp] theorem ofExcept_apply (r : Except Error α) (s : σ) : ofExcept r s = (r, s) := rfl

@[simp] theorem attempt_apply (act : Act σ α) (s : σ) :
    attempt act s = (.ok (act s).1, (act s).2) := rfl

@[simp] theorem always_apply (act : Act σ α) (finish : σ → σ) (s : σ) :
    always act finish s = ((act s).1, finish (act s).2) := rfl

@[simp] theorem within_apply (part : τ → σ) (put : σ → τ → τ) (act : Act σ α) (s : τ) :
    within part put act s = ((act (part s)).1, put (act (part s)).2 s) := rfl

theorem bind_of_ok {act : Act σ α} {next : α → Act σ β} {s t : σ} {a : α}
    (h : act s = (.ok a, t)) : (act >>= next) s = next a t := by
  rw [bind_apply, h]

theorem bind_of_error {act : Act σ α} {next : α → Act σ β} {s t : σ} {e : Error}
    (h : act s = (.error e, t)) : (act >>= next) s = (.error e, t) := by
  rw [bind_apply, h]

/-- An action that ends well has a value. -/
theorem exists_of_isOk {act : Act σ α} {s : σ} (h : (act s).1.isOk = true) :
    ∃ a, act s = (.ok a, (act s).2) := by
  generalize act s = ended at h ⊢
  obtain ⟨result, t⟩ := ended
  cases result with
  | ok a => exact ⟨a, rfl⟩
  | error e => cases h

/-- A chain that ends well has gone on from its first action. -/
theorem exists_of_bind_ok {act : Act σ α} {next : α → Act σ β} {s t : σ} {b : β}
    (h : (act >>= next) s = (.ok b, t)) : ∃ a u, act s = (.ok a, u) ∧ next a u = (.ok b, t) := by
  rw [bind_apply] at h
  generalize act s = ended at h ⊢
  obtain ⟨result, u⟩ := ended
  cases result with
  | ok a => exact ⟨a, u, rfl, h⟩
  | error e => cases h

theorem pure_bind (a : α) (next : α → Act σ β) : ((pure a : Act σ α) >>= next) = next a := rfl

theorem bind_assoc {γ : Type} (act : Act σ α) (next : α → Act σ β) (after : β → Act σ γ) :
    ((act >>= next) >>= after) = (act >>= fun a => next a >>= after) := by
  funext s
  rw [bind_apply, bind_apply, bind_apply]
  obtain ⟨result, t⟩ := act s
  cases result with
  | ok a => rfl
  | error e => rfl

/-- A chain on a part of the state is a chain of actions on the part, which are put back one by
one. -/
theorem within_bind {part : τ → σ} {put : σ → τ → τ} (hpart : ∀ t s, part (put t s) = t)
    (hput : ∀ t u s, put u (put t s) = put u s) (act : Act σ α) (next : α → Act σ β) :
    within part put (act >>= next) =
      (within part put act >>= fun a => within part put (next a)) := by
  funext s
  rw [bind_apply, within_apply, within_apply, bind_apply]
  obtain ⟨result, t⟩ := act (part s)
  cases result with
  | ok a => simp only [within_apply, hpart, hput]
  | error e => rfl

end Act

end BoundSql
