import Mathlib.Data.List.Forall2

/-!
# Results that may be errors

When a chain of steps ends well, every step has. The lemmas take such a chain apart, for a single
step and for a step that is made for each member of a list.
-/

namespace BoundSql

variable {ε α β : Type}

/-- A chain goes on with the value of its first step. -/
@[simp] theorem ok_bind (a : α) (f : α → Except ε β) : (Except.ok a >>= f) = f a := rfl

/-- A chain ends well when its first step and the rest do. -/
theorem bind_eq_ok_iff {x : Except ε α} {f : α → Except ε β} {b : β} :
    x >>= f = .ok b ↔ ∃ a, x = .ok a ∧ f a = .ok b := by
  constructor
  · intro h
    cases x with
    | error e => cases h
    | ok a => exact ⟨a, rfl, h⟩
  · rintro ⟨a, rfl, h⟩
    exact h

/-- A chain ends with an error when its first step or the rest does. -/
theorem bind_eq_error_iff {x : Except ε α} {f : α → Except ε β} {e : ε} :
    x >>= f = .error e ↔ x = .error e ∨ ∃ a, x = .ok a ∧ f a = .error e := by
  constructor
  · intro h
    cases x with
    | error other => exact .inl (congrArg _ (Except.error.inj h))
    | ok a => exact .inr ⟨a, rfl, h⟩
  · rintro (rfl | ⟨a, rfl, h⟩)
    · rfl
    · exact h

/-- A function of a result gives a value when the result is one. -/
theorem map_eq_ok_iff {x : Except ε α} {f : α → β} {b : β} :
    x.map f = .ok b ↔ ∃ a, x = .ok a ∧ f a = b := by
  constructor
  · intro h
    cases x with
    | error e => cases h
    | ok a =>
      cases h
      exact ⟨a, rfl, rfl⟩
  · rintro ⟨a, rfl, rfl⟩
    rfl

/-- A result that leaves a value is that value. -/
theorem eq_ok_of_toOption {x : Except ε α} {a : α} (h : x.toOption = some a) : x = .ok a := by
  cases x with
  | ok b => exact congrArg Except.ok (Option.some.inj h)
  | error e => cases h

/-- A check that does nothing but refuse was passed when its condition is false. -/
theorem unless_eq_ok_iff {p : Prop} [Decidable p] {e : ε} {x : Except ε α} {a : α} :
    (if p then .error e else x) = .ok a ↔ ¬ p ∧ x = .ok a := by
  by_cases h : p <;> simp [h]

/-- A refusal in front of a chain was passed when its condition is false. -/
theorem guard_eq_ok_iff {p : Prop} [Decidable p] {e : ε} {f : PUnit → Except ε α} {a : α} :
    (if p then throw e >>= f else f ⟨⟩) = .ok a ↔ ¬ p ∧ f ⟨⟩ = .ok a := by
  by_cases h : p
  · simp only [h, if_true, not_true, false_and, iff_false]
    intro hthrow
    cases hthrow
  · simp [h]

/-- A step for each member gives the results of the members in order. -/
theorem mapM_eq_ok_iff {f : α → Except ε β} {xs : List α} {ys : List β} :
    xs.mapM f = .ok ys ↔ List.Forall₂ (fun x y => f x = .ok y) xs ys := by
  induction xs generalizing ys with
  | nil =>
    rw [List.mapM_nil]
    constructor
    · intro h
      cases h
      exact .nil
    · intro h
      cases h
      rfl
  | cons x xs ih =>
    rw [List.mapM_cons, bind_eq_ok_iff]
    constructor
    · rintro ⟨y, hy, h⟩
      obtain ⟨rest, hrest, h⟩ := bind_eq_ok_iff.mp h
      cases h
      exact .cons hy (ih.mp hrest)
    · intro h
      cases h with
      | cons hy hrest => exact ⟨_, hy, bind_eq_ok_iff.mpr ⟨_, ih.mpr hrest, rfl⟩⟩

/-- What holds of every result of a step holds of all results of a list. -/
theorem forall_mem_of_mapM {f : α → Except ε β} {P : α → Prop} {Q : β → Prop}
    (hstep : ∀ x y, P x → f x = .ok y → Q y) {xs : List α} {ys : List β}
    (hxs : ∀ x ∈ xs, P x) (h : xs.mapM f = .ok ys) : ∀ y ∈ ys, Q y := by
  have hall := mapM_eq_ok_iff.mp h
  clear h
  induction hall with
  | nil => simp
  | cons hy _ ih =>
    intro z hz
    rcases List.mem_cons.mp hz with rfl | hz
    · exact hstep _ _ (hxs _ List.mem_cons_self) hy
    · exact ih (fun x hx => hxs x (List.mem_cons_of_mem _ hx)) z hz

/-- There are as many results as members. -/
theorem length_of_mapM {f : α → Except ε β} {xs : List α} {ys : List β}
    (h : xs.mapM f = .ok ys) : ys.length = xs.length :=
  (mapM_eq_ok_iff.mp h).length_eq.symm

/-! ## Success alone -/

@[simp] theorem ok_isOk (a : α) : (Except.ok a : Except ε α).isOk = true := rfl

@[simp] theorem error_isOk (e : ε) : (Except.error e : Except ε α).isOk = false := rfl

@[simp] theorem pure_isOk (a : α) : (pure a : Except ε α).isOk = true := rfl

@[simp] theorem throw_isOk (e : ε) : (throw e : Except ε α).isOk = false := rfl

/-- A result is a value or not. -/
theorem isOk_iff {x : Except ε α} : x.isOk = true ↔ ∃ a, x = .ok a := by
  cases x with
  | ok a => exact ⟨fun _ => ⟨a, rfl⟩, fun _ => rfl⟩
  | error e => exact ⟨nofun, nofun⟩

/-- When the first step of a chain does not matter for the success of the rest, the chain succeeds
if both do. -/
theorem bind_isOk_iff {x : Except ε α} {f : α → Except ε β} {P : Prop}
    (h : ∀ a, x = .ok a → ((f a).isOk = true ↔ P)) :
    (x >>= f).isOk = true ↔ x.isOk = true ∧ P := by
  cases x with
  | ok a => exact (h a rfl).trans ⟨fun hp => ⟨rfl, hp⟩, And.right⟩
  | error e => exact ⟨nofun, nofun⟩

@[simp] theorem map_isOk {x : Except ε α} {f : α → β} : (x.map f).isOk = x.isOk := by
  cases x <;> rfl

/-- A last step that always succeeds does not matter. -/
theorem bind_isOk_of {x : Except ε α} {f : α → Except ε β} (h : ∀ a, (f a).isOk = true) :
    (x >>= f).isOk = x.isOk := by
  cases x with
  | ok a => exact h a
  | error e => rfl

/-- A refusal in front of a chain adds the negation of its condition. -/
theorem guard_isOk_iff {p : Prop} [Decidable p] {e : ε} {f : PUnit → Except ε α} :
    (if p then throw e >>= f else f ⟨⟩).isOk = true ↔ ¬ p ∧ (f ⟨⟩).isOk = true := by
  simp only [isOk_iff, guard_eq_ok_iff, exists_and_left]

/-- A step for each member succeeds when it does for every one. -/
theorem mapM_isOk_iff {f : α → Except ε β} {xs : List α} :
    (xs.mapM f).isOk = true ↔ ∀ x ∈ xs, (f x).isOk = true := by
  induction xs with
  | nil => exact ⟨fun _ => List.forall_mem_nil _, fun _ => rfl⟩
  | cons x xs ih =>
    rw [List.mapM_cons, List.forall_mem_cons, ← ih]
    exact bind_isOk_iff fun y _ => by rw [bind_isOk_of fun _ => rfl]

end BoundSql
