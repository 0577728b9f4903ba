import BoundSql.Proofs.Simulation

/-!
# What holds when an action has ended

A triple says what holds of the state before an action, what holds of value and state when it has
ended well, and what holds of the state when it has ended with an error. There is a rule for each
way in which actions are put together. Where the error itself matters, one property of result and
state takes the place of the two.
-/

namespace BoundSql

namespace Act

variable {σ τ α β : Type}

/-- One property of value and state for a good end, another one of the state for a bad one. -/
def Post (Q : α → σ → Prop) (E : σ → Prop) : Except Error α → σ → Prop
  | .ok a => Q a
  | .error _ => E

/-- Started where the first property holds, the action ends well with the second one or with an
error and the third one. -/
def Triple (P : σ → Prop) (act : Act σ α) (Q : α → σ → Prop) (E : σ → Prop) : Prop :=
  ∀ s, P s → Post Q E (act s).1 (act s).2

/-- What follows at either end follows from the end. -/
theorem Post.imp {Q : α → σ → Prop} {Q' : α → τ → Prop} {E : σ → Prop} {E' : τ → Prop}
    {result : Except Error α} {s : σ} {t : τ} (h : Post Q E result s)
    (hQ : ∀ a, Q a s → Q' a t) (hE : E s → E' t) : Post Q' E' result t := by
  cases result with
  | ok a => exact hQ a h
  | error e => exact hE h

namespace Triple

variable {P P' E E' : σ → Prop} {Q Q' : α → σ → Prop} {act : Act σ α}

theorem pure {a : α} (h : ∀ s, P s → Q a s) : Triple P (Pure.pure a) Q E := h

theorem throw {e : Error} (h : ∀ s, P s → E s) : Triple P (throw e) Q E := h

/-- What holds of the state that is reached holds at either end. -/
theorem of_reached (h : ∀ s, P s → E (act s).2) : Triple P act (fun _ => E) E := by
  intro s hs
  have hend := h s hs
  generalize (act s).1 = result
  cases result with
  | ok a => exact hend
  | error e => exact hend

/-- Of what is not looked at nothing is known. -/
theorem any (act : Act σ α) : Triple P act (fun _ _ => True) fun _ => True :=
  of_reached fun _ _ => trivial

/-- An action that leaves the state keeps whatever holds of it. -/
theorem of_state (h : ∀ s, (act s).2 = s) : Triple P act (fun _ => P) P :=
  of_reached fun s hs => (h s).symm ▸ hs

theorem ofExcept {result : Except Error α} : Triple P (Act.ofExcept result) (fun _ => P) P :=
  of_state fun _ => rfl

theorem look {view : σ → α} (h : ∀ s, P s → Q (view s) s) : Triple P (Act.look view) Q E := h

theorem change {f : σ → σ} {Q : Unit → σ → Prop} (h : ∀ s, P s → Q () (f s)) :
    Triple P (Act.change f) Q E := h

/-- A chain goes on from what holds after its first action. -/
theorem bind {R : α → σ → Prop} {Q : β → σ → Prop} {next : α → Act σ β} (h : Triple P act R E)
    (hnext : ∀ a, Triple (R a) (next a) Q E) : Triple P (act >>= next) Q E := by
  intro s hs
  have hfirst := h s hs
  rw [bind_apply]
  generalize act s = ended at hfirst
  obtain ⟨result, t⟩ := ended
  cases result with
  | ok a => exact hnext a t hfirst
  | error e => exact hfirst

/-- The value of an action may be dropped. -/
theorem ignoring {Q : σ → Prop} (h : Triple P act (fun _ => Q) E) :
    Triple P (do let _ ← act; return ()) (fun _ => Q) E :=
  h.bind fun _ => pure fun _ hs => hs

/-- The end of an action is looked at in the state that was reached. -/
theorem attempt (h : Triple P act Q E) : Triple P (Act.attempt act) (Post Q E) E' := h

theorem ite {p : Prop} [Decidable p] {other : Act σ α} (h : p → Triple P act Q E)
    (hother : ¬ p → Triple P other Q E) : Triple P (if p then act else other) Q E := by
  split
  next hp => exact h hp
  next hp => exact hother hp

/-- An action on a part of the state keeps to what holds of the part. -/
theorem within {part : τ → σ} {put : σ → τ → τ} {S F : τ → Prop} {T : α → τ → Prop}
    (h : Triple P act Q E) (hpart : ∀ s, S s → P (part s))
    (hok : ∀ a s t, S s → Q a t → T a (put t s)) (herror : ∀ s t, S s → E t → F (put t s)) :
    Triple S (Act.within part put act) T F := by
  intro s hs
  exact (h _ (hpart s hs)).imp (fun a => hok a s _ hs) (herror s _ hs)

/-- A change at the end is made at either end. -/
theorem always {finish : σ → σ} (h : Triple P act Q E) (hQ : ∀ a s, Q a s → Q' a (finish s))
    (hE : ∀ s, E s → E' (finish s)) : Triple P (Act.always act finish) Q' E' := by
  intro s hs
  exact (h s hs).imp (fun a => hQ a _) (hE _)

/-- What does not depend on the state may be taken out of what holds before. -/
theorem given {p : Prop} (h : p → Triple P act Q E) : Triple (fun s => p ∧ P s) act Q E :=
  fun s hs => h hs.1 s hs.2

/-- Less may be asked for, and more may be given. -/
theorem weaken (h : Triple P act Q E) (hP : ∀ s, P' s → P s) (hQ : ∀ a s, Q a s → Q' a s)
    (hE : ∀ s, E s → E' s) : Triple P' act Q' E' := by
  intro s hs
  exact (h s (hP s hs)).imp (fun a => hQ a _) (hE _)

/-- More may hold after an error. -/
theorem failing (h : Triple P act Q E) (hE : ∀ s, E s → E' s) : Triple P act Q E' :=
  h.weaken (fun _ hs => hs) (fun _ _ hs => hs) hE

/-- An action that always ends well has no bad end. -/
theorem unfailing (h : Triple P act Q E) (hok : ∀ s, P s → ∃ a, (act s).1 = .ok a) :
    Triple P act Q fun _ => False := by
  intro s hs
  have hend := h s hs
  obtain ⟨a, ha⟩ := hok s hs
  rw [ha] at hend ⊢
  exact hend

/-- A property that alike runs of one action keep holds at either end. -/
theorem of_sim {R : σ → σ → Prop} (h : Sim R act act) (hR : ∀ s, P s → R s s)
    (hP : ∀ s t, R s t → P s) : Triple P act (fun _ => P) P :=
  of_reached fun s hs => hP _ _ (h s s (hR s hs)).2

/-- Two runs of one action are alike when they keep a property. -/
theorem sim (h : Triple P act (fun _ => P) P) : Sim (fun s t => t = s ∧ P s) act act := by
  rintro s t ⟨rfl, hs⟩
  have hend := h _ hs
  refine ⟨rfl, rfl, ?_⟩
  generalize (act t).1 = result at hend
  cases result with
  | ok a => exact hend
  | error e => exact hend

end Triple

/-- Started where the first property holds, the action ends with a result and a state that have the
second one. -/
def Ends (P : σ → Prop) (act : Act σ α) (Q : Except Error α → σ → Prop) : Prop :=
  ∀ s, P s → Q (act s).1 (act s).2

/-- One property of value and state for a good end, another one of error and state for a bad one. -/
def Split (Q : α → σ → Prop) (E : Error → σ → Prop) : Except Error α → σ → Prop
  | .ok a => Q a
  | .error e => E e

/-- A triple says the same of every error. -/
theorem Triple.split {P E : σ → Prop} {Q : α → σ → Prop} {act : Act σ α} (h : Triple P act Q E) :
    Ends P act (Split Q fun _ => E) := by
  intro s hs
  have hend := h s hs
  generalize (act s).1 = result at hend ⊢
  cases result with
  | ok a => exact hend
  | error e => exact hend

/-- What holds at either end holds at the end. -/
theorem Triple.always_ends {P Q : σ → Prop} {act : Act σ α} (h : Triple P act (fun _ => Q) Q) :
    Ends P act fun _ => Q := by
  intro s hs
  have hend := h s hs
  generalize (act s).1 = result at hend
  cases result with
  | ok a => exact hend
  | error e => exact hend

namespace Ends

variable {P P' : σ → Prop} {Q Q' : Except Error α → σ → Prop} {act : Act σ α}

theorem pure {a : α} (h : ∀ s, P s → Q (.ok a) s) : Ends P (Pure.pure a) Q := h

/-- A chain goes on from what holds after its first action; an error ends it. -/
theorem bind {R : Except Error α → σ → Prop} {Q : Except Error β → σ → Prop}
    {next : α → Act σ β} (h : Ends P act R) (hnext : ∀ a, Ends (R (.ok a)) (next a) Q)
    (herror : ∀ e s, R (.error e) s → Q (.error e) s) : Ends P (act >>= next) Q := by
  intro s hs
  have hfirst := h s hs
  rw [bind_apply]
  generalize act s = ended at hfirst
  obtain ⟨result, t⟩ := ended
  cases result with
  | ok a => exact hnext a t hfirst
  | error e => exact herror e t hfirst

/-- A chain goes on from what holds after an action that never fails. -/
theorem after {R : α → σ → Prop} {Q : Except Error β → σ → Prop} {next : α → Act σ β}
    (h : Triple P act R fun _ => False) (hnext : ∀ a, Ends (R a) (next a) Q) :
    Ends P (act >>= next) Q :=
  bind h hnext fun _ _ hfalse => hfalse.elim

/-- The end of an action is looked at in the state that was reached. -/
theorem attempt (h : Ends P act Q) : Triple P (Act.attempt act) Q fun _ => False := h

/-- An action on a part of the state keeps to what holds of the part. -/
theorem within {part : τ → σ} {put : σ → τ → τ} {S : τ → Prop} {T : Except Error α → τ → Prop}
    (h : Ends P act Q) (hpart : ∀ s, S s → P (part s))
    (hput : ∀ r s t, S s → Q r t → T r (put t s)) : Ends S (Act.within part put act) T :=
  fun s hs => hput _ s _ hs (h _ (hpart s hs))

/-- Less may be asked for, and more may be given. -/
theorem weaken (h : Ends P act Q) (hP : ∀ s, P' s → P s) (hQ : ∀ r s, Q r s → Q' r s) :
    Ends P' act Q' :=
  fun s hs => hQ _ _ (h s (hP s hs))

end Ends

end Act

end BoundSql
