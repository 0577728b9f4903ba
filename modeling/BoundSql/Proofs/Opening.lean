import BoundSql.Proofs.Connections

/-!
# Opening connections alike

Two sessions may open a connection of a name alike although they do not keep the same of it: the
room for prepared statements may differ, or what one world writes down beside the other. Actions are
linked when they end with related values or with the same error. What a session does to open a
connection is linked as soon as the few things are alike that it asks for on the way.
-/

namespace BoundSql

namespace Act

variable {σ τ α β γ δ : Type}

/-- Two values that are related, or the same error twice. -/
def Matching (V : α → β → Prop) : Except Error α → Except Error β → Prop
  | .ok a, .ok b => V a b
  | .error e, .error other => other = e
  | _, _ => False

/-- From related states both actions end with related values or the same error, and in related
states. -/
def Linked (R : σ → τ → Prop) (V : α → β → Prop) (act : Act σ α) (other : Act τ β) : Prop :=
  ∀ s t, R s t → Matching V (act s).1 (other t).1 ∧ R (act s).2 (other t).2

variable {R : σ → τ → Prop} {V : α → β → Prop}

theorem matching_eq_iff {result other : Except Error α} :
    Matching Eq result other ↔ other = result := by
  cases result with
  | ok a =>
    cases other with
    | ok b => exact ⟨fun h => congrArg _ (Eq.symm h), fun h => (Except.ok.inj h).symm⟩
    | error e => exact ⟨False.elim, fun h => nomatch h⟩
  | error e =>
    cases other with
    | ok b => exact ⟨False.elim, fun h => nomatch h⟩
    | error other => exact ⟨fun h => congrArg _ h, fun h => Except.error.inj h⟩

/-- Actions that are linked with equal values are alike. -/
theorem linked_eq_iff {act : Act σ α} {other : Act τ α} :
    Linked R Eq act other ↔ Sim R act other := by
  constructor
  · intro h s t hst
    exact ⟨matching_eq_iff.mp (h s t hst).1, (h s t hst).2⟩
  · intro h s t hst
    exact ⟨matching_eq_iff.mpr (h s t hst).1, (h s t hst).2⟩

namespace Matching

variable {W : γ → δ → Prop}

theorem refl (x : Except Error α) : Matching Eq x x := matching_eq_iff.mpr rfl

/-- Results that agree agree in less. -/
theorem imp {V' : α → β → Prop} {x : Except Error α} {y : Except Error β} (h : Matching V x y)
    (hV : ∀ a b, V a b → V' a b) : Matching V' x y := by
  cases x with
  | ok a =>
    cases y with
    | ok b => exact hV a b h
    | error e => exact h.elim
  | error e =>
    cases y with
    | ok b => exact h.elim
    | error e => exact h

/-- Results that agree are errors alike. -/
theorem error_iff {x : Except Error α} {y : Except Error β} (h : Matching V x y) {e : Error} :
    x = .error e ↔ y = .error e := by
  cases x with
  | ok a =>
    cases y with
    | ok b => exact ⟨nofun, nofun⟩
    | error e => exact h.elim
  | error f =>
    cases y with
    | ok b => exact h.elim
    | error g =>
      obtain rfl : g = f := h
      exact ⟨fun he => congrArg _ (Except.error.inj he), fun he => congrArg _ (Except.error.inj he)⟩

/-- What is made alike of values that are related is the same result. -/
theorem map_eq {f : α → γ} {g : β → γ} {x : Except Error α} {y : Except Error β}
    (h : Matching (fun a b => g b = f a) x y) : y.map g = x.map f := by
  cases x with
  | ok a =>
    cases y with
    | ok b => exact congrArg Except.ok h
    | error e => exact h.elim
  | error e =>
    cases y with
    | ok b => exact h.elim
    | error f => exact congrArg Except.error h

/-- A chain agrees with another one if it goes on to agree from related values that the first steps
give. -/
theorem bindOk {x : Except Error α} {y : Except Error β} {f : α → Except Error γ}
    {g : β → Except Error δ} (h : Matching V x y)
    (hnext : ∀ a b, x = .ok a → V a b → Matching W (f a) (g b)) :
    Matching W (x >>= f) (y >>= g) := by
  cases x with
  | ok a =>
    cases y with
    | ok b => exact hnext a b rfl h
    | error e => exact h.elim
  | error e =>
    cases y with
    | ok b => exact h.elim
    | error e => exact h

/-- Chains agree if their first steps do and they go on to agree from related values. -/
theorem bind {x : Except Error α} {y : Except Error β} {f : α → Except Error γ}
    {g : β → Except Error δ} (h : Matching V x y)
    (hnext : ∀ a b, V a b → Matching W (f a) (g b)) : Matching W (x >>= f) (y >>= g) :=
  h.bindOk fun a b _ => hnext a b

/-- Chains with the same first step agree if they go on to agree. -/
theorem after (x : Except Error α) {f : α → Except Error γ} {g : α → Except Error δ}
    (hnext : ∀ a, x = .ok a → Matching W (f a) (g a)) : Matching W (x >>= f) (x >>= g) := by
  refine (refl x).bindOk fun a b ha hab => ?_
  subst hab
  exact hnext a ha

/-- Chains behind the same refusal agree if they do where nothing is refused. -/
theorem guard {p : Prop} [Decidable p] {e : Error} {f : PUnit → Except Error γ}
    {g : PUnit → Except Error δ} (h : Matching W (f ⟨⟩) (g ⟨⟩)) :
    Matching W (if p then throw e >>= f else f ⟨⟩) (if p then throw e >>= g else g ⟨⟩) := by
  split
  · exact rfl
  · exact h

end Matching

namespace Linked

theorem pure {a : α} {b : β} (h : V a b) :
    Linked R V (Pure.pure a : Act σ α) (Pure.pure b) := fun _ _ hst => ⟨h, hst⟩

theorem throw (e : Error) : Linked R V (throw e : Act σ α) (throw e) := fun _ _ hst => ⟨rfl, hst⟩

/-- Chains are linked when they go on linked with related values. -/
theorem bind {W : γ → δ → Prop} {act : Act σ α} {other : Act τ β} {next : α → Act σ γ}
    {otherNext : β → Act τ δ} (h : Linked R V act other)
    (hnext : ∀ a b, V a b → Linked R W (next a) (otherNext b)) :
    Linked R W (act >>= next) (other >>= otherNext) := by
  intro s t hst
  obtain ⟨hresult, hstates⟩ := h s t hst
  rw [bind_apply, bind_apply]
  generalize act s = ended at hresult hstates
  generalize other t = otherEnded at hresult hstates
  obtain ⟨result, s⟩ := ended
  obtain ⟨otherResult, t⟩ := otherEnded
  cases result with
  | ok a =>
    cases otherResult with
    | ok b => exact hnext a b hresult s t hstates
    | error e => exact hresult.elim
  | error e =>
    cases otherResult with
    | ok b => exact hresult.elim
    | error e => exact ⟨hresult, hstates⟩

/-- Chains that begin alike are linked when they go on linked. -/
theorem afterSim {W : γ → δ → Prop} {act : Act σ α} {other : Act τ α} {next : α → Act σ γ}
    {otherNext : α → Act τ δ} (h : Sim R act other)
    (hnext : ∀ a, Linked R W (next a) (otherNext a)) :
    Linked R W (act >>= next) (other >>= otherNext) := by
  refine (linked_eq_iff.mpr h).bind fun a b hab => ?_
  subst hab
  exact hnext a

end Linked

end Act

variable {σ τ : Type}

/-- What is asked for to open the connection of a name is alike in two sessions. Their settings may
differ in the room for prepared statements, and so may what they keep. -/
structure Surroundings.Opens (name : String) (R : Session σ → Session τ → Prop)
    (U : ConnectionSettings → ConnectionSettings → Prop) (V : Opened → Opened → Prop)
    (around : Surroundings σ) (other : Surroundings τ) : Prop where
  /-- The settings of the name are related. -/
  settings : Act.Linked R U (Session.getSettings name) (Session.getSettings name)
  /-- Related settings differ at most in the room for prepared statements. -/
  resized : ∀ {a b}, U a b → ∃ size, b = { a with cacheSize := size }
  /-- The adapters are the same. -/
  adapters : other.adapters = around.adapters
  /-- With related settings lines are opened alike. -/
  connect : ∀ {a b}, U a b → ∀ kind, Act.Sim R (Session.onOutside (around.driver.connect kind a))
    (Session.onOutside (other.driver.connect kind b))
  /-- Handles speak the same dialects. -/
  dialectName : ∀ handle,
    Act.Sim R (Session.onOutside (Act.look (around.driver.dialectName handle)))
      (Session.onOutside (Act.look (other.driver.dialectName handle)))
  /-- Commands are alike. -/
  command : ∀ handle sql, Act.Sim R (Session.onOutside (around.driver.command handle sql))
    (Session.onOutside (other.driver.command handle sql))
  /-- So is closing a line. -/
  close : ∀ handle, Act.Sim R (Session.onOutside (around.driver.close handle))
    (Session.onOutside (other.driver.close handle))
  /-- Keeping what was opened relates it. -/
  keep : ∀ {a b}, U a b → ∀ handle dialect,
    V ⟨handle, dialect, StatementCache.ofSize a.cacheSize⟩
        ⟨handle, dialect, StatementCache.ofSize b.cacheSize⟩ ∧
      Act.Sim R
        (Session.update fun c =>
          c.keep name ⟨handle, dialect, StatementCache.ofSize a.cacheSize⟩)
        (Session.update fun c =>
          c.keep name ⟨handle, dialect, StatementCache.ofSize b.cacheSize⟩)
  /-- The hook behind it is called alike. -/
  notify : ∀ shown driver,
    Act.Sim R (Session.onOutside (around.hooks.notify (.onConnect name shown driver)))
      (Session.onOutside (other.hooks.notify (.onConnect name shown driver)))

namespace Session

variable {name : String} {R : Session σ → Session τ → Prop}
  {U : ConnectionSettings → ConnectionSettings → Prop} {V : Opened → Opened → Prop}
  {around : Surroundings σ} {other : Surroundings τ}

/-- Choosing the character set of a new connection is alike. -/
theorem chooseCharset_sim (h : around.Opens name R U V other) (handle : Handle)
    (dialect : Dialect) (settings : ConnectionSettings) :
    Act.Sim R (chooseCharset around name handle dialect settings)
      (chooseCharset other name handle dialect settings) := by
  unfold chooseCharset
  refine Act.Sim.ite ?_ (Act.Sim.pure ())
  refine Act.Sim.ite ?_ ?_
  · refine (h.command handle _).attempt.bind fun ended => ?_
    cases ended with
    | ok _ => exact Act.Sim.pure ()
    | error e =>
      refine (h.close handle).bind fun _ => ?_
      refine (Act.Sim.ofExcept _).bind fun shown => ?_
      exact Act.Sim.throw _
  · exact (h.close handle).bind fun _ => Act.Sim.throw _

/-- Opening a connection is linked. -/
theorem openConnection_linked (h : around.Opens name R U V other) :
    Act.Linked R V (openConnection around name) (openConnection other name) := by
  unfold openConnection
  refine h.settings.bind fun a b hab => ?_
  have hconnect := h.connect hab
  have hkeep := h.keep hab
  -- Nothing but the room for prepared statements tells the settings apart from here on.
  obtain ⟨size, rfl⟩ := h.resized hab
  have hchoose : other.adapters.choose { a with cacheSize := size } = around.adapters.choose a := by
    rw [h.adapters]
    rfl
  rw [hchoose]
  refine Act.Linked.afterSim (Act.Sim.ofExcept _) fun kind => ?_
  refine Act.Linked.afterSim (hconnect kind).attempt fun ended => ?_
  cases ended with
  | error e =>
    exact Act.Linked.afterSim (Act.Sim.ofExcept _) fun shown => Act.Linked.throw _
  | ok handle =>
    refine Act.Linked.afterSim (h.dialectName handle) fun driverName => ?_
    refine Act.Linked.afterSim (chooseCharset_sim h handle _ a) fun _ => ?_
    obtain ⟨hopened, hkept⟩ := hkeep handle (Dialect.ofDriver driverName)
    refine Act.Linked.afterSim hkept fun _ => ?_
    refine Act.Linked.afterSim (Act.Sim.ofExcept _) fun shown => ?_
    refine Act.Linked.afterSim (h.notify shown _) fun _ => ?_
    exact Act.Linked.pure hopened

/-- Asking for a connection is linked when what is open is related. -/
theorem connection_linked (h : around.Opens name R U V other)
    (hopened : ∀ s t, R s t →
      Option.Rel V (s.connections.opened.lookup name) (t.connections.opened.lookup name)) :
    Act.Linked R V (connection around name) (connection other name) := by
  intro s t hst
  have hrel := hopened s t hst
  cases hfound : s.connections.opened.lookup name with
  | some opened =>
    cases hother : t.connections.opened.lookup name with
    | some otherOpened =>
      rw [hfound, hother] at hrel
      rw [connection_of_lookup _ hfound, connection_of_lookup _ hother]
      cases hrel with
      | some hrelated => exact ⟨hrelated, hst⟩
    | none =>
      rw [hfound, hother] at hrel
      cases hrel
  | none =>
    cases hother : t.connections.opened.lookup name with
    | some otherOpened =>
      rw [hfound, hother] at hrel
      cases hrel
    | none =>
      rw [connection_of_lookup_none _ hfound, connection_of_lookup_none _ hother]
      exact openConnection_linked h s t hst

end Session

/-- Opening a connection keeps what holds outside. -/
structure Surroundings.OpensKeeping (name : String) (I : σ → Prop) (around : Surroundings σ) :
    Prop where
  /-- Opening a line does. -/
  connect : ∀ kind settings, Act.Triple I (around.driver.connect kind settings) (fun _ => I) I
  /-- A command does. -/
  command : ∀ handle sql, Act.Triple I (around.driver.command handle sql) (fun _ => I) I
  /-- Closing a line does. -/
  close : ∀ handle, Act.Triple I (around.driver.close handle) (fun _ => I) I
  /-- The hook behind it does. -/
  notify : ∀ shown driver,
    Act.Triple I (around.hooks.notify (.onConnect name shown driver)) (fun _ => I) I

namespace Session

variable {name : String} {I : σ → Prop} {P : Connections → Prop} {around : Surroundings σ}

/-- What is kept outside is kept beside the connections. -/
theorem onOutside_keeps {α : Type} {act : Act σ α} (h : Act.Triple I act (fun _ => I) I) :
    Act.Triple (fun s : Session σ => P s.connections ∧ I s.outside) (onOutside act)
      (fun _ s => P s.connections ∧ I s.outside) fun s => P s.connections ∧ I s.outside :=
  h.within (fun _ hs => hs.2) (fun _ _ _ hs ht => ⟨hs.1, ht⟩) fun _ _ hs ht => ⟨hs.1, ht⟩

/-- Asking for a connection keeps what holds outside, and what holds of the connections if a new
one does not break it. -/
theorem connection_keeps (h : around.OpensKeeping name I)
    (hkeep : ∀ c handle dialect size, P c →
      P (c.keep name ⟨handle, dialect, StatementCache.ofSize size⟩)) :
    Act.Triple (fun s : Session σ => P s.connections ∧ I s.outside) (connection around name)
      (fun _ s => P s.connections ∧ I s.outside) fun s => P s.connections ∧ I s.outside := by
  have hopens : around.Opens name
      (fun s t : Session σ => t = s ∧ P s.connections ∧ I s.outside) Eq Eq around :=
    { settings := Act.linked_eq_iff.mpr (Act.Triple.of_state fun _ => rfl).sim
      resized := fun {a b} hab => ⟨a.cacheSize, hab ▸ rfl⟩
      adapters := rfl
      connect := fun hab kind => hab ▸ (onOutside_keeps (h.connect kind _)).sim
      dialectName := fun _ => (Act.Triple.of_state fun _ => rfl).sim
      command := fun handle sql => (onOutside_keeps (h.command handle sql)).sim
      close := fun handle => (onOutside_keeps (h.close handle)).sim
      keep := fun {a b} hab handle dialect => by
        subst hab
        exact ⟨rfl, (Act.Triple.change fun s hs => ⟨hkeep _ _ _ _ hs.1, hs.2⟩).sim⟩
      notify := fun shown driver => (onOutside_keeps (h.notify shown driver)).sim }
  have hsim := Act.linked_eq_iff.mp (connection_linked hopens fun s t hst => by
    rw [hst.1]
    cases s.connections.opened.lookup name with
    | none => exact .none
    | some opened => exact .some rfl)
  exact Act.Triple.of_sim hsim (fun s hs => ⟨rfl, hs⟩) fun s t hst => hst.1 ▸ hst.2

end Session

end BoundSql
