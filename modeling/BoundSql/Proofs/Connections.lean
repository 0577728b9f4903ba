import BoundSql.Proofs.Triple
import BoundSql.Session.Connections

/-!
# Open connections and depths

What the operations on connections do to the connection of a name and to its depth: keeping a
connection opens it at depth zero, setting a depth sets only that, and the cache of prepared
statements has no part in either.
-/

namespace BoundSql

namespace Connections

variable (c : Connections) (name : String)

theorem isOpen_iff : c.isOpen name = true ↔ ∃ opened, c.opened.lookup name = some opened :=
  Option.isSome_iff_exists

theorem isOpen_eq_false : c.isOpen name = false ↔ c.opened.lookup name = none := by
  unfold isOpen
  cases c.opened.lookup name <;> simp

@[simp] theorem depth_setDepth (depth : Nat) : (c.setDepth name depth).depth name = depth := by
  rw [Connections.depth, setDepth, lookup_putNamed, if_pos rfl]
  rfl

@[simp] theorem isOpen_keep (opened : Opened) : (c.keep name opened).isOpen name = true := by
  rw [isOpen, keep, lookup_putNamed, if_pos rfl]
  rfl

@[simp] theorem depth_keep (opened : Opened) : (c.keep name opened).depth name = 0 := by
  rw [Connections.depth, keep, lookup_putNamed, if_pos rfl]
  rfl

@[simp] theorem depth_setCache (cache : StatementCache Prepared) (other : String) :
    (c.setCache name cache).depth other = c.depth other := by
  unfold setCache
  split <;> rfl

@[simp] theorem isOpen_setCache (cache : StatementCache Prepared) (other : String) :
    (c.setCache name cache).isOpen other = c.isOpen other := by
  unfold setCache
  split
  next opened hopened =>
    rw [isOpen, isOpen, lookup_putNamed]
    split
    next h =>
      rw [h, hopened]
      rfl
    next => rfl
  next => rfl

@[simp] theorem settings_setCache (cache : StatementCache Prepared) :
    (c.setCache name cache).settings = c.settings := by
  unfold setCache
  split <;> rfl

theorem lookup_setCache (cache : StatementCache Prepared) :
    (c.setCache name cache).opened.lookup name =
      (c.opened.lookup name).map fun opened => { opened with cache := cache } := by
  unfold setCache
  split
  next opened hopened =>
    rw [lookup_putNamed, if_pos rfl, hopened]
    rfl
  next hnone => rw [hnone, Option.map_none]

/-- Setting a cache looks at nothing but the open connections. -/
theorem opened_setCache_congr {c other : Connections} (h : other.opened = c.opened)
    (cache : StatementCache Prepared) :
    (other.setCache name cache).opened = (c.setCache name cache).opened := by
  unfold setCache
  rw [h]
  split
  · rfl
  · exact h

theorem cacheOf_congr {c other : Connections} (h : other.opened = c.opened) :
    other.cacheOf name = c.cacheOf name := by
  rw [cacheOf, cacheOf, h]

end Connections

/-- An open connection is found as it is. -/
theorem Session.connection_of_lookup {σ : Type} (around : Surroundings σ) {name : String}
    {opened : Opened} {s : Session σ} (h : s.connections.opened.lookup name = some opened) :
    Session.connection around name s = (.ok opened, s) := by
  rw [Session.connection, Act.bind_apply, Session.view, Act.look_apply, h]
  rfl

/-- One that is not open is opened. -/
theorem Session.connection_of_lookup_none {σ : Type} (around : Surroundings σ) {name : String}
    {s : Session σ} (h : s.connections.opened.lookup name = none) :
    Session.connection around name s = Session.openConnection around name s := by
  rw [Session.connection, Act.bind_apply, Session.view, Act.look_apply, h]

/-- A connection that was opened is found from then on. -/
theorem Session.openConnection_found {σ : Type} (around : Surroundings σ) (name : String) :
    Act.Triple (fun _ => True) (Session.openConnection around name)
      (fun opened s => s.connections.opened.lookup name = some opened) (fun _ => True) := by
  unfold Session.openConnection
  refine (Act.Triple.any _).bind fun settings => ?_
  refine (Act.Triple.any _).bind fun kind => ?_
  refine (Act.Triple.any _).bind fun ended => ?_
  cases ended with
  | error e =>
    refine (Act.Triple.any _).bind fun shown => ?_
    exact Act.Triple.throw fun _ _ => trivial
  | ok handle =>
    refine (Act.Triple.any _).bind fun driverName => ?_
    refine (Act.Triple.any _).bind fun _ => ?_
    let opened : Opened :=
      ⟨handle, Dialect.ofDriver driverName, StatementCache.ofSize settings.cacheSize⟩
    let Found (s : Session σ) : Prop := s.connections.opened.lookup name = some opened
    refine Act.Triple.bind (R := fun _ => Found) ?_ fun _ => ?_
    · exact Act.Triple.change fun s _ => (lookup_putNamed _ _ _ _).trans (if_pos rfl)
    have hkept : ∀ {α : Type} (act : Act σ α),
        Act.Triple Found (Session.onOutside act) (fun _ => Found) (fun _ => True) := by
      intro α act
      have hreached : Act.Triple Found (Session.onOutside act) (fun _ => Found) Found :=
        Act.Triple.of_reached fun _ hs => hs
      exact hreached.failing fun _ _ => trivial
    refine (Act.Triple.ofExcept.failing fun _ _ => trivial).bind fun shown => ?_
    refine (hkept _).bind fun _ => ?_
    exact Act.Triple.pure fun _ hs => hs

/-- A connection that was asked for is found from then on. -/
theorem Session.connection_found {σ : Type} (around : Surroundings σ) (name : String) :
    Act.Triple (fun _ => True) (Session.connection around name)
      (fun opened s => s.connections.opened.lookup name = some opened) (fun _ => True) := by
  intro s _
  cases hfound : s.connections.opened.lookup name with
  | some opened =>
    rw [Session.connection_of_lookup _ hfound]
    exact hfound
  | none =>
    rw [Session.connection_of_lookup_none _ hfound]
    exact Session.openConnection_found around name s trivial

namespace StatementCache

variable {α σ : Type} {prepare : String → Act σ α}

/-- A lookup leaves the world outside alone when preparing does. -/
theorem get_outside (hprepare : ∀ sql s, (prepare sql s).2 = s) (sql : String)
    (c : StatementCache α) (s : σ) : (get prepare sql (c, s)).2.2 = s := by
  have hs := hprepare sql s
  rw [get]
  generalize prepare sql s = ended at hs ⊢
  obtain ⟨result, t⟩ := ended
  subst hs
  split
  · rfl
  · split
    · rfl
    · cases result <;> rfl

/-- A lookup is alike when preparing is. -/
theorem get_sim {τ : Type} {R : σ → τ → Prop} {other : String → Act τ α} {sql : String}
    (h : Act.Sim R (prepare sql) (other sql)) :
    Act.Sim (fun s t => t.1 = s.1 ∧ R s.2 t.2) (get prepare sql) (get other sql) := by
  rintro ⟨c, s⟩ ⟨c', t⟩ ⟨hcache, hst⟩
  obtain rfl : c' = c := hcache
  obtain ⟨hresult, hstates⟩ := h s t hst
  rw [get, get]
  generalize prepare sql s = ended at hresult hstates ⊢
  generalize other sql t = otherEnded at hresult hstates ⊢
  obtain ⟨result, s⟩ := ended
  obtain ⟨otherResult, t⟩ := otherEnded
  obtain rfl : otherResult = result := hresult
  split
  · exact ⟨rfl, rfl, hstates⟩
  · split
    · exact ⟨rfl, rfl, hst⟩
    · cases otherResult with
      | ok statement => exact ⟨rfl, rfl, hstates⟩
      | error e => exact ⟨rfl, rfl, hstates⟩

end StatementCache

end BoundSql
