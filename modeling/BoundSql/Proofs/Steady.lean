import BoundSql.Proofs.Lasting
import BoundSql.Proofs.Levels

/-!
# Steady connections

What is open stays open on the same handle, and every depth stays as it is: so it is when a
connection is asked for, when a statement runs and with every call of a builder that runs
statements, however they end. Only the calls that begin and end transactions change a depth.
-/

namespace BoundSql

variable {σ α : Type}

namespace Connections

/-- The depth that is reported of a name. A connection that is not open is opened for the report, at
depth zero. -/
def level (c : Connections) (name : String) : Nat := if c.isOpen name then c.depth name else 0

variable {c : Connections} {name other : String} {opened : Opened}

theorem level_of_lookup (h : c.opened.lookup name = some opened) : c.level name = c.depth name :=
  if_pos ((c.isOpen_iff name).mpr ⟨opened, h⟩)

theorem level_of_lookup_none (h : c.opened.lookup name = none) : c.level name = 0 := by
  have hclosed : c.isOpen name = false := (c.isOpen_eq_false name).mpr h
  rw [level, hclosed, if_neg Bool.false_ne_true]

/-- A depth that is set is another level of an open connection, and of that one only. -/
theorem level_setDepth (h : c.opened.lookup name = some opened) (depth : Nat) (other : String) :
    (c.setDepth name depth).level other = if other = name then depth else c.level other := by
  split
  next hsame =>
    rw [hsame, level_of_lookup (c := c.setDepth name depth) h, depth_setDepth]
  next hother =>
    have hdepth := Session.depth_setDepth_of_ne hother c depth
    simp only [level, isOpen, hdepth]
    rfl

theorem lookup_setCache_of_ne (h : other ≠ name) (cache : StatementCache Prepared) :
    (c.setCache name cache).opened.lookup other = c.opened.lookup other := by
  unfold setCache
  split
  · rw [lookup_putNamed, if_neg h]
  · rfl

/-- What was open is still open, apart from what is prepared on it, and every level is as it was. -/
structure Steady (before after : Connections) : Prop where
  /-- What was open is still open. -/
  opened : ∀ name opened, before.opened.lookup name = some opened →
    ∃ cache, after.opened.lookup name = some { opened with cache := cache }
  /-- Every level is as it was. -/
  level : ∀ name, after.level name = before.level name

namespace Steady

theorem refl (c : Connections) : Steady c c where
  opened _ opened h := ⟨opened.cache, h⟩
  level _ := rfl

theorem trans {c d e : Connections} (h : Steady c d) (hnext : Steady d e) : Steady c e where
  opened name opened hopened := by
    obtain ⟨cache, hcache⟩ := h.opened name opened hopened
    exact hnext.opened name { opened with cache := cache } hcache
  level name := (hnext.level name).trans (h.level name)

/-- A cache has no part in it. -/
theorem setCache (c : Connections) (name : String) (cache : StatementCache Prepared) :
    Steady c (c.setCache name cache) where
  opened other opened hopened := by
    by_cases hsame : other = name
    · rw [hsame, lookup_setCache, ← hsame, hopened]
      exact ⟨cache, rfl⟩
    · exact ⟨opened.cache, by rw [lookup_setCache_of_ne hsame, hopened]⟩
  level other := by simp only [Connections.level, isOpen_setCache, depth_setCache]

/-- Between a depth that is set and the same depth set back again everything may happen that is
steady. -/
theorem returning {c d : Connections} {name : String} {opened : Opened} {depth : Nat}
    (hopened : c.opened.lookup name = some opened) (h : Steady (c.setDepth name depth) d) :
    Steady c (d.setDepth name (c.depth name)) where
  opened other found hfound := h.opened other found hfound
  level other := by
    obtain ⟨cache, hcache⟩ := h.opened name opened hopened
    have hlevel := h.level other
    rw [level_setDepth hopened] at hlevel
    rw [level_setDepth hcache]
    split
    next hsame => rw [hsame, level_of_lookup hopened]
    next hother => rw [hlevel, if_neg hother]

end Steady

/-- Nothing has changed but the connection of a name, which stands at level zero. -/
structure Fresh (name : String) (before after : Connections) : Prop where
  /-- Other names have the connections they had. -/
  opened : ∀ other, other ≠ name → after.opened.lookup other = before.opened.lookup other
  /-- They have the levels they had. -/
  level : ∀ other, other ≠ name → after.level other = before.level other
  /-- The name is at level zero. -/
  zero : after.level name = 0

namespace Fresh

variable {before after : Connections}

theorem refl (h : c.opened.lookup name = none) : Fresh name c c where
  opened _ _ := rfl
  level _ _ := rfl
  zero := level_of_lookup_none h

/-- A new connection of the name may be kept. -/
theorem keep (h : Fresh name before after) (opened : Opened) :
    Fresh name before (after.keep name opened) where
  opened other hother := by
    rw [Connections.keep, lookup_putNamed, if_neg hother]
    exact h.opened other hother
  level other hother := by
    have hopen : (after.keep name opened).isOpen other = after.isOpen other := by
      rw [isOpen, isOpen, Connections.keep, lookup_putNamed, if_neg hother]
    have hdepth : (after.keep name opened).depth other = after.depth other := by
      rw [depth, depth, Connections.keep, lookup_putNamed, if_neg hother]
    rw [← h.level other hother, Connections.level, Connections.level, hopen, hdepth]
  zero := by rw [Connections.level, isOpen_keep, depth_keep, if_pos rfl]

/-- Where the name was not open, all is steady. -/
theorem steady (h : Fresh name before after) (hclosed : before.opened.lookup name = none) :
    Steady before after where
  opened other opened hopened := by
    have hother : other ≠ name := by
      intro hsame
      rw [hsame, hclosed] at hopened
      cases hopened
    exact ⟨opened.cache, by rw [h.opened other hother, hopened]⟩
  level other := by
    by_cases hsame : other = name
    · rw [hsame, h.zero, level_of_lookup_none hclosed]
    · exact h.level other hsame

end Fresh

end Connections

open Connections (Steady)

/-! ## Sessions -/

namespace Session

variable (around : Surroundings σ) {c : Connections} {name : String}

/-- An action that never makes connections unsteady. -/
def KeepsSteady (act : Act (Session σ) α) : Prop :=
  ∀ c, Act.Triple (fun s : Session σ => Steady c s.connections) act
    (fun _ s => Steady c s.connections) fun s => Steady c s.connections

/-- It is enough to look at where the action has started. -/
theorem keepsSteady_of_start {act : Act (Session σ) α}
    (h : ∀ s, Steady s.connections (act s).2.connections) : KeepsSteady act :=
  fun _ => Act.Triple.of_reached fun s hs => hs.trans (h s)

theorem onOutside_keepsSteady (act : Act σ α) : KeepsSteady (onOutside act) :=
  keepsSteady_of_start fun s => Steady.refl s.connections

theorem KeepsSteady.bind {β : Type} {act : Act (Session σ) α} {next : α → Act (Session σ) β}
    (h : KeepsSteady act) (hnext : ∀ a, KeepsSteady (next a)) : KeepsSteady (act >>= next) :=
  fun c => (h c).bind fun a => hnext a c

/-- Asking for a connection opens that one at most. -/
theorem connection_keepsSteady (name : String) : KeepsSteady (connection around name) := by
  refine keepsSteady_of_start fun s => ?_
  cases hfound : s.connections.opened.lookup name with
  | some opened =>
    rw [connection_of_lookup around hfound]
    exact Steady.refl s.connections
  | none =>
    have hopens : around.OpensKeeping name fun _ => True :=
      ⟨fun _ _ => Act.Triple.any _, fun _ _ => Act.Triple.any _, fun _ => Act.Triple.any _,
        fun _ _ => Act.Triple.any _⟩
    have hkeeps := connection_keeps (P := s.connections.Fresh name) hopens
      fun c handle dialect size hc => hc.keep _
    have hfresh := hkeeps.always_ends s ⟨.refl hfound, trivial⟩
    exact hfresh.1.steady hfound

/-- What was reported of a name is its level. -/
theorem transactionDepth_eq_level {s t : Session σ} {depth : Nat}
    (h : transactionDepth around name s = (.ok depth, t)) : depth = s.connections.level name := by
  obtain ⟨opened, u, hconnection, hview⟩ := Act.exists_of_bind_ok h
  have hsteady := (connection_keepsSteady around name s.connections).always_ends s (.refl _)
  have hfound := connection_found around name s trivial
  rw [hconnection] at hsteady hfound
  obtain ⟨hdepth, rfl⟩ := Prod.ext_iff.mp hview
  rw [← hsteady.level name, Connections.level_of_lookup hfound]
  exact (Except.ok.inj hdepth).symm

theorem statement_keepsSteady (name sql : String) : KeepsSteady (statement around name sql) := by
  refine (connection_keepsSteady around name).bind fun opened => ?_
  exact keepsSteady_of_start fun s => Steady.setCache _ _ _

theorem runBound_keepsSteady (name sql : String) (values : List BoundValue) :
    KeepsSteady (runBound around name sql values) := by
  refine (statement_keepsSteady around name sql).bind fun prepared => ?_
  refine KeepsSteady.bind (keepsSteady_of_start fun s => Steady.setCache _ _ _) fun _ => ?_
  exact onOutside_keepsSteady _

end Session

/-! ## Builders -/

/-- Opening a connection and running a statement make no connection unsteady. -/
theorem Surroundings.steady_carrying (around : Surroundings σ) (c : Connections) :
    around.Carrying (Steady c) where
  connection name := Session.connection_keepsSteady around name c
  runBound name sql values := Session.runBound_keepsSteady around name sql values c

namespace Builder

/-- A builder is on the connection that it was on, and connections are steady. -/
structure Kept (chosen : Option String) (c : Connections) (s : Builder × Session σ) : Prop where
  /-- The builder is on its connection. -/
  connection : s.1.connection = chosen
  /-- Connections are steady. -/
  steady : Steady c s.2.connections

/-- An action that leaves builders on their connections and connections steady. -/
def KeepsSteady (act : Act (Builder × Session σ) α) : Prop :=
  ∀ chosen c, Act.Triple (Kept chosen c) act (fun _ => Kept chosen c) (Kept chosen c)

/-- Connections are steady as long as that lasts. -/
theorem keepsSteady_of_lasts {act : Act (Builder × Session σ) α} (h : ∀ c, Lasts (Steady c) act) :
    KeepsSteady act :=
  fun chosen c => (h c chosen).weaken (fun _ hs => ⟨hs.connection, hs.steady⟩)
    (fun _ _ hs => ⟨hs.connection, hs.holds⟩) fun _ hs => ⟨hs.connection, hs.holds⟩

theorem changeQuery_keepsSteady (f : Query → Except Error Query) :
    KeepsSteady (changeQuery f : Act (Builder × Session σ) Unit) :=
  keepsSteady_of_lasts fun _ => changeQuery_lasts f

/-- What never makes connections unsteady may be done on the connection that was chosen. -/
theorem onConnection_keepsSteady {act : String → Act (Session σ) α}
    (h : ∀ name, Session.KeepsSteady (act name)) : KeepsSteady (onConnection act) :=
  keepsSteady_of_lasts fun c => onConnection_lasts fun name => h name c

end Builder

/-- A call that runs statements leaves connections steady, however it ends. -/
theorem TerminalCall.act_keepsSteady (around : Surroundings σ) (call : TerminalCall) :
    Builder.KeepsSteady (call.act around) :=
  Builder.keepsSteady_of_lasts fun c => act_lasts (around.steady_carrying c) call

end BoundSql
