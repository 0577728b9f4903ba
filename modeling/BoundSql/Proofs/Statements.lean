import BoundSql.Proofs.Opening

/-!
# Prepared statements of a session

A session looks a statement up by its text, drops what was bound to it before and binds the values
of the call. The cache is sound when each statement in it belongs to the connection and to the text
it is kept under. Then what is executed depends on handle, text and values only, whatever the cache
held, and nothing of the session has changed but its caches.
-/

namespace BoundSql

/-! ## Bound values -/

/-- Values at consecutive positions. -/
def positioned (first : Nat) : List BoundValue → List (Nat × BoundValue)
  | [] => []
  | v :: rest => (first, v) :: positioned (first + 1) rest

theorem le_of_mem_positioned {first : Nat} {values : List BoundValue} {b : Nat × BoundValue}
    (h : b ∈ positioned first values) : first ≤ b.1 := by
  induction values generalizing first with
  | nil => cases h
  | cons v rest ih =>
    rcases List.mem_cons.mp h with rfl | h
    · exact Nat.le_refl _
    · have := ih h
      omega

namespace Prepared

/-- Binding behind all positions so far adds the values in order. -/
theorem bindFrom_eq (p : Prepared) (first : Nat) (values : List BoundValue)
    (h : ∀ b ∈ p.bindings, b.1 < first) :
    p.bindFrom first values = { p with bindings := p.bindings ++ positioned first values } := by
  induction values generalizing p first with
  | nil =>
    rw [bindFrom, positioned, List.append_nil]
  | cons v rest ih =>
    have hkept : p.bindings.filter (fun b => b.1 ≠ first) = p.bindings := by
      refine List.filter_eq_self.mpr fun b hb => ?_
      have := h b hb
      exact decide_eq_true (by omega)
    have hbind : p.bind first v = { p with bindings := p.bindings ++ [(first, v)] } := by
      rw [bind, hkept]
    have hbelow : ∀ b ∈ (p.bind first v).bindings, b.1 < first + 1 := by
      intro b hb
      rw [hbind] at hb
      rcases List.mem_append.mp hb with hb | hb
      · have := h b hb
        omega
      · rw [List.mem_singleton.mp hb]
        exact Nat.lt_succ_self first
    rw [bindFrom, ih _ _ hbelow, hbind, positioned]
    simp only [List.append_assoc, List.singleton_append]

/-- What is bound to a statement is gone when it is reset and bound again. -/
theorem bindAll_reset (p : Prepared) (values : List BoundValue) :
    p.reset.bindAll values = ⟨p.handle, p.sql, positioned 1 values⟩ := by
  rw [bindAll, bindFrom_eq]
  · rfl
  · intro b hb
    cases hb

/-- The values that were bound in order are found in order. -/
theorem boundValues_positioned (handle : Handle) (sql : String) (first : Nat)
    (values : List BoundValue) :
    boundValues ⟨handle, sql, positioned first values⟩ = positioned first values := by
  refine List.mergeSort_of_pairwise ?_
  induction values generalizing first with
  | nil => exact .nil
  | cons v rest ih =>
    refine .cons (fun b hb => ?_) (ih (first + 1))
    have := le_of_mem_positioned hb
    exact decide_eq_true (by omega)

end Prepared

/-! ## Caches -/

namespace StatementCache

variable {α σ : Type} {P : String → α → Prop}

/-- Every statement in the cache has a property together with its text. -/
def Holds (P : String → α → Prop) (c : StatementCache α) : Prop := ∀ e ∈ c.entries, P e.1 e.2

theorem holds_ofSize (size : Int) : (ofSize size : StatementCache α).Holds P := by
  intro e he
  cases he

theorem Holds.find? {c : StatementCache α} (h : c.Holds P) {sql : String} {statement : α}
    (hfound : c.find? sql = some statement) : P sql statement := by
  obtain ⟨before, after, hentries, -⟩ := List.lookup_eq_some_iff.mp hfound
  refine h (sql, statement) ?_
  rw [hentries]
  exact List.mem_append_right _ List.mem_cons_self

/-- Taking a statement in keeps the property, also when another one is given up. -/
theorem Holds.insert {c : StatementCache α} (h : c.Holds P) {sql : String} {statement : α}
    (hnew : P sql statement) : (c.insert sql statement).Holds P := by
  have hall : ∀ e ∈ c.entries ++ [(sql, statement)], P e.1 e.2 := by
    intro e he
    rcases List.mem_append.mp he with he | he
    · exact h e he
    · rw [List.mem_singleton.mp he]
      exact hnew
  intro e he
  rw [StatementCache.insert, evict] at he
  split at he
  · exact hall e (List.mem_of_mem_drop he)
  · exact hall e he

/-- So does putting a statement in the place of another one. -/
theorem Holds.replace {c : StatementCache α} (h : c.Holds P) {sql : String} {statement : α}
    (hnew : P sql statement) : (c.replace sql statement).Holds P := by
  intro e he
  obtain ⟨old, hold, rfl⟩ := List.mem_map.mp he
  by_cases hsql : old.1 = sql
  · rw [if_pos hsql, hsql]
    exact hnew
  · rw [if_neg hsql]
    exact h old hold

/-- A lookup gives what is in the cache or what is prepared, and fails only as preparing does. -/
theorem get_ends {prepare : String → Act σ α} {sql : String} {I : σ → Prop}
    {E : Error → σ → Prop}
    (h : Act.Ends I (prepare sql) (Act.Split (fun statement s => P sql statement ∧ I s) E)) :
    Act.Ends (fun s => s.1.Holds P ∧ I s.2) (get prepare sql)
      (Act.Split (fun statement s => P sql statement ∧ s.1.Holds P ∧ I s.2)
        fun e s => s.1.Holds P ∧ E e s.2) := by
  rintro ⟨c, s⟩ ⟨hc, hs⟩
  have hprepared := h s hs
  by_cases hroom : c.room = 0
  · have hget : get prepare sql (c, s) = ((prepare sql s).1, c, (prepare sql s).2) := by
      rw [get, if_pos hroom]
    rw [hget]
    generalize (prepare sql s).2 = t at hprepared
    cases hresult : (prepare sql s).1 with
    | ok statement =>
      rw [hresult] at hprepared
      exact ⟨hprepared.1, hc, hprepared.2⟩
    | error e =>
      rw [hresult] at hprepared
      exact ⟨hc, hprepared⟩
  · cases hfound : c.find? sql with
    | some statement =>
      have hget : get prepare sql (c, s) = (.ok statement, c.noteHit, s) := by
        rw [get, if_neg hroom, hfound]
      rw [hget]
      exact ⟨hc.find? hfound, hc, hs⟩
    | none =>
      rw [get, if_neg hroom, hfound]
      generalize prepare sql s = ended at hprepared ⊢
      obtain ⟨result, t⟩ := ended
      cases result with
      | ok statement =>
        have hmissed : c.noteMiss.Holds P := hc
        exact ⟨hprepared.1, hmissed.insert hprepared.1, hprepared.2⟩
      | error e => exact ⟨hc, hprepared⟩

end StatementCache

/-! ## Sessions -/

/-- The connection without its prepared statements. -/
def Opened.bare (o : Opened) : Opened := { o with cache := StatementCache.ofSize 0 }

/-- The settings without room for prepared statements. -/
def ConnectionSettings.unsized (settings : ConnectionSettings) : ConnectionSettings :=
  { settings with cacheSize := 0 }

/-- Each statement in the cache belongs to the connection and to its text. -/
def Opened.Sound (o : Opened) : Prop :=
  o.cache.Holds fun sql p => p.handle = o.handle ∧ p.sql = sql

theorem lookup_map_entries {α β : Type} (f : α → β) (name : String)
    (entries : List (String × α)) :
    (entries.map fun e => (e.1, f e.2)).lookup name = (entries.lookup name).map f := by
  induction entries with
  | nil => rfl
  | cons entry rest ih =>
    obtain ⟨key, value⟩ := entry
    rw [List.map_cons, lookup_cons_eq, lookup_cons_eq, ih]
    by_cases h : name = key
    · rw [if_pos h, if_pos h, Option.map_some]
    · rw [if_neg h, if_neg h]

theorem map_putNamed {α β : Type} (f : α → β) (name : String) (value : α)
    (entries : List (String × α)) :
    (putNamed name value entries).map (fun e => (e.1, f e.2)) =
      putNamed name (f value) (entries.map fun e => (e.1, f e.2)) := by
  induction entries with
  | nil => rfl
  | cons entry rest ih =>
    by_cases h : entry.1 = name
    · simp only [putNamed, List.map_cons, if_pos h]
    · simp only [putNamed, List.map_cons, if_neg h, ih]

/-- Setting a name to the value it has changes nothing. -/
theorem putNamed_of_lookup {α : Type} {name : String} {value : α}
    {entries : List (String × α)} (h : entries.lookup name = some value) :
    putNamed name value entries = entries := by
  induction entries with
  | nil => cases h
  | cons entry rest ih =>
    obtain ⟨key, old⟩ := entry
    rw [lookup_cons_eq] at h
    by_cases hkey : name = key
    · rw [if_pos hkey] at h
      rw [putNamed, if_pos hkey.symm, hkey, Option.some.inj h]
    · rw [if_neg hkey] at h
      rw [putNamed, if_neg (Ne.symm hkey), ih h]

namespace Connections

/-- The connections without prepared statements and without room for them. -/
def outline (c : Connections) : Connections :=
  { c with
    settings := c.settings.map fun e => (e.1, e.2.unsized)
    opened := c.opened.map fun e => (e.1, e.2.bare) }

/-- Every open connection has a sound cache. -/
def Sound (c : Connections) : Prop :=
  ∀ name opened, c.opened.lookup name = some opened → opened.Sound

variable {c : Connections} {name : String} {opened : Opened}

theorem lookup_outline (c : Connections) (name : String) :
    c.outline.opened.lookup name = (c.opened.lookup name).map Opened.bare :=
  lookup_map_entries _ _ _

/-- Settings are found in the outline without room, or are missed there as before. -/
theorem getSettings_outline (c : Connections) (name : String) :
    c.outline.getSettings name = (c.getSettings name).map ConnectionSettings.unsized := by
  have hnames : c.outline.names = c.names := by
    rw [names, names, outline, List.map_map]
    rfl
  have hlookup : c.outline.settings.lookup name =
      (c.settings.lookup name).map ConnectionSettings.unsized := lookup_map_entries _ _ _
  rw [getSettings, getSettings, hlookup, hnames]
  cases c.settings.lookup name with
  | none => rfl
  | some settings => rfl

theorem outline_keep (c : Connections) (name : String) (opened : Opened) :
    (c.keep name opened).outline = c.outline.keep name opened.bare := by
  rw [outline, outline, keep, keep, ← map_putNamed]

theorem outline_setCache (c : Connections) (name : String) (cache : StatementCache Prepared) :
    (c.setCache name cache).outline = c.outline := by
  unfold setCache
  split
  next opened hopened =>
    have hlookup : (c.opened.map fun e => (e.1, e.2.bare)).lookup name = some opened.bare := by
      rw [lookup_map_entries, hopened, Option.map_some]
    have hopens : (putNamed name { opened with cache := cache } c.opened).map
        (fun e => (e.1, e.2.bare)) = c.opened.map fun e => (e.1, e.2.bare) :=
      (map_putNamed _ _ _ _).trans (putNamed_of_lookup hlookup)
    rw [outline, outline, hopens]
  next => rfl

theorem Sound.keep (h : c.Sound) (hopened : opened.Sound) : (c.keep name opened).Sound := by
  intro other found hfound
  rw [Connections.keep, lookup_putNamed] at hfound
  by_cases hother : other = name
  · rw [if_pos hother] at hfound
    cases hfound
    exact hopened
  · rw [if_neg hother] at hfound
    exact h other found hfound

/-- A sound cache may take the place of another one. -/
theorem Sound.setCache (h : c.Sound) (hopened : c.opened.lookup name = some opened)
    {cache : StatementCache Prepared} (hcache : { opened with cache := cache : Opened }.Sound) :
    (c.setCache name cache).Sound := by
  intro other found hfound
  unfold Connections.setCache at hfound
  rw [hopened] at hfound
  dsimp only at hfound
  rw [lookup_putNamed] at hfound
  by_cases hother : other = name
  · rw [if_pos hother] at hfound
    cases hfound
    exact hcache
  · rw [if_neg hother] at hfound
    exact h other found hfound

end Connections

namespace Session

variable {σ : Type} {around : Surroundings σ} {name sql : String} {opened : Opened}
  {I : σ → Prop} {E : Error → σ → Prop} {outlined : Connections}

/-- An open connection with sound caches all around, of which no more is known than an outline. -/
structure Stable (name : String) (opened : Opened) (outlined : Connections) (I : σ → Prop)
    (s : Session σ) : Prop where
  /-- The caches are sound. -/
  sound : s.connections.Sound
  /-- The connection is open, up to its statements. -/
  found : ∃ found, s.connections.opened.lookup name = some found ∧ found.bare = opened.bare
  /-- The outline of all connections. -/
  outline_eq : s.connections.outline = outlined
  /-- What holds outside. -/
  outside : I s.outside

/-- Sound caches may be changed, and the world outside with them. -/
theorem Stable.setCache {J : σ → Prop} {s : Session σ} (h : Stable name opened outlined I s)
    {cache : StatementCache Prepared}
    (hcache : cache.Holds fun sql p => p.handle = opened.handle ∧ p.sql = sql) {t : σ}
    (ht : J t) : Stable name opened outlined J ⟨s.connections.setCache name cache, t⟩ := by
  obtain ⟨found, hfound, hbare⟩ := h.found
  have hhandle : found.handle = opened.handle := congrArg (fun o => o.handle) hbare
  refine ⟨h.sound.setCache hfound ?_, ⟨{ found with cache := cache }, ?_, hbare⟩, ?_, ht⟩
  · rw [← hhandle] at hcache
    exact hcache
  · rw [Connections.lookup_setCache, hfound, Option.map_some]
  · exact (Connections.outline_setCache _ _ _).trans h.outline_eq

/-- The cache of an open connection is sound. -/
theorem Stable.cacheOf {s : Session σ} (h : Stable name opened outlined I s) :
    (s.connections.cacheOf name).Holds fun sql p => p.handle = opened.handle ∧ p.sql = sql := by
  obtain ⟨found, hfound, hbare⟩ := h.found
  have hhandle : found.handle = opened.handle := congrArg (fun o => o.handle) hbare
  rw [Connections.cacheOf, hfound, ← hhandle]
  exact h.sound name found hfound

/-- The connection of a name is open, and something holds outside. -/
def OpenWith (name : String) (I : σ → Prop) (s : Session σ) : Prop :=
  s.connections.isOpen name = true ∧ I s.outside

theorem OpenWith.setCache {J : σ → Prop} {s : Session σ} (h : OpenWith name I s)
    (cache : StatementCache Prepared) {t : σ} (ht : J t) :
    OpenWith name J ⟨s.connections.setCache name cache, t⟩ :=
  ⟨(Connections.isOpen_setCache _ _ _ _).trans h.1, ht⟩

/-- An open connection is found. -/
theorem connection_openWith (around : Surroundings σ) :
    Act.Triple (OpenWith name I) (connection around name) (fun _ => OpenWith name I)
      fun _ => False := by
  intro s hs
  obtain ⟨opened, hopened⟩ := (Connections.isOpen_iff _ _).mp hs.1
  rw [connection_of_lookup around hopened]
  exact hs

/-- Whatever the caches hold, running a statement on an open connection prepares it at most, then
executes something, and leaves the connection open. -/
theorem runBound_openWith {Q : Except Error StatementResult → σ → Prop}
    (hprepare : ∀ handle, Act.Ends I (around.driver.prepare handle sql)
      (Act.Split (fun _ => I) fun e => Q (.error e)))
    (hexecute : ∀ p, Act.Ends I (around.driver.execute p) Q) (values : List BoundValue) :
    Act.Ends (OpenWith name I) (runBound around name sql values) fun r =>
      OpenWith name (Q r) := by
  have hget : ∀ handle, Act.Ends (OpenWith name I)
      (Act.within (fun s => (s.connections.cacheOf name, s.outside))
        (fun t s => ⟨s.connections.setCache name t.1, t.2⟩)
        (StatementCache.get (prepare around handle) sql))
      (Act.Split (fun _ => OpenWith name I) fun e => OpenWith name (Q (.error e))) := by
    intro handle
    have hprepared : Act.Ends I (prepare around handle sql)
        (Act.Split (fun _ s => True ∧ I s) fun e => Q (.error e)) :=
      (hprepare handle).bind (fun _ s hs => ⟨trivial, hs⟩) fun e s hs => hs
    refine (StatementCache.get_ends (P := fun _ _ => True) hprepared).within
      (fun s hs => ⟨fun _ _ => trivial, hs.2⟩) fun r s t hs ht => ?_
    cases r with
    | ok p => exact hs.setCache t.1 ht.2.2
    | error e => exact hs.setCache t.1 ht.2
  have hstatement := Act.Ends.after (connection_openWith around) fun opened => hget opened.handle
  refine hstatement.bind (fun p => ?_) fun e s hs => hs
  refine Act.Ends.after (R := fun _ => OpenWith name I) ?_ fun _ => ?_
  · exact Act.Triple.change fun s hs => hs.setCache _ hs.2
  · exact (hexecute _).within (fun s hs => hs.2) fun r s t hs ht => ⟨hs.1, ht⟩

/-- The statement of a text is found or prepared; nothing but the cache has changed. -/
theorem statement_ends
    (hprepare : Act.Ends I (around.driver.prepare opened.handle sql)
      (Act.Split (fun _ => I) E)) :
    Act.Ends (Stable name opened outlined I) (statement around name sql)
      (Act.Split
        (fun p s => (p.handle = opened.handle ∧ p.sql = sql) ∧ Stable name opened outlined I s)
        fun e => Stable name opened outlined (E e)) := by
  intro s hs
  obtain ⟨found, hfound, hbare⟩ := hs.found
  have hhandle : found.handle = opened.handle := congrArg (fun o => o.handle) hbare
  have hprepared : Act.Ends I (prepare around opened.handle sql)
      (Act.Split (fun p s => (p.handle = opened.handle ∧ p.sql = sql) ∧ I s) E) :=
    hprepare.bind (fun _ s hI => ⟨⟨rfl, rfl⟩, hI⟩) fun e s he => he
  have hget := StatementCache.get_ends hprepared (s.connections.cacheOf name, s.outside)
    ⟨hs.cacheOf, hs.outside⟩
  rw [statement, Act.bind_of_ok (connection_of_lookup around hfound), hhandle, Act.within_apply]
  generalize StatementCache.get (prepare around opened.handle) sql
    (s.connections.cacheOf name, s.outside) = ended at hget ⊢
  obtain ⟨result, cache, t⟩ := ended
  cases result with
  | ok p => exact ⟨hget.1, hs.setCache hget.2.1 hget.2.2⟩
  | error e => exact hs.setCache hget.1 hget.2

/-- Running a statement on an open connection executes its text with the values of the call, each at
its position, unless preparing it fails. -/
theorem runBound_ends {Q : Except Error StatementResult → σ → Prop} {values : List BoundValue}
    (hprepare : Act.Ends I (around.driver.prepare opened.handle sql)
      (Act.Split (fun _ => I) fun e => Q (.error e)))
    (hexecute : Act.Ends I (around.driver.execute ⟨opened.handle, sql, positioned 1 values⟩) Q) :
    Act.Ends (Stable name opened outlined I) (runBound around name sql values) fun r =>
      Stable name opened outlined (Q r) := by
  refine Act.Ends.bind (statement_ends hprepare) (fun p => ?_) fun e s hs => hs
  rintro s ⟨⟨hhandle, hsql⟩, hs⟩
  rw [Prepared.bindAll_reset, hhandle, hsql]
  let ready : Prepared := ⟨opened.handle, sql, positioned 1 values⟩
  have hready : ready.handle = opened.handle ∧ ready.sql = sql := ⟨rfl, rfl⟩
  have hput := hs.setCache (hs.cacheOf.replace hready) hs.outside
  have hexecuted := hexecute _ hput.outside
  exact ⟨hput.sound, hput.found, hput.outline_eq, hexecuted⟩

/-- A statement of a connection that was found or opened runs from the state that was reached. -/
theorem runBound_of_connection_ok {s t : Session σ} (h : connection around name s = (.ok opened, t))
    (values : List BoundValue) :
    runBound around name sql values s = runBound around name sql values t := by
  have hfound := connection_found around name s trivial
  rw [h] at hfound
  have hagain : connection around name t = (.ok opened, t) := connection_of_lookup around hfound
  unfold runBound statement
  rw [Act.bind_assoc, Act.bind_of_ok h, Act.bind_of_ok hagain]

/-- Without a connection nothing is run. -/
theorem runBound_of_connection_error {s t : Session σ} {e : Error}
    (h : connection around name s = (.error e, t)) (values : List BoundValue) :
    runBound around name sql values s = (.error e, t) := by
  unfold runBound statement
  rw [Act.bind_assoc, Act.bind_of_error h]

/-- A statement runs once its connection is there, and the connection is open from then on. -/
theorem runBound_connecting {P : Session σ → Prop} {F : Error → Session σ → Prop}
    {Q : Except Error StatementResult → σ → Prop} {values : List BoundValue}
    (hconnection : Act.Ends P (connection around name)
      (Act.Split (fun _ s => s.connections.Sound ∧ I s.outside) F))
    (hprepare : ∀ handle, Act.Ends I (around.driver.prepare handle sql)
      (Act.Split (fun _ => I) fun e => Q (.error e)))
    (hexecute : ∀ handle,
      Act.Ends I (around.driver.execute ⟨handle, sql, positioned 1 values⟩) Q) :
    Act.Ends P (runBound around name sql values) fun r s =>
      (s.connections.Sound ∧ s.connections.isOpen name = true ∧ Q r s.outside) ∨
        ∃ e, r = .error e ∧ F e s := by
  intro s hs
  have hconnected := hconnection s hs
  have hfound := connection_found around name s trivial
  generalize hended : connection around name s = ended at hconnected hfound
  obtain ⟨result, t⟩ := ended
  cases result with
  | ok opened =>
    have hstable : Stable name opened t.connections.outline I t :=
      ⟨hconnected.1, ⟨opened, hfound, rfl⟩, rfl, hconnected.2⟩
    have hrun := runBound_ends (hprepare opened.handle) (hexecute opened.handle) t hstable
    obtain ⟨found, hopen, -⟩ := hrun.found
    rw [runBound_of_connection_ok hended]
    exact .inl ⟨hrun.sound, (Connections.isOpen_iff _ _).mpr ⟨found, hopen⟩, hrun.outside⟩
  | error e =>
    rw [runBound_of_connection_error hended]
    exact .inr ⟨e, rfl, hconnected⟩

/-- Whatever the caches hold, a statement that runs opens its connection at most, prepares its text
at most and then executes something. -/
theorem runBound_outside {Q : Except Error StatementResult → σ → Prop}
    (hopens : around.OpensKeeping name I)
    (hprepare : ∀ handle, Act.Triple I (around.driver.prepare handle sql) (fun _ => I) I)
    (hexecute : ∀ p, Act.Ends I (around.driver.execute p) Q)
    (herror : ∀ e s, I s → Q (.error e) s) (values : List BoundValue) :
    Act.Ends (fun s : Session σ => I s.outside) (runBound around name sql values)
      fun r s => Q r s.outside := by
  intro s hs
  have hconnected := connection_keeps (P := fun _ => True) hopens (fun _ _ _ _ _ => trivial) s
    ⟨trivial, hs⟩
  have hfound := connection_found around name s trivial
  generalize hended : connection around name s = ended at hconnected hfound
  obtain ⟨result, t⟩ := ended
  cases result with
  | error e =>
    rw [runBound_of_connection_error hended]
    exact herror e _ hconnected.2
  | ok opened =>
    rw [runBound_of_connection_ok hended]
    have hopen : OpenWith name I t :=
      ⟨(Connections.isOpen_iff _ _).mpr ⟨opened, hfound⟩, hconnected.2⟩
    have hprepared : ∀ handle, Act.Ends I (around.driver.prepare handle sql)
        (Act.Split (fun _ => I) fun e => Q (.error e)) := fun handle =>
      (hprepare handle).split.weaken (fun _ hs => hs) fun r s hs => by
        cases r with
        | ok _ => exact hs
        | error e => exact herror e s hs
    exact (runBound_openWith hprepared hexecute values t hopen).2

end Session

end BoundSql
