import BoundSql.Proofs.Handovers
import BoundSql.Proofs.Levels

/-!
# Handles in custody

Whatever is asked of a session that has opened nothing yet, and whichever driver calls fail: what it
keeps by name is kept for the same names, every handle that was ever returned is the one of its name
or was given back once, a statement in a cache was prepared on the handle of its name, and the hook
behind opened connections was called once for each of them.
-/

namespace BoundSql

variable {σ α ℓ : Type}

/-- Removing a name that is not there changes nothing. -/
theorem dropNamed_of_lookup_none {name : String} {entries : List (String × α)}
    (h : entries.lookup name = none) : dropNamed name entries = entries := by
  refine List.filter_eq_self.mpr fun entry hentry => ?_
  have hother := List.lookup_eq_none_iff.mp h entry hentry
  have hname : entry.1 ≠ name := by
    intro hname
    simp [hname] at hother
  exact decide_eq_true hname

/-- Where no name stands twice, removing one takes its value out once. -/
theorem count_dropNamed [DecidableEq α] {name : String} {value : α}
    {entries : List (String × α)} (hnodup : (entries.map Prod.fst).Nodup)
    (h : entries.lookup name = some value) (other : α) :
    (entries.map Prod.snd).count other =
      ((dropNamed name entries).map Prod.snd).count other + [value].count other := by
  induction entries with
  | nil => cases h
  | cons entry rest ih =>
    obtain ⟨key, old⟩ := entry
    obtain ⟨hfresh, hrest⟩ := List.nodup_cons.mp hnodup
    rw [lookup_cons_eq] at h
    by_cases hkey : name = key
    · subst hkey
      rw [if_pos rfl] at h
      obtain rfl := Option.some.inj h
      have hnone : rest.lookup name = none := by
        refine List.lookup_eq_none_iff.mpr fun e he => ?_
        have hname : name ≠ e.1 := by
          intro hname
          have hmem : e.1 ∈ rest.map Prod.fst := List.mem_map_of_mem he
          exact hfresh (hname ▸ hmem)
        simpa using hname
      have hdrop : dropNamed name ((name, old) :: rest) = rest := by
        have hskip : dropNamed name ((name, old) :: rest) = dropNamed name rest := by
          simp [dropNamed]
        rw [hskip, dropNamed_of_lookup_none hnone]
      rw [hdrop]
      show ([old] ++ rest.map Prod.snd).count other = _
      rw [List.count_append, Nat.add_comm]
    · rw [if_neg hkey] at h
      have hkept : dropNamed name ((key, old) :: rest) = (key, old) :: dropNamed name rest := by
        simp [dropNamed, Ne.symm hkey]
      rw [hkept, List.map_cons, List.map_cons, List.count_cons, List.count_cons, ih hrest h]
      omega

/-! ## Registered handles -/

namespace Connections

variable {c : Connections} {name : String} {opened : Opened}

/-- The names that are open, each with its handle. -/
def registered (c : Connections) : List (String × Handle) :=
  c.opened.map fun e => (e.1, e.2.handle)

/-- How often a handle is registered. -/
def timesRegistered (c : Connections) (handle : Handle) : Nat :=
  (c.registered.map Prod.snd).count handle

theorem registered_keep (h : c.opened.lookup name = none) (opened : Opened) :
    (c.keep name opened).registered = c.registered ++ [(name, opened.handle)] := by
  rw [registered, keep, putNamed_of_lookup_none h, List.map_append]
  rfl

theorem registered_setCache (c : Connections) (name : String) (cache : StatementCache Prepared) :
    (c.setCache name cache).registered = c.registered := by
  unfold setCache
  split
  next opened hopened =>
    have hlookup : c.registered.lookup name = some opened.handle := by
      rw [registered, lookup_map_entries, hopened, Option.map_some]
    rw [registered, map_putNamed]
    exact putNamed_of_lookup hlookup
  next => rfl

theorem registered_forget (c : Connections) (name : String) :
    (c.forget name).registered = dropNamed name c.registered := by
  simp only [registered, forget, dropNamed, List.filter_map]
  rfl

theorem isOpen_of_mem_registered {entry : String × Handle} (h : entry ∈ c.registered) :
    c.isOpen entry.1 = true := by
  obtain ⟨found, hfound, rfl⟩ := List.mem_map.mp h
  by_contra hclosed
  have hnone := (isOpen_eq_false c found.1).mp (by simpa using hclosed)
  have hother := List.lookup_eq_none_iff.mp hnone found hfound
  simp at hother

/-- The connections that are open afterwards and were not before. -/
def newly (before after : Connections) : List (String × Handle) :=
  after.registered.filter fun e => !before.isOpen e.1

theorem newly_congr {before after other : Connections} (h : other.registered = after.registered) :
    newly before other = newly before after := by
  rw [newly, newly, h]

end Connections

/-! ## The books -/

/-- A statement was prepared for a name on a handle. -/
def PreparedFor (journal : Journal (Option String)) (name : String) (handle : Handle)
    (sql : String) (p : Prepared) : Prop :=
  p.handle = handle ∧ p.sql = sql ∧ (some name, .prepared handle sql (.ok ())) ∈ journal

/-- What a session keeps agrees with the journal of its driver calls. -/
structure Accounted (present : Bool) (openings : List (String × Handle)) (c : Connections)
    (journal : Journal (Option String)) : Prop where
  /-- No name is open twice. -/
  nodup : (c.registered.map Prod.fst).Nodup
  /-- Exactly the open names have a depth. -/
  depths : ∀ name, (c.depths.lookup name).isSome = c.isOpen name
  /-- Every open name has settings. -/
  configured : ∀ name, c.isOpen name = true → (c.settings.lookup name).isSome = true
  /-- Every handle that was returned is registered or was given back. -/
  balance : ∀ handle,
    journal.timesReturned handle = c.timesRegistered handle + journal.timesClosed handle
  /-- A registered handle was returned for its name. -/
  origin : ∀ e ∈ c.registered, (some e.1, e.2) ∈ journal.returned
  /-- Statements in a cache were prepared on the handle of its name. -/
  cached : ∀ name opened, c.opened.lookup name = some opened →
    opened.cache.Holds (PreparedFor journal name opened.handle)
  /-- The hook was called for each connection that was opened, in order. -/
  greeted : present = true → journal.greetings = openings.map fun e => (e.1, some e.2)
  /-- Registered connections were opened. -/
  known : ∀ e ∈ c.registered, e ∈ openings
  /-- A handle was not opened more often than it was returned. -/
  bounded : ∀ handle, (openings.map Prod.snd).count handle ≤ journal.timesReturned handle

namespace Accounted

variable {present : Bool} {openings : List (String × Handle)} {c : Connections}
  {journal : Journal (Option String)} {name : String} {opened : Opened} {calls : List DriverCall}

theorem start (present : Bool) : Accounted present [] {} [] where
  nodup := List.nodup_nil
  depths _ := rfl
  configured _ h := nomatch h
  balance _ := rfl
  origin _ h := nomatch h
  cached _ _ h := nomatch h
  greeted _ := rfl
  known _ h := nomatch h
  bounded _ := Nat.le_refl 0


/-- More calls change nothing for statements that are prepared. -/
theorem cached_enter (h : Accounted present openings c journal) (label : Option String)
    (calls : List DriverCall) (hopened : c.opened.lookup name = some opened) :
    opened.cache.Holds (PreparedFor (journal.enter label calls) name opened.handle) := by
  intro e he
  obtain ⟨hhandle, hsql, hprepared⟩ := h.cached name opened hopened e he
  exact ⟨hhandle, hsql, journal.mem_enter label calls hprepared⟩

/-- Calls by which no handle changes hands keep the books. -/
theorem quiet (h : Accounted present openings c journal) (hcalls : Quiet calls)
    (label : Option String) : Accounted present openings c (journal.enter label calls) where
  nodup := h.nodup
  depths := h.depths
  configured := h.configured
  balance handle := by
    rw [Journal.timesReturned_enter, Journal.timesClosed_enter, hcalls.returned_eq_nil,
      hcalls.closed_eq_nil]
    exact h.balance handle
  origin e he := by
    rw [Journal.returned_enter]
    exact List.mem_append_left _ (h.origin e he)
  cached _ _ hopened := h.cached_enter label calls hopened
  greeted hpresent := by
    rw [Journal.greetings_enter, hcalls.read_eq]
    exact h.greeted hpresent
  known := h.known
  bounded handle := by
    rw [Journal.timesReturned_enter, hcalls.returned_eq_nil]
    exact h.bounded handle

/-- So does setting the depth of an open name. -/
theorem setDepth (h : Accounted present openings c journal) (hopen : c.isOpen name = true)
    (depth : Nat) : Accounted present openings (c.setDepth name depth) journal where
  nodup := h.nodup
  depths other := by
    show ((putNamed name depth c.depths).lookup other).isSome = c.isOpen other
    rw [lookup_putNamed]
    split
    next hother => rw [hother, hopen, Option.isSome_some]
    next => exact h.depths other
  configured := h.configured
  balance := h.balance
  origin := h.origin
  cached := h.cached
  greeted := h.greeted
  known := h.known
  bounded := h.bounded

/-- So does another cache whose statements were prepared for its name. -/
theorem setCache (h : Accounted present openings c journal)
    (hopened : c.opened.lookup name = some opened) {cache : StatementCache Prepared}
    (hcache : cache.Holds (PreparedFor journal name opened.handle)) :
    Accounted present openings (c.setCache name cache) journal := by
  have hregistered := Connections.registered_setCache c name cache
  have hdepths : (c.setCache name cache).depths = c.depths := by
    unfold Connections.setCache
    split <;> rfl
  constructor
  · rw [hregistered]
    exact h.nodup
  · intro other
    rw [hdepths, Connections.isOpen_setCache]
    exact h.depths other
  · intro other hopen
    rw [Connections.isOpen_setCache] at hopen
    rw [Connections.settings_setCache]
    exact h.configured other hopen
  · intro handle
    rw [Connections.timesRegistered, hregistered]
    exact h.balance handle
  · rw [hregistered]
    exact h.origin
  · intro other found hfound
    unfold Connections.setCache at hfound
    rw [hopened] at hfound
    dsimp only at hfound
    rw [lookup_putNamed] at hfound
    split at hfound
    next hother =>
      rw [hother]
      obtain rfl := Option.some.inj hfound
      exact hcache
    next => exact h.cached other found hfound
  · exact h.greeted
  · rw [hregistered]
    exact h.known
  · exact h.bounded

/-- A handle that is returned and given back at once leaves the books as they are. -/
theorem abandon (h : Accounted present openings c journal) (handle : Handle)
    (hcalls : Quiet calls) (ended : Except Error Unit) (label : Option String) :
    Accounted present openings c
      (journal.enter label (.connected (.ok handle) :: (calls ++ [.closed handle ended]))) := by
  have hreturned := hcalls.returned_cons handle [.closed handle ended]
  have hclosed := hcalls.closed_cons handle [.closed handle ended]
  constructor
  · exact h.nodup
  · exact h.depths
  · exact h.configured
  · intro other
    have hbalance := h.balance other
    rw [Journal.timesReturned_enter, Journal.timesClosed_enter, hreturned, hclosed]
    show _ + List.count other [handle] = _ + (_ + List.count other [handle])
    omega
  · intro e he
    rw [Journal.returned_enter]
    exact List.mem_append_left _ (h.origin e he)
  · exact fun _ _ hopened => h.cached_enter label _ hopened
  · intro hpresent
    rw [Journal.greetings_enter, hcalls.read_cons]
    exact h.greeted hpresent
  · exact h.known
  · intro other
    have hbounded := h.bounded other
    rw [Journal.timesReturned_enter]
    omega

/-- A handle that is returned and kept under a name that was not open is entered in the books. -/
theorem keep (h : Accounted present openings c journal) (hnone : c.opened.lookup name = none)
    (hconfigured : (c.settings.lookup name).isSome = true) (hcache : opened.cache.entries = [])
    (hcalls : Quiet calls) {greeting : List DriverCall} (hgreeting : Greets present name greeting) :
    Accounted present (openings ++ [(name, opened.handle)]) (c.keep name opened)
      (journal.enter (some name) (.connected (.ok opened.handle) :: (calls ++ greeting))) := by
  have hregistered := Connections.registered_keep hnone opened
  have hgreets : greeting.filterMap DriverCall.returned? = [] ∧
      greeting.filterMap DriverCall.closed? = [] := by
    unfold Greets at hgreeting
    split at hgreeting
    · obtain ⟨shown, driver, ended, rfl⟩ := hgreeting
      exact ⟨rfl, rfl⟩
    · rw [hgreeting]
      exact ⟨rfl, rfl⟩
  have hreturned := hcalls.returned_cons opened.handle greeting
  have hclosed := hcalls.closed_cons opened.handle greeting
  rw [hgreets.1] at hreturned
  rw [hgreets.2] at hclosed
  have hnew : name ∉ c.registered.map Prod.fst := by
    intro hmem
    obtain ⟨e, he, rfl⟩ := List.mem_map.mp hmem
    have hopen := Connections.isOpen_of_mem_registered he
    rw [(Connections.isOpen_eq_false c e.1).mpr hnone] at hopen
    cases hopen
  constructor
  · rw [hregistered, List.map_append]
    refine List.nodup_append.mpr ⟨h.nodup, List.nodup_singleton name, ?_⟩
    rintro a ha b hb rfl
    rw [List.mem_singleton.mp hb] at ha
    exact hnew ha
  · intro other
    show ((putNamed name 0 c.depths).lookup other).isSome =
      ((putNamed name opened c.opened).lookup other).isSome
    rw [lookup_putNamed, lookup_putNamed]
    split
    · rfl
    · exact h.depths other
  · intro other hopen
    by_cases hother : other = name
    · rw [hother]
      exact hconfigured
    · rw [Connections.isOpen, Connections.keep, lookup_putNamed, if_neg hother] at hopen
      exact h.configured other hopen
  · intro other
    have hbalance := h.balance other
    rw [Journal.timesReturned_enter, Journal.timesClosed_enter, hreturned, hclosed,
      Connections.timesRegistered, hregistered, List.map_append, List.count_append]
    rw [Connections.timesRegistered] at hbalance
    show _ + List.count other [opened.handle] = _ + List.count other [opened.handle] + (_ + 0)
    omega
  · intro e he
    rw [Journal.returned_enter, hreturned]
    rw [hregistered] at he
    rcases List.mem_append.mp he with hold | hadded
    · exact List.mem_append_left _ (h.origin e hold)
    · rw [List.mem_singleton.mp hadded]
      exact List.mem_append_right _ (List.mem_singleton.mpr rfl)
  · intro other found hfound
    rw [Connections.keep, lookup_putNamed] at hfound
    split at hfound
    next =>
      obtain rfl := Option.some.inj hfound
      intro e he
      rw [hcache] at he
      cases he
    next => exact h.cached_enter (some name) _ hfound
  · intro hpresent
    rw [Greets, if_pos hpresent] at hgreeting
    obtain ⟨shown, driver, ended, rfl⟩ := hgreeting
    rw [Journal.greetings_enter, hcalls.read_cons, List.map_append, ← h.greeted hpresent]
    rfl
  · intro e he
    rw [hregistered] at he
    rcases List.mem_append.mp he with hold | hadded
    · exact List.mem_append_left _ (h.known e hold)
    · exact List.mem_append_right _ hadded
  · intro other
    have hbounded := h.bounded other
    rw [Journal.timesReturned_enter, hreturned, List.map_append, List.count_append]
    show _ + List.count other [opened.handle] ≤ _ + List.count other [opened.handle]
    omega

/-- An open name that is forgotten, with its handle given back, is struck off the books. -/
theorem forget (h : Accounted present openings c journal)
    (hopened : c.opened.lookup name = some opened) (ended : Except Error Unit)
    (label : Option String) :
    Accounted present openings (c.forget name)
      (journal.enter label [.closed opened.handle ended]) := by
  have hregistered := Connections.registered_forget c name
  have hsubset : ∀ e ∈ (c.forget name).registered, e ∈ c.registered := by
    intro e he
    rw [hregistered] at he
    exact (List.mem_filter.mp he).1
  have hlookup : ∀ other, (c.forget name).opened.lookup other =
      if other = name then none else c.opened.lookup other :=
    fun other => lookup_dropNamed name other c.opened
  -- The names differ, so exactly one registered handle is left out.
  have hcount : ∀ handle, c.timesRegistered handle =
      (c.forget name).timesRegistered handle + [opened.handle].count handle := by
    intro handle
    have hlookup : c.registered.lookup name = some opened.handle := by
      rw [Connections.registered, lookup_map_entries, hopened, Option.map_some]
    rw [Connections.timesRegistered, Connections.timesRegistered, hregistered]
    exact count_dropNamed h.nodup hlookup handle
  constructor
  · rw [hregistered]
    exact h.nodup.sublist (List.filter_sublist.map Prod.fst)
  · intro other
    show ((dropNamed name c.depths).lookup other).isSome =
      ((dropNamed name c.opened).lookup other).isSome
    rw [lookup_dropNamed, lookup_dropNamed]
    split
    · rfl
    · exact h.depths other
  · intro other hopen
    rw [Connections.isOpen, hlookup] at hopen
    split at hopen
    · cases hopen
    · exact h.configured other hopen
  · intro handle
    have hbalance := h.balance handle
    rw [hcount handle] at hbalance
    rw [Journal.timesReturned_enter, Journal.timesClosed_enter]
    show _ + 0 = _ + (_ + [opened.handle].count handle)
    omega
  · intro e he
    rw [Journal.returned_enter]
    exact List.mem_append_left _ (h.origin e (hsubset e he))
  · intro other found hfound
    rw [hlookup] at hfound
    split at hfound
    · cases hfound
    · exact h.cached_enter label _ hfound
  · intro hpresent
    rw [Journal.greetings_enter]
    exact h.greeted hpresent
  · exact fun e he => h.known e (hsubset e he)
  · intro handle
    rw [Journal.timesReturned_enter]
    exact h.bounded handle

end Accounted

end BoundSql
