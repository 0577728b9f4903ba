import BoundSql.Proofs.Journal
import BoundSql.Rehearsal.Preparer
import Mathlib.Algebra.GroupWithZero.Nat
import Mathlib.Data.List.DropRight

/-!
# First in, first out

A statement cache is used in any order: a statement is asked for, a text is looked up, everything
is dropped. What was handed over to be prepared, and what came back, is written down with each use.
From these records alone one can tell what the cache holds: it is a window on the statements that
came back since everything was dropped last, as wide as the cache has room. Finding a statement does
not move it, a failure to prepare leaves the window as it is, and the counts tell how often the
cache was asked and how many statements have left the window.
-/

namespace BoundSql

namespace StatementCache

variable {α σ : Type}

/-! ## Uses and records -/

/-- What a cache is used for. -/
inductive Use where
  /-- The statement of a text is asked for. -/
  | get (sql : String)
  /-- A text is looked up. -/
  | has (sql : String)
  /-- All statements are dropped. -/
  | clear

/-- What a use came to. -/
inductive Record (α : Type) where
  /-- A statement was asked for: the texts that were handed over to be prepared, each with what
  came back, and what was given in the end. -/
  | got (sql : String) (handed : List (String × Except Error α)) (ended : Except Error α)
  /-- A text was looked up and was there, or was not. -/
  | looked (sql : String) (there : Bool)
  /-- All statements were dropped. -/
  | cleared

/-- Preparing a statement and writing down what came back. -/
def listing (prepare : String → Act σ α) (sql : String) :
    Act (σ × List (String × Except Error α)) α :=
  (prepare sql).entered fun ended => (sql, ended)

/-- Uses a cache. -/
def Use.perform (prepare : String → Act σ α) (use : Use) (cache : StatementCache α) (s : σ) :
    Record α × StatementCache α × σ :=
  match use with
  | .get sql =>
    let (ended, after, t, handed) := StatementCache.get (listing prepare) sql (cache, s, [])
    (.got sql handed ended, after, t)
  | .has sql => (.looked sql (cache.has sql), cache, s)
  | .clear => (.cleared, cache.clear, s)

/-- Uses a cache again and again. -/
def performAll (prepare : String → Act σ α) :
    List Use → StatementCache α → σ → List (Record α) × StatementCache α × σ
  | [], cache, s => ([], cache, s)
  | use :: rest, cache, s =>
    let (record, after, t) := use.perform prepare cache s
    let (records, last, u) := performAll prepare rest after t
    (record :: records, last, u)

/-! ## What the records tell -/

/-- The statements that came back when they were prepared, by their texts. -/
def Record.prepared : Record α → List (String × α)
  | .got _ handed _ => handed.filterMap fun (sql, ended) => ended.toOption.map (sql, ·)
  | .looked _ _ | .cleared => []

/-- A statement was asked for. -/
def Record.isGet : Record α → Bool
  | .got _ _ _ => true
  | .looked _ _ | .cleared => false

/-- Statements in the order in which they were prepared, in periods that end when everything is
dropped. -/
structure Ledger (α : Type) where
  /-- The period that goes on. -/
  current : List (String × α) := []
  /-- The periods that have ended, the latest first. -/
  ended : List (List (String × α)) := []

namespace Ledger

/-- The ledger after one more record. -/
def add (ledger : Ledger α) : Record α → Ledger α
  | .cleared => ⟨[], ledger.current :: ledger.ended⟩
  | .got sql handed ended =>
    { ledger with current := ledger.current ++ (Record.got sql handed ended).prepared }
  | .looked _ _ => ledger

/-- The ledger of records. -/
def ofRecords (records : List (Record α)) : Ledger α := records.foldl add {}

/-- The latest statements of the period that goes on, as many as there is room for. -/
def window (ledger : Ledger α) (room : Nat) : List (String × α) := ledger.current.rtake room

/-- How many statements the periods had beyond the room. -/
def overflow (ledger : Ledger α) (room : Nat) : Nat :=
  ((ledger.current :: ledger.ended).map fun period => period.length - room).sum

theorem ofRecords_concat (records : List (Record α)) (record : Record α) :
    ofRecords (records ++ [record]) = (ofRecords records).add record := by
  rw [ofRecords, List.foldl_append, List.foldl_cons, List.foldl_nil, ofRecords]

/-- Asking for a statement when nothing is prepared leaves the ledger. -/
theorem add_of_nothing (ledger : Ledger α) {sql : String} {handed : List (String × Except Error α)}
    {ended : Except Error α} (h : (Record.got sql handed ended).prepared = []) :
    ledger.add (.got sql handed ended) = ledger := by
  rw [add, h, List.append_nil]

/-- One more statement is one more beyond the room when the room is used up. -/
theorem overflow_concat (ledger : Ledger α) (entry : String × α) (room : Nat) :
    ({ ledger with current := ledger.current ++ [entry] } : Ledger α).overflow room =
      ledger.overflow room + if room ≤ ledger.current.length then 1 else 0 := by
  simp only [overflow, List.map_cons, List.sum_cons, List.length_append, List.length_singleton]
  split_ifs <;> omega

end Ledger

/-- A cache shows what records tell: its statements are the latest ones that were prepared, each
text stands in it once, and its counts are those of the records. -/
structure Shows (cache : StatementCache α) (room : Nat) (records : List (Record α)) : Prop where
  /-- The room. -/
  room_eq : cache.room = room
  /-- The statements are those in the window. -/
  entries_eq : cache.entries = (Ledger.ofRecords records).window room
  /-- Each text stands once. -/
  nodup : cache.texts.Nodup
  /-- What was asked for was found or was missed. -/
  lookups_eq : cache.hits + cache.misses = records.countP Record.isGet
  /-- What has left the window, not counting what was dropped. -/
  evictions_eq : cache.evictions = (Ledger.ofRecords records).overflow room

/-- How a cache serves whoever asks next, told from the records so far. -/
structure Serves (prepare : String → Act σ α) (cache : StatementCache α) (s : σ) (room : Nat)
    (records : List (Record α)) : Prop where
  /-- A text is there if it is in the window. -/
  has_iff : ∀ sql,
    cache.has sql = true ↔ sql ∈ ((Ledger.ofRecords records).window room).map Prod.fst
  /-- A statement in the window is given as it came back, and nothing is prepared or moved. -/
  found : ∀ sql statement, (sql, statement) ∈ (Ledger.ofRecords records).window room →
    (Use.get sql).perform prepare cache s = (.got sql [] (.ok statement), cache.noteHit, s)
  /-- Otherwise the text is handed over once, and what comes back is given. -/
  prepared : ∀ sql statement t,
    sql ∉ ((Ledger.ofRecords records).window room).map Prod.fst →
    prepare sql s = (.ok statement, t) →
    (Use.get sql).perform prepare cache s =
      (.got sql [(sql, .ok statement)] (.ok statement), cache.noteMiss.insert sql statement, t)
  /-- If preparing fails, the cache has missed once more and is the same otherwise. -/
  failed : ∀ sql e t, sql ∉ ((Ledger.ofRecords records).window room).map Prod.fst →
    prepare sql s = (.error e, t) →
    (Use.get sql).perform prepare cache s =
      (.got sql [(sql, .error e)] (.error e), cache.noteMiss, t)

/-! ## One use -/

section Perform

variable {prepare : String → Act σ α} {cache : StatementCache α} {sql : String} {s t : σ}

/-- A cache without room hands over every text. -/
theorem perform_get_afresh (hroom : cache.room = 0) :
    (Use.get sql).perform prepare cache s =
      (.got sql [(sql, (prepare sql s).1)] (prepare sql s).1, cache, (prepare sql s).2) := by
  simp [Use.perform, StatementCache.get, hroom, listing]

theorem perform_get_found (hroom : cache.room ≠ 0) {statement : α}
    (hfound : cache.find? sql = some statement) :
    (Use.get sql).perform prepare cache s = (.got sql [] (.ok statement), cache.noteHit, s) := by
  simp [Use.perform, StatementCache.get, hroom, hfound]

theorem perform_get_prepared (hroom : cache.room ≠ 0) (hmissed : cache.find? sql = none)
    {statement : α} (hprepare : prepare sql s = (.ok statement, t)) :
    (Use.get sql).perform prepare cache s =
      (.got sql [(sql, .ok statement)] (.ok statement), cache.noteMiss.insert sql statement,
        t) := by
  simp [Use.perform, StatementCache.get, hroom, hmissed, listing, hprepare]

theorem perform_get_failed (hroom : cache.room ≠ 0) (hmissed : cache.find? sql = none)
    {e : Error} (hprepare : prepare sql s = (.error e, t)) :
    (Use.get sql).perform prepare cache s =
      (.got sql [(sql, .error e)] (.error e), cache.noteMiss, t) := by
  simp [Use.perform, StatementCache.get, hroom, hmissed, listing, hprepare]

end Perform

/-! ## Windows -/

section Window

variable {room : Nat} {past : List (String × α)} {entry : String × α}

/-- While there is room, the window is all there is, and one more fits. -/
theorem rtake_concat_of_lt (h : past.length < room) :
    (past ++ [entry]).rtake room = past.rtake room ++ [entry] := by
  have hall : past.rtake room = past := by
    have hzero : past.length - room = 0 := by omega
    rw [List.rtake, hzero, List.drop_zero]
  have hmore : (past ++ [entry]).length - room = 0 := by
    simp only [List.length_append, List.length_singleton]
    omega
  rw [hall, List.rtake, hmore, List.drop_zero]

/-- When the room is used up, the first entry of the window leaves it. -/
theorem rtake_concat_of_le (hroom : 0 < room) (h : room ≤ past.length) :
    (past ++ [entry]).rtake room = (past.rtake room ++ [entry]).drop 1 := by
  have hlength : (past.rtake room).length = room := by
    rw [List.rtake, List.length_drop]
    omega
  have hfirst : (past.rtake room).drop 1 = past.drop (past.length + 1 - room) := by
    have hsum : past.length - room + 1 = past.length + 1 - room := by omega
    rw [List.rtake, List.drop_drop, hsum]
  have hinside : past.length + 1 - room ≤ past.length := by omega
  rw [List.drop_append_of_le_length (by omega), hfirst, List.rtake, List.length_append,
    List.length_singleton, List.drop_append_of_le_length hinside]

end Window

/-! ## The window after each use -/

section Step

variable {prepare : String → Act σ α} {cache : StatementCache α} {room : Nat}
  {records : List (Record α)}

theorem shows_ofSize (size : Int) : (ofSize size : StatementCache α).Shows size.toNat [] where
  room_eq := rfl
  entries_eq := by
    simp [ofSize, Ledger.ofRecords, Ledger.window]
  nodup := List.nodup_nil
  lookups_eq := rfl
  evictions_eq := by
    simp [ofSize, Ledger.ofRecords, Ledger.overflow]

/-- A text is found with its statement where they stand in the cache together. -/
theorem find?_eq_some_iff (hnodup : cache.texts.Nodup) {sql : String} {statement : α} :
    cache.find? sql = some statement ↔ (sql, statement) ∈ cache.entries := by
  rw [find?]
  rw [texts] at hnodup
  generalize cache.entries = entries at hnodup
  induction entries with
  | nil => simp
  | cons entry rest ih =>
    obtain ⟨text, first⟩ := entry
    rw [List.map_cons, List.nodup_cons] at hnodup
    rw [lookup_cons_eq, List.mem_cons, Prod.mk.injEq]
    by_cases htext : sql = text
    · have habsent : (sql, statement) ∉ rest := by
        intro h
        have hmem : sql ∈ rest.map Prod.fst := List.mem_map_of_mem h
        exact hnodup.1 (htext ▸ hmem)
      simp [htext, htext ▸ habsent, eq_comm]
    · simp [htext, ih hnodup.2]

theorem find?_eq_none_iff {sql : String} : cache.find? sql = none ↔ sql ∉ cache.texts := by
  rw [find?, List.lookup_eq_none_iff, texts, List.mem_map]
  constructor
  · rintro habsent ⟨entry, hmem, rfl⟩
    simpa using habsent entry hmem
  · intro habsent entry hmem
    have hne : sql ≠ entry.1 := fun hsql => habsent ⟨entry, hmem, hsql.symm⟩
    simpa using hne

/-- While there is room, a statement goes to the end. -/
theorem insert_of_lt (h : cache.entries.length < cache.room) (sql : String) (statement : α) :
    cache.insert sql statement =
      { cache with entries := cache.entries ++ [(sql, statement)] } := by
  have hfits : ¬ cache.room < (cache.entries ++ [(sql, statement)]).length := by
    rw [List.length_append, List.length_singleton]
    omega
  exact if_neg hfits

/-- When the room is used up, the first statement is given up for it. -/
theorem insert_of_le (h : cache.room ≤ cache.entries.length) (sql : String) (statement : α) :
    cache.insert sql statement =
      { cache with
        entries := (cache.entries ++ [(sql, statement)]).drop 1
        evictions := cache.evictions + 1 } := by
  have hmore : cache.room < (cache.entries ++ [(sql, statement)]).length := by
    rw [List.length_append, List.length_singleton]
    omega
  exact if_pos hmore

/-- The cache is as full as the window is. -/
theorem Shows.length_eq (h : cache.Shows room records) :
    cache.entries.length = min room (Ledger.ofRecords records).current.length := by
  rw [h.entries_eq, Ledger.window, List.rtake, List.length_drop]
  omega

/-- A statement that comes back goes to the end of the window, and the first one leaves it when
there is no room for both. -/
theorem Shows.insert (h : cache.Shows room records) (hroom : 0 < room) {sql : String}
    (hmissed : cache.find? sql = none) (statement : α) :
    (cache.noteMiss.insert sql statement).Shows room
      (records ++ [.got sql [(sql, .ok statement)] (.ok statement)]) := by
  have hlength := h.length_eq
  have hlookups := h.lookups_eq
  have hevictions := h.evictions_eq
  have hentries := h.entries_eq
  have hroom_eq := h.room_eq
  have hledger : Ledger.ofRecords (records ++ [.got sql [(sql, .ok statement)] (.ok statement)]) =
      { Ledger.ofRecords records with
        current := (Ledger.ofRecords records).current ++ [(sql, statement)] } := by
    rw [Ledger.ofRecords_concat]
    rfl
  have hfresh : (cache.texts ++ [sql]).Nodup := by
    have habsent : sql ∉ cache.texts := find?_eq_none_iff.mp hmissed
    refine List.nodup_append.mpr ⟨h.nodup, by simp, ?_⟩
    intro text htext other hother heq
    rw [List.mem_singleton.mp hother] at heq
    exact habsent (heq ▸ htext)
  have hcount : (records ++ [Record.got sql [(sql, .ok statement)] (.ok statement)]).countP
      Record.isGet = records.countP Record.isGet + 1 := by
    simp [List.countP_append, Record.isGet]
  have hasked : cache.hits + (cache.misses + 1) =
      (records ++ [Record.got sql [(sql, .ok statement)] (.ok statement)]).countP
        Record.isGet := by
    omega
  generalize Ledger.ofRecords records = ledger at *
  by_cases hfull : room ≤ ledger.current.length
  · have hmore : cache.noteMiss.room ≤ cache.noteMiss.entries.length := by
      change cache.room ≤ cache.entries.length
      omega
    rw [insert_of_le hmore]
    refine ⟨hroom_eq, ?_, ?_, hasked, ?_⟩
    · rw [hledger, Ledger.window, rtake_concat_of_le hroom hfull, ← Ledger.window, ← hentries]
      rfl
    · rw [texts, List.map_drop, noteMiss, List.map_append]
      exact hfresh.sublist (List.drop_sublist _ _)
    · rw [hledger, Ledger.overflow_concat, if_pos hfull, ← hevictions]
      rfl
  · have hfits : cache.noteMiss.entries.length < cache.noteMiss.room := by
      change cache.entries.length < cache.room
      omega
    rw [insert_of_lt hfits]
    refine ⟨hroom_eq, ?_, ?_, hasked, ?_⟩
    · rw [hledger, Ledger.window, rtake_concat_of_lt (by omega), ← Ledger.window, ← hentries]
      rfl
    · rw [texts, noteMiss, List.map_append]
      exact hfresh
    · rw [hledger, Ledger.overflow_concat, if_neg hfull, ← hevictions]
      rfl

/-- A record that leaves the ledger is told by a cache with the same contents, if the lookup is
counted. -/
theorem Shows.same (h : cache.Shows room records) {record : Record α} {after : StatementCache α}
    (hledger : (Ledger.ofRecords records).add record = Ledger.ofRecords records)
    (hroom : after.room = cache.room) (hentries : after.entries = cache.entries)
    (hevictions : after.evictions = cache.evictions)
    (hlookups : after.hits + after.misses =
      cache.hits + cache.misses + [record].countP Record.isGet) :
    after.Shows room (records ++ [record]) where
  room_eq := hroom.trans h.room_eq
  entries_eq := by
    rw [Ledger.ofRecords_concat, hledger, hentries, h.entries_eq]
  nodup := by
    rw [texts, hentries]
    exact h.nodup
  lookups_eq := by
    rw [List.countP_append, hlookups, h.lookups_eq]
  evictions_eq := by
    rw [Ledger.ofRecords_concat, hledger, hevictions, h.evictions_eq]

/-- Whatever a cache is used for, it shows what the records tell with one more record. -/
theorem Shows.perform (prepare : String → Act σ α) (h : cache.Shows room records) (hroom : 0 < room)
    (use : Use) (s : σ) :
    (use.perform prepare cache s).2.1.Shows room
      (records ++ [(use.perform prepare cache s).1]) := by
  have hne : cache.room ≠ 0 := by
    have := h.room_eq
    omega
  cases use with
  | get sql =>
    cases hfind : cache.find? sql with
    | some statement =>
      have hlookups : cache.hits + 1 + cache.misses = cache.hits + cache.misses + 1 := by omega
      rw [perform_get_found hne hfind]
      exact h.same (Ledger.add_of_nothing _ rfl) rfl rfl rfl hlookups
    | none =>
      have hprepare : prepare sql s = ((prepare sql s).1, (prepare sql s).2) := rfl
      cases hended : (prepare sql s).1 with
      | ok statement =>
        rw [hended] at hprepare
        rw [perform_get_prepared hne hfind hprepare]
        exact h.insert hroom hfind statement
      | error e =>
        rw [hended] at hprepare
        rw [perform_get_failed hne hfind hprepare]
        exact h.same (Ledger.add_of_nothing _ rfl) rfl rfl rfl rfl
  | has sql => exact h.same rfl rfl rfl rfl rfl
  | clear =>
    refine ⟨h.room_eq, ?_, List.nodup_nil, ?_, ?_⟩
    · rw [Ledger.ofRecords_concat]
      simp [Use.perform, StatementCache.clear, Ledger.add, Ledger.window]
    · simp [Use.perform, StatementCache.clear, Record.isGet, h.lookups_eq]
    · rw [Ledger.ofRecords_concat]
      simp [Use.perform, StatementCache.clear, Ledger.add, Ledger.overflow, h.evictions_eq]

/-- What a cache shows is what it serves from. -/
theorem Shows.serves (h : cache.Shows room records) (hroom : 0 < room) (s : σ) :
    cache.Serves prepare s room records := by
  have hne : cache.room ≠ 0 := by
    have := h.room_eq
    omega
  have hmissed : ∀ sql, sql ∉ ((Ledger.ofRecords records).window room).map Prod.fst →
      cache.find? sql = none := by
    intro sql habsent
    rw [find?_eq_none_iff, texts, h.entries_eq]
    exact habsent
  refine ⟨fun sql => ?_, fun sql statement hmem => ?_, fun sql statement t habsent hprepare => ?_,
    fun sql e t habsent hprepare => ?_⟩
  · have hnone : cache.find? sql = none ↔ sql ∉ cache.texts := find?_eq_none_iff
    rw [texts, h.entries_eq] at hnone
    rw [has, Option.isSome_iff_ne_none, ne_eq, hnone, not_not]
  · rw [← h.entries_eq] at hmem
    exact perform_get_found hne ((find?_eq_some_iff h.nodup).mpr hmem)
  · exact perform_get_prepared hne (hmissed sql habsent) hprepare
  · exact perform_get_failed hne (hmissed sql habsent) hprepare

end Step

/-! ## Any number of uses -/

section Run

variable {cache : StatementCache α} {room : Nat} {records : List (Record α)}

/-- By induction on the uses: what the records before them tell goes on to be told. -/
theorem Shows.performAll (prepare : String → Act σ α) (h : cache.Shows room records)
    (hroom : 0 < room) (uses : List Use) (s : σ) :
    (performAll prepare uses cache s).2.1.Shows room
      (records ++ (performAll prepare uses cache s).1) := by
  induction uses generalizing cache records s with
  | nil =>
    simpa [StatementCache.performAll] using h
  | cons use rest ih =>
    have hstep := h.perform prepare hroom use s
    have hrest := ih hstep (use.perform prepare cache s).2.2
    simpa [StatementCache.performAll, List.append_assoc] using hrest

/-- A cache without room stays as it is. -/
theorem performAll_afresh (prepare : String → Act σ α) (hroom : cache.room = 0)
    (hentries : cache.entries = []) (uses : List Use) (s : σ) :
    (performAll prepare uses cache s).2.1 = cache := by
  induction uses generalizing s with
  | nil => rfl
  | cons use rest ih =>
    have hstep : (use.perform prepare cache s).2.1 = cache := by
      cases use with
      | get sql => rw [perform_get_afresh hroom]
      | has sql => rfl
      | clear => rw [Use.perform, StatementCache.clear, ← hentries]
    simp only [StatementCache.performAll, hstep]
    exact ih _

/-- However a cache of a given size was used, with statements that could be prepared and others
that could not: if there is room, it shows the latest of those that came back since everything was
dropped, as many as there is room for, and serves the next one who asks from these; if there is no
room, it holds nothing, has counted nothing and hands over every text. -/
theorem window_of_uses (prepare : String → Act σ α) (size : Int) (uses : List Use) (s : σ) :
    let (records, cache, t) := performAll prepare uses (ofSize size) s
    if 1 ≤ size then
      cache.Shows size.toNat records ∧
        cache.size = min size.toNat (Ledger.ofRecords records).current.length ∧
        cache.Serves prepare t size.toNat records
    else
      cache = ofSize 0 ∧ ∀ sql, (Use.get sql).perform prepare cache t =
        (.got sql [(sql, (prepare sql t).1)] (prepare sql t).1, cache, (prepare sql t).2) := by
  have hstart : (ofSize size : StatementCache α).Shows size.toNat [] := shows_ofSize size
  dsimp only
  split_ifs with hsize
  · have hroom : 0 < size.toNat := by omega
    have hshows := hstart.performAll prepare hroom uses s
    rw [List.nil_append] at hshows
    exact ⟨hshows, hshows.length_eq, hshows.serves hroom _⟩
  · have hzero : size.toNat = 0 := by omega
    have hempty : (ofSize size : StatementCache α) = ofSize 0 := by
      rw [ofSize, hzero]
      rfl
    have hkept : (performAll prepare uses (ofSize size) s).2.1 = ofSize size :=
      performAll_afresh prepare hzero rfl uses s
    rw [hkept]
    exact ⟨hempty, fun sql => perform_get_afresh hzero⟩

/-- The first lookup fails, so the first text comes in with the second one. It leaves for the
fourth, and takes the place of the next one when it comes back. -/
example :
    let uses : List Use := [.get "a", .get "a", .get "b", .get "c", .get "b", .get "a"]
    let cache := (performAll SerialPreparer.prepare uses (ofSize 2)
      { failures := ["locked"] }).2.1
    cache.entries = [("c", 3), ("a", 4)] ∧
      (cache.hits, cache.misses, cache.evictions) = (1, 5, 2) := by
  decide

end Run

end StatementCache

end BoundSql
