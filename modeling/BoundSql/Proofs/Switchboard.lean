import BoundSql.Proofs.Keys
import BoundSql.Proofs.Timing
import BoundSql.Proofs.Wires
import Mathlib.Logic.Function.Basic

/-!
# A switchboard

A database is reached over many lines, each under a handle with a connection of its own that begins
transactions by itself. What a line does is an interface, so statements about the switchboard hold
for every one. A second switchboard does the same and writes down which lines were reached and what
they answered to statements with results. From these reports the key that each connection keeps can
be read off: it is the one that was answered last since its line was reached.
-/

namespace BoundSql

variable {σ τ α : Type}

/-! ## Lines -/

/-- The connections on all lines. -/
abbrev Lines : Type := Handle → Autobegin

namespace Lines

/-- Does something with the connection on a line. -/
def onLine (handle : Handle) (act : Act (Autobegin × τ) α) : Act (Lines × τ) α :=
  Act.within (fun s => (s.1 handle, s.2)) (fun t s => (Function.update s.1 handle t.1, t.2)) act

/-- Does something beyond the lines. -/
def beyond (act : Act τ α) : Act (Lines × τ) α := Act.within Prod.snd (fun t s => (s.1, t)) act

/-- The same connections, and what is beyond the lines is related. -/
def Beside (S : σ → τ → Prop) (s : Lines × σ) (t : Lines × τ) : Prop := t.1 = s.1 ∧ S s.2 t.2

variable {S : σ → τ → Prop}

theorem onLine_beside {act : Act (Autobegin × σ) α} {other : Act (Autobegin × τ) α}
    (h : Act.Sim (Autobegin.Beside S) act other) (handle : Handle) :
    Act.Sim (Beside S) (onLine handle act) (onLine handle other) := by
  refine h.within (fun s t hst => ⟨congrFun hst.1 handle, hst.2⟩) fun s t u v hst huv => ?_
  refine ⟨?_, huv.2⟩
  rw [hst.1, huv.1]

theorem beyond_beside {act : Act σ α} {other : Act τ α} (h : Act.Sim S act other) :
    Act.Sim (Beside S) (beyond act) (beyond other) :=
  h.within (fun _ _ hst => hst.2) fun _ _ _ _ hst huv => ⟨hst.1, huv⟩

end Lines

/-! ## The switchboard -/

/-- Lines to databases, and everything else outside. -/
structure Switchboard (σ : Type) where
  /-- What the line of a handle does. -/
  wire : Handle → Wire σ
  /-- Reaches a database for a new line. -/
  reach : AdapterKind → ConnectionSettings → Act σ Handle
  /-- The name of the dialect that is spoken on a line. -/
  dialectName : Handle → σ → String
  /-- The hooks; they have no access to the connections. -/
  hooks : Hooks σ
  /-- Waits for some seconds. -/
  sleep : Double → Act σ Unit
  /-- The adapters for backends. -/
  adapters : AdapterRegistry

namespace Switchboard

/-- Reaches a database and puts a new connection on the line. -/
def connect (board : Switchboard τ) (kind : AdapterKind) (settings : ConnectionSettings) :
    Act (Lines × τ) Handle := do
  let handle ← Lines.beyond (board.reach kind settings)
  Act.change fun s => (Function.update s.1 handle {}, s.2)
  return handle

/-- The connections on the lines as a driver. Statements with results are run on the lines as they
are given here, everything else on those of the switchboard. -/
def driverOn (board : Switchboard τ) (answering : Prepared → Wire τ) : Driver (Lines × τ) where
  connect := board.connect
  dialectName handle s := board.dialectName handle s.2
  prepare _ _ := pure ()
  execute p := Lines.onLine p.handle (Autobegin.execute (answering p) p)
  start handle := Lines.onLine handle (Autobegin.start (board.wire handle))
  commit handle := Lines.onLine handle (Autobegin.commit (board.wire handle))
  rollback handle := Lines.onLine handle (Autobegin.rollback (board.wire handle))
  command handle sql := Lines.onLine handle (Autobegin.command (board.wire handle) sql)
  insertId handle s := (s.1 handle).insertId
  close handle := Lines.onLine handle (Autobegin.close (board.wire handle))

/-- Everything outside a session that runs statements with results on the given lines. -/
def surroundingsOn (board : Switchboard τ) (answering : Prepared → Wire τ) :
    Surroundings (Lines × τ) where
  driver := board.driverOn answering
  hooks :=
    { has := board.hooks.has
      call := fun call => Lines.beyond (board.hooks.call call) }
  sleep time := Lines.beyond (board.sleep time)
  adapters := board.adapters

/-- Everything outside a session. -/
def surroundings (board : Switchboard τ) : Surroundings (Lines × τ) :=
  board.surroundingsOn fun p => board.wire p.handle

/-- Two switchboards do alike. -/
structure Alike (S : σ → τ → Prop) (board : Switchboard σ) (other : Switchboard τ) : Prop where
  /-- Their lines do alike. -/
  wire : ∀ handle, (board.wire handle).Alike S (other.wire handle)
  /-- Databases are reached alike. -/
  reach : ∀ kind settings, Act.Sim S (board.reach kind settings) (other.reach kind settings)
  /-- The same dialects are spoken. -/
  dialectName : ∀ handle s t, S s t → other.dialectName handle t = board.dialectName handle s
  /-- There are the same hooks. -/
  has : other.hooks.has = board.hooks.has
  /-- They are called alike. -/
  hook : ∀ call, Act.Sim S (board.hooks.call call) (other.hooks.call call)
  /-- Waiting is alike. -/
  sleep : ∀ time, Act.Sim S (board.sleep time) (other.sleep time)
  /-- The adapters are the same. -/
  adapters : other.adapters = board.adapters

/-- What sessions ask for is alike on switchboards that do alike. -/
theorem Alike.parallel {S : σ → τ → Prop} {board : Switchboard σ} {other : Switchboard τ}
    (h : board.Alike S other) {answering : Prepared → Wire σ} {later : Prepared → Wire τ}
    (hanswering : ∀ p, (answering p).Alike S (later p)) :
    (board.surroundingsOn answering).Parallel (Lines.Beside S) (other.surroundingsOn later) where
  connect kind settings := by
    refine (Lines.beyond_beside (h.reach kind settings)).bind fun handle => ?_
    refine Act.Sim.bind (Act.Sim.change fun s t hst => ⟨?_, hst.2⟩) fun _ => Act.Sim.pure handle
    rw [hst.1]
  dialectName handle s t hst := h.dialectName handle s.2 t.2 hst.2
  prepare _ _ := Act.Sim.pure ()
  execute p := Lines.onLine_beside
    ((Act.Sim.ofExcept (Binding.pieces p)).bind fun pieces =>
      Autobegin.run_beside (hanswering p) pieces p.boundValues) p.handle
  start handle := Lines.onLine_beside (Autobegin.start_beside (h.wire handle)) handle
  commit handle := Lines.onLine_beside (Autobegin.commit_beside (h.wire handle)) handle
  rollback handle := Lines.onLine_beside (Autobegin.rollback_beside (h.wire handle)) handle
  command handle sql := Lines.onLine_beside (Autobegin.command_beside (h.wire handle) sql) handle
  insertId handle s t hst := congrArg Autobegin.insertId (congrFun hst.1 handle)
  close handle := Lines.onLine_beside (Autobegin.close_beside (h.wire handle)) handle
  has := h.has
  hook call := Lines.beyond_beside (h.hook call)
  sleep time := Lines.beyond_beside (h.sleep time)
  adapters := h.adapters

end Switchboard

/-! ## Reports -/

/-- Something that lines report. -/
inductive LineReport where
  /-- A database was to be reached for a new line. -/
  | reached (ended : Except Error Handle)
  /-- A statement with results was run on its line. -/
  | answered (statement : Prepared) (ended : Except Error StatementResult)

namespace LineReport

/-- The key that a report brings, if it brings one. -/
def key? : LineReport → Option Value
  | .answered _ (.ok result) => result.key?
  | .answered _ (.error _) | .reached _ => none

/-- The key that the connection of a handle keeps after a report, from the one before. -/
def next (handle : Handle) (key : Value) : LineReport → Value
  | .reached (.ok other) => if other = handle then .null else key
  | .answered p (.ok result) => if p.handle = handle then result.key?.getD key else key
  | .reached (.error _) | .answered _ (.error _) => key

/-- The key that was answered last on the line of a handle since it was reached. -/
def latestKey (handle : Handle) (reports : List LineReport) : Value :=
  reports.foldl (next handle) .null

variable (handle : Handle) (reports : List LineReport)

theorem latestKey_concat (report : LineReport) :
    latestKey handle (reports ++ [report]) = next handle (latestKey handle reports) report := by
  rw [latestKey, List.foldl_append]
  rfl

/-- An answer brings its key on its line, if it has one. -/
theorem latestKey_answered (p : Prepared) (result : StatementResult) :
    latestKey p.handle (reports ++ [.answered p (.ok result)]) =
      result.key?.getD (latestKey p.handle reports) := by
  rw [latestKey_concat, next, if_pos rfl]

/-- What is answered on other lines, and what ends with an error, brings none. -/
theorem latestKey_answered_of_ne {p : Prepared} (h : p.handle ≠ handle)
    (ended : Except Error StatementResult) :
    latestKey handle (reports ++ [.answered p ended]) = latestKey handle reports := by
  rw [latestKey_concat]
  cases ended with
  | ok result => exact if_neg h
  | error e => rfl

theorem latestKey_answered_error (p : Prepared) (e : Error) :
    latestKey handle (reports ++ [.answered p (.error e)]) = latestKey handle reports :=
  latestKey_concat handle reports _

end LineReport

/-- A line that does the same beside reports. -/
def Wire.quiet (wire : Wire σ) (ι : Type) : Wire (σ × ι) where
  connect := wire.connect.alongside
  start := wire.start.alongside
  execute sql values := (wire.execute sql values).alongside
  commit := wire.commit.alongside
  rollback := wire.rollback.alongside
  close := wire.close.alongside
  isFatal := wire.isFatal
  mayLinger := wire.mayLinger

theorem Wire.quiet_alike (wire : Wire σ) (ι : Type) :
    (wire.quiet ι).Alike (fun s t => t = s.1) wire where
  connect := Act.alongside_sim _
  start := Act.alongside_sim _
  execute _ _ := Act.alongside_sim _
  commit := Act.alongside_sim _
  rollback := Act.alongside_sim _
  close := Act.alongside_sim _
  isFatal := rfl
  mayLinger := rfl

/-- What is done beside reports leaves them. -/
theorem Act.alongside_keeps {ι : Type} (K : ι → Prop) (act : Act σ α) :
    Act.Triple (fun s : σ × ι => K s.2) act.alongside (fun _ s => K s.2) fun s => K s.2 :=
  Act.Triple.of_reached fun _ hs => hs

/-- What is entered for either end decides what holds of the reports then. -/
theorem Act.entered_triple {ι : Type} {K : List ι → Prop} {R : α → List ι → Prop}
    {entry : Except Error α → ι} (hok : ∀ reports a, K reports → R a (reports ++ [entry (.ok a)]))
    (herror : ∀ reports e, K reports → K (reports ++ [entry (.error e)])) (act : Act σ α) :
    Act.Triple (fun s : σ × List ι => K s.2) (act.entered entry) (fun a s => R a s.2)
      fun s => K s.2 := by
  rintro ⟨s, reports⟩ hs
  rw [Act.entered_apply]
  dsimp only
  cases (act s).1 with
  | ok a => exact hok reports a hs
  | error e => exact herror reports e hs

namespace Switchboard

variable (board : Switchboard σ)

/-- A switchboard that does the same and reports which lines were reached. -/
def noting : Switchboard (σ × List LineReport) where
  wire handle := (board.wire handle).quiet (List LineReport)
  reach kind settings := (board.reach kind settings).entered .reached
  dialectName handle s := board.dialectName handle s.1
  hooks := ⟨board.hooks.has, fun call => (board.hooks.call call).alongside⟩
  sleep time := (board.sleep time).alongside
  adapters := board.adapters

/-- The line of a statement, which does the same and reports what it answered to that. -/
def answering (p : Prepared) : Wire (σ × List LineReport) :=
  { (board.wire p.handle).quiet (List LineReport) with
    execute := fun sql values =>
      ((board.wire p.handle).execute sql values).entered (.answered p) }

/-- Surroundings that do the same and report it. -/
def reporting : Surroundings (Lines × (σ × List LineReport)) :=
  board.noting.surroundingsOn board.answering

theorem noting_alike : board.noting.Alike (fun s t => t = s.1) board where
  wire handle := (board.wire handle).quiet_alike (List LineReport)
  reach _ _ := Act.entered_sim _ _
  dialectName := by
    rintro handle s t rfl
    rfl
  has := rfl
  hook _ := Act.alongside_sim _
  sleep _ := Act.alongside_sim _
  adapters := rfl

theorem answering_alike (p : Prepared) :
    (board.answering p).Alike (fun s t => t = s.1) (board.wire p.handle) :=
  { (board.wire p.handle).quiet_alike (List LineReport) with
    execute := fun _ _ => Act.entered_sim _ _ }

/-- Reports have no part in what a session asks for. -/
theorem reporting_parallel :
    board.reporting.Parallel (Lines.Beside fun s t => t = s.1) board.surroundings :=
  board.noting_alike.parallel board.answering_alike

/-- What lines do beside running statements leaves the reports. -/
theorem quiet_keeps (K : List LineReport → Prop) (handle : Handle) :
    ((board.wire handle).quiet (List LineReport)).Keeps fun t => K t.2 where
  connect := Act.alongside_keeps K _
  start := Act.alongside_keeps K _
  commit := Act.alongside_keeps K _
  rollback := Act.alongside_keeps K _
  close := Act.alongside_keeps K _

theorem answering_keeps (K : List LineReport → Prop) (p : Prepared) :
    (board.answering p).Keeps fun t => K t.2 :=
  { board.quiet_keeps K p.handle with }

/-! ## The keys that connections keep -/

open LineReport (latestKey)

/-- Every connection keeps the key that was answered last on its line since it was reached. -/
def Keyed (s : Lines × (σ × List LineReport)) : Prop :=
  ∀ handle, (s.1 handle).insertId = latestKey handle s.2.2

/-- One connection keeps that key, and for the other lines the reports say what they said. -/
structure KeyedAt (handle : Handle) (others : Handle → Value) (key : Value)
    (reports : List LineReport) : Prop where
  /-- The connection keeps the key. -/
  key_eq : key = latestKey handle reports
  /-- For the other lines the reports say what they said. -/
  others_eq : ∀ other, other ≠ handle → latestKey other reports = others other

/-- A connection that keeps its key may be put back on its line. -/
theorem KeyedAt.put {handle : Handle} {lines : Lines} {t : Autobegin × (σ × List LineReport)}
    (h : KeyedAt handle (fun other => (lines other).insertId) t.1.insertId t.2.2) :
    Keyed (Function.update lines handle t.1, t.2) := by
  intro other
  dsimp only
  by_cases hother : other = handle
  · rw [hother, Function.update_self]
    exact h.key_eq
  · rw [Function.update_of_ne hother]
    exact (h.others_eq other hother).symm

/-- What keeps the key on a line keeps the keys of all. -/
theorem onLine_keyed {handle : Handle} {act : Act (Autobegin × (σ × List LineReport)) α}
    (h : ∀ others, Act.Triple (Autobegin.At fun key t => KeyedAt handle others key t.2) act
      (fun _ => Autobegin.At fun key t => KeyedAt handle others key t.2)
      (Autobegin.At fun key t => KeyedAt handle others key t.2)) :
    Act.Triple Keyed (Lines.onLine handle act) (fun _ => Keyed) Keyed := by
  refine Act.Triple.of_reached fun s hs => ?_
  have hline := (h fun other => (s.1 other).insertId).always_ends (s.1 handle, s.2)
    ⟨hs handle, fun other _ => (hs other).symm⟩
  exact KeyedAt.put hline

/-- A statement with results leaves the key that its answer brings. -/
theorem execute_keyed (p : Prepared) :
    Act.Triple Keyed (board.reporting.driver.execute p) (fun _ => Keyed) Keyed := by
  refine onLine_keyed fun others => ?_
  let R (result : StatementResult) (key : Value) (t : σ × List LineReport) : Prop :=
    KeyedAt p.handle others (result.key?.getD key) t.2
  refine Autobegin.execute_at (R := R) (fun _ => board.answering_keeps _ p)
    (fun _ => board.answering_keeps _ p) (fun _ _ h => h) (fun sql values key => ?_)
    (fun _ _ _ h => h) p
  refine Act.entered_triple (K := KeyedAt p.handle others key)
    (R := fun (result : StatementResult) => KeyedAt p.handle others (result.key?.getD key))
    (fun reports result h => ⟨?_, fun other hother => ?_⟩)
    (fun reports e h => ⟨?_, fun other hother => ?_⟩) _
  · rw [LineReport.latestKey_answered, ← h.key_eq]
  · rw [LineReport.latestKey_answered_of_ne other reports (Ne.symm hother),
      h.others_eq other hother]
  · rw [LineReport.latestKey_answered_error, ← h.key_eq]
  · rw [LineReport.latestKey_answered_error, h.others_eq other hother]

/-- A database that was reached has a line without a key. -/
theorem connect_keyed (kind : AdapterKind) (settings : ConnectionSettings) :
    Act.Triple Keyed (board.reporting.driver.connect kind settings) (fun _ => Keyed) Keyed := by
  rintro ⟨lines, t, reports⟩ hs
  have hconnect : board.reporting.driver.connect kind settings =
      (Lines.beyond ((board.reach kind settings).entered .reached) >>= fun handle => do
        Act.change fun s => (Function.update s.1 handle {}, s.2)
        return handle) := rfl
  rw [hconnect, Act.bind_apply, Lines.beyond, Act.within_apply, Act.entered_apply]
  dsimp only
  cases (board.reach kind settings t).1 with
  | error e =>
    intro other
    dsimp only
    rw [LineReport.latestKey_concat]
    exact hs other
  | ok handle =>
    refine KeyedAt.put (t := (({} : Autobegin), _)) ⟨?_, fun other hother => ?_⟩
    · rw [LineReport.latestKey_concat]
      exact (if_pos rfl).symm
    · rw [LineReport.latestKey_concat]
      exact (if_neg (Ne.symm hother)).trans (hs other).symm

/-- What happens beyond the lines without a report keeps the keys. -/
theorem beyond_keyed (act : Act σ α) :
    Act.Triple Keyed (Lines.beyond (act.alongside (κ := List LineReport))) (fun _ => Keyed)
      Keyed :=
  Act.Triple.of_reached fun _ hs => hs

/-- Whatever is asked for outside, every connection keeps the key that was answered last. -/
theorem reporting_keyed :
    board.reporting.Parallel (fun s t => t = s ∧ Keyed s) board.reporting where
  connect kind settings := (board.connect_keyed kind settings).sim
  dialectName := by
    rintro handle s t ⟨rfl, -⟩
    rfl
  prepare _ _ := Act.Sim.pure ()
  execute p := (board.execute_keyed p).sim
  start handle :=
    (onLine_keyed fun _ => Autobegin.start_at fun _ => board.quiet_keeps _ handle).sim
  commit handle :=
    (onLine_keyed fun _ => Autobegin.commit_at fun _ => board.quiet_keeps _ handle).sim
  rollback handle :=
    (onLine_keyed fun _ => Autobegin.rollback_at fun _ => board.quiet_keeps _ handle).sim
  command handle sql := (onLine_keyed fun _ =>
    Autobegin.command_at (fun _ => board.quiet_keeps _ handle) sql fun _ =>
      Act.alongside_keeps _ _).sim
  insertId := by
    rintro handle s t ⟨rfl, -⟩
    rfl
  close handle :=
    (onLine_keyed fun _ => Autobegin.close_at fun _ => board.quiet_keeps _ handle).sim
  has := rfl
  hook _ := (beyond_keyed _).sim
  sleep _ := (beyond_keyed _).sim
  adapters := rfl

/-! ## What a statement reports -/

section Reports

variable {K L : List LineReport → Prop}

/-- What the reports say on a line they say for the switchboard. -/
theorem onLine_reports {act : Act (Autobegin × (σ × List LineReport)) α}
    (h : Act.Triple (Autobegin.At fun _ t => K t.2) act (fun _ => Autobegin.At fun _ t => L t.2)
      (Autobegin.At fun _ t => K t.2)) (handle : Handle) :
    Act.Triple (fun s : Lines × (σ × List LineReport) => K s.2.2) (Lines.onLine handle act)
      (fun _ s => L s.2.2) fun s => K s.2.2 :=
  h.within (fun _ hs => hs) (fun _ _ _ _ ht => ht) fun _ _ _ ht => ht

/-- Hooks leave the reports. -/
theorem notify_reports (call : HookCall) :
    Act.Triple (fun s : Lines × (σ × List LineReport) => K s.2.2)
      (board.reporting.hooks.notify call) (fun _ s => K s.2.2) fun s => K s.2.2 := by
  refine Act.Triple.ite (fun _ => ?_) fun _ => Act.Triple.pure fun _ hs => hs
  exact Act.Triple.ignoring (Act.Triple.of_reached fun _ hs => hs)

end Reports

/-- The reports have gone on from earlier ones, and the last is the answer to a statement. -/
def Told (past : List LineReport) (p : Prepared) (reports : List LineReport) : Prop :=
  ∃ since result, reports = past ++ since ++ [.answered p (.ok result)]

theorem Told.goesOn {past reports : List LineReport} {p : Prepared} (h : Told past p reports) :
    past <+: reports := by
  obtain ⟨since, result, rfl⟩ := h
  exact ⟨since ++ [.answered p (.ok result)], (List.append_assoc _ _ _).symm⟩

/-- A statement with results that succeeds has reported its answer last. -/
theorem execute_told (past : List LineReport) (p : Prepared) :
    Act.Triple (fun s => past <+: s.2.2) (board.reporting.driver.execute p)
      (fun _ s => Told past p s.2.2) fun s => past <+: s.2.2 := by
  let R (result : StatementResult) (reports : List LineReport) : Prop :=
    ∃ since, reports = past ++ since ++ [.answered p (.ok result)]
  refine onLine_reports (K := (past <+: ·)) (L := Told past p)
    (Autobegin.execute_at (R := fun result _ t => R result t.2)
      (fun _ => board.answering_keeps _ p) (fun _ => board.answering_keeps _ p)
      (fun _ _ h => h.goesOn) (fun sql values _ => ?_) ?_ p) p.handle
  · refine Act.entered_triple (K := (past <+: ·)) (R := R) ?_ ?_ _
    · rintro - result ⟨since, rfl⟩
      exact ⟨since, rfl⟩
    · exact fun reports e h => h.trans (List.prefix_append _ _)
  · rintro result - t ⟨since, hreports⟩
    exact ⟨since, result, hreports⟩

/-- Opening a connection goes on from the earlier reports. -/
theorem reporting_opensKeeping (name : String) (past : List LineReport) :
    board.reporting.OpensKeeping name fun s => past <+: s.2.2 where
  connect kind settings := by
    have hreach : Act.Triple (fun s : Lines × (σ × List LineReport) => past <+: s.2.2)
        (Lines.beyond ((board.reach kind settings).entered .reached))
        (fun _ s => past <+: s.2.2) fun s => past <+: s.2.2 :=
      Act.Triple.of_reached fun s hs => hs.trans (List.prefix_append _ _)
    refine hreach.bind fun handle => ?_
    refine Act.Triple.bind (R := fun _ s => past <+: s.2.2) (Act.Triple.change fun _ hs => hs)
      fun _ => ?_
    exact Act.Triple.pure fun _ hs => hs
  command handle sql := onLine_reports (K := (past <+: ·)) (L := (past <+: ·))
    (Autobegin.command_at (fun _ => board.quiet_keeps _ handle) sql fun _ =>
      Act.alongside_keeps _ _) handle
  close handle := onLine_reports (K := (past <+: ·)) (L := (past <+: ·))
    (Autobegin.close_at fun _ => board.quiet_keeps _ handle) handle
  notify _ _ := board.notify_reports (K := (past <+: ·)) _

end Switchboard

end BoundSql
