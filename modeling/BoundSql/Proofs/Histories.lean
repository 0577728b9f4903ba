import BoundSql.Proofs.Clauses
import BoundSql.Proofs.SafeMode

/-!
# What statements are made of

A builder lives through clause calls and calls that run statements. A call of the second kind leaves
it without clauses, however it ends, so a later one makes its statements of the clauses that came
since. Besides these and its own arguments only two things matter: the dialect of the connection,
and for the rows of a page the total that its count came to. Nothing else of what happened before
does, be it in the builder, on the connections or outside.
-/

namespace BoundSql

variable {σ α : Type}

/-! ## Builders through time -/

/-- Something that happens to a builder. -/
inductive Step where
  /-- A clause is added. -/
  | adds (clause : Clause)
  /-- Statements are run. -/
  | runs (call : TerminalCall)

namespace Step

/-- Carries a step out; an error is the caller's affair. -/
def act (around : Surroundings σ) : Step → Act (Builder × Session σ) Unit
  | .adds clause => Builder.changeQuery fun q => clause.apply q
  | .runs call => do
    let _ ← call.act around
    return ()

/-- Carries steps out, whatever becomes of each. -/
def performAll (around : Surroundings σ) (steps : List Step) (s : Builder × Session σ) :
    Builder × Session σ :=
  steps.foldl (fun s step => (step.act around s).2) s

/-- The clauses that count after a step: one more, or none. -/
def gather (clauses : List Clause) : Step → List Clause
  | .adds clause => clauses ++ [clause]
  | .runs _ => []

/-- The clauses since the last call that ran statements. -/
def sinceCall (steps : List Step) : List Clause := steps.foldl gather []

end Step

/-- A clause call changes the query as far as it is accepted. -/
theorem Builder.changeQuery_query (clause : Clause) (s : Builder × Session σ) :
    (changeQuery (fun q => clause.apply q) s).2.1.query = s.1.query.take clause := by
  rw [changeQuery, Act.bind_of_ok (Act.look_apply _ _), Query.take]
  cases clause.apply s.1.query with
  | ok changed => rfl
  | error e => rfl

/-- A call leaves no clauses, however it ends. -/
theorem TerminalCall.query_act (around : Surroundings σ) (call : TerminalCall)
    (s : Builder × Session σ) : (call.act around s).2.1.query = Query.empty := by
  rw [act_eq, Builder.clearing, Act.always_apply]
  rfl

namespace Step

variable (around : Surroundings σ)

/-- One more clause is one more step of the query. -/
theorem collect_append (clauses : List Clause) (clause : Clause) :
    Query.collect (clauses ++ [clause]) = (Query.collect clauses).take clause := by
  rw [Query.collect, List.foldl_append]
  rfl

/-- After a step the query is that of the clauses that count then. -/
theorem query_act {clauses : List Clause} {s : Builder × Session σ}
    (hs : s.1.query = Query.collect clauses) (step : Step) :
    (step.act around s).2.1.query = Query.collect (step.gather clauses) := by
  cases step with
  | adds clause =>
    rw [gather, collect_append, ← hs]
    exact Builder.changeQuery_query clause s
  | runs call =>
    have hcleared := call.query_act around s
    rw [act, Act.bind_apply]
    generalize call.act around s = ended at hcleared
    obtain ⟨result, t⟩ := ended
    cases result with
    | ok v => exact hcleared
    | error e => exact hcleared

/-- So it is after all steps, by induction on them. -/
theorem query_foldl (steps : List Step) (clauses : List Clause) {s : Builder × Session σ}
    (hs : s.1.query = Query.collect clauses) :
    (performAll around steps s).1.query = Query.collect (steps.foldl gather clauses) := by
  induction steps generalizing clauses s with
  | nil => exact hs
  | cons step steps ih => exact ih _ (query_act around hs step)

/-- The query of a builder that began without clauses is that of the clauses since the last call. -/
theorem query_performAll {s : Builder × Session σ} (hs : s.1.query = Query.empty)
    (steps : List Step) :
    (performAll around steps s).1.query = Query.collect (sinceCall steps) :=
  query_foldl around steps [] hs

end Step

/-! ## What is handed over to be run -/

/-- A text with parameters that is handed over to be run, and the outcome if there was one. -/
structure Exchange where
  /-- The text. -/
  sql : String
  /-- The parameters. -/
  params : List Value
  /-- The outcome. -/
  outcome : Option Outcome

/-- The text with its parameters. -/
def Exchange.made (x : Exchange) : String × List Value := (x.sql, x.params)

namespace Program

/-- Carries a program out and writes down what it hands over. -/
def recorded (around : Surroundings σ) :
    Program → Builder × Session σ → List Exchange × Except Error Value × Builder × Session σ
  | .finish result, s => ([], Builder.present result s)
  | .key, s => ([], key.run around s)
  | .statement demand returnRows next, s =>
    match demand.ready around s with
    | (.error e, t) => ([], .error e, t)
    | (.ok (sql, params), t) =>
      match Builder.execute around sql params returnRows t with
      | (.error e, u) => ([⟨sql, params, none⟩], .error e, u)
      | (.ok outcome, u) =>
        let rest := (next outcome).recorded around u
        (⟨sql, params, some outcome⟩ :: rest.1, rest.2)

/-- What a program hands over, in order. -/
def exchanges (around : Surroundings σ) (p : Program) (s : Builder × Session σ) : List Exchange :=
  (p.recorded around s).1

variable {around : Surroundings σ} {demand : Demand} {returnRows : Bool} {next : Outcome → Program}
  {sql : String} {params : List Value} {s t u : Builder × Session σ} {e : Error}

/-- How a statement goes: it is not made ready, or it has no outcome, or it has one. -/
inductive Goes (around : Surroundings σ) (demand : Demand) (returnRows : Bool)
    (s : Builder × Session σ) : Prop
  /-- It is not made ready. -/
  | refused {e : Error} {t : Builder × Session σ} (hready : demand.ready around s = (.error e, t))
  /-- It has no outcome. -/
  | failed {sql : String} {params : List Value} {e : Error} {t u : Builder × Session σ}
      (hready : demand.ready around s = (.ok (sql, params), t))
      (hexecute : Builder.execute around sql params returnRows t = (.error e, u))
  /-- It has an outcome. -/
  | passed {sql : String} {params : List Value} {outcome : Outcome} {t u : Builder × Session σ}
      (hready : demand.ready around s = (.ok (sql, params), t))
      (hexecute : Builder.execute around sql params returnRows t = (.ok outcome, u))

theorem goes (around : Surroundings σ) (demand : Demand) (returnRows : Bool)
    (s : Builder × Session σ) : Goes around demand returnRows s := by
  generalize hready : demand.ready around s = ready
  obtain ⟨made, t⟩ := ready
  cases made with
  | error e => exact .refused hready
  | ok made =>
    generalize hexecute : Builder.execute around made.1 made.2 returnRows t = ended
    obtain ⟨result, u⟩ := ended
    cases result with
    | error e => exact .failed hready hexecute
    | ok outcome => exact .passed hready hexecute

/-- A statement that is not made ready is not handed over. -/
theorem recorded_of_refused (hready : demand.ready around s = (.error e, t)) :
    (statement demand returnRows next).recorded around s = ([], .error e, t) := by
  rw [recorded, hready]

/-- One without an outcome is the last one. -/
theorem recorded_of_failed (hready : demand.ready around s = (.ok (sql, params), t))
    (hexecute : Builder.execute around sql params returnRows t = (.error e, u)) :
    (statement demand returnRows next).recorded around s =
      ([⟨sql, params, none⟩], .error e, u) := by
  rw [recorded, hready]
  dsimp only
  rw [hexecute]

/-- One with an outcome comes before those that follow. -/
theorem recorded_of_passed (hready : demand.ready around s = (.ok (sql, params), t))
    {outcome : Outcome}
    (hexecute : Builder.execute around sql params returnRows t = (.ok outcome, u)) :
    (statement demand returnRows next).recorded around s =
      (⟨sql, params, some outcome⟩ :: (next outcome).exchanges around u,
        ((next outcome).recorded around u).2) := by
  rw [recorded, hready]
  dsimp only
  rw [hexecute]
  rfl

/-- Writing down does not change the run. -/
theorem recorded_run (around : Surroundings σ) (p : Program) (s : Builder × Session σ) :
    (p.recorded around s).2 = p.run around s := by
  induction p generalizing s with
  | finish result => rfl
  | key => rfl
  | statement demand returnRows next ih =>
    rw [run]
    cases goes around demand returnRows s with
    | refused hready => rw [recorded_of_refused hready, Act.bind_of_error hready]
    | failed hready hexecute =>
      rw [recorded_of_failed hready hexecute, Act.bind_of_ok hready]
      exact (Act.bind_of_error hexecute).symm
    | @passed _ _ outcome _ u hready hexecute =>
      rw [recorded_of_passed hready hexecute, Act.bind_of_ok hready]
      refine (ih outcome u).trans (Eq.symm ?_)
      exact Act.bind_of_ok hexecute

theorem exchanges_of_refused (hready : demand.ready around s = (.error e, t)) :
    (statement demand returnRows next).exchanges around s = [] := by
  rw [exchanges, recorded_of_refused hready]

theorem exchanges_of_failed (hready : demand.ready around s = (.ok (sql, params), t))
    (hexecute : Builder.execute around sql params returnRows t = (.error e, u)) :
    (statement demand returnRows next).exchanges around s = [⟨sql, params, none⟩] := by
  rw [exchanges, recorded_of_failed hready hexecute]

theorem exchanges_of_passed (hready : demand.ready around s = (.ok (sql, params), t))
    {outcome : Outcome}
    (hexecute : Builder.execute around sql params returnRows t = (.ok outcome, u)) :
    (statement demand returnRows next).exchanges around s =
      ⟨sql, params, some outcome⟩ :: (next outcome).exchanges around u := by
  rw [exchanges, recorded_of_passed hready hexecute]

end Program

/-! ## What decides the texts -/

/-- The statement that is made of clauses in a dialect, if it can be. Only a statement made of the
clauses needs a dialect. -/
def Demand.made : Demand → Query → Option Dialect → Option (String × List Value)
  | .raw sql params, _, _ => some (sql, params)
  | .compiled change compile, q, dialect => do
    let changed ← (change q).toOption
    let c ← (compile changed).toOption
    return (c.sql (← dialect), c.params)

/-- The first statement that is asked for, if there is one. -/
def Program.opening : Program → Option Demand
  | .statement demand _ _ => some demand
  | _ => none

namespace TerminalCall

/-- The texts and parameters that a call makes ready, in order. -/
def compiled (around : Surroundings σ) (call : TerminalCall) (s : Builder × Session σ) :
    List (String × List Value) :=
  (call.program.exchanges around s).map Exchange.made

/-- The total that is read from the outcome of the first statement. -/
def totalOf (exchanges : List Exchange) : Option Int := do
  let first ← exchanges.head?
  let counted ← first.outcome
  (Builder.totalOf counted.rowList).toOption

/-- The total that the count of a page comes to. -/
def total (around : Surroundings σ) (call : TerminalCall) (s : Builder × Session σ) :
    Option Int :=
  match call with
  | .paginate _ _ _ _ => totalOf (call.program.exchanges around s)
  | _ => none

/-- The rows of a page as a statement. -/
def pageDemand (table : String) (columns : Columns) (p : Pagination) : Demand :=
  .compiled (Query.windowed p.perPage p.offset) fun q => q.compileSelect table columns

/-- The texts and parameters that clauses, a dialect and the total of a page make of a call. -/
def texts (q : Query) (dialect : Option Dialect) (total : Option Int) :
    TerminalCall → List (String × List Value)
  | .paginate table page perPage columns =>
    match page.toInteger, perPage.toInteger with
    | .ok page, .ok perPage =>
      let count : Demand := .compiled .ok fun q => q.compileCount table
      let rows : Option (String × List Value) := do
        let p ← (Pagination.of (← total) (max 1 page) (max 1 perPage)).toOption
        (pageDemand table columns p).made q dialect
      (count.made q dialect).toList ++ rows.toList
    | _, _ => []
  | call => (call.program.opening.bind fun demand => demand.made q dialect).toList

end TerminalCall

/-! ## The dialect through a call -/

/-- The connection of a name is open and speaks a dialect. -/
def Connections.Speaks (name : String) (dialect : Dialect) (c : Connections) : Prop :=
  ∃ opened, c.opened.lookup name = some opened ∧ opened.dialect = dialect

variable {name sql : String} {dialect : Dialect} {around : Surroundings σ}

theorem Connections.Speaks.setCache {c : Connections} (h : c.Speaks name dialect)
    (cache : StatementCache Prepared) : (c.setCache name cache).Speaks name dialect := by
  obtain ⟨opened, hopened, hdialect⟩ := h
  refine ⟨{ opened with cache := cache }, ?_, hdialect⟩
  rw [lookup_setCache, hopened, Option.map_some]

/-- A connection that is open is found, and nothing is done for that. -/
theorem Session.connection_of_speaks (around : Surroundings σ) {s : Session σ}
    (h : s.connections.Speaks name dialect) :
    ∃ opened, connection around name s = (.ok opened, s) ∧ opened.dialect = dialect := by
  obtain ⟨opened, hopened, hdialect⟩ := h
  exact ⟨opened, connection_of_lookup around hopened, hdialect⟩

/-- Running a statement changes no dialect. -/
theorem Session.runBound_speaks (around : Surroundings σ) (sql : String) (values : List BoundValue) :
    Act.Triple (fun s : Session σ => s.connections.Speaks name dialect)
      (runBound around name sql values) (fun _ s => s.connections.Speaks name dialect)
      fun s => s.connections.Speaks name dialect := by
  have hconnection : Act.Triple (fun s : Session σ => s.connections.Speaks name dialect)
      (connection around name) (fun _ s => s.connections.Speaks name dialect)
      fun s => s.connections.Speaks name dialect := by
    refine Act.Triple.of_reached fun s hs => ?_
    obtain ⟨opened, hopened, -⟩ := connection_of_speaks around hs
    rw [hopened]
    exact hs
  refine Act.Triple.bind (R := fun _ s => s.connections.Speaks name dialect) ?_ fun prepared => ?_
  · exact hconnection.bind fun opened => Act.Triple.of_reached fun s hs => hs.setCache _
  refine Act.Triple.bind (R := fun _ s => s.connections.Speaks name dialect) ?_ fun _ => ?_
  · exact Act.Triple.change fun s hs => hs.setCache _
  · exact Act.Triple.of_reached fun s hs => hs

/-- What a run of a statement keeps of the connections, a run of an executor keeps. -/
theorem Executor.run_keeps {P : Connections → Prop} (params : List Value)
    (hrun : ∀ values, Act.Triple (fun s : Session σ => P s.connections)
      (Session.runBound around name sql values) (fun _ s => P s.connections)
      fun s => P s.connections) (returnRows : Bool) {s : Executor × Session σ}
    (hname : s.1.connection = some name) (hs : P s.2.connections) :
    (run around sql params returnRows s).2.1.connection = some name ∧
      P (run around sql params returnRows s).2.2.connections := by
  have houtside : ∀ {β : Type} (act : Act σ β),
      Act.Sim (fun s t : Session σ => t = s ∧ P s.connections) (Session.onOutside act)
        (Session.onOutside act) :=
    fun act => Act.Triple.sim (Act.Triple.of_reached fun s hs => hs)
  have hsim : around.Sim name sql params (fun s t => t = s ∧ P s.connections) around :=
    { configured := (Act.Triple.of_state fun s => by rw [configuredName_some]).sim
      execute := fun values _ => (hrun values).sim
      has := rfl
      hook := fun call => houtside _
      sleep := fun time => houtside _ }
  have hended := (run_sim hsim returnRows s s ⟨rfl, hname, rfl, hs⟩).2
  exact ⟨hended.connection, hended.sessions.2⟩

namespace Builder

variable {params : List Value} {s t : Builder × Session σ}

/-- A builder that can have its connection knows the dialect of that. -/
theorem dialect_of_ok (hname : s.1.connection = some name) {opened : Opened} {after : Session σ}
    (hopened : Session.connection around name s.2 = (.ok opened, after)) :
    Builder.dialect around s = (.ok opened.dialect, s.1, after) := by
  rw [Builder.dialect, onConnection_apply hname, Session.dialect, Act.bind_of_ok hopened]
  rfl

/-- A builder on an open connection knows its dialect. -/
theorem dialect_of_speaks (hname : s.1.connection = some name)
    (h : s.2.connections.Speaks name dialect) : (Builder.dialect around s).1 = .ok dialect := by
  obtain ⟨opened, hopened, rfl⟩ := Session.connection_of_speaks around h
  rw [dialect_of_ok hname hopened]

/-- A builder that knows its dialect is on an open connection then. -/
theorem speaks_of_dialect (h : Builder.dialect around s = (.ok dialect, t)) :
    ∃ name, s.1.connection = some name ∧ t.2.connections.Speaks name dialect := by
  cases hname : s.1.connection with
  | none =>
    rw [Builder.dialect, onConnection, Act.bind_of_ok (Act.look_apply _ _), hname] at h
    cases h
  | some name =>
    rw [Builder.dialect, onConnection_apply hname, Session.dialect] at h
    obtain ⟨hresult, rfl⟩ := Prod.ext_iff.mp h
    have hfound := Session.connection_found around name s.2 trivial
    rw [Act.bind_apply] at hresult ⊢
    generalize Session.connection around name s.2 = ended at hresult hfound ⊢
    obtain ⟨result, session⟩ := ended
    cases result with
    | error e => cases hresult
    | ok opened =>
      refine ⟨name, rfl, opened, hfound, ?_⟩
      exact Except.ok.inj hresult

/-- A statement is compiled of the clauses, the dialect and nothing else. -/
theorem compile_eq (around : Surroundings σ) (compile : Query → Except Error Compiled)
    (s : Builder × Session σ) :
    Builder.compile around compile s =
      ((Builder.dialect around s).1.bind fun dialect =>
        (compile s.1.query).map fun c => (c.sql dialect, c.params),
        s.1, (Builder.dialect around s).2.2) := by
  have hsame : (Builder.dialect around s).2.1 = s.1 := rfl
  rw [Builder.compile, Act.bind_apply]
  generalize Builder.dialect around s = ended at hsame ⊢
  obtain ⟨result, b, session⟩ := ended
  obtain rfl : b = s.1 := hsame
  cases result with
  | error e => rfl
  | ok dialect =>
    dsimp only
    rw [Act.bind_of_ok (Act.look_apply _ _), Act.bind_apply, Act.ofExcept_apply]
    cases compile s.1.query with
    | error e => rfl
    | ok c => rfl

/-- What was compiled leaves the builder on an open connection whose dialect it knew. -/
theorem compile_keeps {compile : Query → Except Error Compiled}
    (h : Builder.compile around compile s = (.ok (sql, params), t)) :
    ∃ name dialect, (Builder.dialect around s).1 = .ok dialect ∧ t.1 = s.1 ∧
      s.1.connection = some name ∧ t.2.connections.Speaks name dialect := by
  rw [compile_eq] at h
  obtain ⟨hresult, rfl⟩ := Prod.ext_iff.mp h
  obtain ⟨dialect, hdialect, -⟩ := bind_eq_ok_iff.mp hresult
  have hknown : Builder.dialect around s = (.ok dialect, s.1, (Builder.dialect around s).2.2) :=
    Prod.ext hdialect rfl
  obtain ⟨name, hname, hspeaks⟩ := speaks_of_dialect hknown
  exact ⟨name, dialect, hdialect, rfl, hname, hspeaks⟩

/-- A run of a statement changes neither the clauses nor the dialect. -/
theorem execute_keeps {returnRows : Bool} {outcome : Outcome}
    (h : execute around sql params returnRows s = (.ok outcome, t))
    (hname : s.1.connection = some name) (hs : s.2.connections.Speaks name dialect) :
    t.1.query = s.1.query ∧ t.1.connection = some name ∧
      t.2.connections.Speaks name dialect := by
  have hended := Executor.run_keeps params (Session.runBound_speaks around sql) returnRows
    (s := (s.1.executor, s.2)) hname hs
  rw [execute, onExecutor, Act.within_apply] at h
  obtain ⟨-, rfl⟩ := Prod.ext_iff.mp h
  exact ⟨rfl, hended⟩

end Builder

namespace Demand

variable (around : Surroundings σ) (s : Builder × Session σ)

/-- A statement is made ready of the clauses as they are changed for it, and of the dialect. -/
theorem ready_compiled (change : Query → Except Error Query)
    (compile : Query → Except Error Compiled) :
    (compiled change compile).ready around s =
      match change s.1.query with
      | .error e => (.error e, s)
      | .ok changed =>
        ((Builder.dialect around s).1.bind fun dialect =>
          (compile changed).map fun c => (c.sql dialect, c.params),
          { s.1 with query := changed }, (Builder.dialect around s).2.2) := by
  rw [ready]
  cases hchange : change s.1.query with
  | error e =>
    have hrefused : Builder.changeQuery change s = (.error e, s) := by
      rw [Builder.changeQuery, Act.bind_of_ok (Act.look_apply _ _), hchange]
      rfl
    rw [Act.bind_of_error hrefused]
  | ok changed =>
    rw [Act.bind_of_ok (Builder.changeQuery_apply hchange), Builder.compile_eq]
    rfl

/-- What is made ready is what the clauses and the dialect make. -/
theorem ready_toOption (demand : Demand) :
    (demand.ready around s).1.toOption =
      demand.made s.1.query (Builder.dialect around s).1.toOption := by
  cases demand with
  | raw sql params => rfl
  | compiled change compile =>
    rw [ready_compiled, made]
    cases change s.1.query with
    | error e => rfl
    | ok changed =>
      dsimp only
      generalize (Builder.dialect around s).1 = known
      show _ = (compile changed).toOption.bind _
      cases compile changed with
      | error e => cases known <;> rfl
      | ok c => cases known <;> rfl

/-- A statement that is made of the clauses as they are is compiled. -/
theorem ready_unchanged (compile : Query → Except Error Compiled) :
    (compiled .ok compile).ready around s = Builder.compile around compile s := by
  rw [ready_compiled, Builder.compile_eq]

end Demand

namespace Program

variable {demand : Demand} {returnRows : Bool} {next : Outcome → Program}

/-- A program of one statement hands over what the clauses and the dialect make. -/
theorem exchanges_single (hnext : ∀ outcome u, (next outcome).exchanges around u = [])
    (s : Builder × Session σ) :
    ((statement demand returnRows next).exchanges around s).map Exchange.made =
      (demand.made s.1.query (Builder.dialect around s).1.toOption).toList := by
  rw [← Demand.ready_toOption]
  cases goes around demand returnRows s with
  | refused hready =>
    rw [exchanges_of_refused hready, hready]
    rfl
  | failed hready hexecute =>
    rw [exchanges_of_failed hready hexecute, hready]
    rfl
  | passed hready hexecute =>
    rw [exchanges_of_passed hready hexecute, hnext, hready]
    rfl

end Program

namespace TerminalCall

variable {s t u : Builder × Session σ} {table : String} {columns : Columns} {number size : Int}
  {counted : Outcome}

/-- Behind its count a page hands over what the total, the clauses and the dialect make. -/
theorem exchanges_pageOf (s : Builder × Session σ) :
    ((pageOf table columns number size counted).exchanges around s).map Exchange.made =
      ((do
        let total ← (Builder.totalOf counted.rowList).toOption
        let p ← (Pagination.of total (max 1 number) (max 1 size)).toOption
        (pageDemand table columns p).made s.1.query (Builder.dialect around s).1.toOption) :
          Option (String × List Value)).toList := by
  rw [pageOf]
  cases Builder.totalOf counted.rowList with
  | error e => rfl
  | ok total =>
    rw [Program.ofResult]
    cases hp : Pagination.of total (max 1 number) (max 1 size) with
    | error e =>
      show [] = (((Pagination.of total (max 1 number) (max 1 size)).toOption).bind _).toList
      rw [hp]
      rfl
    | ok p =>
      show _ = (((Pagination.of total (max 1 number) (max 1 size)).toOption).bind _).toList
      rw [hp]
      exact Program.exchanges_single (fun _ _ => rfl) s

/-- What a page makes ready is decided by the clauses, the dialect and the total. -/
theorem exchanges_counted (s : Builder × Session σ) :
    let count : Demand := .compiled .ok fun q => q.compileCount table
    let exchanges :=
      (Program.statement count true (pageOf table columns number size)).exchanges around s
    let dialect := (Builder.dialect around s).1.toOption
    exchanges.map Exchange.made =
      (count.made s.1.query dialect).toList ++
        ((do
          let total ← totalOf exchanges
          let p ← (Pagination.of total (max 1 number) (max 1 size)).toOption
          (pageDemand table columns p).made s.1.query dialect) :
            Option (String × List Value)).toList := by
  intro count exchanges dialect
  have hmade : (count.ready around s).1.toOption = count.made s.1.query dialect :=
    count.ready_toOption around s
  rw [← hmade]
  cases Program.goes around count true s with
  | refused hready =>
    have hexchanges : exchanges = [] := Program.exchanges_of_refused hready
    rw [hexchanges, hready]
    rfl
  | @failed sql params _ _ _ hready hexecute =>
    have hexchanges : exchanges = [⟨sql, params, none⟩] :=
      Program.exchanges_of_failed hready hexecute
    rw [hexchanges, hready]
    rfl
  | @passed sql params counted _ u hready hexecute =>
    have hexchanges : exchanges = ⟨sql, params, some counted⟩ ::
        (pageOf table columns number size counted).exchanges around u :=
      Program.exchanges_of_passed hready hexecute
    have hcompile := hready
    rw [Demand.ready_unchanged] at hcompile
    obtain ⟨name, spoken, hspoken, hsame, hname, hspeaks⟩ := Builder.compile_keeps hcompile
    obtain ⟨hquery, hchosen, hlasting⟩ := Builder.execute_keeps hexecute (hsame ▸ hname) hspeaks
    have hlater : (Builder.dialect around u).1.toOption = dialect := by
      rw [Builder.dialect_of_speaks hchosen hlasting, ← hspoken]
    rw [hexchanges, hready, List.map_cons, exchanges_pageOf, hlater, hquery, hsame]
    rfl

/-- What a call makes ready is decided by its arguments, the clauses, the dialect and the total of a
page. -/
theorem compiled_eq_texts (around : Surroundings σ) (call : TerminalCall)
    (s : Builder × Session σ) :
    call.compiled around s =
      call.texts s.1.query (Builder.dialect around s).1.toOption (call.total around s) := by
  cases call with
  | paginate table page perPage columns =>
    rw [compiled, total, texts, program]
    cases page.toInteger with
    | error e => rfl
    | ok number =>
      cases perPage.toInteger with
      | error e => rfl
      | ok size =>
        rw [Program.ofResult, Program.ofResult]
        exact exchanges_counted s
  | insert table data =>
    rw [compiled, program, Program.exchanges_single fun _ _ => rfl]
    rfl
  | _ =>
    rw [compiled, program, Program.exchanges_single fun _ _ => rfl]
    simp only [texts, program, Program.opening, Option.bind_some]

/-- However a builder has been used before, a call leaves it without clauses, and what the call makes
ready is decided by its own arguments, the clauses since the last call, the dialect of the
connection and the total of a page. -/
theorem compiled_since_call {around : Surroundings σ} {s : Builder × Session σ}
    (hs : s.1.query = Query.empty) (steps : List Step) (call : TerminalCall) :
    let t := Step.performAll around steps s
    (call.act around t).2.1.query.isEmpty = true ∧
      call.compiled around t =
        call.texts (Query.collect (Step.sinceCall steps)) (Builder.dialect around t).1.toOption
          (call.total around t) := by
  intro t
  have hquery : t.1.query = Query.collect (Step.sinceCall steps) :=
    Step.query_performAll around hs steps
  refine ⟨decide_eq_true (call.query_act around t), ?_⟩
  rw [← hquery]
  exact call.compiled_eq_texts around t

end TerminalCall

/-- A deletion that failed leaves nothing of its condition to the selection behind it. -/
theorem TerminalCall.compiled_since_call_get :
    let around := Surroundings.flaky .null
    let s : Builder × Session ℕ :=
      ({ executor := { connection := some "main" } }, (Builder.cautious 0).2)
    let steps : List Step :=
      [.adds (.filter "id" (.int 7) "="), .runs (.delete "users" .null), .adds (.limit (.int 5))]
    let call : TerminalCall := .get "users" .null Columns.all
    s.1.query = Query.empty ∧
      (Step.performAll around steps s).1.executor.lastError.isSome = true ∧
      (call.act around (Step.performAll around steps s)).2.1.query.isEmpty = true ∧
      call.compiled around (Step.performAll around steps s) =
        [("SELECT * FROM \"users\" LIMIT 5", [])] := by
  intro around s steps call
  have hempty : s.1.query = Query.empty := rfl
  have hfailed : (Step.performAll around steps s).1.executor.lastError.isSome = true := by
    decide +kernel
  obtain ⟨hcleared, hcompiled⟩ :=
    @TerminalCall.compiled_since_call _ around s hempty steps call
  have htexts : call.texts (Query.collect (Step.sinceCall steps))
      (Builder.dialect around (Step.performAll around steps s)).1.toOption
      (call.total around (Step.performAll around steps s)) =
        [("SELECT * FROM \"users\" LIMIT 5", [])] := by
    decide +kernel
  exact ⟨hempty, hfailed, hcleared, hcompiled.trans htexts⟩

/-- The same call with the same clauses makes another page ready when its count comes to another
total, and another text on a connection that speaks another dialect. -/
theorem TerminalCall.compiled_varies :
    let around := Surroundings.flaky .null
    let backticked : Surroundings ℕ :=
      { around with driver := { around.driver with dialectName := fun _ _ => "mysql" } }
    let s := Builder.cautious 0
    let steps : List Step := [.runs (.rawQuery "SELECT 1" [])]
    let page : TerminalCall := .paginate "users" (.int 5) (.int 3) Columns.all
    let call : TerminalCall := .get "users" .null Columns.all
    s.1.query = Query.empty ∧ Step.sinceCall steps = Step.sinceCall [] ∧
      page.compiled around (Step.performAll around steps s) ≠
        page.compiled around (Step.performAll around [] s) ∧
      call.compiled backticked s ≠ call.compiled around s := by
  intro around backticked s steps page call
  have hpage : page.compiled around (Step.performAll around steps s) ≠
      page.compiled around (Step.performAll around [] s) := by
    decide +kernel
  have hcall : call.compiled backticked s ≠ call.compiled around s := by decide +kernel
  exact ⟨rfl, rfl, hpage, hcall⟩

end BoundSql
