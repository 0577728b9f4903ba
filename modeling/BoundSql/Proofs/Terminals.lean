import BoundSql.Proofs.Attempts
import BoundSql.Session.Builder

/-!
# Calls that run statements

Eleven calls of a builder run statements. What each of them asks for is a program: statements one
after another, each made of the clauses or given by the caller, and a result at the end. What comes
next may depend on the outcome of a statement. Such a call carries its program out and then leaves
the builder without clauses. What the statements of a call were settled as is read off its program.
-/

namespace BoundSql

/-! ## Programs of statements -/

/-- A statement that is asked for. -/
inductive Demand where
  /-- A text of the caller's with its parameters. -/
  | raw (sql : String) (params : List Value)
  /-- A statement made of the clauses, which may be changed for it. -/
  | compiled (change : Query → Except Error Query) (compile : Query → Except Error Compiled)

/-- Statements that are run one after another, and what comes of their outcomes. -/
inductive Program where
  /-- A result that depends on how rows are handed out. -/
  | finish (result : FetchMode → JsonStyle → Except Error Value)
  /-- The key of the row that was added last, if adding it did not fail. -/
  | key
  /-- A statement with what follows its outcome. -/
  | statement (demand : Demand) (returnRows : Bool) (next : Outcome → Program)

variable {σ α β : Type}

/-- A result that depends on how rows are handed out. -/
def Builder.present (result : FetchMode → JsonStyle → Except Error α) :
    Act (Builder × Session σ) α := do
  let (mode, style) ← Act.look fun s => (s.1.mode, s.1.style)
  Act.ofExcept (result mode style)

namespace Demand

/-- Makes the statement ready to be run. -/
def ready (around : Surroundings σ) : Demand → Act (Builder × Session σ) (String × List Value)
  | .raw sql params => pure (sql, params)
  | .compiled change compile => do
    Builder.changeQuery change
    Builder.compile around compile

end Demand

namespace Program

/-- Goes on with a result if there is one. -/
def ofResult (result : Except Error α) (next : α → Program) : Program :=
  match result with
  | .ok a => next a
  | .error e => .finish fun _ _ => .error e

/-- Carries a program out. -/
def run (around : Surroundings σ) : Program → Act (Builder × Session σ) Value
  | .finish result => Builder.present result
  | .key => do
    let lastError ← Act.look fun s => s.1.executor.lastError
    if lastError.isSome then return .null
    else Builder.onConnection (Session.insertId around)
  | .statement demand returnRows next => do
    let (sql, params) ← demand.ready around
    let outcome ← Builder.execute around sql params returnRows
    (next outcome).run around

/-- What the statements of a program come to, in order. -/
def settled (around : Surroundings σ) : Program → Builder × Session σ → List Executor.Settled
  | .finish _, _ => []
  | .key, _ => []
  | .statement demand returnRows next, s =>
    match demand.ready around s with
    | (.error _, _) => []
    | (.ok (sql, params), s) =>
      match Builder.onExecutor (Executor.ending around sql params returnRows) s with
      | (.error _, _) => []
      | (.ok settled, s) =>
        settled :: match Executor.concluded s.1.executor.errorMode returnRows settled with
          | .ok outcome => (next outcome).settled around s
          | .error _ => []

end Program

/-! ## Calls and their programs -/

/-- A call that runs statements. -/
inductive TerminalCall where
  /-- Selects rows. -/
  | get (table : String) (limit : Value) (columns : Columns)
  /-- Selects the first row. -/
  | getOne (table : String) (columns : Columns)
  /-- Selects the value of a column in the first row. -/
  | getValue (table column : String)
  /-- Selects one page of rows. -/
  | paginate (table : String) (page perPage : Value) (columns : Columns)
  /-- Adds one row. -/
  | insert (table : String) (data : Fields)
  /-- Adds rows with the same keys. -/
  | insertRows (table : String) (rows : List Value)
  /-- Changes the rows that meet the conditions. -/
  | update (table : String) (data : Fields)
  /-- Removes the rows that meet the conditions. -/
  | delete (table : String) (limit : Value)
  /-- Runs a statement of the caller's. -/
  | rawQuery (sql : String) (params : List Value)
  /-- Runs a statement of the caller's for its first row. -/
  | rawQueryOne (sql : String) (params : List Value)
  /-- Runs a statement of the caller's for its first value. -/
  | rawQueryValue (sql : String) (params : List Value)

/-- A page with its rows as a value. -/
def Pagination.withData (p : Pagination) (data : Shaped) : Value :=
  .ofNamed [("data", data.value), ("pagination", p.value)]

/-- Sets a limit that may be given. -/
def Query.limitIfGiven : Value → Query → Except Error Query
  | .null, q => .ok q
  | count, q => q.limitTo count

/-- Sets the window of a page. -/
def Query.windowed (limit offset : Int) (q : Query) : Except Error Query :=
  .ok { q with limit := some (.int limit), offset := some (.int offset) }

/-- The first row of an outcome, as a record in object mode and else as a mapping. -/
def Outcome.first (outcome : Outcome) (mode : FetchMode) : Value :=
  match outcome.rowList with
  | [] => .null
  | row :: _ => if mode = .object then .record row else .mapping row

/-- The rows of an outcome in their shape. -/
def Outcome.shaped (outcome : Outcome) (mode : FetchMode) (style : JsonStyle) :
    Except Error Shaped :=
  shapeRows outcome.rowList mode style

namespace TerminalCall

/-- Carries a call out. -/
def act (around : Surroundings σ) : TerminalCall → Act (Builder × Session σ) Value
  | .get table limit columns => do return (← Builder.get around table limit columns).value
  | .getOne table columns => Builder.getOne around table columns
  | .getValue table column => Builder.getValue around table column
  | .paginate table page perPage columns => do
    let (data, pagination) ← Builder.paginate around table page perPage columns
    return pagination.withData data
  | .insert table data => Builder.insert around table data
  | .insertRows table rows => do return (← Builder.insertRows around table rows).value
  | .update table data => do return (← Builder.update around table data).value
  | .delete table limit => do return (← Builder.delete around table limit).value
  | .rawQuery sql params => do return (← Builder.rawQuery around sql params).value
  | .rawQueryOne sql params => Builder.rawQueryOne around sql params
  | .rawQueryValue sql params => Builder.rawQueryValue around sql params

/-- The rows of a page. -/
def pageRows (table : String) (columns : Columns) (pagination : Pagination) : Program :=
  .statement (.compiled (Query.windowed pagination.perPage pagination.offset) fun q =>
      q.compileSelect table columns) true
    fun outcome => .finish fun mode style => do
      return pagination.withData (← outcome.shaped mode style)

/-- The page that a count leads to. -/
def pageOf (table : String) (columns : Columns) (page perPage : Int) (counted : Outcome) :
    Program :=
  .ofResult (Builder.totalOf counted.rowList) fun total =>
    .ofResult (Pagination.of total (max 1 page) (max 1 perPage)) (pageRows table columns)

/-- What a call asks for. -/
def program : TerminalCall → Program
  | .get table limit columns =>
    .statement (.compiled (Query.limitIfGiven limit) fun q => q.compileSelect table columns) true
      fun outcome => .finish fun mode style => do return (← outcome.shaped mode style).value
  | .getOne table columns =>
    .statement (.compiled (Query.limitIfGiven (.int 1)) fun q => q.compileSelect table columns) true
      fun outcome => .finish fun mode style => outcome.shaped mode style >>= firstRow
  | .getValue table column =>
    .statement (.compiled (Query.limitIfGiven (.int 1)) fun q =>
        q.compileSelect table (.many [.text column])) true
      fun outcome => .finish fun mode style =>
        outcome.shaped mode style >>= fun shaped => firstRow shaped >>= firstValue
  | .paginate table page perPage columns =>
    .ofResult page.toInteger fun page =>
      .ofResult perPage.toInteger fun perPage =>
        .statement (.compiled .ok fun q => q.compileCount table) true
          (pageOf table columns page perPage)
  | .insert table data =>
    .statement (.compiled .ok fun _ => compileInsert table data) false fun _ => .key
  | .insertRows table rows =>
    .statement (.compiled .ok fun _ => compileInsertRows table rows) false
      fun outcome => .finish fun _ _ => .ok outcome.value
  | .update table data =>
    .statement (.compiled .ok fun q => q.compileUpdate table data) false
      fun outcome => .finish fun _ _ => .ok outcome.value
  | .delete table limit =>
    .statement (.compiled (Query.limitIfGiven limit) fun q => q.compileDelete table) false
      fun outcome => .finish fun _ _ => .ok outcome.value
  | .rawQuery sql params =>
    .statement (.raw sql params) true
      fun outcome => .finish fun mode style => do return (← outcome.shaped mode style).value
  | .rawQueryOne sql params =>
    .statement (.raw sql params) true
      fun outcome => .finish fun mode _ => .ok (outcome.first mode)
  | .rawQueryValue sql params =>
    .statement (.raw sql params) true
      fun outcome => .finish fun mode _ => firstValue (outcome.first mode)

/-- What the statements of a call come to, in order. -/
def settled (around : Surroundings σ) (call : TerminalCall) (s : Builder × Session σ) :
    List Executor.Settled :=
  call.program.settled around s

end TerminalCall

/-! ## Carrying calls out -/

/-- Results that follow each other are one result. -/
theorem Act.ofExcept_bind (result : Except Error α) (next : α → Except Error β) :
    (Act.ofExcept result >>= fun a => Act.ofExcept (next a) : Act σ β) =
      Act.ofExcept (result >>= next) := by
  cases result with
  | ok a => rfl
  | error e => rfl

namespace Builder

/-- The action does not look at the clauses and leaves them alone. -/
def IgnoresClauses (act : Act (Builder × Session σ) α) : Prop :=
  ∀ s, act (s.1.reset, s.2) = ((act s).1, (act s).2.1.reset, (act s).2.2)

/-- What ignores the clauses may as well be done before they are dropped. -/
theorem clearing_bind {act : Act (Builder × Session σ) α} {next : α → Act (Builder × Session σ) β}
    (h : ∀ a, IgnoresClauses (next a)) : (clearing act >>= next) = clearing (act >>= next) := by
  funext s
  rw [clearing, clearing, Act.always_apply, Act.bind_apply, Act.always_apply, Act.bind_apply]
  generalize act s = ended
  obtain ⟨result, t⟩ := ended
  cases result with
  | ok a => exact h a t
  | error e => rfl

theorem ignoresClauses_ofExcept (result : Except Error α) :
    IgnoresClauses (Act.ofExcept result : Act (Builder × Session σ) α) := fun _ => rfl

theorem present_apply (result : FetchMode → JsonStyle → Except Error α) (s : Builder × Session σ) :
    present result s = (result s.1.mode s.1.style, s) := rfl

theorem ignoresClauses_present (result : FetchMode → JsonStyle → Except Error α) :
    IgnoresClauses (present result : Act (Builder × Session σ) α) := fun _ => rfl

/-- What is made of a result depends on the same. -/
theorem present_bind (result : FetchMode → JsonStyle → Except Error α)
    (next : α → Except Error β) :
    (present result >>= fun a => Act.ofExcept (next a) : Act (Builder × Session σ) β) =
      present fun mode style => result mode style >>= next := by
  funext s
  rw [Act.bind_apply, present_apply, present_apply]
  cases result s.1.mode s.1.style with
  | ok a => rfl
  | error e => rfl

/-- Rows are presented in their shape. -/
theorem fetch_eq (around : Surroundings σ) (sql : String) (params : List Value) :
    fetch around sql params =
      (execute around sql params true >>= fun outcome => present outcome.shaped) := rfl

/-- The first row is presented as the mode says. -/
theorem rawQueryOne_eq (around : Surroundings σ) (sql : String) (params : List Value) :
    rawQueryOne around sql params =
      (clearing (execute around sql params true) >>= fun outcome =>
        present fun mode _ => .ok (outcome.first mode)) := by
  refine bind_congr fun outcome => ?_
  funext s
  rw [Act.bind_apply, Act.look_apply, present_apply, Outcome.first]
  cases outcome.rowList with
  | nil => rfl
  | cons row rest => rfl

/-- A limit that may be given changes the clauses. -/
theorem limitIfGiven_eq (limit : Value) :
    (limitIfGiven limit : Act (Builder × Session σ) Unit) =
      changeQuery (Query.limitIfGiven limit) := by
  cases limit <;> rfl

end Builder

namespace Program

variable (around : Surroundings σ)

/-- Going on with a result is a chain. -/
theorem run_ofResult (result : Except Error α) (next : α → Program) :
    (ofResult result next).run around = (Act.ofExcept result >>= fun a => (next a).run around) := by
  cases result with
  | ok a => rfl
  | error e => rfl

/-- There is no key after a failure. -/
theorem run_key_of_failure {s : Builder × Session σ} (h : s.1.executor.lastError.isSome = true) :
    key.run around s = (.ok .null, s) := by
  rw [run, Act.bind_of_ok (Act.look_apply _ _), if_pos h]
  rfl

/-- After a success the connection is asked for the key. -/
theorem run_key_of_success {s : Builder × Session σ} (h : s.1.executor.lastError.isSome = false) :
    key.run around s = Builder.onConnection (Session.insertId around) s := by
  rw [run, Act.bind_of_ok (Act.look_apply _ _), if_neg (Bool.eq_false_iff.mp h)]

theorem ignoresClauses_key : Builder.IgnoresClauses (key.run around) := by
  intro s
  cases h : s.1.executor.lastError.isSome with
  | true => rw [run_key_of_failure around h, run_key_of_failure around (s := (s.1.reset, s.2)) h]
  | false =>
    rw [run_key_of_success around h, run_key_of_success around (s := (s.1.reset, s.2)) h]
    rfl

/-- For a statement made of the clauses these are changed first. -/
theorem run_compiled (change : Query → Except Error Query) (compile : Query → Except Error Compiled)
    (returnRows : Bool) (next : Outcome → Program) :
    (statement (.compiled change compile) returnRows next).run around =
      (do
        Builder.changeQuery change
        let (sql, params) ← Builder.compile around compile
        let outcome ← Builder.execute around sql params returnRows
        (next outcome).run around) := by
  rw [run, Demand.ready, Act.bind_assoc]

end Program

/-! ## Statements of programs -/

namespace Builder

variable {around : Surroundings σ} {sql : String} {params : List Value} {returnRows : Bool}
  {s t : Builder × Session σ}

/-- A chain of the executor is a chain of the builder. -/
theorem onExecutor_bind (act : Act (Executor × Session σ) α)
    (next : α → Act (Executor × Session σ) β) :
    onExecutor (act >>= next) = (onExecutor act >>= fun a => onExecutor (next a)) := by
  unfold onExecutor
  refine Act.within_bind ?_ ?_ act next
  · exact fun _ _ => rfl
  · exact fun _ _ _ => rfl

/-- Once a statement is settled the error mode decides what the caller gets. -/
theorem execute_of_settled {x : Executor.Settled}
    (h : onExecutor (Executor.ending around sql params returnRows) s = (.ok x, t)) :
    execute around sql params returnRows s =
      (Executor.concluded t.1.executor.errorMode returnRows x, t) := by
  rw [execute, Executor.run_eq, onExecutor_bind, Act.bind_of_ok h, onExecutor, Act.within_apply,
    Executor.conclude_apply]

/-- A statement with an outcome was settled. -/
theorem exists_settled {outcome : Outcome}
    (h : execute around sql params returnRows s = (.ok outcome, t)) :
    ∃ x, onExecutor (Executor.ending around sql params returnRows) s = (.ok x, t) ∧
      Executor.concluded t.1.executor.errorMode returnRows x = .ok outcome := by
  rw [execute, Executor.run_eq, onExecutor_bind] at h
  obtain ⟨x, u, hended, h⟩ := Act.exists_of_bind_ok h
  rw [onExecutor, Act.within_apply, Executor.conclude_apply] at h
  obtain ⟨hconcluded, rfl⟩ := Prod.ext_iff.mp h
  exact ⟨x, hended, hconcluded⟩

end Builder

namespace Program

variable {around : Surroundings σ} {demand : Demand} {returnRows : Bool} {next : Outcome → Program}
  {sql : String} {params : List Value} {s t u : Builder × Session σ} {v : Value}

/-- A statement was made ready and settled in that way, and the caller goes on with an outcome. -/
structure Passes (around : Surroundings σ) (demand : Demand) (returnRows : Bool)
    (s : Builder × Session σ) (x : Executor.Settled) (outcome : Outcome)
    (u : Builder × Session σ) : Prop where
  /-- The statement was made ready and settled. -/
  settled : ∃ sql params t, demand.ready around s = (.ok (sql, params), t) ∧
    Builder.onExecutor (Executor.ending around sql params returnRows) t = (.ok x, u)
  /-- The outcome is what the error mode makes of it. -/
  concluded : Executor.concluded u.1.executor.errorMode returnRows x = .ok outcome

/-- A program goes on behind a statement with an outcome. -/
theorem Passes.run_eq {x : Executor.Settled} {outcome : Outcome}
    (h : Passes around demand returnRows s x outcome u) :
    (statement demand returnRows next).run around s = (next outcome).run around u := by
  obtain ⟨sql, params, t, hready, hended⟩ := h.settled
  have hexecute := Builder.execute_of_settled hended
  rw [h.concluded] at hexecute
  rw [run, Act.bind_of_ok hready]
  exact Act.bind_of_ok hexecute

/-- So does what its statements come to. -/
theorem Passes.settled_eq {x : Executor.Settled} {outcome : Outcome}
    (h : Passes around demand returnRows s x outcome u) :
    (statement demand returnRows next).settled around s =
      x :: (next outcome).settled around u := by
  obtain ⟨sql, params, t, hready, hended⟩ := h.settled
  rw [Program.settled, hready]
  dsimp only
  rw [hended]
  dsimp only
  rw [h.concluded]

/-- A program that ends well has an outcome of its first statement to go on with. -/
theorem exists_passes (h : (statement demand returnRows next).run around s = (.ok v, t)) :
    ∃ x outcome u, Passes around demand returnRows s x outcome u := by
  rw [run] at h
  obtain ⟨⟨sql, params⟩, s₁, hready, h⟩ := Act.exists_of_bind_ok h
  obtain ⟨outcome, u, hexecute, h⟩ := Act.exists_of_bind_ok h
  obtain ⟨x, hended, hconcluded⟩ := Builder.exists_settled hexecute
  exact ⟨x, outcome, u, ⟨sql, params, s₁, hready, hended⟩, hconcluded⟩

end Program

namespace TerminalCall

variable (around : Surroundings σ)

/-- Selecting rows carries a program out, whatever becomes of the rows. -/
theorem get_bind (next : Shaped → Except Error Value) (table : String) (limit : Value)
    (columns : Columns) :
    (Builder.get around table limit columns >>= fun shaped => Act.ofExcept (next shaped)) =
      Builder.clearing ((Program.statement
        (.compiled (Query.limitIfGiven limit) fun q => q.compileSelect table columns) true
          fun outcome => .finish fun mode style => outcome.shaped mode style >>= next).run
            around) := by
  unfold Builder.get
  rw [Builder.clearing_bind fun shaped => Builder.ignoresClauses_ofExcept _,
    Builder.limitIfGiven_eq, Program.run_compiled]
  simp only [Builder.fetch_eq, Act.bind_assoc]
  refine congrArg Builder.clearing (bind_congr fun _ => bind_congr fun ready => ?_)
  refine bind_congr fun outcome => ?_
  exact Builder.present_bind outcome.shaped next

/-- A call carries its program out and leaves the builder without clauses. -/
theorem act_eq (call : TerminalCall) :
    call.act around = Builder.clearing (call.program.run around) := by
  cases call with
  | get table limit columns => exact get_bind around (fun shaped => .ok shaped.value) _ _ _
  | getOne table columns => exact get_bind around firstRow _ _ _
  | getValue table column =>
    refine Eq.trans ?_ (get_bind around (fun shaped => firstRow shaped >>= firstValue) _ _ _)
    rw [act, Builder.getValue, Builder.getOne, Act.bind_assoc]
    exact bind_congr fun shaped => Act.ofExcept_bind (firstRow shaped) firstValue
  | paginate table page perPage columns =>
    refine (Builder.clearing_bind fun _ => Builder.ignoresClauses_ofExcept _).trans ?_
    simp only [program, pageOf, pageRows, Program.run_ofResult, Program.run_compiled,
      Act.bind_assoc, Builder.fetch_eq]
    refine congrArg Builder.clearing (bind_congr fun page => bind_congr fun perPage => ?_)
    refine bind_congr fun ready => bind_congr fun counted => bind_congr fun total => ?_
    refine bind_congr fun pagination => bind_congr fun _ => bind_congr fun ready => ?_
    refine bind_congr fun outcome => ?_
    exact Builder.present_bind outcome.shaped fun data => .ok (pagination.withData data)
  | insert table data =>
    refine (Builder.clearing_bind fun _ => Program.ignoresClauses_key around).trans ?_
    simp only [Act.bind_assoc]
    rfl
  | insertRows table rows =>
    refine (Builder.clearing_bind fun _ => Builder.ignoresClauses_ofExcept _).trans ?_
    unfold Builder.change
    simp only [Act.bind_assoc]
    rfl
  | update table data =>
    refine (Builder.clearing_bind fun _ => Builder.ignoresClauses_ofExcept _).trans ?_
    unfold Builder.change
    simp only [Act.bind_assoc]
    rfl
  | delete table limit =>
    refine (Builder.clearing_bind fun _ => Builder.ignoresClauses_ofExcept _).trans ?_
    unfold Builder.change
    rw [Builder.limitIfGiven_eq, program, Program.run_compiled]
    simp only [Act.bind_assoc]
    rfl
  | rawQuery sql params =>
    refine (Builder.clearing_bind fun _ => Builder.ignoresClauses_ofExcept _).trans ?_
    rw [Builder.fetch_eq, Act.bind_assoc]
    refine congrArg Builder.clearing (bind_congr fun outcome => ?_)
    exact Builder.present_bind outcome.shaped fun shaped => .ok shaped.value
  | rawQueryOne sql params =>
    refine (Builder.rawQueryOne_eq around sql params).trans ?_
    exact Builder.clearing_bind fun _ => Builder.ignoresClauses_present _
  | rawQueryValue sql params =>
    rw [act, Builder.rawQueryValue, Builder.rawQueryOne_eq, Act.bind_assoc]
    simp only [Builder.present_bind]
    exact Builder.clearing_bind fun _ => Builder.ignoresClauses_present _

end TerminalCall

end BoundSql
