import BoundSql.Proofs.Executions
import BoundSql.Proofs.Tokens

/-!
# Pages end to end

A page takes two statements: the rows are counted, and then those of the page are read. Both are
made of the same clauses, which are changed in between: the window of the page takes the place of
whatever limit and offset there were. When both statements succeed at once, exactly these two are
executed, and everything that is reported about the page follows from the answer to the first one.
-/

namespace BoundSql

variable {σ τ : Type}

variable {name : String} {R : Session σ → Session τ → Prop} {around : Surroundings σ}
  {other : Surroundings τ} {s : Builder × Session σ} {t : Builder × Session τ}

/-- A page is selected alike. -/
theorem Builder.paginate_sim (h : around.Hosts name R other) (table : String)
    (page perPage : Value) (columns : Columns) :
    Act.Sim (Builder.Alike name R) (Builder.paginate around table page perPage columns)
      (Builder.paginate other table page perPage columns) := by
  refine Act.Sim.always ?_ fun s t hst =>
    ⟨congrArg Builder.reset hst.same, hst.connection, hst.sessions⟩
  refine (Act.Sim.ofExcept _).bind fun number => (Act.Sim.ofExcept _).bind fun size => ?_
  refine (Builder.compile_sim h _).bind fun (countSql, countParams) => ?_
  refine (Builder.execute_sim h countSql countParams true).bind fun counted => ?_
  refine (Act.Sim.ofExcept _).bind fun total => (Act.Sim.ofExcept _).bind fun p => ?_
  refine (Builder.changeQuery_sim _).bind fun _ => ?_
  refine (Builder.compile_sim h _).bind fun (sql, params) => ?_
  refine Act.Sim.bind ?_ fun shaped => Act.Sim.pure (shaped, p)
  rw [Builder.fetch_eq, Builder.fetch_eq]
  exact (Builder.execute_sim h sql params true).bind fun answered => Builder.present_sim _

/-! ## How a page comes about -/

/-- What is worked out and run for a page: the request is read, the rows are counted, the page is
chosen and its rows are read. -/
structure Builder.PageCourse (around : Surroundings σ) (table : String) (page perPage : Value)
    (columns : Columns) (s : Builder × Session σ) (shaped : Shaped) (p : Pagination)
    (t : Builder × Session σ) where
  /-- The number that was asked for. -/
  number : ℤ
  /-- The size that was asked for. -/
  size : ℤ
  /-- What the count came to. -/
  first : Executor.Settled
  /-- What the select came to. -/
  second : Executor.Settled
  /-- The outcome of the count. -/
  counted : Outcome
  /-- The outcome of the select. -/
  answered : Outcome
  /-- The state behind the count. -/
  between : Builder × Session σ
  /-- The state behind the select. -/
  after : Builder × Session σ
  /-- The number is read from the request. -/
  number_eq : page.toInteger = .ok number
  /-- So is the size. -/
  size_eq : perPage.toInteger = .ok size
  /-- The rows are counted. -/
  counts : Program.Passes around (.compiled .ok fun q => q.compileCount table) true s first counted
    between
  /-- The total is read from the answer. -/
  total_eq : Builder.totalOf counted.rowList = .ok p.total
  /-- The page is chosen. -/
  page_eq : Pagination.of p.total (max 1 number) (max 1 size) = .ok p
  /-- The rows of the page are read. -/
  reads : Program.Passes around (TerminalCall.pageDemand table columns p) true between second
    answered after
  /-- They get their shape. -/
  shaped_eq : answered.shaped after.1.mode after.1.style = .ok shaped
  /-- The builder is left without clauses. -/
  end_eq : t = (after.1.reset, after.2)

/-- A page that was chosen is worked out from a quotient that can be rounded up. -/
theorem Pagination.exists_quotient {total page perPage : ℤ} {p : Pagination}
    (h : Pagination.of total page perPage = .ok p) :
    ∃ quotient, (Double.ofQuotient total perPage).ceiling? = some quotient ∧
      p = ⟨total, min page (max 1 quotient), perPage, max 1 quotient⟩ := by
  unfold Pagination.of at h
  split at h
  next quotient hquotient => exact ⟨quotient, hquotient, (Except.ok.inj h).symm⟩
  next => cases h

theorem Pagination.total_of_ok {total page perPage : ℤ} {p : Pagination}
    (h : Pagination.of total page perPage = .ok p) : p.total = total := by
  obtain ⟨quotient, -, rfl⟩ := exists_quotient h
  rfl

namespace Builder

variable {table : String} {page perPage : Value} {columns : Columns} {shaped : Shaped}
  {p : Pagination} {t : Builder × Session σ}

/-- What ends well with the clauses dropped has ended well before they were. -/
theorem exists_of_clearing_ok {α : Type} {act : Act (Builder × Session σ) α} {a : α}
    (h : clearing act s = (.ok a, t)) : ∃ u, act s = (.ok a, u) ∧ t = (u.1.reset, u.2) := by
  rw [clearing, Act.always_apply] at h
  obtain ⟨hresult, hend⟩ := Prod.ext_iff.mp h
  exact ⟨(act s).2, Prod.ext hresult rfl, hend.symm⟩

/-- A result that does not depend on the state is there if the chain behind it ends well. -/
theorem exists_of_ofExcept_ok {α β : Type} {result : Except Error α}
    {next : α → Act (Builder × Session σ) β} {b : β}
    (h : (Act.ofExcept result >>= next) s = (.ok b, t)) :
    ∃ a, result = .ok a ∧ next a s = (.ok b, t) := by
  cases result with
  | ok a => exact ⟨a, rfl, h⟩
  | error e => cases h

/-- A page that was selected came about in this way. -/
theorem exists_course (h : paginate around table page perPage columns s = (.ok (shaped, p), t)) :
    Nonempty (PageCourse around table page perPage columns s shaped p t) := by
  obtain ⟨after, h, hend⟩ := exists_of_clearing_ok h
  obtain ⟨number, hnumber, h⟩ := exists_of_ofExcept_ok h
  obtain ⟨size, hsize, h⟩ := exists_of_ofExcept_ok h
  obtain ⟨⟨countSql, countParams⟩, counting, hcount, h⟩ := Act.exists_of_bind_ok h
  obtain ⟨counted, between, hcounted, h⟩ := Act.exists_of_bind_ok h
  obtain ⟨total, htotal, h⟩ := exists_of_ofExcept_ok h
  obtain ⟨chosen, hchosen, h⟩ := exists_of_ofExcept_ok h
  obtain ⟨⟨⟩, windowed, hwindow, h⟩ := Act.exists_of_bind_ok h
  obtain ⟨⟨sql, params⟩, reading, hread, h⟩ := Act.exists_of_bind_ok h
  obtain ⟨data, presented, hfetch, h⟩ := Act.exists_of_bind_ok h
  cases h
  rw [fetch_eq] at hfetch
  obtain ⟨answered, answering, hanswered, hpresented⟩ := Act.exists_of_bind_ok hfetch
  rw [present_apply] at hpresented
  obtain ⟨hshaped, rfl⟩ := Prod.ext_iff.mp hpresented
  obtain ⟨first, hfirst, hfirstConcluded⟩ := exists_settled hcounted
  obtain ⟨second, hsecond, hsecondConcluded⟩ := exists_settled hanswered
  have hcountReady : (Demand.compiled .ok fun q => q.compileCount table).ready around s =
      (.ok (countSql, countParams), counting) := by
    rw [Demand.ready_unchanged]
    exact hcount
  have hreadReady : (TerminalCall.pageDemand table columns p).ready around between =
      (.ok (sql, params), reading) := (Act.bind_of_ok hwindow).trans hread
  have hp := Pagination.total_of_ok hchosen
  exact ⟨{
    number := number, size := size, first := first, second := second, counted := counted
    answered := answered, between := between, after := answering
    number_eq := hnumber
    size_eq := hsize
    counts := ⟨⟨countSql, countParams, counting, hcountReady, hfirst⟩, hfirstConcluded⟩
    total_eq := hp ▸ htotal
    page_eq := hp ▸ hchosen
    reads := ⟨⟨sql, params, reading, hreadReady, hsecond⟩, hsecondConcluded⟩
    shaped_eq := hshaped
    end_eq := hend }⟩

end Builder

/-! ## The two statements of a page -/

theorem Token.sql_append (dialect : Dialect) (first second : List Token) :
    Token.sql dialect (first ++ second) = Token.sql dialect first ++ Token.sql dialect second := by
  simp [Token.sql, String.ofList_append]

theorem Token.sql_cons_word (dialect : Dialect) (text : String) (tokens : List Token) :
    Token.sql dialect (.word text :: tokens) = text ++ Token.sql dialect tokens := by
  simp [Token.sql, Token.chars, String.ofList_append]

/-- The numeral of an integer. -/
def numeralText (n : ℤ) : String := String.ofList (integerText n)

theorem Token.sql_integer (dialect : Dialect) (n : ℤ) :
    Token.sql dialect [.integer n] = numeralText n := by
  simp [Token.sql, numeralText]

/-- The statements of a page: a count of the rows of the clauses, and a select of the same rows with
the window of the page, whatever window the clauses had. -/
structure Query.PageStatements (q : Query) (table : String) (columns : Columns) (p : Pagination)
    (count rows : Compiled) : Prop where
  /-- The count is compiled of the clauses. -/
  count_eq : q.compileCount table = .ok count
  /-- The select is compiled of the same clauses with the window of the page. -/
  rows_eq : Query.compileSelect
    { q with
      limit := some (.int p.perPage)
      offset := some (.int ((p.page - 1) * p.perPage)) } table columns = .ok rows
  /-- Both have the same parameters. -/
  params_eq : rows.params = count.params
  /-- Both read the same rows: from the table up to the conditions on groups they are written alike.
  Only the select has an ordering and a window. -/
  alike : ∃ source refs ordering,
    count.statement = .select .count source [] none none ∧
    rows.statement = .select (.columns refs) source ordering (some p.perPage)
      (some ((p.page - 1) * p.perPage)) ∧
    ∀ dialect,
      count.sql dialect = "SELECT " ++ Token.sql dialect Selection.count.tokens ++
        (" FROM " ++ Token.sql dialect source.tokens) ∧
      rows.sql dialect = "SELECT " ++ Token.sql dialect (Selection.columns refs).tokens ++
        (" FROM " ++ Token.sql dialect source.tokens) ++
        Token.sql dialect (columnClause " ORDER BY " (ordering.map orderTokens)) ++
        (" LIMIT " ++ numeralText p.perPage) ++
        (" OFFSET " ++ numeralText ((p.page - 1) * p.perPage))

theorem compileBound_int_eq_ok {n : ℤ} {bound : Option ℤ}
    (h : compileBound (some (.int n)) = .ok bound) : bound = some n := by
  rcases compileBound_eq_ok h with ⟨hnone, -⟩ | ⟨v, i, hv, hi, rfl⟩
  · cases hnone
  · cases hv
    cases hi
    rfl

/-- What is compiled for a page are such statements. -/
theorem Query.pageStatements {q : Query} {table : String} {columns : Columns} {p : Pagination}
    {count rows : Compiled} (hcount : q.compileCount table = .ok count)
    (hrows : Query.compileSelect
      { q with limit := some (.int p.perPage), offset := some (.int p.offset) } table columns =
        .ok rows) : q.PageStatements table columns p count rows := by
  obtain ⟨source, params, hsource, rfl⟩ := Query.compileCount_eq_ok hcount
  obtain ⟨refs, same, sameParams, ordering, limit, offset, -, hsame, -, hlimit, hoffset, rfl⟩ :=
    Query.compileSelect_eq_ok hrows
  have hsource' : q.compileSource table = .ok (same, sameParams) := hsame
  rw [hsource] at hsource'
  obtain ⟨rfl, rfl⟩ := Prod.ext_iff.mp (Except.ok.inj hsource')
  rw [compileBound_int_eq_ok hlimit, compileBound_int_eq_ok hoffset] at hrows ⊢
  refine ⟨hcount, hrows, rfl, source, refs, ordering, rfl, rfl, fun dialect => ⟨?_, ?_⟩⟩
  · change Token.sql dialect (Statement.select .count source [] none none).tokens = _
    simp only [Statement.tokens, boundClause, columnClause, List.map_nil, List.isEmpty_nil,
      if_true, List.append_nil, List.cons_append, Token.sql_cons_word, Token.sql_append,
      String.append_assoc]
  · change Token.sql dialect (Statement.select (.columns refs) source ordering (some p.perPage)
      (some p.offset)).tokens = _
    simp only [Statement.tokens, boundClause, List.cons_append, Token.sql_cons_word,
      Token.sql_append, Token.sql_integer, Pagination.offset, String.append_assoc]

/-! ## What is reported about a page -/

/-- The first field of the first row, if it is an integer; nothing counts as zero. -/
def firstCount : List Row → Option ℤ
  | [] => some 0
  | row :: _ =>
    match row.values with
    | [] | .null :: _ => some 0
    | .int n :: _ => some n
    | _ => none

/-- Such a count is the total. -/
theorem totalOf_of_firstCount {rows : List Row} {n : ℤ} (h : firstCount rows = some n) :
    Builder.totalOf rows = .ok n := by
  cases rows with
  | nil =>
    cases h
    rfl
  | cons row rest =>
    cases row with
    | nil =>
      cases h
      rfl
    | cons field fields =>
      obtain ⟨key, v⟩ := field
      have hfirst : firstValue (.mapping ((key, v) :: fields)) = .ok v := rfl
      rw [Builder.totalOf, hfirst, ok_bind]
      cases v with
      | null =>
        cases h
        rfl
      | int i =>
        cases h
        by_cases hzero : n = 0
        · rw [hzero]
          rfl
        · have htruthy : (Value.int n).truthy = true := decide_eq_true hzero
          rw [if_pos htruthy]
          rfl
      | _ => cases h

/-- What is reported about a page agrees with the request and with the answer to the count. -/
structure Pagination.Reports (p : Pagination) (number size : ℤ) (counted : List Row) : Prop where
  /-- A page holds one row at least. -/
  perPage_eq : p.perPage = max 1 size
  /-- The number is the one that was asked for, or the nearest one that there is. -/
  page_eq : p.page = min (max 1 number) p.pages
  /-- Pages are counted from one on. -/
  page_pos : 1 ≤ p.page
  /-- There is such a page. -/
  page_le : p.page ≤ p.pages
  /-- There is a page before every one but the first. -/
  hasPrevious_iff : p.hasPrevious = true ↔ 1 < p.page
  /-- There is a page after every one but the last. -/
  hasNext_iff : p.hasNext = true ↔ p.page < p.pages
  /-- The total is the first field of the first row. -/
  total_eq : ∀ n, firstCount counted = some n → p.total = n

/-- A page that was chosen is reported like that. -/
theorem Pagination.reports {p : Pagination} {number size : ℤ} {counted : List Row}
    (htotal : Builder.totalOf counted = .ok p.total)
    (hp : Pagination.of p.total (max 1 number) (max 1 size) = .ok p) :
    p.Reports number size counted := by
  obtain ⟨quotient, -, hchosen⟩ := Pagination.exists_quotient hp
  have hpages : 1 ≤ max 1 quotient := le_max_left _ _
  rw [hchosen]
  refine ⟨rfl, rfl, ?_, ?_, ?_, ?_, fun n hn => ?_⟩
  · dsimp only
    omega
  · dsimp only
    omega
  · exact decide_eq_true_iff
  · exact decide_eq_true_iff
  · rw [totalOf_of_firstCount hn] at htotal
    exact (Except.ok.inj htotal).symm

namespace Builder

variable {table : String} {page perPage : Value} {columns : Columns} {shaped : Shaped}
  {p : Pagination} {t : Builder × Session σ}

/-- The statements of a page are the two of its course. -/
theorem PageCourse.settled_eq
    (c : PageCourse around table page perPage columns s shaped p t) :
    (TerminalCall.paginate table page perPage columns).settled around s = [c.first, c.second] := by
  rw [TerminalCall.settled, TerminalCall.program, c.number_eq, c.size_eq]
  refine c.counts.settled_eq.trans ?_
  rw [TerminalCall.pageOf, c.total_eq, Program.ofResult, c.page_eq, Program.ofResult]
  exact congrArg (List.cons c.first) c.reads.settled_eq

/-- A builder that has selected a page was on a connection. -/
theorem PageCourse.exists_name
    (c : PageCourse around table page perPage columns s shaped p t) :
    ∃ name, s.1.connection = some name := by
  obtain ⟨sql, params, u, hready, -⟩ := c.counts.settled
  rw [Demand.ready_unchanged] at hready
  obtain ⟨name, -, -, -, hname, -⟩ := compile_keeps hready
  exact ⟨name, hname⟩

/-- Both statements are made of the clauses that the builder had, in one dialect. -/
theorem PageCourse.exists_statements
    (c : PageCourse around table page perPage columns s shaped p t) :
    ∃ count rows dialect u v, s.1.query.PageStatements table columns p count rows ∧
      (Builder.dialect around s).1 = .ok dialect ∧
      (Demand.compiled .ok fun q => q.compileCount table).ready around s =
        (.ok (count.sql dialect, count.params), u) ∧
      (TerminalCall.pageDemand table columns p).ready around c.between =
        (.ok (rows.sql dialect, rows.params), v) := by
  obtain ⟨countSql, countParams, u, hcount, hcounted⟩ := c.counts.settled
  obtain ⟨sql, params, v, hread, -⟩ := c.reads.settled
  have hexecute := execute_of_settled hcounted
  rw [c.counts.concluded] at hexecute
  -- The count leaves the clauses and the dialect as they are.
  have hcompile := hcount
  rw [Demand.ready_unchanged] at hcompile
  obtain ⟨chosen, dialect, hknown, hkept, hchosen, hspeaks⟩ := compile_keeps hcompile
  obtain ⟨hquery, hlasting, hstill⟩ := execute_keeps hexecute (hkept ▸ hchosen) hspeaks
  have hlater : (Builder.dialect around c.between).1 = .ok dialect :=
    dialect_of_speaks hlasting hstill
  obtain ⟨unchanged, count, spoken, hunchanged, hcompiled, hspoken, rfl, rfl, -⟩ :=
    Demand.exists_of_ready_ok hcount
  obtain ⟨windowed, rows, other, hwindowed, hselected, hother, rfl, rfl, -⟩ :=
    Demand.exists_of_ready_ok hread
  cases hunchanged
  cases hwindowed
  obtain rfl : dialect = spoken := Except.ok.inj (hknown.symm.trans hspoken)
  obtain rfl : dialect = other := Except.ok.inj (hlater.symm.trans hother)
  rw [hquery, hkept] at hselected
  have hstatements := Query.pageStatements hcompiled hselected
  exact ⟨count, rows, dialect, u, v, hstatements, hknown, hcount, hread⟩

/-- A page that is returned, both of whose statements succeeded at once, took exactly these two: the
count and then the select, each executed once with the same parameters. What is reported follows
from the request and from the answer to the count. -/
theorem paginate_executes_two {s : Builder × Session σ} (hsound : s.2.connections.Sound)
    (hreturned : paginate around table page perPage columns s = (.ok (shaped, p), t))
    (honce : ∀ x ∈ (TerminalCall.paginate table page perPage columns).settled around s,
      x.AtOnce) :
    ∃ number size count rows dialect bound counted answered u,
      page.toInteger = .ok number ∧ perPage.toInteger = .ok size ∧
      s.1.query.PageStatements table columns p count rows ∧
      (Builder.dialect around s).1 = .ok dialect ∧ BoundValue.ofValues count.params = .ok bound ∧
      paginate around.noting table page perPage columns (s.1, s.2.unnoted) =
        (.ok (shaped, p), u) ∧ u.1 = t.1 ∧ u.2.plain = t.2 ∧
      executions u.2.notes = [⟨count.sql dialect, positioned 1 bound, .ok counted⟩,
        ⟨rows.sql dialect, positioned 1 bound, .ok answered⟩] ∧
      p.Reports number size (counted.rows.getD []) := by
  obtain ⟨plain⟩ := exists_course hreturned
  obtain ⟨name, hname⟩ := plain.exists_name
  have hosts := around.noting_hosts name
  have halike : Alike name Session.Noted (s.1, s.2.unnoted) s := ⟨rfl, hname, rfl⟩
  obtain ⟨hresult, hend⟩ := paginate_sim hosts table page perPage columns _ _ halike
  have hsettled := Program.settled_sim hosts
    (TerminalCall.paginate table page perPage columns).program halike
  have hdialect := (dialect_sim hosts _ _ halike).1
  rw [hreturned] at hresult hend
  rcases hnoted : paginate around.noting table page perPage columns (s.1, s.2.unnoted)
    with ⟨result, u⟩
  rw [hnoted] at hresult hend
  dsimp only at hresult hend
  subst hresult
  obtain ⟨c⟩ := exists_course hnoted
  have hboth : ∀ x ∈ [c.first, c.second], x.AtOnce := by
    intro x hx
    rw [← c.settled_eq, TerminalCall.settled, ← hsettled] at hx
    exact honce x hx
  have hstart : Session.Executed [] s.2.unnoted := ⟨hsound, rfl⟩
  obtain ⟨count, rows, dialect, u₁, u₂, hstatements, hknown, hcount, hread⟩ := c.exists_statements
  obtain ⟨countSql, countParams, v, bound, counted, hready, hbound, hcounted, hexecuted⟩ :=
    c.counts.executed (hboth _ (by simp)) hstart
  obtain ⟨sql, params, w, sameBound, answered, hagain, hsame, -, hall⟩ :=
    c.reads.executed (hboth _ (by simp)) hexecuted
  cases hcount.symm.trans hready
  cases hread.symm.trans hagain
  rw [hstatements.params_eq, hbound] at hsame
  cases hsame
  have hreports : p.Reports c.number c.size (counted.rows.getD []) := by
    have hrows : c.counted.rowList = counted.rows.getD [] := by
      rw [hcounted]
      rfl
    exact Pagination.reports (hrows ▸ c.total_eq) c.page_eq
  refine ⟨c.number, c.size, count, rows, dialect, bound, counted, answered, u, c.number_eq,
    c.size_eq, hstatements, hdialect.trans hknown, hbound, rfl, ?_, ?_, ?_, hreports⟩
  · exact hend.same.symm
  · exact hend.sessions.symm
  · rw [c.end_eq]
    exact hall.2

/-- The page that a selection came to was returned with some rows. -/
theorem exists_returned
    (h : (paginate around table page perPage columns s).1.toOption.map Prod.snd = some p) :
    ∃ shaped t, paginate around table page perPage columns s = (.ok (shaped, p), t) := by
  rcases hended : paginate around table page perPage columns s with ⟨ended, t⟩
  rw [hended] at h
  cases ended with
  | error e => cases h
  | ok made =>
    obtain ⟨shaped, chosen⟩ := made
    obtain rfl : chosen = p := Option.some.inj h
    exact ⟨shaped, t, rfl⟩

end Builder

/-- A database that answers one statement after another with given rows. -/
def Surroundings.answering : Surroundings (List (List Row)) where
  driver :=
    { connect := fun _ _ => pure 0
      dialectName := fun _ _ => "sqlite"
      prepare := fun _ _ => pure ()
      execute := fun _ => do
        let answers ← Act.look fun answers => answers
        Act.change fun answers => answers.drop 1
        return ⟨some (answers.headD []), 0, .null⟩
      start := fun _ => pure ()
      commit := fun _ => pure ()
      rollback := fun _ => pure ()
      command := fun _ _ => pure ()
      insertId := fun _ _ => .null
      close := fun _ => pure () }
  hooks := ⟨fun _ => false, fun _ => pure .null⟩
  sleep _ := pure ()
  adapters := .standard

/-- The second page of seven rows, which has three of them. -/
theorem Builder.paginate_executes_two_seven :
    let rows : List Row := [[(.text "id", .int 4)], [(.text "id", .int 5)], [(.text "id", .int 6)]]
    let start := Builder.cautious [[[(.text "cnt", .int 7)]], rows]
    let q := Query.collect [.filter "age" (.int 18) ">", .limit (.int 5)]
    let s := ({ start.1 with query := q }, start.2)
    let call : TerminalCall := .paginate "users" (.int 2) (.int 3) Columns.all
    ∃ shaped t, Builder.paginate Surroundings.answering "users" (.int 2) (.int 3) Columns.all s =
        (.ok (shaped, ⟨7, 2, 3, 3⟩), t) ∧
      s.2.connections.Sound ∧ (∀ x ∈ call.settled Surroundings.answering s, x.AtOnce) ∧
      ∃ count rows dialect, q.PageStatements "users" Columns.all ⟨7, 2, 3, 3⟩ count rows ∧
        count.sql dialect = "SELECT COUNT(*) AS \"cnt\" FROM \"users\" WHERE \"age\" > ?" ∧
        rows.sql dialect = "SELECT * FROM \"users\" WHERE \"age\" > ? LIMIT 3 OFFSET 3" := by
  intro rows start q s call
  have hpage : (Builder.paginate Surroundings.answering "users" (.int 2) (.int 3) Columns.all
      s).1.toOption.map Prod.snd = some ⟨7, 2, 3, 3⟩ := by decide +kernel
  obtain ⟨shaped, t, hreturned⟩ := Builder.exists_returned hpage
  have hsound : s.2.connections.Sound := by
    intro name opened hopened
    cases hopened
  have honce : ∀ x ∈ call.settled Surroundings.answering s, x.AtOnce := by decide +kernel
  obtain ⟨number, size, count, rows, dialect, bound, counted, answered, u, -, -, hstatements, -, -,
    hnoted, -, -, hexecuted, -⟩ := Builder.paginate_executes_two hsound hreturned honce
  have htexts : (executions u.2.notes).map Execution.sql =
      ["SELECT COUNT(*) AS \"cnt\" FROM \"users\" WHERE \"age\" > ?",
        "SELECT * FROM \"users\" WHERE \"age\" > ? LIMIT 3 OFFSET 3"] := by
    obtain ⟨-, rfl⟩ := Prod.ext_iff.mp hnoted
    decide +kernel
  rw [hexecuted] at htexts
  obtain ⟨hcount, hrest⟩ := List.cons.inj htexts
  exact ⟨shaped, t, hreturned, hsound, honce, count, rows, dialect, hstatements, hcount,
    (List.cons.inj hrest).1⟩

end BoundSql
