import BoundSql.Proofs.Calls

/-!
# Refused statements

A statement is refused when it cannot be made of the clauses, or when a parameter of it cannot be
bound. Its error ends the call before anything is sent: nothing is prepared or executed, no hook
about statements is called, and log and caches stay. At most the connection is opened, because the
dialect is asked for. But a page has two statements, and its rows are refused only when its count
has been run.
-/

namespace BoundSql

variable {σ τ α : Type}

/-! ## Refusals -/

/-- The clauses that are left when a statement is accepted: it can be made, and its parameters can
be bound. -/
def Demand.accept (demand : Demand) (q : Query) : Except Error Query := do
  let d ← demand.draft q
  let _ ← BoundValue.ofValues d.params
  return d.query

/-- The error with which a program is refused that hears of some outcomes on its way. -/
def Program.refusal : Program → Query → List Outcome → Option Error
  | .finish _, _, _ => none
  | .key, _, _ => none
  | .statement demand _ next, q, heard =>
    match demand.accept q with
    | .error e => some e
    | .ok left => heard.head?.bind fun outcome => (next outcome).refusal left heard.tail

/-- The outcomes that a program hears of, in order. -/
def Program.heard (around : Surroundings σ) (p : Program) (s : Builder × Session σ) :
    List Outcome :=
  (p.exchanges around s).filterMap Exchange.outcome

namespace TerminalCall

/-- The outcomes that a call hears of, in order. -/
def heard (around : Surroundings σ) (call : TerminalCall) (s : Builder × Session σ) :
    List Outcome :=
  call.program.heard around s

/-- The error with which a statement of a call is refused, if one is. -/
def refusal (around : Surroundings σ) (call : TerminalCall) (s : Builder × Session σ) :
    Option Error :=
  call.program.refusal s.1.query (call.heard around s)

end TerminalCall

/-! ## What a refused statement does -/

/-- The connection was asked for at most, and the log is the same. -/
structure Builder.Unmoved (around : Surroundings σ) (name : String)
    (s t : Builder × Session σ) : Prop where
  /-- The log is the same. -/
  log : t.1.executor.log = s.1.executor.log
  /-- The connection was asked for at most. -/
  session : t.2 = s.2 ∨ t.2 = (Session.connection around name s.2).2

variable {around : Surroundings σ} {name : String} {s t u : Builder × Session σ} {demand : Demand}
  {returnRows : Bool} {next : Outcome → Program} {e : Error}

/-- On a connection that can be opened a statement is made ready as far as the clauses make it, and
nothing else is done. -/
theorem Demand.ready_of_openable {opened : Opened} (hname : s.1.connection = some name)
    {after : Session σ} (hopened : Session.connection around name s.2 = (.ok opened, after))
    (demand : Demand) :
    (demand.ready around s).1 =
        (demand.draft s.1.query).map (fun d => (d.sql opened.dialect, d.params)) ∧
      Builder.Unmoved around name s (demand.ready around s).2 := by
  cases demand with
  | raw sql params => exact ⟨rfl, rfl, .inl rfl⟩
  | compiled change compile =>
    rw [ready_compiled, draft, Builder.dialect_of_ok hname hopened]
    cases change s.1.query with
    | error e => exact ⟨rfl, rfl, .inl rfl⟩
    | ok changed =>
      have hafter : after = (Session.connection around name s.2).2 := by rw [hopened]
      refine ⟨?_, rfl, .inr hafter⟩
      show (compile changed).map _ = ((compile changed).bind _).map _
      cases compile changed with
      | error e => rfl
      | ok c => rfl

/-- A statement with a parameter that cannot be bound is not run. -/
theorem Builder.execute_of_unbound {params : List Value} (h : BoundValue.ofValues params = .error e)
    (around : Surroundings σ) (sql : String) (returnRows : Bool) (s : Builder × Session σ) :
    execute around sql params returnRows s =
      (.error e, { s.1 with executor := s.1.executor.clearLast }, s.2) := by
  have hrun : Executor.run around sql params returnRows (s.1.executor, s.2) =
      (.error e, s.1.executor.clearLast, s.2) := by
    unfold Executor.run Executor.note
    rw [Act.bind_of_ok (Act.change_apply _ _), h, Act.bind_of_error (Act.ofExcept_apply _ _)]
  rw [execute, onExecutor, Act.within_apply, hrun]

/-- A statement that is not accepted ends its program with the error of that. Nothing is run, and no
outcome is heard of. -/
theorem Program.run_of_refused (hname : s.1.connection = some name)
    (hopenable : (Session.connection around name s.2).1.isOk = true)
    (h : demand.accept s.1.query = .error e) :
    ∃ t, (statement demand returnRows next).run around s = (.error e, t) ∧
      Builder.Unmoved around name s t ∧ (statement demand returnRows next).heard around s = [] := by
  obtain ⟨opened, hopened⟩ := Act.exists_of_isOk hopenable
  obtain ⟨hmade, hunmoved⟩ := Demand.ready_of_openable hname hopened demand
  generalize hready : demand.ready around s = ready at hmade hunmoved
  obtain ⟨made, t⟩ := ready
  rw [Demand.accept] at h
  cases hdraft : demand.draft s.1.query with
  | error refused =>
    rw [hdraft] at h hmade
    cases h
    obtain rfl : made = .error e := hmade
    refine ⟨t, ?_, hunmoved, ?_⟩
    · rw [run, Act.bind_of_error hready]
    · rw [heard, exchanges_of_refused hready]
      rfl
  | ok d =>
    rw [hdraft] at h hmade
    obtain rfl : made = .ok (d.sql opened.dialect, d.params) := hmade
    have hunbound : BoundValue.ofValues d.params = .error e := by
      rw [ok_bind] at h
      cases hbound : BoundValue.ofValues d.params with
      | error refused =>
        rw [hbound] at h
        cases h
        rfl
      | ok bound =>
        rw [hbound] at h
        cases h
    have hexecute := Builder.execute_of_unbound hunbound around (d.sql opened.dialect) returnRows t
    refine ⟨({ t.1 with executor := t.1.executor.clearLast }, t.2), ?_,
      ⟨hunmoved.log, hunmoved.session⟩, ?_⟩
    · rw [run, Act.bind_of_ok hready]
      exact Act.bind_of_error hexecute
    · rw [heard, exchanges_of_failed hready hexecute]
      rfl

/-- A program that hears of an outcome has run its first statement. -/
theorem Program.exists_of_heard_cons {outcome : Outcome} {rest : List Outcome}
    (h : (statement demand returnRows next).heard around s = outcome :: rest) :
    ∃ sql params t u, demand.ready around s = (.ok (sql, params), t) ∧
      Builder.execute around sql params returnRows t = (.ok outcome, u) := by
  rw [heard] at h
  cases goes around demand returnRows s with
  | refused hready =>
    rw [exchanges_of_refused hready] at h
    cases h
  | failed hready hexecute =>
    rw [exchanges_of_failed hready hexecute] at h
    cases h
  | @passed sql params first t u hready hexecute =>
    rw [exchanges_of_passed hready hexecute] at h
    obtain ⟨rfl, -⟩ := List.cons.inj h
    exact ⟨sql, params, t, u, hready, hexecute⟩

/-- A program is refused at its first statement, or behind it. -/
theorem Program.refusal_statement {q : Query} {heard : List Outcome}
    (h : (statement demand returnRows next).refusal q heard = some e) :
    demand.accept q = .error e ∨ ∃ left outcome rest, demand.accept q = .ok left ∧
      heard = outcome :: rest ∧ (next outcome).refusal left rest = some e := by
  rw [refusal] at h
  cases haccept : demand.accept q with
  | error refused =>
    rw [haccept] at h
    exact .inl (congrArg Except.error (Option.some.inj h))
  | ok left =>
    rw [haccept] at h
    cases heard with
    | nil => cases h
    | cons outcome rest => exact .inr ⟨left, outcome, rest, rfl, rfl, h⟩

/-- A statement that leaves the clauses alone leaves them as they are. -/
theorem Demand.accept_unchanged {compile : Query → Except Error Compiled} {q left : Query}
    (h : (compiled .ok compile).accept q = .ok left) : left = q := by
  obtain ⟨d, hdraft, h⟩ := bind_eq_ok_iff.mp h
  obtain ⟨bound, -, h⟩ := bind_eq_ok_iff.mp h
  cases h
  obtain ⟨changed, c, hchange, -, rfl⟩ := draft_eq_ok hdraft
  cases hchange
  rfl

namespace TerminalCall

variable {call : TerminalCall} {table : String} {columns : Columns} {number size : Int}
  {counted : Outcome} {q : Query} {rest : List Outcome}

/-- What is refused behind a count are the rows of the page. -/
theorem pageOf_refusal
    (h : (pageOf table columns number size counted).refusal q rest = some e) :
    ∃ p, pageOf table columns number size counted = pageRows table columns p ∧
      (pageDemand table columns p).accept q = .error e := by
  rw [pageOf] at h ⊢
  cases htotal : Builder.totalOf counted.rowList with
  | error failed =>
    rw [htotal] at h
    cases h
  | ok total =>
    rw [htotal] at h
    dsimp only [Program.ofResult] at h ⊢
    cases hp : Pagination.of total (max 1 number) (max 1 size) with
    | error failed =>
      rw [hp] at h
      cases h
    | ok p =>
      rw [hp] at h
      refine ⟨p, rfl, ?_⟩
      rcases Program.refusal_statement h with haccept | ⟨left, outcome, rest, -, -, hlater⟩
      · exact haccept
      · cases hlater

/-- A page whose count has an outcome ends with the error of its rows. The count has been run on the
open connection, and nothing is done outside behind it. -/
theorem paginate_of_refusal (hname : s.1.connection = some name)
    {count : Query → Except Error Compiled}
    (hheard : (Program.statement (.compiled .ok count) true
      (pageOf table columns number size)).heard around s = counted :: rest)
    (h : (pageOf table columns number size counted).refusal s.1.query rest = some e) :
    ∃ sql params t u v, t.1.connection = some name ∧ t.2.connections.isOpen name = true ∧
      Builder.execute around sql params true t = (.ok counted, u) ∧
      (Program.statement (.compiled .ok count) true (pageOf table columns number size)).run around s
        = (.error e, v) ∧ v.2 = u.2 := by
  obtain ⟨sql, params, t, u, hready, hexecute⟩ := Program.exists_of_heard_cons hheard
  obtain ⟨p, hpage, haccept⟩ := pageOf_refusal h
  have hcompile := hready
  rw [Demand.ready_unchanged] at hcompile
  obtain ⟨chosen, dialect, -, hsame, hchosen, hspeaks⟩ := Builder.compile_keeps hcompile
  obtain rfl : chosen = name := Option.some.inj (hchosen.symm.trans hname)
  have hconnection : t.1.connection = some chosen := hsame ▸ hchosen
  obtain ⟨hquery, hlater, hlasting⟩ := Builder.execute_keeps hexecute hconnection hspeaks
  obtain ⟨opened, hopened, -⟩ := Session.connection_of_speaks around hlasting
  have hopenable : (Session.connection around chosen u.2).1.isOk = true := by
    rw [hopened]
    rfl
  rw [← hsame, ← hquery] at haccept
  obtain ⟨v, hrun, hunmoved, -⟩ := @Program.run_of_refused _ _ _ _ _ true
    (fun outcome => .finish fun mode style => do
      return p.withData (← outcome.shaped mode style)) _ hlater hopenable haccept
  refine ⟨sql, params, t, u, v, hconnection, ?_, hexecute, ?_, ?_⟩
  · obtain ⟨found, hfound, -⟩ := hspeaks
    exact (Connections.isOpen_iff _ _).mpr ⟨found, hfound⟩
  · rw [Program.run, Act.bind_of_ok hready]
    refine (Act.bind_of_ok hexecute).trans ?_
    rw [hpage]
    exact hrun
  · rcases hunmoved.session with hsession | hsession
    · exact hsession
    · rw [hsession, hopened]

/-- A call is refused at its first statement, or it is a page that is refused behind its count. -/
theorem refused_or_counted (h : call.refusal around s = some e) :
    (∃ demand returnRows next, call.program = .statement demand returnRows next ∧
      demand.accept s.1.query = .error e) ∨
    ∃ table page perPage columns number size count counted rest,
      call = .paginate table page perPage columns ∧
        call.program = .statement (.compiled .ok count) true (pageOf table columns number size) ∧
        call.heard around s = counted :: rest ∧
        (pageOf table columns number size counted).refusal s.1.query rest = some e := by
  rw [refusal] at h
  cases call with
  | paginate table page perPage columns =>
    generalize heard around (.paginate table page perPage columns) s = outcomes at h ⊢
    rw [program] at h ⊢
    cases hpage : page.toInteger with
    | error failed =>
      rw [hpage] at h
      cases h
    | ok number =>
      cases hsize : perPage.toInteger with
      | error failed =>
        rw [hpage, hsize] at h
        cases h
      | ok size =>
        rw [hpage, hsize] at h
        dsimp only [Program.ofResult] at h ⊢
        rcases Program.refusal_statement h with haccept | ⟨left, counted, rest, haccept, hsome, h⟩
        · exact .inl ⟨_, _, _, rfl, haccept⟩
        · obtain rfl := Demand.accept_unchanged haccept
          exact .inr ⟨table, page, perPage, columns, number, size, _, counted, rest, rfl, rfl,
            hsome, h⟩
  | insert table data =>
    rw [program] at h ⊢
    rcases Program.refusal_statement h with haccept | ⟨left, outcome, rest, -, -, hlater⟩
    · exact .inl ⟨_, _, _, rfl, haccept⟩
    · cases hlater
  | _ =>
    rw [program] at h ⊢
    rcases Program.refusal_statement h with haccept | ⟨left, outcome, rest, -, -, hlater⟩
    · exact .inl ⟨_, _, _, rfl, haccept⟩
    · cases hlater

/-- A refused call ends with the error of that. It has asked for the connection at most, or it is a
page whose count has been run. -/
theorem act_of_refusal (hname : s.1.connection = some name)
    (hopenable : (Session.connection around name s.2).1.isOk = true)
    (h : call.refusal around s = some e) :
    ∃ t, call.act around s = (.error e, t) ∧
      (call.heard around s = [] ∧ Builder.Unmoved around name s t ∨
        (∃ table page perPage columns, call = .paginate table page perPage columns) ∧
          call.heard around s ≠ [] ∧
          ∃ sql params u v counted, u.1.connection = some name ∧
            u.2.connections.isOpen name = true ∧
            Builder.execute around sql params true u = (.ok counted, v) ∧ t.2 = v.2) := by
  rcases refused_or_counted h with ⟨demand, returnRows, next, hprogram, haccept⟩ |
    ⟨table, page, perPage, columns, number, size, count, counted, rest, hcall, hprogram, hheard, h⟩
  · obtain ⟨t, hrun, hunmoved, hnothing⟩ :=
      @Program.run_of_refused _ _ _ _ _ returnRows next _ hname hopenable haccept
    refine ⟨(t.1.reset, t.2), ?_, .inl ⟨?_, hunmoved.log, hunmoved.session⟩⟩
    · rw [act_eq, hprogram, Builder.clearing, Act.always_apply, hrun]
    · rw [heard, hprogram]
      exact hnothing
  · have hcounted := hheard
    rw [heard, hprogram] at hcounted
    obtain ⟨sql, params, t, u, v, hchosen, hopen, hexecute, hrun, hsession⟩ :=
      paginate_of_refusal hname hcounted h
    refine ⟨(v.1.reset, v.2), ?_, .inr ⟨⟨table, page, perPage, columns, hcall⟩, ?_, sql, params, t,
      u, counted, hchosen, hopen, hexecute, hsession⟩⟩
    · rw [act_eq, hprogram, Builder.clearing, Act.always_apply, hrun]
    · rw [hheard]
      exact List.cons_ne_nil counted rest

end TerminalCall

/-! ## What the notes say -/

/-- The note is about the hook behind the opening of a connection. -/
def Note.IsOpening : Note → Prop
  | .called (.onConnect _ _ _) _ => True
  | _ => False

/-- A connection is as it was, or it was opened and nothing has been prepared on it. -/
def Connections.OpenedAtMost (before after : Connections) : Prop :=
  ∀ name, after.opened.lookup name = before.opened.lookup name ∨
    before.opened.lookup name = none ∧ ∃ opened size,
      after.opened.lookup name = some opened ∧ opened.cache = StatementCache.ofSize size

/-- Of a call nothing is noted but the hook behind the opening of a connection: no statement was
prepared or executed, and no other hook was called. The log is as it was, and so are the caches. -/
structure Builder.Untouched (s : Builder × Session σ)
    (t : Builder × Session (σ × List Note)) : Prop where
  /-- Nothing is noted but the opening of a connection. -/
  notes : ∀ note ∈ t.2.notes, note.IsOpening
  /-- The log is as it was. -/
  log : t.1.executor.log = s.1.executor.log
  /-- The caches are as they were. -/
  caches : s.2.connections.OpenedAtMost t.2.connections

/-- What is known of all notes is known further on if it is known of one more. -/
theorem Note.forall_mem_append {P : Note → Prop} {notes : List Note} {note : Note}
    (hnotes : ∀ n ∈ notes, P n) (hnote : P note) : ∀ n ∈ notes ++ [note], P n := by
  intro n hn
  rcases List.mem_append.mp hn with hn | hn
  · exact hnotes n hn
  · exact List.mem_singleton.mp hn ▸ hnote

/-- Asking for a connection opens it at most. -/
theorem Session.connection_opens (around : Surroundings σ) (name : String) (s : Session σ) :
    let t := (connection around.noting name s.unnoted).2
    (∀ note ∈ t.notes, note.IsOpening) ∧ s.connections.OpenedAtMost t.connections := by
  intro t
  cases hfound : s.connections.opened.lookup name with
  | some opened =>
    have hsame : t = s.unnoted :=
      congrArg Prod.snd (connection_of_lookup around.noting (s := s.unnoted) hfound)
    rw [hsame]
    exact ⟨nofun, fun other => .inl rfl⟩
  | none =>
    have hopens : around.noting.OpensKeeping name fun s => ∀ note ∈ s.2, note.IsOpening :=
      around.noting_opensKeeping name (K := fun notes => ∀ note ∈ notes, note.IsOpening)
        fun notes shown driver ended hnotes => Note.forall_mem_append hnotes trivial
    have hkept := (connection_keeps (P := s.connections.OpenedAtMost) hopens
      fun c handle dialect size hc other => ?_).always_ends s.unnoted
        ⟨fun other => .inl rfl, nofun⟩
    · exact ⟨hkept.2, hkept.1⟩
    · rw [Connections.keep, lookup_putNamed]
      split
      next h =>
        subst h
        exact .inr ⟨hfound, _, size, rfl, rfl⟩
      next h => exact hc other

/-- A builder that was not moved is untouched. -/
theorem Builder.Unmoved.untouched {s : Builder × Session σ}
    {t : Builder × Session (σ × List Note)}
    (h : Unmoved around.noting name (s.1, s.2.unnoted) t) : Untouched s t := by
  obtain ⟨hnotes, hcaches⟩ := Session.connection_opens around name s.2
  rcases h.session with hsession | hsession
  · refine ⟨?_, h.log, ?_⟩
    · rw [hsession]
      exact nofun
    · rw [hsession]
      exact fun other => .inl rfl
  · refine ⟨?_, h.log, ?_⟩
    · rw [hsession]
      exact hnotes
    · rw [hsession]
      exact hcaches

/-! ## What a statement that runs leaves behind -/

/-- Something is noted besides the opening of a connection. -/
def Note.Telling (notes : List Note) : Prop := ∃ note ∈ notes, ¬ note.IsOpening

theorem Note.Telling.append {notes : List Note} (h : Telling notes) (more : List Note) :
    Telling (notes ++ more) := by
  obtain ⟨note, hmem, hnote⟩ := h
  exact ⟨note, List.mem_append_left more hmem, hnote⟩

/-- A statement on an open connection is noted, whether it can be prepared or not. -/
theorem Session.runBound_telling (around : Surroundings σ) (name sql : String)
    (values : List BoundValue) :
    Act.Ends (OpenWith name fun _ => True) (runBound around.noting name sql values)
      fun _ => OpenWith name fun s : σ × List Note => Note.Telling s.2 := by
  refine runBound_openWith (Q := fun _ (s : σ × List Note) => Note.Telling s.2)
    (fun handle s _ => ?_) (fun p s _ => ?_) values
  · have hnotes : (around.noting.driver.prepare handle sql s).2.2 =
        s.2 ++ [.prepared handle sql (around.driver.prepare handle sql s.1).1] := rfl
    show Act.Split _ _ (around.driver.prepare handle sql s.1).1 _
    cases (around.driver.prepare handle sql s.1).1 with
    | ok _ => trivial
    | error e =>
      show Note.Telling (around.noting.driver.prepare handle sql s).2.2
      rw [hnotes]
      exact ⟨_, List.mem_append_right _ List.mem_cons_self, id⟩
  · have hnotes : (around.noting.driver.execute p s).2.2 =
        s.2 ++ [.executed p.sql p.boundValues (around.driver.execute p s.1).1] := rfl
    show Note.Telling (around.noting.driver.execute p s).2.2
    rw [hnotes]
    exact ⟨_, List.mem_append_right _ List.mem_cons_self, id⟩

/-- What is noted stays noted, whatever a statement does. -/
theorem Surroundings.noting_telling (around : Surroundings σ) (name sql : String)
    (params : List Value) :
    let P (s : Session (σ × List Note)) : Prop :=
      Session.OpenWith name (fun s => Note.Telling s.2) s
    around.noting.Sim name sql params (fun s t => t = s ∧ P s) around.noting := by
  intro P
  have hnoted : ∀ {β : Type} (note : Except Error β → Note) (act : Act σ β),
      Act.Triple P (Session.onOutside (act.noted note)) (fun _ => P) P :=
    fun note act => Act.Triple.of_reached fun s hs => ⟨hs.1, hs.2.append _⟩
  exact
    { configured := (Act.Triple.of_state fun s => by rw [Executor.configuredName_some]).sim
      execute := fun values _ => by
        refine Act.Triple.sim (Act.Triple.of_reached fun s hs => ?_)
        exact Session.runBound_telling around name sql values s ⟨hs.1, trivial⟩
      has := rfl
      hook := fun call => (hnoted (.called call) _).sim
      sleep := fun time => (hnoted (fun _ => .slept time) _).sim }

namespace Executor

variable {sql : String} {params : List Value} {bound : List BoundValue} {notes : List ParamNote}

/-- An executor on an open connection, and something that holds of the notes. -/
def OnOpen (name : String) (K : List Note → Prop) (s : Executor × Session (σ × List Note)) :
    Prop :=
  s.1.connection = some name ∧ Session.OpenWith name (fun s => K s.2) s.2

/-- What goes alike as long as something is noted keeps it noted. -/
theorem telling_of_sim {act : Act (Executor × Session (σ × List Note)) α}
    (h : Act.Sim (Alike name fun s t =>
      t = s ∧ Session.OpenWith name (fun s => Note.Telling s.2) s) act act) :
    Act.Triple (OnOpen name Note.Telling) act (fun _ => OnOpen name Note.Telling)
      (OnOpen name Note.Telling) :=
  Act.Triple.of_sim h (fun _ hs => ⟨rfl, hs.1, rfl, hs.2⟩)
    fun _ _ hst => ⟨hst.connection, hst.sessions.2⟩

/-- The guarded part of an attempt on an open connection is noted. -/
theorem execute_telling (around : Surroundings σ) (name : String) (fetchRows : Bool) :
    Act.Ends (OnOpen name fun _ => True)
      (execute around.noting ⟨name, sql, notes⟩ bound fetchRows)
      fun _ => OnOpen name Note.Telling := by
  rw [execute_eq]
  have hsim := around.noting_telling name sql []
  have hrun : Act.Ends (OnOpen name fun _ => True)
      (onSession (Session.runBound around.noting name sql bound) :
        Act (Executor × Session (σ × List Note)) _) fun _ => OnOpen name Note.Telling :=
    (Session.runBound_telling around name sql bound).within (fun s hs => hs.2)
      fun r s t hs ht => ⟨hs.1, ht⟩
  refine hrun.bind (fun result => ?_) fun e s hs => hs
  refine (telling_of_sim ?_).always_ends
  refine (note_sim (noteSuccess_connection _)).bind fun _ => ?_
  exact (notify_sim hsim _).bind fun _ => Act.Sim.pure _

/-- An attempt on an open connection is noted. -/
theorem attempt_telling (around : Surroundings σ) (name : String) (fetchRows returnRows : Bool) :
    Act.Triple (OnOpen name fun _ => True)
      (attempt around.noting ⟨name, sql, notes⟩ bound fetchRows returnRows)
      (fun _ => OnOpen name Note.Telling) fun _ => True := by
  have hsim := around.noting_telling name sql []
  refine Act.Triple.bind (R := fun _ => OnOpen name fun _ => True) ?_ fun _ => ?_
  · have hkept : Act.Triple (OnOpen name fun _ => True)
        (onOutside (around.noting.hooks.notify (.beforeQuery ⟨name, sql, notes⟩)))
        (fun _ => OnOpen name fun _ => True) (OnOpen name fun _ => True) :=
      Act.Triple.of_reached fun s hs => ⟨hs.1, hs.2.1, trivial⟩
    exact hkept.failing fun _ _ => trivial
  refine (execute_telling around name fetchRows).attempt.failing (fun _ h => h.elim) |>.bind
    fun ended => ?_
  cases ended with
  | ok answer => exact Act.Triple.pure fun _ hs => hs
  | error e =>
    refine (telling_of_sim ?_).failing fun _ _ => trivial
    refine (note_sim (noteFailure_connection _)).bind fun _ => ?_
    exact (notify_sim hsim _).bind fun _ => Act.Sim.pure _

/-- A run on an open connection is noted if it has an outcome. -/
theorem run_telling (around : Surroundings σ) (name sql : String) (params : List Value)
    (returnRows : Bool) :
    Act.Triple (OnOpen name fun _ => True) (run around.noting sql params returnRows)
      (fun _ => OnOpen name Note.Telling) fun _ => True := by
  have hsim := around.noting_telling name sql params
  refine Act.Triple.bind (R := fun _ => OnOpen name fun _ => True) ?_ fun _ => ?_
  · exact Act.Triple.change fun s hs => hs
  refine Act.Triple.bind (R := fun bound s => BoundValue.ofValues params = .ok bound ∧
    OnOpen name (fun _ => True) s) ?_ fun bound => Act.Triple.given fun hbound => ?_
  · intro s hs
    rw [Act.ofExcept_apply]
    cases BoundValue.ofValues params with
    | ok bound => exact ⟨rfl, hs⟩
    | error e => trivial
  refine Act.Triple.bind (R := fun chosen s => chosen = some name ∧ OnOpen name (fun _ => True) s)
    ?_ fun chosen => Act.Triple.given fun hchosen => ?_
  · exact Act.Triple.look fun s hs => ⟨hs.1, hs⟩
  rw [hchosen]
  refine Act.Triple.bind (R := fun chosen s => chosen = name ∧ OnOpen name (fun _ => True) s)
    ?_ fun chosen => Act.Triple.given fun hchosen => ?_
  · intro s hs
    rw [onSession, Act.within_apply, configuredName_some]
    cases s.2.connections.getSettings name with
    | ok settings => exact ⟨rfl, hs⟩
    | error e => trivial
  rw [hchosen]
  refine (Act.Triple.ofExcept.failing fun _ _ => trivial).bind fun _ => ?_
  refine (attempt_telling around name returnRows returnRows).bind fun ended => ?_
  cases ended with
  | ok outcome => exact Act.Triple.pure fun _ hs => hs
  | error failed =>
    refine (telling_of_sim ?_).failing fun _ _ => trivial
    refine (askRetry_sim hsim _ failed).bind fun decision => ?_
    cases decision with
    | none => exact giveUp_sim returnRows false failed
    | some decision => exact retry_sim hsim hbound _ returnRows _ _ failed

end Executor

/-- A statement that has an outcome on an open connection is noted. -/
theorem Builder.execute_noted {t u : Builder × Session (σ × List Note)} {sql : String}
    {params : List Value} {outcome : Outcome} (hname : t.1.connection = some name)
    (hopen : t.2.connections.isOpen name = true)
    (h : execute around.noting sql params returnRows t = (.ok outcome, u)) :
    Note.Telling u.2.notes := by
  have htelling := Executor.run_telling around name sql params returnRows (t.1.executor, t.2)
    ⟨hname, hopen, trivial⟩
  rw [execute, onExecutor, Act.within_apply] at h
  obtain ⟨hresult, rfl⟩ := Prod.ext_iff.mp h
  dsimp only at hresult
  rw [hresult] at htelling
  exact htelling.2.2

namespace TerminalCall

variable {call : TerminalCall}

/-- A call that is refused because a statement cannot be made of its arguments and the clauses, or
because a parameter cannot be bound, ends with the error of that. Notes have no part in it, and they
say that it is left untouched what the call works with, unless it is a page whose count has been
run: then it is not. -/
theorem refused_untouched_iff (hname : s.1.connection = some name)
    (hopenable : (Session.connection around name s.2).1.isOk = true)
    (hrefused : call.refusal around s = some e) :
    let ended := call.act around.noting (s.1, s.2.unnoted)
    call.act around s = (.error e, ended.2.1, ended.2.2.plain) ∧
      (Builder.Untouched s ended.2 ↔
        ¬ ((∃ table page perPage columns, call = .paginate table page perPage columns) ∧
          call.heard around s ≠ [])) := by
  intro ended
  have hhosts := around.noting_hosts name
  have hstart : Builder.Alike name Session.Noted (s.1, s.2.unnoted) s := ⟨rfl, hname, rfl⟩
  have hopened : (Session.connection around.noting name s.2.unnoted).1.isOk = true := by
    rw [← (Session.connection_noting around name s.2.unnoted s.2 rfl).1]
    exact hopenable
  have hheard : call.heard around s = call.heard around.noting (s.1, s.2.unnoted) :=
    congrArg (List.filterMap Exchange.outcome) (Program.exchanges_sim hhosts call.program hstart)
  rw [refusal, hheard] at hrefused
  obtain ⟨t, hended, hcases⟩ := act_of_refusal (s := (s.1, s.2.unnoted)) hname hopened hrefused
  obtain ⟨hresult, hstates⟩ := act_sim hhosts call (s.1, s.2.unnoted) s hstart
  refine ⟨?_, ?_⟩
  · refine Prod.ext ?_ (Prod.ext hstates.same hstates.sessions)
    rw [hresult, hended]
  · have hafter : ended.2 = t := congrArg Prod.snd hended
    rw [hafter, hheard]
    rcases hcases with ⟨hnothing, hunmoved⟩ | ⟨hpage, hcounted, sql, params, u, v, counted, hchosen,
      hopen, hexecute, hsession⟩
    · exact iff_of_true hunmoved.untouched fun h => h.2 hnothing
    · refine iff_of_false (fun huntouched => ?_) fun h => h ⟨hpage, hcounted⟩
      obtain ⟨note, hmem, hnote⟩ := Builder.execute_noted hchosen hopen hexecute
      rw [← hsession] at hmem
      exact hnote (huntouched.notes note hmem)

/-- A change of a whole table is refused. -/
theorem refusal_update (hfilters : s.1.query.filters = []) {data : Fields}
    (hdata : data.isEmpty = false) (table : String) :
    (TerminalCall.update table data).refusal around s = some (.wholeTable .update table) := by
  have haccept : (Demand.compiled .ok fun q => q.compileUpdate table data).accept s.1.query =
      .error (.wholeTable .update table) := by
    have hcompile : s.1.query.compileUpdate table data = .error (.wholeTable .update table) := by
      rw [Query.compileUpdate, hfilters, hdata]
      rfl
    rw [Demand.accept, Demand.draft, ok_bind, hcompile]
    rfl
  rw [refusal, program, Program.refusal, haccept]

/-- So is the removal of all rows. -/
theorem refusal_delete (hfilters : s.1.query.filters = []) (table : String) :
    (TerminalCall.delete table .null).refusal around s = some (.wholeTable .delete table) := by
  have haccept : (Demand.compiled (Query.limitIfGiven .null) fun q => q.compileDelete table).accept
      s.1.query = .error (.wholeTable .delete table) := by
    have hcompile : s.1.query.compileDelete table = .error (.wholeTable .delete table) := by
      rw [Query.compileDelete, hfilters]
      rfl
    rw [Demand.accept, Demand.draft, Query.limitIfGiven, ok_bind, hcompile]
    rfl
  rw [refusal, program, Program.refusal, haccept]

end TerminalCall

/-- The removal of all rows is refused and leaves everything untouched. -/
theorem TerminalCall.refused_untouched_delete :
    let around := Surroundings.flaky .null
    let s := Builder.cautious 0
    let call : TerminalCall := .delete "users" .null
    (Session.connection around "main" s.2).1.isOk = true ∧
      call.refusal around s = some (.wholeTable .delete "users") ∧
      (call.act around s).1 = .error (.wholeTable .delete "users") ∧
      Builder.Untouched s (call.act around.noting (s.1, s.2.unnoted)).2 := by
  intro around s call
  have hname : s.1.connection = some "main" := rfl
  have hopenable : (Session.connection around "main" s.2).1.isOk = true := by decide +kernel
  have hrefused : call.refusal around s = some (.wholeTable .delete "users") :=
    TerminalCall.refusal_delete rfl "users"
  obtain ⟨hended, huntouched⟩ := TerminalCall.refused_untouched_iff hname hopenable hrefused
  have hsingle : ¬ ((∃ table page perPage columns,
      call = .paginate table page perPage columns) ∧ call.heard around s ≠ []) :=
    fun h => nomatch h.1
  exact ⟨hopenable, hrefused, congrArg Prod.fst hended, huntouched.mpr hsingle⟩

/-- A page with a column that is no name is refused when its count has been run. -/
theorem TerminalCall.refused_behind_count :
    let around := Surroundings.flaky .null
    let s := Builder.cautious 1
    let call : TerminalCall := .paginate "users" (.int 1) (.int 10) (.many [.text "bad name"])
    let notes := (call.act around.noting (s.1, s.2.unnoted)).2.2.notes
    (Session.connection around "main" s.2).1.isOk = true ∧
      (∃ e, e.kind = "IdentifierError" ∧ call.refusal around s = some e ∧
        (call.act around s).1 = .error e) ∧
      (notes.filterMap Note.attempt?).length = 1 := by
  intro around s call notes
  have hopenable : (Session.connection around "main" s.2).1.isOk = true := by decide +kernel
  have hkind : (call.refusal around s).map Error.kind = some "IdentifierError" := by
    decide +kernel
  have hcount : (notes.filterMap Note.attempt?).length = 1 := by decide +kernel
  obtain ⟨e, hrefused, hkind⟩ := Option.map_eq_some_iff.mp hkind
  obtain ⟨t, hended, -⟩ := @TerminalCall.act_of_refusal _ around "main" s e call rfl hopenable hrefused
  exact ⟨hopenable, ⟨e, hkind, hrefused, congrArg Prod.fst hended⟩, hcount⟩

end BoundSql
