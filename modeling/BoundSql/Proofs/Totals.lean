import BoundSql.Proofs.Paging
import BoundSql.Proofs.Refusals
import Mathlib.Data.List.Dedup

/-!
# Totals of grouped rows

The total of a page is read from the first row of a count of the same clauses. Without a grouping
that is the only row, and it holds how many rows a select of the clauses has. With a grouping the
count has a row for each group, with the size of that group, and a select has a row for each group
too. The total is then the size of the group that happens to come first, and the number of rows only
when the two are the same.
-/

namespace BoundSql

/-- What the source of a statement comes to in a database: the rows that match its joins and its
conditions, how they are grouped, and which groups are kept. -/
structure Extent (ρ κ : Type) where
  /-- The rows that match the joins and the conditions on rows. -/
  rows : List ρ
  /-- The values of the columns to group by. -/
  key : ρ → κ
  /-- Whether the conditions on groups hold of a group. -/
  keeps : List ρ → Bool

/-- The first field of a row is a number. -/
def Row.Tells (row : Row) (n : ℕ) : Prop := row.values.head? = some (.int n)

namespace Extent

variable {ρ κ : Type} [DecidableEq κ] {e : Extent ρ κ} {source : Source}

/-- The rows with the same values to group by, for all values that there are. Only groups that are
kept count. -/
def groups (e : Extent ρ κ) : List (List ρ) :=
  ((e.rows.map e.key).dedup.map fun k => e.rows.filter fun row => e.key row = k).filter e.keeps

/-- What there is to count: the rows of each group, or all rows when there is no grouping. -/
def sizes (e : Extent ρ κ) (source : Source) : List ℕ :=
  if source.grouping = [] then [e.rows.length] else e.groups.map List.length

/-- How many rows a select has without a window: one for each group, or all rows when there is no
grouping. -/
def height (e : Extent ρ κ) (source : Source) : ℕ :=
  if source.grouping = [] then e.rows.length else e.groups.length

/-- What a database answers to a statement over the extent of its source. The order of groups is
left open. -/
inductive Answers (e : Extent ρ κ) : Statement → List Row → Prop
  /-- A count tells the sizes, one in a row. -/
  | count {source : Source} {counted : List Row} {sizes : List ℕ}
      (hsizes : sizes.Perm (e.sizes source)) (hcounted : List.Forall₂ Row.Tells counted sizes) :
      Answers e (.select .count source [] none none) counted
  /-- A select of columns without a window has all rows. -/
  | columns {refs : List ColumnRef} {source : Source} {ordering : List (ColumnRef × Direction)}
      {answered : List Row} (hlength : answered.length = e.height source) :
      Answers e (.select (.columns refs) source ordering none none) answered

/-- The first row of a count tells one of the sizes; without a row there is nothing to count. -/
theorem Answers.firstCount_eq {counted : List Row}
    (h : e.Answers (.select .count source [] none none) counted) :
    e.sizes source = [] ∧ firstCount counted = some 0 ∨
      ∃ n ∈ e.sizes source, firstCount counted = some (n : ℤ) := by
  cases h with
  | count hsizes hcounted =>
    cases hcounted with
    | nil => exact .inl ⟨List.nil_perm.mp hsizes, rfl⟩
    | @cons row n more rest htells =>
      refine .inr ⟨n, hsizes.mem_iff.mp List.mem_cons_self, ?_⟩
      obtain ⟨others, hvalues⟩ : ∃ others, row.values = .int n :: others :=
        List.head?_eq_some_iff.mp htells
      rw [firstCount, hvalues]

theorem Answers.length_eq {refs : List ColumnRef} {ordering : List (ColumnRef × Direction)}
    {answered : List Row}
    (h : e.Answers (.select (.columns refs) source ordering none none) answered) :
    answered.length = e.height source := by
  cases h with
  | columns hlength => exact hlength

/-- What the total of a page says about the rows that a select of the clauses has without a
window. -/
structure Totals (e : Extent ρ κ) (q : Query) (counted all : List Row) (total : ℤ) : Prop where
  /-- Without a grouping it is how many there are. -/
  ungrouped : q.grouping = [] → total = all.length
  /-- With one there are as many as groups. -/
  rows_eq : q.grouping ≠ [] → all.length = e.groups.length
  /-- The total is the size of a group then, or nothing if there is none. -/
  size_eq : q.grouping ≠ [] →
    e.groups = [] ∧ total = 0 ∨ ∃ group ∈ e.groups, total = group.length
  /-- That is how many rows there are only if the group that comes first has as many rows as there
  are groups. -/
  right_iff : total = all.length ↔
    q.grouping = [] ∨ firstCount counted = some (e.groups.length : ℤ)

/-- A total that is read from the first row of the count says just that. -/
theorem Answers.totals {q : Query} {refs : List ColumnRef}
    {ordering : List (ColumnRef × Direction)} {counted all : List Row} {total : ℤ}
    (hcounted : e.Answers (.select .count source [] none none) counted)
    (hall : e.Answers (.select (.columns refs) source ordering none none) all)
    (hgrouping : source.grouping = [] ↔ q.grouping = [])
    (htotal : ∀ n, firstCount counted = some n → total = n) : e.Totals q counted all total := by
  have hrows := hall.length_eq
  have hfirst := hcounted.firstCount_eq
  by_cases hplain : source.grouping = []
  · rw [height, if_pos hplain] at hrows
    rw [sizes, if_pos hplain] at hfirst
    have hquery := hgrouping.mp hplain
    have hright : total = all.length := by
      rcases hfirst with ⟨hnone, -⟩ | ⟨n, hn, hcount⟩
      · cases hnone
      · rw [htotal n hcount, hrows, List.mem_singleton.mp hn]
    exact ⟨fun _ => hright, fun hne => absurd hquery hne, fun hne => absurd hquery hne,
      iff_of_true hright (.inl hquery)⟩
  · rw [height, if_neg hplain] at hrows
    rw [sizes, if_neg hplain] at hfirst
    have hquery : q.grouping ≠ [] := mt hgrouping.mpr hplain
    obtain ⟨n, hcount, hsize⟩ : ∃ n : ℕ, firstCount counted = some (n : ℤ) ∧
        (e.groups = [] ∧ n = 0 ∨ ∃ group ∈ e.groups, n = group.length) := by
      rcases hfirst with ⟨hnone, hcount⟩ | ⟨n, hn, hcount⟩
      · exact ⟨0, hcount, .inl ⟨List.map_eq_nil_iff.mp hnone, rfl⟩⟩
      · obtain ⟨group, hgroup, hlength⟩ := List.mem_map.mp hn
        exact ⟨n, hcount, .inr ⟨group, hgroup, hlength.symm⟩⟩
    obtain rfl := htotal n hcount
    refine ⟨fun hnone => absurd hnone hquery, fun _ => hrows, fun _ => ?_, ?_⟩
    · exact_mod_cast hsize
    · rw [hcount, hrows, or_iff_right hquery, Option.some_inj]

end Extent

/-- The clauses without a window. -/
def Query.unwindowed (q : Query) : Query := { q with limit := none, offset := none }

/-- Rows are grouped in a statement as soon as they are in the clauses. -/
theorem Query.grouping_eq_nil_iff {q : Query} {table : String} {source : Source}
    {params : List Value} (h : q.compileSource table = .ok (source, params)) :
    source.grouping = [] ↔ q.grouping = [] := by
  obtain ⟨-, -, -, -, grouping, -, -, -, -, -, hgrouping, -, rfl, -⟩ := Query.compileSource_eq_ok h
  rw [← List.length_eq_zero_iff, ← List.length_eq_zero_iff, length_of_mapM hgrouping]

/-- What can be selected through a window can be selected without one. -/
theorem Query.PageStatements.exists_whole {q : Query} {table : String} {columns : Columns}
    {p : Pagination} {count rows : Compiled} (h : q.PageStatements table columns p count rows) :
    ∃ refs source ordering params,
      count = ⟨.select .count source [] none none, params⟩ ∧
      q.unwindowed.compileSelect table columns =
        .ok ⟨.select (.columns refs) source ordering none none, params⟩ ∧
      (source.grouping = [] ↔ q.grouping = []) := by
  obtain ⟨source, params, hsource, rfl⟩ := Query.compileCount_eq_ok h.count_eq
  obtain ⟨refs, same, sameParams, ordering, -, -, hrefs, -, hordering, -, -, -⟩ :=
    Query.compileSelect_eq_ok h.rows_eq
  have hsame : q.unwindowed.compileSource table = .ok (source, params) := hsource
  have hkeys : q.unwindowed.ordering.mapM OrderTerm.compile = .ok ordering := hordering
  refine ⟨refs, source, ordering, params, rfl, ?_, Query.grouping_eq_nil_iff hsource⟩
  rw [Query.compileSelect, hrefs, hsame, hkeys]
  rfl

namespace Extent

variable {ρ κ : Type} [DecidableEq κ] {e : Extent ρ κ} {q : Query} {table : String}

/-- A count of grouped rows is answered with the sizes of the groups. -/
theorem answers_count (hgrouped : q.grouping ≠ []) {count : Compiled} {counted : List Row}
    (hcount : q.compileCount table = .ok count)
    (hcounted : List.Forall₂ Row.Tells counted (e.groups.map List.length)) :
    e.Answers count.statement counted := by
  obtain ⟨source, params, hsource, rfl⟩ := Query.compileCount_eq_ok hcount
  have hsizes : e.groups.map List.length = e.sizes source := by
    rw [sizes, if_neg (mt (Query.grouping_eq_nil_iff hsource).mp hgrouped)]
  exact .count (.of_eq hsizes) hcounted

/-- A select of grouped rows is answered with a row for each group. -/
theorem answers_columns (hgrouped : q.grouping ≠ []) {columns : Columns} {whole : Compiled}
    {all : List Row} (hwhole : q.unwindowed.compileSelect table columns = .ok whole)
    (hall : all.length = e.groups.length) : e.Answers whole.statement all := by
  obtain ⟨refs, source, params, ordering, limit, offset, -, hsource, -, hlimit, hoffset, rfl⟩ :=
    Query.compileSelect_eq_ok hwhole
  cases hlimit
  cases hoffset
  refine .columns ?_
  rw [hall, height, if_neg (mt (Query.grouping_eq_nil_iff hsource).mp hgrouped)]

end Extent

/-- A program hears of the outcome of its first statement before the others. -/
theorem Program.Passes.heard_eq {σ : Type} {around : Surroundings σ} {demand : Demand}
    {returnRows : Bool} {next : Outcome → Program} {s u : Builder × Session σ}
    {x : Executor.Settled} {outcome : Outcome} (h : Passes around demand returnRows s x outcome u) :
    (statement demand returnRows next).heard around s =
      outcome :: (next outcome).heard around u := by
  obtain ⟨sql, params, t, hready, hended⟩ := h.settled
  have hexecute := Builder.execute_of_settled hended
  rw [h.concluded] at hexecute
  rw [heard, exchanges_of_passed hready hexecute]
  rfl

namespace Builder

variable {σ : Type} {around : Surroundings σ} {table : String} {page perPage : Value}
  {columns : Columns} {shaped : Shaped} {p : Pagination} {s t : Builder × Session σ}

/-- A page hears of two outcomes: that of the count and that of the select. -/
theorem PageCourse.heard_eq (c : PageCourse around table page perPage columns s shaped p t) :
    (TerminalCall.paginate table page perPage columns).heard around s =
      [c.counted, c.answered] := by
  rw [TerminalCall.heard, TerminalCall.program, c.number_eq, c.size_eq]
  refine c.counts.heard_eq.trans ?_
  rw [TerminalCall.pageOf, c.total_eq, Program.ofResult, c.page_eq, Program.ofResult]
  exact congrArg (List.cons c.counted) c.reads.heard_eq

/-- The rows that the statements of a page are answered with. -/
def pageAnswers (around : Surroundings σ) (table : String) (page perPage : Value)
    (columns : Columns) (s : Builder × Session σ) : List (List Row) :=
  ((TerminalCall.paginate table page perPage columns).heard around s).map Outcome.rowList

/-- The total of a page that was returned, when the database answers the count over the extent of
the clauses: it is the number of rows of the select without a window exactly when there is no
grouping, or the group that comes first has as many rows as there are groups. -/
theorem paginate_totals {ρ κ : Type} [DecidableEq κ] (e : Extent ρ κ)
    (hreturned : paginate around table page perPage columns s = (.ok (shaped, p), t)) :
    ∃ count whole counted answered, s.1.query.compileCount table = .ok count ∧
      s.1.query.unwindowed.compileSelect table columns = .ok whole ∧
      pageAnswers around table page perPage columns s = [counted, answered] ∧
      ∀ all, e.Answers count.statement counted → e.Answers whole.statement all →
        e.Totals s.1.query counted all p.total := by
  obtain ⟨c⟩ := exists_course hreturned
  obtain ⟨count, rows, -, -, -, hstatements, -⟩ := c.exists_statements
  have hreports := Pagination.reports c.total_eq c.page_eq
  obtain ⟨refs, source, ordering, params, rfl, hwhole, hgrouping⟩ := hstatements.exists_whole
  have hanswers : pageAnswers around table page perPage columns s =
      [c.counted.rowList, c.answered.rowList] := congrArg (List.map Outcome.rowList) c.heard_eq
  refine ⟨_, _, _, _, hstatements.count_eq, hwhole, hanswers, ?_⟩
  intro all hcounted hall
  exact hcounted.totals hall hgrouping hreports.total_eq

/-- Two members of one team and one of another: the group that comes first has as many rows as there
are groups. -/
theorem paginate_totals_teams :
    let e : Extent String String := ⟨["red", "red", "blue"], id, fun _ => true⟩
    let counted : List Row := [[(.text "cnt", .int 2)], [(.text "cnt", .int 1)]]
    let rows : List Row := [[(.text "team", .text "red")], [(.text "team", .text "blue")]]
    let q := Query.collect [.groupBy (.one "team")]
    let s := ({ (cautious [counted, rows]).1 with query := q }, (cautious [counted, rows]).2)
    ∃ shaped p t, paginate Surroundings.answering "users" (.int 1) (.int 10) (.one "team") s =
        (.ok (shaped, p), t) ∧
      e.Totals q counted rows p.total ∧ p.total = rows.length := by
  intro e counted rows q s
  have hpage : (paginate Surroundings.answering "users" (.int 1) (.int 10) (.one "team")
      s).1.toOption.map Prod.snd = some ⟨2, 1, 10, 1⟩ := by decide +kernel
  obtain ⟨shaped, t, hreturned⟩ := exists_returned hpage
  have hanswers : pageAnswers Surroundings.answering "users" (.int 1) (.int 10) (.one "team") s =
      [counted, rows] := by decide +kernel
  obtain ⟨count, whole, first, second, hcount, hwhole, hheard, htotals⟩ :=
    paginate_totals e hreturned
  obtain ⟨rfl, -⟩ := List.cons.inj (hanswers.symm.trans hheard)
  have hgrouped : q.grouping ≠ [] := by decide
  have hcounted : List.Forall₂ Row.Tells counted (e.groups.map List.length) := by
    have hsizes : e.groups.map List.length = [2, 1] := by decide
    rw [hsizes]
    exact .cons rfl (.cons rfl .nil)
  have htotal := htotals rows (Extent.answers_count hgrouped hcount hcounted)
    (Extent.answers_columns hgrouped hwhole (by decide))
  exact ⟨shaped, _, t, hreturned, htotal, htotal.right_iff.mpr (.inr (by decide))⟩

/-- Three members of one team and two of another are reported as three rows, which are two. -/
theorem grouped_total_wrong :
    let e : Extent String String := ⟨["red", "red", "red", "blue", "blue"], id, fun _ => true⟩
    let counted : List Row := [[(.text "cnt", .int 3)], [(.text "cnt", .int 2)]]
    let rows : List Row := [[(.text "team", .text "red")], [(.text "team", .text "blue")]]
    let q := Query.collect [.groupBy (.one "team")]
    let s := ({ (cautious [counted, rows]).1 with query := q }, (cautious [counted, rows]).2)
    ∃ shaped p t count whole,
      paginate Surroundings.answering "users" (.int 1) (.int 10) (.one "team") s =
        (.ok (shaped, p), t) ∧
      pageAnswers Surroundings.answering "users" (.int 1) (.int 10) (.one "team") s =
        [counted, rows] ∧
      q.compileCount "users" = .ok count ∧ e.Answers count.statement counted ∧
      q.unwindowed.compileSelect "users" (.one "team") = .ok whole ∧
      e.Answers whole.statement rows ∧ p.total = 3 ∧ rows.length = 2 := by
  intro e counted rows q s
  have hpage : (paginate Surroundings.answering "users" (.int 1) (.int 10) (.one "team")
      s).1.toOption.map Prod.snd = some ⟨3, 1, 10, 1⟩ := by decide +kernel
  obtain ⟨shaped, t, hreturned⟩ := exists_returned hpage
  have hanswers : pageAnswers Surroundings.answering "users" (.int 1) (.int 10) (.one "team") s =
      [counted, rows] := by decide +kernel
  have hgrouped : q.grouping ≠ [] := by decide
  obtain ⟨count, hcount⟩ : ∃ count, q.compileCount "users" = .ok count := ⟨_, rfl⟩
  obtain ⟨whole, hwhole⟩ : ∃ whole, q.unwindowed.compileSelect "users" (.one "team") = .ok whole :=
    ⟨_, rfl⟩
  have hcounted : List.Forall₂ Row.Tells counted (e.groups.map List.length) := by
    have hsizes : e.groups.map List.length = [3, 2] := by decide
    rw [hsizes]
    exact .cons rfl (.cons rfl .nil)
  exact ⟨shaped, _, t, count, whole, hreturned, hanswers, hcount,
    Extent.answers_count hgrouped hcount hcounted, hwhole,
    Extent.answers_columns hgrouped hwhole (by decide), rfl, rfl⟩

end Builder

end BoundSql
