import BoundSql.Proofs.Clauses

/-!
# What compiling gives

There are six calls that compile a statement. A condition compiles to one of four predicates,
according to its operator and its value; everything else about statements is put together from
there. A statement that is compiled from a collected query is regular: every word in it is fixed,
its bounds are naturals, and no list in it that must have members is empty.
-/

namespace BoundSql

/-- A call that compiles a statement from a query. -/
inductive Command where
  /-- A select of columns. -/
  | select (table : String) (columns : Columns)
  /-- A count of rows. -/
  | count (table : String)
  /-- An insert of one row. -/
  | insert (table : String) (data : Fields)
  /-- An insert of rows that share their keys. -/
  | insertRows (table : String) (rows : List Value)
  /-- A change of rows. -/
  | update (table : String) (data : Fields)
  /-- A removal of rows. -/
  | delete (table : String)

/-- The statement of a call with its parameters, or the first error. -/
def Command.compile (q : Query) : Command → Except Error Compiled
  | .select table columns => q.compileSelect table columns
  | .count table => q.compileCount table
  | .insert table data => compileInsert table data
  | .insertRows table rows => compileInsertRows table rows
  | .update table data => q.compileUpdate table data
  | .delete table => q.compileDelete table

/-- What a caller gets who has a call compiled for a driver: the text and its parameters. -/
def Command.answer (driver : String) (q : Query) (command : Command) :
    Except Error (String × List Value) :=
  (command.compile q).map fun c => (c.sql (Dialect.ofDriver driver), c.params)

namespace Operator

/-- The operator asks for membership. -/
def IsMembership (op : Operator) : Prop := op = .isIn ∨ op = .notIn

/-- The operator asks for identity. -/
def IsIdentity (op : Operator) : Prop := op = .is ∨ op = .isNot

/-- The operator compares with one value. -/
def IsComparison (op : Operator) : Prop := ¬ op.IsMembership ∧ ¬ op.IsIdentity

end Operator

/-- The value that a literal stands for. -/
def Literal.value : Literal → Value
  | .null => .null
  | .truth b => .bool b

/-- The predicates and parameters that a condition compiles to. -/
inductive Condition.Compiles (c : Condition) : Predicate → List Value → Prop
  /-- Membership among no members is decided at once. -/
  | constant {column : ColumnRef} {op : Operator} (hcolumn : ColumnRef.read c.column = .ok column)
      (hop : Operator.read c.operator = .ok op) (hkind : op.IsMembership)
      (hvalue : c.value.sequence? = some []) :
      Compiles c (.constant (op = .notIn)) []
  /-- Membership has a parameter for each member. -/
  | among {column : ColumnRef} {op : Operator} {members : List Value}
      (hcolumn : ColumnRef.read c.column = .ok column)
      (hop : Operator.read c.operator = .ok op) (hkind : op.IsMembership)
      (hvalue : c.value.sequence? = some members) (hmembers : members ≠ []) :
      Compiles c (.among column op members.length) members
  /-- Identity with a literal has no parameter. -/
  | identity {column : ColumnRef} {op : Operator} {literal : Literal}
      (hcolumn : ColumnRef.read c.column = .ok column)
      (hop : Operator.read c.operator = .ok op) (hkind : op.IsIdentity)
      (hvalue : c.value = literal.value) :
      Compiles c (.identity column op literal) []
  /-- A comparison has its value as parameter. -/
  | compare {column : ColumnRef} {op : Operator} (hcolumn : ColumnRef.read c.column = .ok column)
      (hop : Operator.read c.operator = .ok op) (hkind : op.IsComparison) :
      Compiles c (.compare column op) [c.value]

/-- A membership condition compiles by the count of its members. -/
theorem Condition.compiles_of_membership {c : Condition} {column : ColumnRef} {op : Operator}
    (hcolumn : ColumnRef.read c.column = .ok column) (hop : Operator.read c.operator = .ok op)
    (hkind : op.IsMembership) {p : Predicate} {params : List Value}
    (h : (match c.value.sequence? with
      | none => .error (.argument (.needsSequence op.text c.column))
      | some [] => .ok (.constant (op = .notIn), [])
      | some members => .ok (.among column op members.length, members) :
        Except Error (Predicate × List Value)) = .ok (p, params)) :
    c.Compiles p params := by
  split at h
  next => cases h
  next hvalue =>
    cases h
    exact .constant hcolumn hop hkind hvalue
  next members hne hvalue =>
    cases h
    exact .among hcolumn hop hkind hvalue hne

/-- An identity condition compiles when its value is a literal. -/
theorem Condition.compiles_of_identity {c : Condition} {column : ColumnRef} {op : Operator}
    (hcolumn : ColumnRef.read c.column = .ok column) (hop : Operator.read c.operator = .ok op)
    (hkind : op.IsIdentity) {p : Predicate} {params : List Value}
    (h : (match c.value with
      | .null => .ok (.identity column op .null, [])
      | .bool b => .ok (.identity column op (.truth b), [])
      | _ => .error (.argument (.needsNullOrTruth op.text c.column)) :
        Except Error (Predicate × List Value)) = .ok (p, params)) :
    c.Compiles p params := by
  split at h
  next hvalue =>
    cases h
    exact .identity hcolumn hop hkind hvalue
  next b hvalue =>
    cases h
    exact .identity hcolumn hop hkind hvalue
  next => cases h

/-- A condition that compiles gives one of the four predicates. -/
theorem Condition.compiles_of_compile {c : Condition} {p : Predicate} {params : List Value}
    (h : c.compile = .ok (p, params)) : c.Compiles p params := by
  unfold Condition.compile at h
  obtain ⟨column, hcolumn, h⟩ := bind_eq_ok_iff.mp h
  obtain ⟨op, hop, h⟩ := bind_eq_ok_iff.mp h
  cases op with
  | isIn => exact compiles_of_membership hcolumn hop (.inl rfl) h
  | notIn => exact compiles_of_membership hcolumn hop (.inr rfl) h
  | is => exact compiles_of_identity hcolumn hop (.inl rfl) h
  | isNot => exact compiles_of_identity hcolumn hop (.inr rfl) h
  | compare sign =>
    cases h
    exact .compare hcolumn hop (by simp [Operator.IsComparison, Operator.IsMembership,
      Operator.IsIdentity])
  | like =>
    cases h
    exact .compare hcolumn hop (by simp [Operator.IsComparison, Operator.IsMembership,
      Operator.IsIdentity])

/-! ## Success of each call -/

/-- Conditions compile one after another, each with its connective. -/
theorem compileConditions_cons {c : Condition} {rest : List Condition} {conditions : Conditions}
    {params : List Value} (h : compileConditions (c :: rest) = .ok (conditions, params)) :
    ∃ p own more tail, c.compile = .ok (p, own) ∧ compileConditions rest = .ok (more, tail) ∧
      conditions = (c.connective, p) :: more ∧ params = own ++ tail := by
  unfold compileConditions at h
  obtain ⟨⟨p, own⟩, hc, h⟩ := bind_eq_ok_iff.mp h
  obtain ⟨⟨more, tail⟩, hrest, h⟩ := bind_eq_ok_iff.mp h
  cases h
  exact ⟨p, own, more, tail, hc, hrest, rfl, rfl⟩

/-- There are as many compiled conditions as conditions. -/
theorem length_of_compileConditions {cs : List Condition} {conditions : Conditions}
    {params : List Value} (h : compileConditions cs = .ok (conditions, params)) :
    conditions.length = cs.length := by
  induction cs generalizing conditions params with
  | nil =>
    cases h
    rfl
  | cons c rest ih =>
    obtain ⟨p, own, more, tail, -, hrest, rfl, -⟩ := compileConditions_cons h
    rw [List.length_cons, List.length_cons, ih hrest]

/-- The parts of a joined table compile on their own. -/
theorem Join.compile_eq_ok {j : Join} {clause : JoinClause} (h : j.compile = .ok clause) :
    ∃ table left right, TableRef.read j.table j.label = .ok table ∧
      ColumnRef.read j.left = .ok left ∧ ColumnRef.read j.right = .ok right ∧
      clause = ⟨j.kind, table, left, j.sign, right⟩ := by
  unfold Join.compile at h
  obtain ⟨table, htable, h⟩ := bind_eq_ok_iff.mp h
  obtain ⟨left, hleft, h⟩ := bind_eq_ok_iff.mp h
  obtain ⟨right, hright, h⟩ := bind_eq_ok_iff.mp h
  cases h
  exact ⟨table, left, right, htable, hleft, hright, rfl⟩

/-- The parameters of a source are those of its conditions on rows and then on groups. -/
theorem Query.compileSource_eq_ok {q : Query} {table : String} {source : Source}
    {params : List Value} (h : q.compileSource table = .ok (source, params)) :
    ∃ path joins filters own grouping groupFilters more, Path.read table = .ok path ∧
      q.joins.mapM Join.compile = .ok joins ∧ compileConditions q.filters = .ok (filters, own) ∧
      q.grouping.mapM ColumnRef.read = .ok grouping ∧
      compileConditions q.groupFilters = .ok (groupFilters, more) ∧
      source = ⟨path, joins, filters, grouping, groupFilters⟩ ∧ params = own ++ more := by
  unfold Query.compileSource at h
  obtain ⟨path, hpath, h⟩ := bind_eq_ok_iff.mp h
  obtain ⟨joins, hjoins, h⟩ := bind_eq_ok_iff.mp h
  obtain ⟨⟨filters, own⟩, hfilters, h⟩ := bind_eq_ok_iff.mp h
  obtain ⟨grouping, hgrouping, h⟩ := bind_eq_ok_iff.mp h
  obtain ⟨⟨groupFilters, more⟩, hgroups, h⟩ := bind_eq_ok_iff.mp h
  cases h
  exact ⟨path, joins, filters, own, grouping, groupFilters, more, hpath, hjoins, hfilters,
    hgrouping, hgroups, rfl, rfl⟩

/-- A bound is the integer of its value. -/
theorem compileBound_eq_ok {bound : Option Value} {n : Option Int}
    (h : compileBound bound = .ok n) :
    bound = none ∧ n = none ∨ ∃ v i, bound = some v ∧ v.toInteger = .ok i ∧ n = some i := by
  cases bound with
  | none =>
    cases h
    exact .inl ⟨rfl, rfl⟩
  | some v =>
    obtain ⟨i, hi, h⟩ := bind_eq_ok_iff.mp h
    obtain ⟨-, -, h⟩ := bind_eq_ok_iff.mp h
    cases h
    exact .inr ⟨v, i, rfl, hi, rfl⟩

/-- The key of an ordering keeps its direction. -/
theorem OrderTerm.compile_eq_ok {t : OrderTerm} {term : ColumnRef × Direction}
    (h : t.compile = .ok term) :
    ∃ column, ColumnRef.read t.column = .ok column ∧ term = (column, t.direction) := by
  obtain ⟨column, hcolumn, h⟩ := bind_eq_ok_iff.mp h
  cases h
  exact ⟨column, hcolumn, rfl⟩

/-- The parts of a select compile on their own. -/
theorem Query.compileSelect_eq_ok {q : Query} {table : String} {columns : Columns} {c : Compiled}
    (h : q.compileSelect table columns = .ok c) :
    ∃ refs source params ordering limit offset, columns.compile = .ok refs ∧
      q.compileSource table = .ok (source, params) ∧
      q.ordering.mapM OrderTerm.compile = .ok ordering ∧ compileBound q.limit = .ok limit ∧
      compileBound q.offset = .ok offset ∧
      c = ⟨.select (.columns refs) source ordering limit offset, params⟩ := by
  unfold Query.compileSelect at h
  obtain ⟨refs, hrefs, h⟩ := bind_eq_ok_iff.mp h
  obtain ⟨⟨source, params⟩, hsource, h⟩ := bind_eq_ok_iff.mp h
  obtain ⟨ordering, hordering, h⟩ := bind_eq_ok_iff.mp h
  obtain ⟨limit, hlimit, h⟩ := bind_eq_ok_iff.mp h
  obtain ⟨offset, hoffset, h⟩ := bind_eq_ok_iff.mp h
  cases h
  exact ⟨refs, source, params, ordering, limit, offset, hrefs, hsource, hordering, hlimit,
    hoffset, rfl⟩

/-- A count has nothing but its source. -/
theorem Query.compileCount_eq_ok {q : Query} {table : String} {c : Compiled}
    (h : q.compileCount table = .ok c) :
    ∃ source params, q.compileSource table = .ok (source, params) ∧
      c = ⟨.select .count source [] none none, params⟩ := by
  unfold Query.compileCount at h
  obtain ⟨⟨source, params⟩, hsource, h⟩ := bind_eq_ok_iff.mp h
  cases h
  exact ⟨source, params, hsource, rfl⟩

/-- An insert has a column and a parameter for each field. -/
theorem compileInsert_eq_ok {table : String} {data : Fields} {c : Compiled}
    (h : compileInsert table data = .ok c) :
    data ≠ [] ∧ ∃ columns path, compileKeys data.keys = .ok columns ∧
      Path.read table = .ok path ∧ c = ⟨.insert path columns 1, data.values⟩ := by
  unfold compileInsert at h
  obtain ⟨hdata, h⟩ := guard_eq_ok_iff.mp h
  obtain ⟨columns, hcolumns, h⟩ := bind_eq_ok_iff.mp h
  obtain ⟨path, hpath, h⟩ := bind_eq_ok_iff.mp h
  cases h
  exact ⟨by simpa using hdata, columns, path, hcolumns, hpath, rfl⟩

/-- Aligned rows give their values one row after another, each with as many as there are keys. -/
theorem alignRows_cons {keys : List Value} {position : Nat} {row : Value} {rest : List Value}
    {params : List Value} (h : alignRows keys position (row :: rest) = .ok params) :
    ∃ fields more, row.fields? = some fields ∧
      (position ≠ 0 → Value.equalLists fields.keys keys = true) ∧
      alignRows keys (position + 1) rest = .ok more ∧ params = fields.values ++ more := by
  unfold alignRows at h
  dsimp only at h
  split at h
  next => cases h
  next fields hfields =>
    obtain ⟨hkeys, h⟩ := guard_eq_ok_iff.mp h
    obtain ⟨more, hmore, h⟩ := bind_eq_ok_iff.mp h
    cases h
    refine ⟨fields, more, hfields, ?_, hmore, rfl⟩
    intro hposition
    simpa [hposition] using hkeys

/-- Lists with equal members at equal places have as many members. -/
theorem Value.length_eq_of_equalLists {xs ys : List Value}
    (h : Value.equalLists xs ys = true) : xs.length = ys.length := by
  induction xs generalizing ys with
  | nil =>
    cases ys with
    | nil => rfl
    | cons y ys => simp [Value.equalLists] at h
  | cons x xs ih =>
    cases ys with
    | nil => simp [Value.equalLists] at h
    | cons y ys =>
      rw [Value.equalLists, Bool.and_eq_true] at h
      rw [List.length_cons, List.length_cons, ih h.2]

/-- An insert of rows has the columns of the first row and the values of all of them. -/
theorem compileInsertRows_eq_ok {table : String} {rows : List Value} {c : Compiled}
    (h : compileInsertRows table rows = .ok c) :
    ∃ first rest fields columns path params, rows = first :: rest ∧
      first.fields? = some fields ∧ fields ≠ [] ∧ alignRows fields.keys 0 rows = .ok params ∧
      compileKeys fields.keys = .ok columns ∧ Path.read table = .ok path ∧
      c = ⟨.insert path columns rows.length, params⟩ := by
  unfold compileInsertRows at h
  cases rows with
  | nil => cases h
  | cons first rest =>
    dsimp only at h
    split at h
    next => cases h
    next => cases h
    next fields hne hfields =>
      obtain ⟨params, hparams, h⟩ := bind_eq_ok_iff.mp h
      obtain ⟨columns, hcolumns, h⟩ := bind_eq_ok_iff.mp h
      obtain ⟨path, hpath, h⟩ := bind_eq_ok_iff.mp h
      cases h
      exact ⟨first, rest, fields, columns, path, params, rfl, hfields, hne, hparams, hcolumns,
        hpath, rfl⟩

/-- A change has the parameters of its fields and then those of its conditions. -/
theorem Query.compileUpdate_eq_ok {q : Query} {table : String} {data : Fields} {c : Compiled}
    (h : q.compileUpdate table data = .ok c) :
    data ≠ [] ∧ q.filters ≠ [] ∧ ∃ columns path filters params limit,
      compileKeys data.keys = .ok columns ∧ Path.read table = .ok path ∧
      compileConditions q.filters = .ok (filters, params) ∧ compileBound q.limit = .ok limit ∧
      c = ⟨.update path columns filters limit, data.values ++ params⟩ := by
  unfold Query.compileUpdate at h
  obtain ⟨hdata, h⟩ := guard_eq_ok_iff.mp h
  obtain ⟨hfilters, h⟩ := guard_eq_ok_iff.mp h
  obtain ⟨columns, hcolumns, h⟩ := bind_eq_ok_iff.mp h
  obtain ⟨path, hpath, h⟩ := bind_eq_ok_iff.mp h
  obtain ⟨⟨filters, params⟩, hconditions, h⟩ := bind_eq_ok_iff.mp h
  obtain ⟨limit, hlimit, h⟩ := bind_eq_ok_iff.mp h
  cases h
  exact ⟨by simpa using hdata, by simpa using hfilters, columns, path, filters, params, limit,
    hcolumns, hpath, hconditions, hlimit, rfl⟩

/-- A removal has the parameters of its conditions. -/
theorem Query.compileDelete_eq_ok {q : Query} {table : String} {c : Compiled}
    (h : q.compileDelete table = .ok c) :
    q.filters ≠ [] ∧ ∃ path filters params limit, Path.read table = .ok path ∧
      compileConditions q.filters = .ok (filters, params) ∧ compileBound q.limit = .ok limit ∧
      c = ⟨.delete path filters limit, params⟩ := by
  unfold Query.compileDelete at h
  obtain ⟨hfilters, h⟩ := guard_eq_ok_iff.mp h
  obtain ⟨path, hpath, h⟩ := bind_eq_ok_iff.mp h
  obtain ⟨⟨filters, params⟩, hconditions, h⟩ := bind_eq_ok_iff.mp h
  obtain ⟨limit, hlimit, h⟩ := bind_eq_ok_iff.mp h
  cases h
  exact ⟨by simpa using hfilters, path, filters, params, limit, hpath, hconditions, hlimit, rfl⟩

/-! ## Regular statements -/

/-- The operator of a predicate fits its form. -/
def Predicate.Regular : Predicate → Prop
  | .compare _ op => op.IsComparison
  | .among _ op size => op.IsMembership ∧ 0 < size
  | .identity _ op _ => op.IsIdentity
  | .constant _ => True

/-- Conditions are tied by fixed connectives, and their predicates are regular. -/
def Conditions.Regular (conditions : Conditions) : Prop :=
  ∀ c ∈ conditions, c.1.Known ∧ c.2.Regular

/-- A joined table is of a fixed kind and compares with a fixed sign. -/
def JoinClause.Regular (j : JoinClause) : Prop := j.kind.Known ∧ j.sign.Known

/-- All parts of a source are regular. -/
structure Source.Regular (s : Source) : Prop where
  /-- The joined tables are. -/
  joins : ∀ j ∈ s.joins, j.Regular
  /-- The conditions on rows are. -/
  filters : s.filters.Regular
  /-- The conditions on groups are. -/
  groupFilters : s.groupFilters.Regular

/-- A statement has fixed words, natural bounds and no empty list that must have members. A count
has neither ordering nor window. -/
def Statement.Regular : Statement → Prop
  | .select (.columns _) source ordering limit offset =>
    source.Regular ∧ (∀ t ∈ ordering, t.2.Known) ∧ (∀ n ∈ limit, 0 ≤ n) ∧ ∀ n ∈ offset, 0 ≤ n
  | .select .count source ordering limit offset =>
    source.Regular ∧ ordering = [] ∧ limit = none ∧ offset = none
  | .insert _ columns rows => columns ≠ [] ∧ 0 < rows
  | .update _ columns filters limit =>
    columns ≠ [] ∧ filters ≠ [] ∧ filters.Regular ∧ ∀ n ∈ limit, 0 ≤ n
  | .delete _ filters limit => filters ≠ [] ∧ filters.Regular ∧ ∀ n ∈ limit, 0 ≤ n

/-- What a condition compiles to is regular. -/
theorem Condition.Compiles.regular {c : Condition} {p : Predicate} {params : List Value}
    (h : c.Compiles p params) : p.Regular := by
  cases h with
  | constant => trivial
  | among _ _ hkind _ hmembers => exact ⟨hkind, List.length_pos_iff.mpr hmembers⟩
  | identity _ _ hkind _ => exact hkind
  | compare _ _ hkind => exact hkind

/-- Conditions with fixed connectives compile to regular ones. -/
theorem compileConditions_regular {cs : List Condition} {conditions : Conditions}
    {params : List Value} (hcs : ∀ c ∈ cs, c.connective.Known)
    (h : compileConditions cs = .ok (conditions, params)) : conditions.Regular := by
  induction cs generalizing conditions params with
  | nil =>
    cases h
    intro c hc
    cases hc
  | cons c rest ih =>
    obtain ⟨p, own, more, tail, hc, hrest, rfl, -⟩ := compileConditions_cons h
    have hmore := ih (fun d hd => hcs d (List.mem_cons_of_mem c hd)) hrest
    intro d hd
    rcases List.mem_cons.mp hd with rfl | hd
    · exact ⟨hcs c List.mem_cons_self, (Condition.compiles_of_compile hc).regular⟩
    · exact hmore d hd

/-- At least one condition compiles to at least one. -/
theorem compileConditions_ne_nil {cs : List Condition} {conditions : Conditions}
    {params : List Value} (hcs : cs ≠ []) (h : compileConditions cs = .ok (conditions, params)) :
    conditions ≠ [] := by
  have hlength := length_of_compileConditions h
  have hpos := List.length_pos_iff.mpr hcs
  exact List.length_pos_iff.mp (by omega)

/-- There is a column for each field. -/
theorem length_of_compileKeys {data : Fields} {columns : List Name}
    (h : compileKeys data.keys = .ok columns) : columns.length = data.length := by
  have hlength := length_of_mapM h
  rwa [Fields.keys, List.length_map] at hlength

/-- At least one key names at least one column. -/
theorem compileKeys_ne_nil {data : Fields} {columns : List Name} (hdata : data ≠ [])
    (h : compileKeys data.keys = .ok columns) : columns ≠ [] := by
  have hlength := length_of_compileKeys h
  have hpos := List.length_pos_iff.mpr hdata
  exact List.length_pos_iff.mp (by omega)

/-- A bound of a collected query is a natural. -/
theorem compileBound_nonneg {bound : Option Value} {n : Option Int}
    (hbound : ∀ v ∈ bound, v.IsCount) (h : compileBound bound = .ok n) : ∀ i ∈ n, 0 ≤ i := by
  rcases compileBound_eq_ok h with ⟨-, rfl⟩ | ⟨v, i, rfl, hi, rfl⟩
  · simp
  · obtain ⟨k, rfl⟩ := hbound v rfl
    cases hi
    intro j hj
    cases hj
    exact Int.natCast_nonneg k

namespace Query.Collected

variable {q : Query}

/-- The source of a collected query is regular. -/
theorem source_regular (hq : q.Collected) {table : String} {source : Source}
    {params : List Value} (h : q.compileSource table = .ok (source, params)) :
    source.Regular := by
  obtain ⟨path, joins, filters, own, grouping, groupFilters, more, -, hjoins, hfilters, -, hgroups,
    rfl, -⟩ := Query.compileSource_eq_ok h
  refine ⟨?_, compileConditions_regular hq.filters hfilters,
    compileConditions_regular hq.groupFilters hgroups⟩
  refine forall_mem_of_mapM ?_ hq.joins hjoins
  intro j clause hj hclause
  obtain ⟨-, -, -, -, -, -, rfl⟩ := Join.compile_eq_ok hclause
  exact hj

/-- The ordering of a collected query has fixed directions. -/
theorem ordering_known (hq : q.Collected) {terms : List (ColumnRef × Direction)}
    (h : q.ordering.mapM OrderTerm.compile = .ok terms) : ∀ t ∈ terms, t.2.Known := by
  refine forall_mem_of_mapM ?_ hq.ordering h
  intro t term ht hterm
  obtain ⟨-, -, rfl⟩ := OrderTerm.compile_eq_ok hterm
  exact ht

/-- Every call compiles a collected query to a regular statement. -/
theorem compile_regular (hq : q.Collected) {command : Command} {c : Compiled}
    (h : command.compile q = .ok c) : c.statement.Regular := by
  cases command <;> simp only [Command.compile] at h
  case select table columns =>
    obtain ⟨refs, source, params, ordering, limit, offset, -, hsource, hordering, hlimit, hoffset,
      rfl⟩ := Query.compileSelect_eq_ok h
    exact ⟨hq.source_regular hsource, hq.ordering_known hordering,
      compileBound_nonneg hq.limit hlimit, compileBound_nonneg hq.offset hoffset⟩
  case count table =>
    obtain ⟨source, params, hsource, rfl⟩ := Query.compileCount_eq_ok h
    exact ⟨hq.source_regular hsource, rfl, rfl, rfl⟩
  case insert table data =>
    obtain ⟨hdata, columns, path, hcolumns, -, rfl⟩ := compileInsert_eq_ok h
    exact ⟨compileKeys_ne_nil hdata hcolumns, Nat.one_pos⟩
  case insertRows table rows =>
    obtain ⟨first, rest, fields, columns, path, params, rfl, -, hne, -, hcolumns, -, rfl⟩ :=
      compileInsertRows_eq_ok h
    exact ⟨compileKeys_ne_nil hne hcolumns, Nat.succ_pos _⟩
  case update table data =>
    obtain ⟨hdata, hfilters, columns, path, filters, params, limit, hcolumns, -, hconditions,
      hlimit, rfl⟩ := Query.compileUpdate_eq_ok h
    exact ⟨compileKeys_ne_nil hdata hcolumns, compileConditions_ne_nil hfilters hconditions,
      compileConditions_regular hq.filters hconditions, compileBound_nonneg hq.limit hlimit⟩
  case delete table =>
    obtain ⟨hfilters, path, filters, params, limit, -, hconditions, hlimit, rfl⟩ :=
      Query.compileDelete_eq_ok h
    exact ⟨compileConditions_ne_nil hfilters hconditions,
      compileConditions_regular hq.filters hconditions, compileBound_nonneg hq.limit hlimit⟩

end Query.Collected

end BoundSql
