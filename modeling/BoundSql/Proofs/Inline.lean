import BoundSql.Proofs.Plain

/-!
# Statements with their values written in place

A second way from a query to a text: each clause is written on its own, and each value stands where
it belongs, at its own condition, assignment or cell, in whatever way values are written. No list of
parameters is ever made. The main statement compares this with compiling. There are as many question
marks as parameters, and putting the parameters in their places from the first one on gives the text
with the values in place.
-/

namespace BoundSql

section

variable (mark : Char) (lit : Value → List Char)

/-- A condition with its value in place. -/
def Condition.inline (c : Condition) : Except Error (List Char) := do
  let column ← ColumnRef.read c.column
  let op ← Operator.read c.operator
  let front := Token.render mark column.tokens ++ " ".toList ++ op.text.toList ++ " ".toList
  match op with
  | .isIn | .notIn =>
    match c.value.sequence? with
    | none => throw (.argument (.needsSequence op.text c.column))
    | some [] => return (if op = .notIn then "1=1" else "0=1").toList
    | some members =>
      return front ++ "(".toList ++ Text.joinWith ", ".toList (members.map lit) ++ ")".toList
  | .is | .isNot =>
    match c.value with
    | .null => return front ++ "NULL".toList
    | .bool b => return front ++ (if b then "TRUE" else "FALSE").toList
    | _ => throw (.argument (.needsNullOrTruth op.text c.column))
  | _ => return front ++ lit c.value

/-- Conditions behind the first one, each with its connective. -/
def inlineMore : List Condition → Except Error (List Char)
  | [] => .ok []
  | c :: rest => do
    let text ← c.inline mark lit
    let more ← inlineMore rest
    return " ".toList ++ c.connective.text.toList ++ " ".toList ++ text ++ more

/-- Conditions behind a keyword, with their values in place. -/
def inlineConditions (keyword : String) : List Condition → Except Error (List Char)
  | [] => .ok []
  | first :: rest => do
    let text ← first.inline mark lit
    let more ← inlineMore mark lit rest
    return " ".toList ++ keyword.toList ++ " ".toList ++ text ++ more

/-- Everything from the table up to the conditions on groups. -/
def Query.inlineSource (q : Query) (table : String) : Except Error (List Char) := do
  let path ← Path.read table
  let joins ← q.joins.mapM Join.compile
  let filters ← inlineConditions mark lit "WHERE" q.filters
  let grouping ← q.grouping.mapM ColumnRef.read
  let groupFilters ← inlineConditions mark lit "HAVING" q.groupFilters
  return Token.render mark path.tokens ++ Token.render mark (joins.flatMap JoinClause.tokens) ++
    filters ++
    Token.render mark (columnClause " GROUP BY " (grouping.map ColumnRef.tokens)) ++ groupFilters

/-- A bound on rows behind its keyword; its number is no parameter. -/
def inlineBound (keyword : String) (bound : Option Value) : Except Error (List Char) := do
  return Token.render mark (boundClause keyword (← compileBound bound))

/-- A select of columns. -/
def Query.inlineSelect (q : Query) (table : String) (columns : Columns) :
    Except Error (List Char) := do
  let refs ← columns.compile
  let source ← q.inlineSource mark lit table
  let ordering ← q.ordering.mapM OrderTerm.compile
  let limit ← inlineBound mark " LIMIT " q.limit
  let offset ← inlineBound mark " OFFSET " q.offset
  return "SELECT ".toList ++ Token.render mark (Selection.columns refs).tokens ++
    " FROM ".toList ++ source ++
    Token.render mark (columnClause " ORDER BY " (ordering.map orderTokens)) ++ limit ++ offset

/-- A count of rows. -/
def Query.inlineCount (q : Query) (table : String) : Except Error (List Char) := do
  let source ← q.inlineSource mark lit table
  return "SELECT ".toList ++ Token.render mark Selection.count.tokens ++ " FROM ".toList ++ source

/-- The cells of a row, each with the value of its field. -/
def inlineCells (fields : Fields) : List Char :=
  "(".toList ++ Text.joinWith ", ".toList (fields.map fun field => lit field.2) ++ ")".toList

/-- An insert whose columns are given by keys and whose rows are written already. -/
def inlineInsertOf (table : String) (keys : List Value) (rows : List (List Char)) :
    Except Error (List Char) := do
  let columns ← compileKeys keys
  let path ← Path.read table
  return "INSERT INTO ".toList ++ Token.render mark path.tokens ++ " (".toList ++
    Text.joinWith ", ".toList (columns.map fun n => Token.render mark [.name n]) ++
    ") VALUES ".toList ++ Text.joinWith ", ".toList rows

/-- An insert of one row. -/
def inlineInsert (table : String) (data : Fields) : Except Error (List Char) :=
  inlineInsertOf mark table data.keys [inlineCells lit data]

/-- The fields of a row. -/
def rowFields (row : Value) : Except Error Fields :=
  match row.fields? with
  | some fields => .ok fields
  | none => .error (.argument .rowsNotMappings)

/-- An insert of rows, one after another; the first one has the keys of all. -/
def inlineInsertRows (table : String) (rows : List Value) : Except Error (List Char) := do
  let fields ← rows.mapM rowFields
  let keys := (fields.head?.map Fields.keys).getD []
  inlineInsertOf mark table keys (fields.map (inlineCells lit))

/-- A column with its new value. -/
def inlineAssignment (field : Value × Value) : Except Error (List Char) := do
  let column ← Name.read field.1.plain
  return Token.render mark [.name column] ++ " = ".toList ++ lit field.2

/-- A change of rows. -/
def Query.inlineUpdate (q : Query) (table : String) (data : Fields) :
    Except Error (List Char) := do
  let assignments ← data.mapM (inlineAssignment mark lit)
  let path ← Path.read table
  let filters ← inlineConditions mark lit "WHERE" q.filters
  let limit ← inlineBound mark " LIMIT " q.limit
  return "UPDATE ".toList ++ Token.render mark path.tokens ++ " SET ".toList ++
    Text.joinWith ", ".toList assignments ++ filters ++ limit

/-- A removal of rows. -/
def Query.inlineDelete (q : Query) (table : String) : Except Error (List Char) := do
  let path ← Path.read table
  let filters ← inlineConditions mark lit "WHERE" q.filters
  let limit ← inlineBound mark " LIMIT " q.limit
  return "DELETE FROM ".toList ++ Token.render mark path.tokens ++ filters ++ limit

/-- The text of a call with its values in place. -/
def Command.inline (q : Query) : Command → Except Error (List Char)
  | .select table columns => q.inlineSelect mark lit table columns
  | .count table => q.inlineCount mark lit table
  | .insert table data => inlineInsert mark lit table data
  | .insertRows table rows => inlineInsertRows mark lit table rows
  | .update table data => q.inlineUpdate mark lit table data
  | .delete table => q.inlineDelete mark lit table

end

/-! ## Parts without question marks -/

theorem Operator.text_quiet (op : Operator) : '?' ∉ op.text.toList := by
  have hplain : (Token.word op.text).Plain := op.text_calm
  exact hplain.quiet

theorem Connective.token_chars (mark : Char) (c : Connective) :
    c.token.chars mark = c.text.toList := by
  cases c <;> rfl

theorem Connective.Known.quiet {c : Connective} (h : c.Known) : '?' ∉ c.text.toList := by
  cases c with
  | other word => cases h
  | _ => decide

theorem where_quiet : '?' ∉ "WHERE".toList := by decide

theorem having_quiet : '?' ∉ "HAVING".toList := by decide

/-! ## Conditions -/

section

variable (d : Dialect) (lit : Value → List Char)

theorem placeholders_fills (values : List Value) :
    Fills (Token.render d.mark (Token.placeholders values.length)) (values.map lit)
      (Text.joinWith ", ".toList (values.map lit)) := by
  have hitems : Fills (Text.joinWith ", ".toList (values.map fun _ => ['?']))
      (values.flatMap fun v => [lit v]) (Text.joinWith ", ".toList (values.map lit)) :=
    Fills.joined (by decide) fun v _ => Fills.hole (lit v)
  rw [← List.map_eq_flatMap, List.map_const'] at hitems
  rw [Token.placeholders, Token.listed, Token.render_separated, List.map_replicate]
  exact hitems

/-- A condition that compiles is filled with its own parameters. -/
theorem Condition.Compiles.fills {c : Condition} {p : Predicate} {params : List Value}
    (h : c.Compiles p params) :
    ∃ text, c.inline d.mark lit = .ok text ∧
      Fills (Token.render d.mark p.tokens) (params.map lit) text := by
  cases h with
  | constant hcolumn hop hkind hvalue =>
    refine ⟨_, ?_, Fills.quiet ?_⟩
    · rcases hkind with rfl | rfl <;>
        simp only [Condition.inline, hcolumn, hop, hvalue, ok_bind] <;> rfl
    · rcases hkind with rfl | rfl <;> simp [Predicate.tokens]
  | @among column op members hcolumn hop hkind hvalue hmembers =>
    obtain ⟨first, rest, rfl⟩ := List.exists_cons_of_ne_nil hmembers
    have hquiet : Token.AllQuiet (column.tokens ++ [.word " ", .word op.text, .word " ("]) := by
      simp [column.tokens_plain.quiet, op.text_quiet]
    have hplaces := placeholders_fills d lit (first :: rest)
    have hclose : Token.AllQuiet [.word ")"] := by simp
    have hfills := ((hquiet.fills d).append hplaces).append (hclose.fills d)
    refine ⟨_, ?_, by simpa [Predicate.tokens] using hfills⟩
    rcases hkind with rfl | rfl <;>
      simp [Condition.inline, hcolumn, hop, hvalue]
  | @identity column op literal hcolumn hop hkind hvalue =>
    have hquiet : Token.AllQuiet (Predicate.identity column op literal).tokens := by
      cases literal with
      | null => simp [Predicate.tokens, Literal.text, column.tokens_plain.quiet, op.text_quiet]
      | truth b =>
        cases b <;> simp [Predicate.tokens, Literal.text, column.tokens_plain.quiet, op.text_quiet]
    refine ⟨_, ?_, hquiet.fills d⟩
    cases literal <;> rcases hkind with rfl | rfl <;>
      simp [Condition.inline, hcolumn, hop, hvalue, Literal.value, Predicate.tokens, Literal.text]
  | @compare column op hcolumn hop hkind =>
    have hquiet : Token.AllQuiet (column.tokens ++ [.word " ", .word op.text, .word " "]) := by
      simp [column.tokens_plain.quiet, op.text_quiet]
    have hfills := (hquiet.fills d).append (Fills.hole (lit c.value))
    refine ⟨_, ?_, by simpa [Predicate.tokens] using hfills⟩
    cases op with
    | compare sign => simp [Condition.inline, hcolumn, hop]
    | like => simp [Condition.inline, hcolumn, hop]
    | isIn => exact absurd (.inl rfl) hkind.1
    | notIn => exact absurd (.inr rfl) hkind.1
    | is => exact absurd (.inl rfl) hkind.2
    | isNot => exact absurd (.inr rfl) hkind.2

/-- Conditions behind the first one are filled with their own parameters in order. -/
theorem inlineMore_fills {cs : List Condition} {conditions : Conditions} {params : List Value}
    (hcs : ∀ c ∈ cs, c.connective.Known)
    (h : compileConditions cs = .ok (conditions, params)) :
    ∃ text, inlineMore d.mark lit cs = .ok text ∧
      Fills (Token.render d.mark (Conditions.moreTokens conditions)) (params.map lit) text := by
  induction cs generalizing conditions params with
  | nil =>
    cases h
    exact ⟨[], rfl, rfl, rfl⟩
  | cons c rest ih =>
    obtain ⟨p, own, more, tail, hc, hrest, rfl, rfl⟩ := compileConditions_cons h
    obtain ⟨text, htext, hfills⟩ := (Condition.compiles_of_compile hc).fills d lit
    obtain ⟨others, hothers, hmore⟩ :=
      ih (fun e he => hcs e (List.mem_cons_of_mem c he)) hrest
    have hquiet : Token.AllQuiet [.word " ", .word c.connective.text, .word " "] := by
      simp [(hcs c List.mem_cons_self).quiet]
    have hall := ((hquiet.fills d).append hfills).append hmore
    refine ⟨_, by rw [inlineMore, htext, hothers, ok_bind, ok_bind]; rfl, ?_⟩
    rw [List.map_append]
    simpa [Conditions.moreTokens, Connective.token_chars] using hall

/-- So are conditions behind a keyword. -/
theorem inlineConditions_fills {keyword : String} (hkeyword : '?' ∉ keyword.toList)
    {cs : List Condition} {conditions : Conditions} {params : List Value}
    (hcs : ∀ c ∈ cs, c.connective.Known)
    (h : compileConditions cs = .ok (conditions, params)) :
    ∃ text, inlineConditions d.mark lit keyword cs = .ok text ∧
      Fills (Token.render d.mark (conditions.clause (.word keyword))) (params.map lit) text := by
  cases cs with
  | nil =>
    cases h
    exact ⟨[], rfl, rfl, rfl⟩
  | cons first rest =>
    obtain ⟨p, own, more, tail, hfirst, hrest, rfl, rfl⟩ := compileConditions_cons h
    obtain ⟨text, htext, hfills⟩ := (Condition.compiles_of_compile hfirst).fills d lit
    obtain ⟨others, hothers, hmore⟩ :=
      inlineMore_fills d lit (fun e he => hcs e (List.mem_cons_of_mem first he)) hrest
    have hquiet : Token.AllQuiet [.word " ", .word keyword, .word " "] := by
      simp [hkeyword]
    have hall := ((hquiet.fills d).append hfills).append hmore
    refine ⟨_, by rw [inlineConditions, htext, hothers, ok_bind, ok_bind]; rfl, ?_⟩
    rw [List.map_append]
    simpa [Conditions.clause, Conditions.tokens] using hall

/-! ## Statements -/

theorem inlineBound_eq {keyword : String} {bound : Option Value} {n : Option Int}
    (h : compileBound bound = .ok n) :
    inlineBound d.mark keyword bound = .ok (Token.render d.mark (boundClause keyword n)) := by
  rw [inlineBound, h]
  rfl

/-- A source is filled with the parameters of its conditions on rows and then on groups. -/
theorem Query.Collected.inlineSource_fills {q : Query} (hq : q.Collected) {table : String}
    {source : Source} {params : List Value}
    (h : q.compileSource table = .ok (source, params)) :
    ∃ text, q.inlineSource d.mark lit table = .ok text ∧
      Fills (Token.render d.mark source.tokens) (params.map lit) text := by
  have hregular := hq.source_regular h
  obtain ⟨path, joins, filters, own, grouping, groupFilters, more, hpath, hjoins, hfilters,
    hgrouping, hgroups, rfl, rfl⟩ := Query.compileSource_eq_ok h
  obtain ⟨rows, hrows, hrowFills⟩ :=
    inlineConditions_fills d lit where_quiet hq.filters hfilters
  obtain ⟨groups, hgroupTexts, hgroupFills⟩ :=
    inlineConditions_fills d lit having_quiet hq.groupFilters hgroups
  have hfront : Token.AllQuiet (path.tokens ++ joins.flatMap JoinClause.tokens) := by
    refine Token.allQuiet_append.mpr ⟨path.tokens_plain.quiet, ?_⟩
    intro t ht
    obtain ⟨j, hj, ht⟩ := List.mem_flatMap.mp ht
    exact (hregular.joins j hj).tokens_plain.quiet t ht
  have hgroupBy : Token.AllQuiet
      (columnClause " GROUP BY " (grouping.map ColumnRef.tokens)) := (grouping_plain grouping).quiet
  have hall := ((hfront.fills d).append hrowFills).append ((hgroupBy.fills d).append hgroupFills)
  refine ⟨_, by
    simp only [Query.inlineSource, hpath, hjoins, hrows, hgrouping, hgroupTexts, ok_bind]; rfl, ?_⟩
  rw [List.map_append]
  simpa [Source.tokens] using hall

/-- A select is filled with the parameters of its source. -/
theorem Query.Collected.inlineSelect_fills {q : Query} (hq : q.Collected) {table : String}
    {columns : Columns} {c : Compiled} (h : q.compileSelect table columns = .ok c) :
    ∃ text, q.inlineSelect d.mark lit table columns = .ok text ∧
      Fills (Token.render d.mark c.statement.tokens) (c.params.map lit) text := by
  obtain ⟨refs, source, params, ordering, limit, offset, hrefs, hsource, hordering, hlimit,
    hoffset, rfl⟩ := Query.compileSelect_eq_ok h
  obtain ⟨text, htext, hfills⟩ := hq.inlineSource_fills d lit hsource
  have hfront : Token.AllQuiet
      (.word "SELECT " :: (Selection.columns refs).tokens ++ [.word " FROM "]) := by
    simp [(Selection.tokens_plain _).quiet]
  have hback : Token.AllQuiet (columnClause " ORDER BY " (ordering.map orderTokens) ++
      boundClause " LIMIT " limit ++ boundClause " OFFSET " offset) := by
    simp [(ordering_plain (hq.ordering_known hordering)).quiet, (limit_plain limit).quiet,
      (offset_plain offset).quiet]
  have hall := ((hfront.fills d).append hfills).append (hback.fills d)
  refine ⟨_, by
    simp only [Query.inlineSelect, hrefs, htext, hordering, inlineBound_eq d hlimit,
      inlineBound_eq d hoffset, ok_bind]; rfl, ?_⟩
  simpa [Statement.tokens] using hall

/-- So is a count. -/
theorem Query.Collected.inlineCount_fills {q : Query} (hq : q.Collected) {table : String}
    {c : Compiled} (h : q.compileCount table = .ok c) :
    ∃ text, q.inlineCount d.mark lit table = .ok text ∧
      Fills (Token.render d.mark c.statement.tokens) (c.params.map lit) text := by
  obtain ⟨source, params, hsource, rfl⟩ := Query.compileCount_eq_ok h
  obtain ⟨text, htext, hfills⟩ := hq.inlineSource_fills d lit hsource
  have hfront : Token.AllQuiet
      (.word "SELECT " :: Selection.count.tokens ++ [.word " FROM "]) := by
    simp [(Selection.tokens_plain _).quiet]
  have hall := (hfront.fills d).append hfills
  refine ⟨_, by simp only [Query.inlineCount, htext, ok_bind]; rfl, ?_⟩
  simpa [Statement.tokens, columnClause, boundClause] using hall

/-- A row of places is filled with the values of its fields. -/
theorem inlineCells_fills (fields : Fields) :
    Fills (Token.render d.mark (rowTokens fields.length)) (fields.values.map lit)
      (inlineCells lit fields) := by
  have hopen : Token.AllQuiet [.word "("] := by simp
  have hclose : Token.AllQuiet [.word ")"] := by simp
  have hplaces := placeholders_fills d lit fields.values
  have hall := ((hopen.fills d).append hplaces).append (hclose.fills d)
  simpa [rowTokens, inlineCells, Fields.values, Function.comp_def] using hall

/-- An insert is filled with the values of its rows, row by row. -/
theorem inlineInsertOf_fills {table : String} {keys : List Value} {columns : List Name}
    {path : Path} (hcolumns : compileKeys keys = .ok columns) (hpath : Path.read table = .ok path)
    {rows : List Fields} (hrows : ∀ fields ∈ rows, fields.length = columns.length) :
    ∃ text, inlineInsertOf d.mark table keys (rows.map (inlineCells lit)) = .ok text ∧
      Fills (Token.render d.mark (Statement.insert path columns rows.length).tokens)
        ((rows.flatMap Fields.values).map lit) text := by
  have hfront : Token.AllQuiet (.word "INSERT INTO " :: path.tokens ++ .word " (" ::
      Token.listed (columns.map fun n => [.name n]) ++ [.word ") VALUES "]) := by
    simp [path.tokens_plain.quiet, (names_plain columns).quiet]
  have hcells : Fills
      (Text.joinWith ", ".toList
        (rows.map fun fields => Token.render d.mark (rowTokens columns.length)))
      (rows.flatMap fun fields => fields.values.map lit)
      (Text.joinWith ", ".toList (rows.map (inlineCells lit))) := by
    apply Fills.joined (by decide)
    intro fields hfields
    rw [← hrows fields hfields]
    exact inlineCells_fills d lit fields
  have hall := (hfront.fills d).append hcells
  refine ⟨_, by simp only [inlineInsertOf, hcolumns, hpath, ok_bind]; rfl, ?_⟩
  rw [List.map_flatMap]
  simpa [Statement.tokens, Token.listed, Token.render_separated, Function.comp_def,
    List.map_const'] using hall

/-- An insert of one row is filled with the values of its fields. -/
theorem inlineInsert_fills {table : String} {data : Fields} {c : Compiled}
    (h : compileInsert table data = .ok c) :
    ∃ text, inlineInsert d.mark lit table data = .ok text ∧
      Fills (Token.render d.mark c.statement.tokens) (c.params.map lit) text := by
  obtain ⟨-, columns, path, hcolumns, hpath, rfl⟩ := compileInsert_eq_ok h
  have hwidth : ∀ fields ∈ [data], fields.length = columns.length := by
    intro fields hfields
    rw [List.mem_singleton.mp hfields, length_of_compileKeys hcolumns]
  have hall := inlineInsertOf_fills d lit hcolumns hpath hwidth
  rwa [List.flatMap_singleton] at hall

/-- Aligned rows are mappings as wide as there are keys, and their values are the parameters. -/
theorem rowFields_of_alignRows {keys : List Value} {position : Nat} {rows : List Value}
    {params : List Value} (hposition : position ≠ 0)
    (h : alignRows keys position rows = .ok params) :
    ∃ all, rows.mapM rowFields = .ok all ∧ (∀ fields ∈ all, fields.length = keys.length) ∧
      params = all.flatMap Fields.values := by
  induction rows generalizing position params with
  | nil =>
    cases h
    exact ⟨[], rfl, by simp, rfl⟩
  | cons row rest ih =>
    obtain ⟨fields, more, hfields, hkeys, hmore, rfl⟩ := alignRows_cons h
    obtain ⟨others, hothers, hwidth, rfl⟩ := ih (Nat.succ_ne_zero position) hmore
    have hrow : rowFields row = .ok fields := by rw [rowFields, hfields]
    have hlength := Value.length_eq_of_equalLists (hkeys hposition)
    rw [Fields.keys, List.length_map] at hlength
    refine ⟨fields :: others, ?_, ?_, rfl⟩
    · rw [List.mapM_cons, hrow, hothers]
      rfl
    · intro each heach
      rcases List.mem_cons.mp heach with rfl | heach
      · exact hlength
      · exact hwidth each heach

/-- An insert of rows is filled with their values, row by row. -/
theorem inlineInsertRows_fills {table : String} {rows : List Value} {c : Compiled}
    (h : compileInsertRows table rows = .ok c) :
    ∃ text, inlineInsertRows d.mark lit table rows = .ok text ∧
      Fills (Token.render d.mark c.statement.tokens) (c.params.map lit) text := by
  obtain ⟨first, rest, fields, columns, path, params, rfl, hfields, -, hparams, hcolumns, hpath,
    rfl⟩ := compileInsertRows_eq_ok h
  obtain ⟨own, more, hown, -, hmore, rfl⟩ := alignRows_cons hparams
  obtain rfl : fields = own := Option.some.inj (hfields.symm.trans hown)
  obtain ⟨others, hothers, hwidths, rfl⟩ := rowFields_of_alignRows Nat.one_ne_zero hmore
  have hcount := length_of_compileKeys hcolumns
  have hall : (first :: rest).mapM rowFields = .ok (fields :: others) := by
    rw [List.mapM_cons, rowFields, hfields, hothers]
    rfl
  have hwidth : ∀ each ∈ fields :: others, each.length = columns.length := by
    intro each heach
    rcases List.mem_cons.mp heach with rfl | heach
    · exact hcount.symm
    · rw [hwidths each heach, Fields.keys, List.length_map, hcount]
  have hrows := length_of_mapM hall
  obtain ⟨text, htext, hfills⟩ := inlineInsertOf_fills d lit hcolumns hpath hwidth
  refine ⟨text, ?_, ?_⟩
  · rw [inlineInsertRows, hall]
    exact htext
  · rw [hrows] at hfills
    exact hfills

/-- Fields whose keys name columns are assigned in order: each column gets its own value. -/
theorem inlineAssignments_eq {data : Fields} {columns : List Name}
    (h : compileKeys data.keys = .ok columns) :
    ∃ pairs : List (Name × Value), columns = pairs.map Prod.fst ∧
      data.values = pairs.map Prod.snd ∧
      data.mapM (inlineAssignment d.mark lit) = .ok (pairs.map fun pair =>
        Token.render d.mark [.name pair.1] ++ " = ".toList ++ lit pair.2) := by
  induction data generalizing columns with
  | nil =>
    cases h
    exact ⟨[], rfl, rfl, rfl⟩
  | cons field data ih =>
    obtain ⟨key, v⟩ := field
    have hforall := mapM_eq_ok_iff.mp h
    rw [Fields.keys, List.map_cons] at hforall
    obtain ⟨column, rest, hcolumn, hrest, rfl⟩ := List.forall₂_cons_left_iff.mp hforall
    obtain ⟨pairs, rfl, hvalues, htexts⟩ := ih (mapM_eq_ok_iff.mpr hrest)
    have htext : inlineAssignment d.mark lit (key, v) =
        .ok (Token.render d.mark [.name column] ++ " = ".toList ++ lit v) := by
      rw [inlineAssignment, hcolumn]
      rfl
    refine ⟨(column, v) :: pairs, rfl, ?_, ?_⟩
    · rw [Fields.values, List.map_cons, ← Fields.values, hvalues, List.map_cons]
    · rw [List.mapM_cons, htext, htexts]
      rfl

/-- Assignments are filled with the values of their fields. -/
theorem inlineAssignments_fills {data : Fields} {columns : List Name}
    (h : compileKeys data.keys = .ok columns) :
    ∃ texts, data.mapM (inlineAssignment d.mark lit) = .ok texts ∧
      Fills
        (Token.render d.mark
          (Token.listed (columns.map fun n => [.name n, .word " = ", .placeholder])))
        (data.values.map lit) (Text.joinWith ", ".toList texts) := by
  obtain ⟨pairs, rfl, hvalues, htexts⟩ := inlineAssignments_eq d lit h
  have hitems : Fills
      (Text.joinWith ", ".toList (pairs.map fun pair =>
        Token.render d.mark [.name pair.1, .word " = ", .placeholder]))
      (pairs.flatMap fun pair => [lit pair.2])
      (Text.joinWith ", ".toList (pairs.map fun pair =>
        Token.render d.mark [.name pair.1] ++ " = ".toList ++ lit pair.2)) := by
    apply Fills.joined (by decide)
    intro pair _
    have hfront : Token.AllQuiet [.name pair.1, .word " = "] := by simp
    have hall := (hfront.fills d).append (Fills.hole (lit pair.2))
    simpa using hall
  rw [← List.map_eq_flatMap] at hitems
  refine ⟨_, htexts, ?_⟩
  rw [hvalues, Token.listed, Token.render_separated, List.map_map, List.map_map, List.map_map]
  exact hitems

/-- A change is filled with its new values and then with the parameters of its conditions. -/
theorem Query.Collected.inlineUpdate_fills {q : Query} (hq : q.Collected) {table : String}
    {data : Fields} {c : Compiled} (h : q.compileUpdate table data = .ok c) :
    ∃ text, q.inlineUpdate d.mark lit table data = .ok text ∧
      Fills (Token.render d.mark c.statement.tokens) (c.params.map lit) text := by
  obtain ⟨-, -, columns, path, filters, params, limit, hcolumns, hpath, hconditions, hlimit, rfl⟩ :=
    Query.compileUpdate_eq_ok h
  obtain ⟨texts, htexts, hassignments⟩ := inlineAssignments_fills d lit hcolumns
  obtain ⟨text, htext, hfills⟩ := inlineConditions_fills d lit where_quiet hq.filters hconditions
  have hfront : Token.AllQuiet (.word "UPDATE " :: path.tokens ++ [.word " SET "]) := by
    simp [path.tokens_plain.quiet]
  have hback := (limit_plain limit).quiet.fills d
  have hall := (((hfront.fills d).append hassignments).append hfills).append hback
  refine ⟨_, by
    simp only [Query.inlineUpdate, htexts, hpath, htext, inlineBound_eq d hlimit, ok_bind]; rfl, ?_⟩
  rw [List.map_append]
  simpa [Statement.tokens] using hall

/-- A removal is filled with the parameters of its conditions. -/
theorem Query.Collected.inlineDelete_fills {q : Query} (hq : q.Collected) {table : String}
    {c : Compiled} (h : q.compileDelete table = .ok c) :
    ∃ text, q.inlineDelete d.mark lit table = .ok text ∧
      Fills (Token.render d.mark c.statement.tokens) (c.params.map lit) text := by
  obtain ⟨-, path, filters, params, limit, hpath, hconditions, hlimit, rfl⟩ :=
    Query.compileDelete_eq_ok h
  obtain ⟨text, htext, hfills⟩ := inlineConditions_fills d lit where_quiet hq.filters hconditions
  have hfront : Token.AllQuiet (.word "DELETE FROM " :: path.tokens) := by
    simp [path.tokens_plain.quiet]
  have hback := (limit_plain limit).quiet.fills d
  have hall := ((hfront.fills d).append hfills).append hback
  refine ⟨_, by
    simp only [Query.inlineDelete, hpath, htext, inlineBound_eq d hlimit, ok_bind]; rfl, ?_⟩
  simpa [Statement.tokens] using hall

/-- Every statement that compiles from a collected query is filled with its parameters. -/
theorem Query.Collected.inline_fills {q : Query} (hq : q.Collected) {command : Command}
    {c : Compiled} (h : command.compile q = .ok c) :
    ∃ text, command.inline d.mark lit q = .ok text ∧
      Fills (Token.render d.mark c.statement.tokens) (c.params.map lit) text := by
  cases command with
  | select table columns => exact hq.inlineSelect_fills d lit h
  | count table => exact hq.inlineCount_fills d lit h
  | insert table data => exact inlineInsert_fills d lit h
  | insertRows table rows => exact inlineInsertRows_fills d lit h
  | update table data => exact hq.inlineUpdate_fills d lit h
  | delete table => exact hq.inlineDelete_fills d lit h

end

/-- Whatever the driver, the clause calls and the call that compiles, there are as many question
marks in the text as parameters. Putting the parameters in their places, from the first one on and
in whatever way values are written, gives the text with every value in its own place. -/
theorem Command.fill_eq_inline (driver : String) (clauses : List Clause) (command : Command)
    (c : Compiled) (h : command.compile (Query.collect clauses) = .ok c) :
    (c.sql (Dialect.ofDriver driver)).toList.count '?' = c.params.length ∧
      ∀ lit : Value → List Char,
        command.inline (Dialect.ofDriver driver).mark lit (Query.collect clauses) =
          .ok (fill (c.sql (Dialect.ofDriver driver)).toList (c.params.map lit)) := by
  have hq := Query.collect_collected clauses
  have htext : (c.sql (Dialect.ofDriver driver)).toList =
      Token.render (Dialect.ofDriver driver).mark c.statement.tokens := by
    rw [Compiled.sql, Statement.sql, String.toList_ofList]
  rw [htext]
  constructor
  · obtain ⟨text, -, hfills⟩ := hq.inline_fills (Dialect.ofDriver driver) (fun _ => []) h
    rw [hfills.count, List.length_map]
  · intro lit
    obtain ⟨text, hinline, hfills⟩ := hq.inline_fills (Dialect.ofDriver driver) lit h
    rw [hinline, hfills.text]

/-- A change with values before and inside its conditions, one of them a question mark. -/
theorem Command.fill_eq_inline_update :
    ∃ c, (Command.update "users" [(.text "name", .text "?")]).compile (Query.collect
        [.filter "id" (.list [.int 1, .int 2]) "in", .orFilter "gone" .null "is"]) = .ok c ∧
      c.sql (Dialect.ofDriver "sqlite") =
        "UPDATE \"users\" SET \"name\" = ? WHERE \"id\" IN (?, ?) OR \"gone\" IS NULL" ∧
      c.params = [.text "?", .int 1, .int 2] ∧
      (c.sql (Dialect.ofDriver "sqlite")).toList.count '?' = c.params.length ∧
      ∀ lit : Value → List Char,
        (Command.update "users" [(.text "name", .text "?")]).inline
            (Dialect.ofDriver "sqlite").mark lit (Query.collect
              [.filter "id" (.list [.int 1, .int 2]) "in", .orFilter "gone" .null "is"]) =
          .ok (fill (c.sql (Dialect.ofDriver "sqlite")).toList (c.params.map lit)) := by
  have h : (Command.update "users" [(.text "name", .text "?")]).compile (Query.collect
      [.filter "id" (.list [.int 1, .int 2]) "in", .orFilter "gone" .null "is"]) = .ok
        ⟨.update ⟨⟨"users".toList, by decide⟩, []⟩ [⟨"name".toList, by decide⟩]
          [(.and, .among (.column ⟨⟨"id".toList, by decide⟩, []⟩) .isIn 2),
            (.or, .identity (.column ⟨⟨"gone".toList, by decide⟩, []⟩) .is .null)] none,
          [.text "?", .int 1, .int 2]⟩ := rfl
  exact ⟨_, h, by decide +kernel, rfl, Command.fill_eq_inline "sqlite" _ _ _ h⟩

end BoundSql
