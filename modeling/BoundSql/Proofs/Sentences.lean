import BoundSql.Proofs.Grammar

/-!
# Statements are sentences

Every part of a regular statement is a sentence of the grammar's rule for that part, so the text of
the statement is a sentence of the whole grammar. Together with what clause calls leave in a query
this covers every text that a builder can compile, whatever texts and values its caller gave.
-/

namespace BoundSql

namespace Grammar

open scoped Computability

variable {mark : Char}

/-! ## Names and numerals -/

/-- A name character is a letter or a digit of the grammar. -/
theorem char_mem {c : Char} (h : isNameChar c = true) : [c] ∈ letter + digit := by
  unfold isNameChar isNameStart at h
  simp only [Bool.or_eq_true, Bool.and_eq_true, decide_eq_true_eq, beq_iff_eq] at h
  rcases h with ((h | h) | h) | h
  · exact .inl (single_mem (.inl h))
  · exact .inl (single_mem (.inr (.inl h)))
  · exact .inl (single_mem (.inr (.inr h)))
  · exact .inr (single_mem h)

/-- What a name begins with is a letter of the grammar. -/
theorem start_mem {c : Char} (h : isNameStart c = true) : [c] ∈ letter := by
  unfold isNameStart at h
  simp only [Bool.or_eq_true, Bool.and_eq_true, decide_eq_true_eq, beq_iff_eq] at h
  rcases h with (h | h) | h
  · exact single_mem (.inl h)
  · exact single_mem (.inr (.inl h))
  · exact single_mem (.inr (.inr h))

/-- Safe names are words of letters and digits that begin with a letter. -/
theorem letters_mem (n : Name) : n.letters ∈ letter * (letter + digit)∗ := by
  obtain ⟨letters, safe⟩ := n
  cases letters with
  | nil => cases safe
  | cons c rest =>
    obtain ⟨hstart, hrest⟩ := Bool.and_eq_true_iff.mp safe
    have hmore : rest ∈ (letter + digit)∗ :=
      mem_kstar_of_chars fun d hd => char_mem (List.all_eq_true.mp hrest d hd)
    exact Language.append_mem_mul (start_mem hstart) hmore

/-- A sentence between quote marks is quoted. -/
theorem quoted_mem {l : Language Char} {s : List Char} (h : s ∈ l) :
    mark :: s ++ [mark] ∈ quoted mark l := by
  have hmark : [mark] ∈ single (· = mark) := single_mem rfl
  exact Language.append_mem_mul (Language.append_mem_mul hmark h) hmark

theorem name_mem (n : Name) : Token.chars mark (.name n) ∈ name mark :=
  quoted_mem (letters_mem n)

/-- A digit that is not zero begins a numeral. -/
theorem leading_mem {d : Nat} (hpos : 1 ≤ d) (hle : d ≤ 9) :
    [digitChar d] ∈ single fun c => '1' ≤ c ∧ c ≤ '9' := by
  apply single_mem
  interval_cases d <;> decide

/-- The digits of a natural are a numeral. -/
theorem decimalDigits_mem (n : Nat) : decimalDigits n ∈ numeral := by
  by_cases hn : n = 0
  · rw [hn, decimalDigits_zero]
    exact .inl (word_mem "0")
  · obtain ⟨d, rest, heq, hpos, hle⟩ := decimalDigits_head hn
    have hrest : rest ∈ digit∗ := by
      apply mem_kstar_of_chars
      intro c hc
      have hmem : c ∈ decimalDigits n := heq ▸ List.mem_cons_of_mem (digitChar d) hc
      have hdigit := isAsciiDigit_of_mem_decimalDigits hmem
      unfold isAsciiDigit at hdigit
      exact single_mem (by simpa using hdigit)
    rw [heq]
    exact .inr (Language.append_mem_mul (leading_mem hpos hle) hrest)

/-- An integer that is not negative is written as a numeral. -/
theorem integerText_mem {n : Int} (h : 0 ≤ n) : integerText n ∈ numeral := by
  obtain ⟨k, rfl⟩ := Int.eq_ofNat_of_zero_le h
  exact decimalDigits_mem k

/-! ## Columns, tables and conditions -/

theorem path_mem (p : Path) : Token.render mark p.tokens ∈ path mark := by
  apply separated_mem
  · simp [Path.segments]
  · intro group hgroup
    obtain ⟨n, -, rfl⟩ := List.mem_map.mp hgroup
    rw [Token.render_cons, Token.render_nil, List.append_nil]
    exact name_mem n

theorem column_mem (c : ColumnRef) : Token.render mark c.tokens ∈ column mark := by
  cases c with
  | star => exact .inl (.inl (word_mem "*"))
  | column p => exact .inl (.inr (path_mem p))
  | allOf p =>
    simp only [ColumnRef.tokens, Token.render_append, Token.render_cons, Token.render_nil,
      Token.chars_word, List.append_nil]
    rw [column, mul_assoc]
    exact .inr (Language.append_mem_mul (path_mem p)
      (Language.append_mem_mul (word_mem ".") (word_mem "*")))

theorem table_mem (t : TableRef) : Token.render mark t.tokens ∈ table mark := by
  obtain ⟨p, label⟩ := t
  rw [TableRef.tokens, Token.render_append]
  refine Language.append_mem_mul (path_mem p) ?_
  cases label with
  | none => exact nil_mem_opt
  | some label =>
    simp only [Token.render_cons, Token.render_nil, Token.chars_word, List.append_nil]
    exact mem_opt (Language.append_mem_mul (word_mem " AS ") (name_mem label))

/-- At least one placeholder makes a list of places. -/
theorem placeholders_mem {count : Nat} (h : 0 < count) :
    Token.render mark (Token.placeholders count) ∈ listOf ", " placeholder := by
  apply separated_mem
  · simp only [ne_eq, List.replicate_eq_nil_iff]
    omega
  · intro group hgroup
    rw [List.eq_of_mem_replicate hgroup]
    exact word_mem "?"

theorem sign_mem (sign : Comparison) : sign.text ∈ signs := by
  cases sign <;> decide

/-- A comparison is written with a sign or asks for a match with a pattern. -/
theorem comparison_mem {op : Operator} (h : op.IsComparison) : op.text ∈ "LIKE" :: signs := by
  cases op with
  | compare sign => exact List.mem_cons_of_mem "LIKE" (sign_mem sign)
  | like => exact List.mem_cons_self
  | isIn => exact absurd (.inl rfl) h.1
  | notIn => exact absurd (.inr rfl) h.1
  | is => exact absurd (.inl rfl) h.2
  | isNot => exact absurd (.inr rfl) h.2

theorem membership_mem {op : Operator} (h : op.IsMembership) : op.text ∈ ["IN", "NOT IN"] := by
  rcases h with rfl | rfl <;> decide

theorem identity_mem {op : Operator} (h : op.IsIdentity) : op.text ∈ ["IS", "IS NOT"] := by
  rcases h with rfl | rfl <;> decide

theorem literal_mem (l : Literal) : l.text ∈ ["NULL", "TRUE", "FALSE"] := by
  cases l with
  | null => decide
  | truth b => cases b <;> decide

/-- A regular condition is one of the four forms. -/
theorem condition_mem {p : Predicate} (h : p.Regular) :
    Token.render mark p.tokens ∈ condition mark := by
  cases p <;> simp only [Predicate.tokens, Token.render_append, Token.render_cons,
    Token.render_nil, Token.chars_word, Token.chars_placeholder, List.append_nil,
    List.append_assoc] <;>
    simp only [condition, mul_assoc]
  case compare c op =>
    have hop := oneOf_mem (comparison_mem h)
    refine .inl (.inl (.inl ?_))
    exact Language.append_mem_mul (column_mem c) <| Language.append_mem_mul (word_mem " ") <|
      Language.append_mem_mul hop <| Language.append_mem_mul (word_mem " ") (word_mem "?")
  case among c op size =>
    have hop := oneOf_mem (membership_mem h.1)
    refine .inl (.inl (.inr ?_))
    exact Language.append_mem_mul (column_mem c) <| Language.append_mem_mul (word_mem " ") <|
      Language.append_mem_mul hop <| Language.append_mem_mul (word_mem " (") <|
      Language.append_mem_mul (placeholders_mem h.2) (word_mem ")")
  case identity c op literal =>
    have hop := oneOf_mem (identity_mem h)
    refine .inl (.inr ?_)
    exact Language.append_mem_mul (column_mem c) <| Language.append_mem_mul (word_mem " ") <|
      Language.append_mem_mul hop <| Language.append_mem_mul (word_mem " ")
        (oneOf_mem (literal_mem literal))
  case constant holds =>
    refine .inr (oneOf_mem ?_)
    cases holds <;> decide

/-- A fixed connective is written with a fixed word. -/
theorem connective_mem {c : Connective} (h : c.Known) :
    c.token.chars mark ∈ oneOf ["AND", "OR"] := by
  cases c with
  | and => exact oneOf_mem (by decide)
  | or => exact oneOf_mem (by decide)
  | other word => cases h

/-- Regular conditions behind a keyword are a clause of the grammar, or nothing. -/
theorem conditions_mem {keyword : String} {cs : Conditions} (hne : cs ≠ []) (h : cs.Regular) :
    Token.render mark (cs.clause (.word keyword)) ∈ conditions mark keyword := by
  cases cs with
  | nil => exact absurd rfl hne
  | cons first more =>
    have hfirst := h first List.mem_cons_self
    have hmore : Token.render mark (Conditions.moreTokens more) ∈
        (word " " * oneOf ["AND", "OR"] * word " " * condition mark)∗ := by
      rw [Conditions.moreTokens, Token.render_flatMap]
      apply flatMap_mem_kstar
      intro c hc
      have hc := h c (List.mem_cons_of_mem first hc)
      simp only [Token.render_cons, mul_assoc]
      exact Language.append_mem_mul (word_mem " ") <|
        Language.append_mem_mul (connective_mem hc.1) <|
        Language.append_mem_mul (word_mem " ") (condition_mem hc.2)
    simp only [Conditions.clause, List.isEmpty_cons, Bool.false_eq_true, if_false,
      Conditions.tokens, Token.render_append, Token.render_cons]
    rw [conditions, mul_assoc, mul_assoc, mul_assoc]
    exact Language.append_mem_mul (word_mem " ") <| Language.append_mem_mul (word_mem keyword) <|
      Language.append_mem_mul (word_mem " ") <|
      Language.append_mem_mul (condition_mem hfirst.2) hmore

theorem opt_conditions_mem {keyword : String} {cs : Conditions} (h : cs.Regular) :
    Token.render mark (cs.clause (.word keyword)) ∈ opt (conditions mark keyword) := by
  by_cases hne : cs = []
  · rw [hne]
    exact nil_mem_opt
  · exact mem_opt (conditions_mem hne h)

/-! ## Sources and statements -/

/-- A fixed join kind is written with a fixed word. -/
theorem kind_mem {k : JoinKind} (h : k.Known) :
    k.token.chars mark ∈ oneOf ["INNER", "LEFT", "RIGHT"] := by
  cases k with
  | inner => exact oneOf_mem (by decide)
  | left => exact oneOf_mem (by decide)
  | right => exact oneOf_mem (by decide)
  | other word => cases h

/-- A fixed join sign is a comparison sign. -/
theorem joinSign_mem {s : JoinSign} (h : s.Known) : s.token.chars mark ∈ oneOf signs := by
  cases s with
  | compare sign => exact oneOf_mem (sign_mem sign)
  | other word => cases h

/-- A fixed direction is written with a fixed word. -/
theorem direction_mem {d : Direction} (h : d.Known) :
    d.token.chars mark ∈ oneOf ["ASC", "DESC"] := by
  cases d with
  | ascending => exact oneOf_mem (by decide)
  | descending => exact oneOf_mem (by decide)
  | other word => cases h

theorem join_mem {j : JoinClause} (h : j.Regular) :
    Token.render mark j.tokens ∈ join mark := by
  simp only [JoinClause.tokens, Token.render_append, Token.render_cons, Token.render_nil,
    Token.chars_word, List.append_nil, List.append_assoc]
  simp only [join, mul_assoc]
  exact Language.append_mem_mul (word_mem " ") <| Language.append_mem_mul (kind_mem h.1) <|
    Language.append_mem_mul (word_mem " JOIN ") <|
    Language.append_mem_mul (table_mem j.table) <| Language.append_mem_mul (word_mem " ON ") <|
    Language.append_mem_mul (column_mem j.left) <| Language.append_mem_mul (word_mem " ") <|
    Language.append_mem_mul (joinSign_mem h.2) <| Language.append_mem_mul (word_mem " ")
      (column_mem j.right)

/-- Groups of tokens behind a keyword are a clause, or nothing. -/
theorem columnClause_mem {keyword : String} {item : Language Char} {groups : List (List Token)}
    (h : ∀ group ∈ groups, Token.render mark group ∈ item) :
    Token.render mark (columnClause keyword groups) ∈ opt (word keyword * listOf ", " item) := by
  cases groups with
  | nil => exact nil_mem_opt
  | cons first rest =>
    exact mem_opt (Language.append_mem_mul (word_mem keyword)
      (separated_mem (List.cons_ne_nil first rest) h))

/-- Columns with commas in between. -/
theorem columns_mem {refs : List ColumnRef} (hne : refs ≠ []) :
    Token.render mark (Token.listed (refs.map ColumnRef.tokens)) ∈ listOf ", " (column mark) := by
  apply separated_mem
  · simpa using hne
  · intro group hgroup
    obtain ⟨c, -, rfl⟩ := List.mem_map.mp hgroup
    exact column_mem c

/-- A regular source is a sentence. -/
theorem source_mem {s : Source} (h : s.Regular) : Token.render mark s.tokens ∈ source mark := by
  have hjoins : Token.render mark (s.joins.flatMap JoinClause.tokens) ∈ (join mark)∗ := by
    rw [Token.render_flatMap]
    exact flatMap_mem_kstar fun j hj => join_mem (h.joins j hj)
  have hgrouping : Token.render mark
      (columnClause " GROUP BY " (s.grouping.map ColumnRef.tokens)) ∈
        opt (word " GROUP BY " * listOf ", " (column mark)) := by
    apply columnClause_mem
    intro group hgroup
    obtain ⟨c, -, rfl⟩ := List.mem_map.mp hgroup
    exact column_mem c
  simp only [Source.tokens, Token.render_append]
  exact Language.append_mem_mul (Language.append_mem_mul (Language.append_mem_mul
    (Language.append_mem_mul (path_mem s.table) hjoins) (opt_conditions_mem h.filters))
    hgrouping) (opt_conditions_mem h.groupFilters)

/-- A natural bound behind its keyword is a clause, no bound is nothing. -/
theorem bound_mem {keyword : String} {bound : Option Int} (h : ∀ n ∈ bound, 0 ≤ n) :
    Token.render mark (boundClause keyword bound) ∈ opt (word keyword * numeral) := by
  cases bound with
  | none => exact nil_mem_opt
  | some n =>
    simp only [boundClause, Token.render_cons, Token.render_nil, Token.chars_word,
      Token.chars_integer, List.append_nil]
    exact mem_opt (Language.append_mem_mul (word_mem keyword) (integerText_mem (h n rfl)))

/-- Selected columns are a list of columns; none are written as a star. -/
theorem selection_mem (refs : List ColumnRef) :
    Token.render mark (Selection.columns refs).tokens ∈ listOf ", " (column mark) := by
  cases refs with
  | nil =>
    have hstar : [ColumnRef.star] ≠ [] := List.cons_ne_nil _ _
    exact columns_mem hstar
  | cons first rest => exact columns_mem (List.cons_ne_nil first rest)

/-- Keys with fixed directions are an ordering, or nothing. -/
theorem ordering_mem {terms : List (ColumnRef × Direction)} (h : ∀ t ∈ terms, t.2.Known) :
    Token.render mark (columnClause " ORDER BY " (terms.map orderTokens)) ∈
      opt (ordering mark) := by
  apply columnClause_mem
  intro group hgroup
  obtain ⟨t, ht, rfl⟩ := List.mem_map.mp hgroup
  simp only [orderTokens, Token.render_append, Token.render_cons, Token.render_nil,
    Token.chars_word, List.append_nil, mul_assoc]
  exact Language.append_mem_mul (column_mem t.1) <|
    Language.append_mem_mul (word_mem " ") (direction_mem (h t ht))

/-- Rows of places have as many places as there are columns. -/
theorem row_mem {width : Nat} (h : 0 < width) : Token.render mark (rowTokens width) ∈ row := by
  simp only [rowTokens, Token.render_append, Token.render_cons, Token.render_nil, Token.chars_word,
    List.append_nil, List.append_assoc]
  rw [row, mul_assoc]
  exact Language.append_mem_mul (word_mem "(") <|
    Language.append_mem_mul (placeholders_mem h) (word_mem ")")

/-- Columns of rows that are added. -/
theorem names_mem {columns : List Name} (hne : columns ≠ []) :
    Token.render mark (Token.listed (columns.map fun n => [.name n])) ∈
      listOf ", " (name mark) := by
  apply separated_mem
  · simpa using hne
  · intro group hgroup
    obtain ⟨n, -, rfl⟩ := List.mem_map.mp hgroup
    rw [Token.render_cons, Token.render_nil, List.append_nil]
    exact name_mem n

/-- Columns with the places of their new values. -/
theorem assignments_mem {columns : List Name} (hne : columns ≠ []) :
    Token.render mark (Token.listed (columns.map fun n => [.name n, .word " = ", .placeholder])) ∈
      listOf ", " (assignment mark) := by
  apply separated_mem
  · simpa using hne
  · intro group hgroup
    obtain ⟨n, -, rfl⟩ := List.mem_map.mp hgroup
    simp only [Token.render_cons, Token.render_nil, Token.chars_word, Token.chars_placeholder,
      List.append_nil]
    rw [assignment, mul_assoc]
    exact Language.append_mem_mul (name_mem n)
      (Language.append_mem_mul (word_mem " = ") (word_mem "?"))

/-- Equal rows with commas in between. -/
theorem rows_mem {width rows : Nat} (hwidth : 0 < width) (hrows : 0 < rows) :
    Token.render mark (Token.listed (List.replicate rows (rowTokens width))) ∈ listOf ", " row := by
  apply separated_mem
  · simp only [ne_eq, List.replicate_eq_nil_iff]
    omega
  · intro group hgroup
    rw [List.eq_of_mem_replicate hgroup]
    exact row_mem hwidth

/-- Every regular statement is a sentence. -/
theorem statement_mem {s : Statement} (h : s.Regular) :
    Token.render mark s.tokens ∈ statement mark := by
  cases s <;> simp only [Statement.tokens, Token.render_append, Token.render_cons, Token.chars_word,
    List.append_assoc, List.cons_append]
  case select selection src terms top skipped =>
    cases selection with
    | columns refs =>
      obtain ⟨hsource, hterms, htop, hskipped⟩ := h
      refine .inl (.inl (.inl (.inl ?_)))
      simp only [select, mul_assoc]
      exact Language.append_mem_mul (word_mem "SELECT ") <|
        Language.append_mem_mul (selection_mem refs) <|
        Language.append_mem_mul (word_mem " FROM ") <|
        Language.append_mem_mul (source_mem hsource) <|
        Language.append_mem_mul (ordering_mem hterms) <|
        Language.append_mem_mul (bound_mem htop) (bound_mem hskipped)
    | count =>
      obtain ⟨hsource, rfl, rfl, rfl⟩ := h
      refine .inl (.inl (.inl (.inr ?_)))
      simp only [Selection.tokens, columnClause, boundClause, List.map_nil, List.isEmpty_nil,
        if_true, Token.render_cons, Token.render_nil, Token.chars_word, List.append_nil,
        List.append_assoc]
      simp only [count, mul_assoc]
      exact Language.append_mem_mul (word_mem "SELECT ") <|
        Language.append_mem_mul (word_mem "COUNT(*) AS ") <|
        Language.append_mem_mul (quoted_mem (word_mem "cnt")) <|
        Language.append_mem_mul (word_mem " FROM ") (source_mem hsource)
  case insert target columns rows =>
    have hwidth := List.length_pos_iff.mpr h.1
    refine .inl (.inl (.inr ?_))
    simp only [insert, mul_assoc]
    exact Language.append_mem_mul (word_mem "INSERT INTO ") <|
      Language.append_mem_mul (path_mem target) <| Language.append_mem_mul (word_mem " (") <|
      Language.append_mem_mul (names_mem h.1) <| Language.append_mem_mul (word_mem ") VALUES ") <|
      rows_mem hwidth h.2
  case update target columns filters top =>
    obtain ⟨hcolumns, hne, hfilters, htop⟩ := h
    refine .inl (.inr ?_)
    simp only [update, mul_assoc]
    exact Language.append_mem_mul (word_mem "UPDATE ") <|
      Language.append_mem_mul (path_mem target) <| Language.append_mem_mul (word_mem " SET ") <|
      Language.append_mem_mul (assignments_mem hcolumns) <|
      Language.append_mem_mul (conditions_mem hne hfilters) (bound_mem htop)
  case delete target filters top =>
    obtain ⟨hne, hfilters, htop⟩ := h
    refine .inr ?_
    simp only [delete, mul_assoc]
    exact Language.append_mem_mul (word_mem "DELETE FROM ") <|
      Language.append_mem_mul (path_mem target) <|
      Language.append_mem_mul (conditions_mem hne hfilters) (bound_mem htop)

end Grammar

/-- Whatever the driver, the clause calls and the call that compiles, the text that is compiled is
a sentence of the grammar with the dialect's quote mark around names. -/
theorem Command.sql_mem_statement (driver : String) (clauses : List Clause) (command : Command)
    (c : Compiled) (h : command.compile (Query.collect clauses) = .ok c) :
    (c.sql (Dialect.ofDriver driver)).toList ∈
      Grammar.statement (Dialect.ofDriver driver).mark := by
  have hregular := (Query.collect_collected clauses).compile_regular h
  rw [Compiled.sql, Statement.sql, String.toList_ofList]
  exact Grammar.statement_mem hregular

/-- A value that looks like a statement stays outside the text, which is a sentence. -/
theorem Command.sql_mem_statement_delete :
    ∃ c, (Command.delete " users ").compile
        (Query.collect [.filter "name" (.text "0; DROP TABLE users") "like"]) = .ok c ∧
      c.sql (Dialect.ofDriver "SQLite") = "DELETE FROM \"users\" WHERE \"name\" LIKE ?" ∧
      (c.sql (Dialect.ofDriver "SQLite")).toList ∈
        Grammar.statement (Dialect.ofDriver "SQLite").mark := by
  have h : (Command.delete " users ").compile
      (Query.collect [.filter "name" (.text "0; DROP TABLE users") "like"]) = .ok
        ⟨.delete ⟨⟨"users".toList, by decide⟩, []⟩
          [(.and, .compare (.column ⟨⟨"name".toList, by decide⟩, []⟩) .like)] none,
          [.text "0; DROP TABLE users"]⟩ := rfl
  exact ⟨_, h, by decide +kernel, Command.sql_mem_statement _ _ _ _ h⟩

end BoundSql
