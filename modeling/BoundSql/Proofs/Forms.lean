import BoundSql.Proofs.Compilation
import BoundSql.Proofs.Opening

/-!
# Requests of one form

Two requests are of one form when they differ in nothing but values, and an operator sees the same
of the values where it looks at them: how many members there are for membership, which literal it
is for identity. A request compiles to a statement that its form alone decides, with as many
parameters for all requests of the form, or it is refused with the same error.
-/

namespace BoundSql

variable {α : Type}

/-! ## Values of one form -/

/-- An operator sees the same of two values. Membership sees whether there are members and how many,
identity sees which literal it is, and a comparison sees nothing. -/
structure Operator.SameForm (op : Operator) (v w : Value) : Prop where
  /-- There are as many members, or neither value has any. -/
  membership : op.IsMembership → w.sequence?.map List.length = v.sequence?.map List.length
  /-- They are the same literal, or neither is one. -/
  identity : op.IsIdentity → ∀ literal : Literal, v = literal.value ↔ w = literal.value

/-- Two conditions differ in nothing but values that are of one form for their operator. -/
structure Condition.SameForm (c d : Condition) : Prop where
  /-- The connectives are the same. -/
  connective : d.connective = c.connective
  /-- So are the columns. -/
  column : d.column = c.column
  /-- So are the operators. -/
  operator : d.operator = c.operator
  /-- The operator, if it is one, sees the same of both values. -/
  value : ∀ op, Operator.read c.operator = .ok op → op.SameForm c.value d.value

/-- Two queries differ in nothing but the values of their conditions. -/
structure Query.SameForm (q r : Query) : Prop where
  /-- The conditions on rows are of one form. -/
  filters : List.Forall₂ Condition.SameForm q.filters r.filters
  /-- So are the conditions on groups. -/
  groupFilters : List.Forall₂ Condition.SameForm q.groupFilters r.groupFilters
  /-- All else is the same. -/
  rest : r = { q with filters := r.filters, groupFilters := r.groupFilters }

/-- Two rows have the same keys in the same order, or neither of them has keys. -/
def Value.SameKeys (row other : Value) : Prop :=
  other.fields?.map Fields.keys = row.fields?.map Fields.keys

/-- Two calls differ in nothing but the values of their data. -/
inductive Command.SameForm : Command → Command → Prop
  /-- A select has no data. -/
  | select (table : String) (columns : Columns) :
      SameForm (.select table columns) (.select table columns)
  /-- Nor has a count. -/
  | count (table : String) : SameForm (.count table) (.count table)
  /-- Inserts of a row with the same keys. -/
  | insert (table : String) {data other : Fields} (h : other.keys = data.keys) :
      SameForm (.insert table data) (.insert table other)
  /-- Inserts of as many rows, each with the same keys. -/
  | insertRows (table : String) {rows others : List Value}
      (h : List.Forall₂ Value.SameKeys rows others) :
      SameForm (.insertRows table rows) (.insertRows table others)
  /-- Changes of the same fields. -/
  | update (table : String) {data other : Fields} (h : other.keys = data.keys) :
      SameForm (.update table data) (.update table other)
  /-- A removal has no data. -/
  | delete (table : String) : SameForm (.delete table) (.delete table)

/-! ## Results of one form -/

open Act

/-- The same with as many parameters. -/
def SameOutline (a b : α × List Value) : Prop := b.1 = a.1 ∧ b.2.length = a.2.length

/-- The same statement with as many parameters. -/
def Compiled.SameOutline (c d : Compiled) : Prop :=
  d.statement = c.statement ∧ d.params.length = c.params.length

/-! ## Conditions -/

/-- Membership conditions of one form compile by the count of their members. -/
theorem Operator.SameForm.membership_matching {op : Operator} {v w : Value}
    (h : op.SameForm v w) (hkind : op.IsMembership) (column : ColumnRef) (name : String) :
    Matching BoundSql.SameOutline
      (match v.sequence? with
        | none => .error (.argument (.needsSequence op.text name))
        | some [] => .ok (.constant (op = .notIn), [])
        | some members => .ok (.among column op members.length, members) :
        Except Error (Predicate × List Value))
      (match w.sequence? with
        | none => .error (.argument (.needsSequence op.text name))
        | some [] => .ok (.constant (op = .notIn), [])
        | some members => .ok (.among column op members.length, members) :
        Except Error (Predicate × List Value)) := by
  have hcount := h.membership hkind
  cases hv : v.sequence? with
  | none =>
    rw [hv, Option.map_none, Option.map_eq_none_iff] at hcount
    rw [hcount]
    exact rfl
  | some members =>
    rw [hv, Option.map_some, Option.map_eq_some_iff] at hcount
    obtain ⟨others, hw, hlength⟩ := hcount
    rw [hw]
    cases members with
    | nil =>
      obtain rfl : others = [] := List.length_eq_zero_iff.mp hlength
      exact ⟨rfl, rfl⟩
    | cons member members =>
      cases others with
      | nil => cases hlength
      | cons other others => exact ⟨congrArg (Predicate.among column op) hlength, hlength⟩

/-- Identity conditions of one form compile by the literal that their value is. -/
theorem Operator.SameForm.identity_matching {op : Operator} {c d : Condition}
    (h : op.SameForm c.value d.value) (hkind : op.IsIdentity) (column : ColumnRef)
    (name : String) :
    Matching BoundSql.SameOutline
      (match c.value with
        | .null => .ok (.identity column op .null, [])
        | .bool b => .ok (.identity column op (.truth b), [])
        | _ => .error (.argument (.needsNullOrTruth op.text name)) :
        Except Error (Predicate × List Value))
      (match d.value with
        | .null => .ok (.identity column op .null, [])
        | .bool b => .ok (.identity column op (.truth b), [])
        | _ => .error (.argument (.needsNullOrTruth op.text name)) :
        Except Error (Predicate × List Value)) := by
  have hliteral := h.identity hkind
  split
  next hvalue =>
    rw [(hliteral .null).mp hvalue]
    exact ⟨rfl, rfl⟩
  next b hvalue =>
    rw [(hliteral (.truth b)).mp hvalue]
    exact ⟨rfl, rfl⟩
  next hnull htruth =>
    split
    next hvalue => exact absurd ((hliteral .null).mpr hvalue) hnull
    next b hvalue => exact absurd ((hliteral (.truth b)).mpr hvalue) (htruth b)
    next => exact rfl

/-- Conditions of one form compile to the same predicate. -/
theorem Condition.SameForm.compile_matching {c d : Condition} (h : c.SameForm d) :
    Matching BoundSql.SameOutline c.compile d.compile := by
  unfold Condition.compile
  rw [h.column, h.operator]
  refine Matching.after _ fun column _ => ?_
  have hread := h.value
  generalize Operator.read c.operator = read at hread ⊢
  refine Matching.after read fun op hop => ?_
  have hvalue := hread op hop
  cases op with
  | isIn => exact hvalue.membership_matching (.inl rfl) column c.column
  | notIn => exact hvalue.membership_matching (.inr rfl) column c.column
  | is => exact hvalue.identity_matching (.inl rfl) column c.column
  | isNot => exact hvalue.identity_matching (.inr rfl) column c.column
  | compare sign => exact ⟨rfl, rfl⟩
  | like => exact ⟨rfl, rfl⟩

/-- Lists of conditions of one form compile to the same predicates. -/
theorem compileConditions_matching {cs ds : List Condition}
    (h : List.Forall₂ Condition.SameForm cs ds) :
    Matching SameOutline (compileConditions cs) (compileConditions ds) := by
  induction h with
  | nil => exact ⟨rfl, rfl⟩
  | @cons c d cs ds hcd _ ih =>
    refine hcd.compile_matching.bind fun a b hab => ih.bind fun more others hmore => ?_
    obtain ⟨p, own⟩ := a
    obtain ⟨_, params⟩ := b
    obtain ⟨rfl, hown⟩ := hab
    refine ⟨?_, ?_⟩
    · dsimp only
      rw [hcd.connective, hmore.1]
    · dsimp only
      rw [List.length_append, List.length_append, hown, hmore.2]

/-! ## Rows -/

namespace Fields

variable {data other : Fields}

/-- Data with the same keys have as many values. -/
theorem length_values_of_keys (h : other.keys = data.keys) :
    other.values.length = data.values.length := by
  have hcount := congrArg List.length h
  rw [keys, keys, List.length_map, List.length_map] at hcount
  rw [values, values, List.length_map, List.length_map, hcount]

/-- Data without keys are empty. -/
theorem isEmpty_of_keys (h : other.keys = data.keys) : other.isEmpty = data.isEmpty := by
  cases data with
  | nil =>
    obtain rfl : other = [] := List.map_eq_nil_iff.mp h
    rfl
  | cons field data =>
    cases other with
    | nil => cases h
    | cons otherField other => rfl

end Fields

/-- Inserts of a row with the same keys compile alike. -/
theorem compileInsert_matching {data other : Fields} (h : other.keys = data.keys)
    (table : String) :
    Matching Compiled.SameOutline (compileInsert table data) (compileInsert table other) := by
  unfold compileInsert
  rw [h, Fields.isEmpty_of_keys h]
  refine Matching.guard ?_
  refine Matching.after _ fun columns _ => Matching.after _ fun path _ => ?_
  exact ⟨rfl, Fields.length_values_of_keys h⟩

/-- Rows with the same keys align alike. -/
theorem alignRows_matching {rows others : List Value} (h : List.Forall₂ Value.SameKeys rows others)
    (keys : List Value) (position : Nat) :
    Matching (fun params more => more.length = params.length) (alignRows keys position rows)
      (alignRows keys position others) := by
  induction h generalizing position with
  | nil => exact rfl
  | @cons row other rows others hkeys _ ih =>
    unfold Value.SameKeys at hkeys
    unfold alignRows
    cases hrow : row.fields? with
    | none =>
      rw [hrow, Option.map_none, Option.map_eq_none_iff] at hkeys
      rw [hkeys]
      exact rfl
    | some fields =>
      rw [hrow, Option.map_some, Option.map_eq_some_iff] at hkeys
      obtain ⟨otherFields, hother, hsame⟩ := hkeys
      have hlength := Fields.length_values_of_keys hsame
      rw [hother]
      dsimp only
      rw [hsame]
      split
      next => exact rfl
      next =>
        refine (ih (position + 1)).bind fun params more hmore => ?_
        show (otherFields.values ++ more).length = (fields.values ++ params).length
        rw [List.length_append, List.length_append, hlength, hmore]

/-- So do inserts of such rows compile. -/
theorem compileInsertRows_matching {rows others : List Value}
    (h : List.Forall₂ Value.SameKeys rows others) (table : String) :
    Matching Compiled.SameOutline (compileInsertRows table rows)
      (compileInsertRows table others) := by
  have hrows := h
  cases h with
  | nil => exact rfl
  | @cons row other rest more hkeys hrest =>
    have hcount : (other :: more).length = (row :: rest).length := hrows.length_eq.symm
    unfold Value.SameKeys at hkeys
    unfold compileInsertRows
    cases hrow : row.fields? with
    | none =>
      rw [hrow, Option.map_none, Option.map_eq_none_iff] at hkeys
      dsimp only
      rw [hrow, hkeys]
      exact rfl
    | some fields =>
      rw [hrow, Option.map_some, Option.map_eq_some_iff] at hkeys
      obtain ⟨otherFields, hother, hsame⟩ := hkeys
      dsimp only
      rw [hrow, hother]
      cases fields with
      | nil =>
        obtain rfl : otherFields = [] := List.map_eq_nil_iff.mp hsame
        exact rfl
      | cons field fields =>
        cases otherFields with
        | nil => cases hsame
        | cons otherField otherFields =>
          dsimp only
          rw [hsame, hcount]
          refine (alignRows_matching hrows _ 0).bind fun params others hparams => ?_
          refine Matching.after _ fun columns _ => Matching.after _ fun path _ => ?_
          exact ⟨rfl, hparams⟩

/-! ## Statements -/

namespace Query.SameForm

variable {q r : Query}

/-- Without conditions there are none in a query of the same form. -/
theorem isEmpty_eq (h : q.SameForm r) : r.filters.isEmpty = q.filters.isEmpty := by
  have hlength := h.filters.length_eq
  cases hq : q.filters <;> cases hr : r.filters <;> simp_all

/-- What stands between the table and the conditions on groups is the same. -/
theorem compileSource_matching (h : q.SameForm r) (table : String) :
    Matching BoundSql.SameOutline (q.compileSource table) (r.compileSource table) := by
  have hjoins : r.joins = q.joins := by rw [h.rest]
  have hgrouping : r.grouping = q.grouping := by rw [h.rest]
  unfold Query.compileSource
  rw [hjoins, hgrouping]
  refine Matching.after _ fun path _ => Matching.after _ fun joins _ => ?_
  refine (compileConditions_matching h.filters).bind fun filters others hfilters => ?_
  refine Matching.after _ fun grouping _ => ?_
  refine (compileConditions_matching h.groupFilters).bind fun groups otherGroups hgroups => ?_
  refine ⟨?_, ?_⟩
  · dsimp only
    rw [hfilters.1, hgroups.1]
  · dsimp only
    rw [List.length_append, List.length_append, hfilters.2, hgroups.2]

/-- Calls of one form compile queries of one form to the same statement. -/
theorem compile_matching (h : q.SameForm r) {command other : Command}
    (hcommand : command.SameForm other) :
    Matching Compiled.SameOutline (command.compile q) (other.compile r) := by
  have hordering : r.ordering = q.ordering := by rw [h.rest]
  have hlimit : r.limit = q.limit := by rw [h.rest]
  have hoffset : r.offset = q.offset := by rw [h.rest]
  cases hcommand with
  | select table columns =>
    show Matching _ (q.compileSelect table columns) (r.compileSelect table columns)
    unfold Query.compileSelect
    rw [hordering, hlimit, hoffset]
    refine Matching.after _ fun refs _ => ?_
    refine (h.compileSource_matching table).bind fun source otherSource hsource => ?_
    refine Matching.after _ fun ordering _ => Matching.after _ fun limit _ => ?_
    refine Matching.after _ fun offset _ => ⟨?_, hsource.2⟩
    dsimp only
    rw [hsource.1]
  | count table =>
    show Matching _ (q.compileCount table) (r.compileCount table)
    refine (h.compileSource_matching table).bind fun source otherSource hsource => ⟨?_, hsource.2⟩
    dsimp only
    rw [hsource.1]
  | insert table hkeys => exact compileInsert_matching hkeys table
  | insertRows table hrows => exact compileInsertRows_matching hrows table
  | @update table data other hkeys =>
    show Matching _ (q.compileUpdate table data) (r.compileUpdate table other)
    unfold Query.compileUpdate
    rw [hkeys, Fields.isEmpty_of_keys hkeys, h.isEmpty_eq, hlimit]
    refine Matching.guard (Matching.guard ?_)
    refine Matching.after _ fun columns _ => Matching.after _ fun path _ => ?_
    refine (compileConditions_matching h.filters).bind fun filters others hfilters => ?_
    refine Matching.after _ fun limit _ => ⟨?_, ?_⟩
    · dsimp only
      rw [hfilters.1]
    · dsimp only
      rw [List.length_append, List.length_append, Fields.length_values_of_keys hkeys, hfilters.2]
  | delete table =>
    show Matching _ (q.compileDelete table) (r.compileDelete table)
    unfold Query.compileDelete
    rw [h.isEmpty_eq, hlimit]
    refine Matching.guard ?_
    refine Matching.after _ fun path _ => ?_
    refine (compileConditions_matching h.filters).bind fun filters others hfilters => ?_
    refine Matching.after _ fun limit _ => ⟨?_, hfilters.2⟩
    dsimp only
    rw [hfilters.1]

end Query.SameForm

/-- Values have no influence on the text. Two requests that differ in nothing but values of one form
compile to the same text with as many parameters, or they are refused with the same error, whatever
the driver. -/
theorem Command.text_of_sameForm {q r : Query} (hquery : q.SameForm r) {command other : Command}
    (hcommand : command.SameForm other) (driver : String) :
    let text (c : Compiled) := (c.sql (Dialect.ofDriver driver), c.params.length)
    (other.compile r).map text = (command.compile q).map text := by
  intro text
  refine ((hquery.compile_matching hcommand).imp fun c d hcd => ?_).map_eq
  refine Prod.ext ?_ hcd.2
  dsimp only [text]
  rw [Compiled.sql, Compiled.sql, hcd.1]

/-- Conditions with the same words are of one form if their operator sees the same of the values. -/
theorem Condition.sameForm_of_read {operator : String} {op : Operator} {v w : Value}
    (hread : Operator.read operator = .ok op) (h : op.SameForm v w) (connective : Connective)
    (column : String) :
    SameForm ⟨connective, column, operator, v⟩ ⟨connective, column, operator, w⟩ where
  connective := rfl
  column := rfl
  operator := rfl
  value other hother := by
    rw [hread] at hother
    cases hother
    exact h

/-- Values that look like statements leave a change as it is with harmless ones. -/
theorem Command.text_of_sameForm_update :
    let q : Query := { filters := [⟨.and, "id", "in", .list [.int 1, .int 2]⟩,
      ⟨.or, "name", "like", .text "Ann"⟩, ⟨.and, "gone", "is", .null⟩] }
    let r : Query := { filters := [⟨.and, "id", "in", .tuple [.text "1) OR (1=1", .null]⟩,
      ⟨.or, "name", "like", .text "'; DROP TABLE users"⟩, ⟨.and, "gone", "is", .null⟩] }
    let command := Command.update "users" [(.text "age", .int 30)]
    let other := Command.update "users" [(.text "age", .text "0, admin = 1")]
    let text (c : Compiled) := (c.sql (Dialect.ofDriver "mysql"), c.params.length)
    q.SameForm r ∧ command.SameForm other ∧ (command.compile q).isOk = true ∧
      (other.compile r).map text = (command.compile q).map text := by
  intro q r command other text
  have hin : Operator.read "in" = .ok .isIn := rfl
  have hlike : Operator.read "like" = .ok .like := rfl
  have his : Operator.read "is" = .ok .is := rfl
  have hids : Operator.SameForm .isIn (.list [.int 1, .int 2]) (.tuple [.text "1) OR (1=1", .null]) :=
    ⟨fun _ => rfl, by simp [Operator.IsIdentity]⟩
  have hname : Operator.SameForm .like (.text "Ann") (.text "'; DROP TABLE users") :=
    ⟨by simp [Operator.IsMembership], by simp [Operator.IsIdentity]⟩
  have hgone : Operator.SameForm .is .null .null :=
    ⟨by simp [Operator.IsMembership], fun _ _ => Iff.rfl⟩
  have hquery : q.SameForm r := ⟨.cons (Condition.sameForm_of_read hin hids _ _)
    (.cons (Condition.sameForm_of_read hlike hname _ _)
      (.cons (Condition.sameForm_of_read his hgone _ _) .nil)), .nil, rfl⟩
  have hcommand : command.SameForm other := .update "users" rfl
  exact ⟨hquery, hcommand, rfl, Command.text_of_sameForm hquery hcommand "mysql"⟩

end BoundSql
