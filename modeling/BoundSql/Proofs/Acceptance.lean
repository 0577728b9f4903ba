import BoundSql.Proofs.Compilation
import BoundSql.Proofs.Digits
import BoundSql.Proofs.Trimming

/-!
# What is compiled and what is refused

Every part of a query is valid or not on its own: a name by the characters in it, a condition by its
column, its operator and the class of its value, rows by their keys. A call compiles when all the
parts are valid that its statement is made of and the bounds on its rows can be written.
-/

namespace BoundSql

open Text

/-! ## Names -/

/-- A safe name with blanks around it. -/
def Name.Admits (s : List Char) : Prop := isSafeName (trim s) = true

/-- Safe names with dots in between, each with blanks around it. -/
def Path.Admits (s : List Char) : Prop := ∀ piece ∈ splitAt '.' (trim s), Name.Admits piece

/-- A star, a path, or a path with a dot and a star behind it. -/
inductive ColumnRef.Admits (s : List Char) : Prop
  /-- A star. -/
  | star (h : trim s = ['*'])
  /-- A path. -/
  | column (h : Path.Admits s)
  /-- A path with a dot and a star behind it. -/
  | allOf {table : List Char} (h : trim s = table ++ ['.', '*']) (htable : Path.Admits table)

/-- A path with no label, an empty one or a name. -/
structure TableRef.Admits (table : String) (label : Option String) : Prop where
  /-- The table is a path. -/
  table : Path.Admits table.toList
  /-- A label that is there and not empty is a name. -/
  label : ∀ name ∈ label, name ≠ "" → Name.Admits name.toList

theorem Name.read_isOk_iff (s : String) : (Name.read s).isOk = true ↔ Name.Admits s.toList := by
  unfold read ofChars? Admits
  by_cases h : isSafeName (trim s.toList) = true <;> simp [h]

theorem readSegment_isOk_iff (whole segment : List Char) :
    (readSegment whole segment).isOk = true ↔ Name.Admits segment := by
  unfold readSegment Name.ofChars? Name.Admits
  by_cases h : isSafeName (trim segment) = true <;> simp [h]

theorem readSegments_isOk_iff (whole : List Char) (segments : List (List Char)) :
    (readSegments whole segments).isOk = true ↔ ∀ piece ∈ segments, Name.Admits piece := by
  induction segments with
  | nil => exact ⟨fun _ => List.forall_mem_nil _, fun _ => rfl⟩
  | cons segment rest ih =>
    rw [readSegments, List.forall_mem_cons, ← ih, ← readSegment_isOk_iff whole]
    exact bind_isOk_iff fun name _ => by rw [bind_isOk_of fun _ => rfl]

/-- There is a name for each segment. -/
theorem length_of_readSegments {whole : List Char} {segments : List (List Char)}
    {names : List Name} (h : readSegments whole segments = .ok names) :
    names.length = segments.length := by
  induction segments generalizing names with
  | nil =>
    cases h
    rfl
  | cons segment rest ih =>
    obtain ⟨name, -, h⟩ := bind_eq_ok_iff.mp h
    obtain ⟨more, hmore, h⟩ := bind_eq_ok_iff.mp h
    cases h
    rw [List.length_cons, List.length_cons, ih hmore]

theorem Path.readChars_isOk_iff (s : List Char) :
    (Path.readChars s).isOk = true ↔ Path.Admits s := by
  unfold readChars Admits
  dsimp only
  split
  next hempty =>
    -- no characters are one empty piece, which is no name
    rw [List.isEmpty_iff.mp hempty]
    refine ⟨nofun, fun h => ?_⟩
    have hnone := h [] List.mem_cons_self
    cases hnone
  next =>
    rw [← readSegments_isOk_iff (trim s), bind_isOk_iff (P := True), and_true]
    intro names hnames
    have hlength := length_of_readSegments hnames
    have hpieces := List.length_pos_iff.mpr (splitAt_ne_nil '.' (trim s))
    cases names with
    | cons head tail => exact ⟨fun _ => trivial, fun _ => rfl⟩
    | nil =>
      rw [← hlength] at hpieces
      cases hpieces

theorem beforeDotStar?_eq_some_iff {s table : List Char} :
    beforeDotStar? s = some table ↔ s = table ++ ['.', '*'] := by
  unfold beforeDotStar?
  constructor
  · intro h
    split at h
    next rest hreverse =>
      cases h
      rw [← List.reverse_reverse s, hreverse]
      simp
    next => cases h
  · rintro rfl
    simp

/-- A piece behind the first one of a text that ends with a dot and a star is the star. -/
theorem Text.splitAt_dotStar (table : List Char) :
    ∃ piece more, splitAt '.' (table ++ ['.', '*']) = piece :: more ∧ ['*'] ∈ more := by
  induction table with
  | nil => exact ⟨_, _, rfl, List.mem_cons_self⟩
  | cons c rest ih =>
    obtain ⟨piece, more, hsplit, hstar⟩ := ih
    rw [List.cons_append, splitAt, hsplit]
    split
    · exact ⟨[], piece :: more, rfl, List.mem_cons_of_mem piece hstar⟩
    · exact ⟨c :: piece, more, rfl, hstar⟩

/-- A column is no path if there is a star behind its last dot. -/
theorem Path.not_admits_star {s table : List Char} (h : trim s = table ++ ['.', '*']) :
    ¬ Path.Admits s := by
  intro hs
  obtain ⟨piece, more, hsplit, hstar⟩ := splitAt_dotStar table
  have hname := hs ['*'] (h ▸ hsplit ▸ List.mem_cons_of_mem piece hstar)
  cases hname

theorem ColumnRef.read_isOk_iff (s : String) :
    (ColumnRef.read s).isOk = true ↔ ColumnRef.Admits s.toList := by
  unfold read
  dsimp only
  split
  next hstar => exact ⟨fun _ => .star hstar, fun _ => rfl⟩
  next hstar =>
    split
    next table htable =>
      have hsplit := beforeDotStar?_eq_some_iff.mp htable
      rw [map_isOk, Path.readChars_isOk_iff]
      refine ⟨.allOf hsplit, fun h => ?_⟩
      cases h with
      | star h => exact absurd h hstar
      | column h => exact absurd h (Path.not_admits_star hsplit)
      | allOf h hadmits =>
        rw [List.append_cancel_right (hsplit.symm.trans h)]
        exact hadmits
    next hnone =>
      rw [map_isOk, Path.readChars_isOk_iff, Path.Admits, trim_trim]
      refine ⟨.column, fun h => ?_⟩
      cases h with
      | star h => exact absurd h hstar
      | column h => exact h
      | allOf h hadmits =>
        rw [beforeDotStar?_eq_some_iff.mpr h] at hnone
        cases hnone

theorem TableRef.read_isOk_iff (table : String) (label : Option String) :
    (TableRef.read table label).isOk = true ↔ TableRef.Admits table label := by
  have hlabel : (TableRef.read table label).isOk = true ↔
      (Path.read table).isOk = true ∧ ∀ name ∈ label, name ≠ "" → Name.Admits name.toList := by
    refine bind_isOk_iff fun path _ => ?_
    cases label with
    | none => exact ⟨fun _ => nofun, fun _ => rfl⟩
    | some name =>
      dsimp only
      split
      next hempty => exact ⟨fun _ other hother hne => absurd (Option.some.inj hother ▸ hempty) hne,
        fun _ => rfl⟩
      next hne =>
        rw [bind_isOk_of fun _ => rfl, Name.read_isOk_iff]
        simp [hne]
  rw [hlabel, Path.read, Path.readChars_isOk_iff]
  exact ⟨fun h => ⟨h.1, h.2⟩, fun h => ⟨h.table, h.label⟩⟩

/-! ## Conditions -/

theorem Operator.mem_all (op : Operator) : op ∈ all := by
  cases op with
  | compare sign => cases sign <;> decide
  | _ => decide

/-- Different operators are written differently. -/
theorem Operator.text_inj {op other : Operator} (h : op.text = other.text) : op = other := by
  have hall : ∀ op ∈ all, ∀ other ∈ all, op.text = other.text → op = other := by decide +kernel
  exact hall op op.mem_all other other.mem_all h

/-- An operator is read from every text that is its own in normal form. -/
theorem Operator.read_eq_ok_iff {s : String} {op : Operator} :
    Operator.read s = .ok op ↔ op.text = normalize s := by
  have hfind : all.find? (fun op => op.text == normalize s) = some op ↔ op.text = normalize s := by
    constructor
    · intro h
      have htext := List.find?_some h
      simpa using htext
    · intro h
      cases hfound : all.find? fun op => op.text == normalize s with
      | none =>
        have hnone := List.find?_eq_none.mp hfound op op.mem_all
        simp [h] at hnone
      | some found =>
        have htext := List.find?_some hfound
        have hnormal : found.text = normalize s := by simpa using htext
        rw [text_inj (hnormal.trans h.symm)]
  rw [← hfind, read]
  cases all.find? fun op => op.text == normalize s <;> simp

/-- The column is admitted, the operator is one of the list, and the value is of the class that the
operator asks for. -/
structure Condition.Valid (c : Condition) : Prop where
  /-- The column is admitted. -/
  column : ColumnRef.Admits c.column.toList
  /-- The operator is one of the list. -/
  operator : Operator.normalize c.operator ∈ Operator.all.map Operator.text
  /-- Membership is asked of a list, a tuple or a set. -/
  membership : Operator.normalize c.operator ∈ ["IN", "NOT IN"] →
    ∃ members, c.value = .list members ∨ c.value = .tuple members ∨ c.value = .set members
  /-- Identity is asked of null or a truth value. -/
  identity : Operator.normalize c.operator ∈ ["IS", "IS NOT"] →
    c.value = .null ∨ ∃ b, c.value = .bool b

/-- What is written like one of two operators is one of them. -/
theorem Operator.text_mem_pair (op first second : Operator) :
    op.text ∈ [first.text, second.text] ↔ op = first ∨ op = second := by
  rw [List.mem_pair]
  exact or_congr ⟨text_inj, congrArg text⟩ ⟨text_inj, congrArg text⟩

theorem Operator.read_isOk_iff (s : String) :
    (Operator.read s).isOk = true ↔ normalize s ∈ all.map text := by
  rw [isOk_iff, List.mem_map]
  exact ⟨fun ⟨op, h⟩ => ⟨op, op.mem_all, read_eq_ok_iff.mp h⟩,
    fun ⟨op, _, h⟩ => ⟨op, read_eq_ok_iff.mpr h⟩⟩

namespace Condition

variable {c : Condition} {op : Operator}

/-- Membership is asked of a value that has members. -/
theorem sequence?_isSome_iff {v : Value} :
    v.sequence?.isSome = true ↔ ∃ members, v = .list members ∨ v = .tuple members ∨
      v = .set members := by
  cases v <;> simp [Value.sequence?]

/-- Once the operator is read, the column and the class of the value are left to check. -/
theorem valid_iff (hop : Operator.read c.operator = .ok op) :
    c.Valid ↔ ColumnRef.Admits c.column.toList ∧
      (op.IsMembership → c.value.sequence?.isSome = true) ∧
      (op.IsIdentity → c.value = .null ∨ ∃ b, c.value = .bool b) := by
  have hmembership : Operator.normalize c.operator ∈ ["IN", "NOT IN"] ↔ op.IsMembership := by
    rw [← Operator.read_eq_ok_iff.mp hop]
    exact Operator.text_mem_pair op .isIn .notIn
  have hidentity : Operator.normalize c.operator ∈ ["IS", "IS NOT"] ↔ op.IsIdentity := by
    rw [← Operator.read_eq_ok_iff.mp hop]
    exact Operator.text_mem_pair op .is .isNot
  constructor
  · intro h
    exact ⟨h.column, fun hm => sequence?_isSome_iff.mpr (h.membership (hmembership.mpr hm)),
      fun hi => h.identity (hidentity.mpr hi)⟩
  · rintro ⟨hcolumn, hm, hi⟩
    exact ⟨hcolumn, (Operator.read_isOk_iff _).mp (isOk_iff.mpr ⟨op, hop⟩),
      fun h => sequence?_isSome_iff.mp (hm (hmembership.mp h)), fun h => hi (hidentity.mp h)⟩

/-- A condition compiles when it is valid. -/
theorem compile_isOk_iff (c : Condition) : c.compile.isOk = true ↔ c.Valid := by
  cases hop : Operator.read c.operator with
  | error e =>
    have hread : (Operator.read c.operator).isOk = false := by rw [hop]; rfl
    refine ⟨fun h => ?_, fun h => ?_⟩
    · obtain ⟨p, h⟩ := isOk_iff.mp h
      obtain ⟨column, -, h⟩ := bind_eq_ok_iff.mp h
      rw [hop] at h
      cases h
    · rw [(Operator.read_isOk_iff _).mpr h.operator] at hread
      cases hread
  | ok op =>
    rw [valid_iff hop, ← ColumnRef.read_isOk_iff, compile, hop]
    refine bind_isOk_iff fun column _ => ?_
    rw [ok_bind]
    cases op with
    | isIn | notIn =>
      rcases c.value.sequence? with _ | _ | ⟨v, rest⟩ <;>
        simp [Operator.IsMembership, Operator.IsIdentity]
    | is | isNot =>
      cases c.value <;>
        simp [Operator.IsMembership, Operator.IsIdentity]
    | compare sign | like =>
      simp [Operator.IsMembership, Operator.IsIdentity]

end Condition

theorem compileConditions_isOk_iff (conditions : List Condition) :
    (compileConditions conditions).isOk = true ↔ ∀ c ∈ conditions, c.Valid := by
  induction conditions with
  | nil => exact ⟨fun _ => List.forall_mem_nil _, fun _ => rfl⟩
  | cons c rest ih =>
    rw [compileConditions, List.forall_mem_cons, ← ih, ← c.compile_isOk_iff]
    exact bind_isOk_iff fun compiled _ => by rw [bind_isOk_of fun _ => rfl]

/-! ## Clauses -/

/-- The table with its label and both columns are admitted. -/
structure Join.Valid (j : Join) : Prop where
  /-- The table with its label. -/
  table : TableRef.Admits j.table j.label
  /-- The column on the left. -/
  left : ColumnRef.Admits j.left.toList
  /-- The column on the right. -/
  right : ColumnRef.Admits j.right.toList

theorem Join.compile_isOk_iff (j : Join) : j.compile.isOk = true ↔ j.Valid := by
  have hparts : j.compile.isOk = true ↔ (TableRef.read j.table j.label).isOk = true ∧
      (ColumnRef.read j.left).isOk = true ∧ (ColumnRef.read j.right).isOk = true :=
    bind_isOk_iff fun table _ => bind_isOk_iff fun left _ => by rw [bind_isOk_of fun _ => rfl]
  rw [hparts, TableRef.read_isOk_iff, ColumnRef.read_isOk_iff, ColumnRef.read_isOk_iff]
  exact ⟨fun h => ⟨h.1, h.2.1, h.2.2⟩, fun h => ⟨h.table, h.left, h.right⟩⟩

theorem OrderTerm.compile_isOk_iff (t : OrderTerm) :
    t.compile.isOk = true ↔ ColumnRef.Admits t.column.toList := by
  rw [compile, bind_isOk_of fun _ => rfl, ColumnRef.read_isOk_iff]

/-- Every column that is not blank is admitted. -/
def Columns.Valid (columns : Columns) : Prop :=
  ∀ name ∈ columns.names, strip name ≠ "" → ColumnRef.Admits name.toList

theorem Columns.compile_isOk_iff (columns : Columns) :
    columns.compile.isOk = true ↔ columns.Valid := by
  simp only [compile, mapM_isOk_iff, List.mem_filter, ColumnRef.read_isOk_iff, Valid,
    decide_eq_true_eq, and_imp]

/-- What a select and a count are made of is valid: the table, the joins, the conditions on rows and
on groups and the columns to group by. -/
structure Query.ValidSource (q : Query) (table : String) : Prop where
  /-- The table is a path. -/
  table : Path.Admits table.toList
  /-- The joined tables are valid. -/
  joins : ∀ j ∈ q.joins, j.Valid
  /-- The conditions on rows are valid. -/
  filters : ∀ c ∈ q.filters, c.Valid
  /-- The columns to group by are admitted. -/
  grouping : ∀ column ∈ q.grouping, ColumnRef.Admits column.toList
  /-- The conditions on groups are valid. -/
  groupFilters : ∀ c ∈ q.groupFilters, c.Valid

theorem Query.compileSource_isOk_iff (q : Query) (table : String) :
    (q.compileSource table).isOk = true ↔ q.ValidSource table := by
  have hparts : (q.compileSource table).isOk = true ↔ (Path.read table).isOk = true ∧
      (q.joins.mapM Join.compile).isOk = true ∧ (compileConditions q.filters).isOk = true ∧
      (q.grouping.mapM ColumnRef.read).isOk = true ∧
      (compileConditions q.groupFilters).isOk = true :=
    bind_isOk_iff fun _ _ => bind_isOk_iff fun _ _ => bind_isOk_iff fun _ _ =>
      bind_isOk_iff fun _ _ => by rw [bind_isOk_of fun _ => rfl]
  simp only [hparts, Path.read, Path.readChars_isOk_iff, mapM_isOk_iff, Join.compile_isOk_iff,
    compileConditions_isOk_iff, ColumnRef.read_isOk_iff]
  exact ⟨fun ⟨htable, hjoins, hfilters, hgrouping, hgroups⟩ =>
    ⟨htable, hjoins, hfilters, hgrouping, hgroups⟩,
    fun h => ⟨h.table, h.joins, h.filters, h.grouping, h.groupFilters⟩⟩

/-- An integer; truth values are integers. -/
def Value.IsInteger : Value → Prop
  | .int _ => True
  | .bool _ => True
  | _ => False

/-- A bound on rows has no more digits than a numeral may have. -/
def BoundFits (bound : Option Value) : Prop :=
  ∀ n : ℤ, bound = some (.int n) → n.natAbs < 10 ^ digitLimit

/-- The bound of a value that is read as an integer fits by the integer. -/
theorem compileBound_isOk_of {v : Value} {n : ℤ} (h : v.toInteger = .ok n) :
    (compileBound (some v)).isOk = true ↔ n.natAbs < 10 ^ digitLimit := by
  rw [compileBound, h, ok_bind, bind_isOk_of fun _ => pure_isOk _, Value.numeralOf_isOk_iff]

theorem compileBound_isOk_iff {bound : Option Value} (hbound : ∀ v ∈ bound, v.IsInteger) :
    (compileBound bound).isOk = true ↔ BoundFits bound := by
  cases bound with
  | none => exact ⟨fun _ => nofun, fun _ => rfl⟩
  | some v =>
    have hv := hbound v rfl
    cases v with
    | int n =>
      rw [compileBound_isOk_of rfl]
      unfold BoundFits
      simp only [Option.some.injEq, Value.int.injEq, forall_eq']
    | bool b =>
      have hsmall : (if b then 1 else 0 : ℤ).natAbs < 10 ^ digitLimit := by
        have hone : 1 < 10 ^ digitLimit := Nat.one_lt_pow (by decide) (by decide)
        cases b
        · exact Nat.zero_lt_of_lt hone
        · exact hone
      rw [compileBound_isOk_of rfl]
      exact ⟨fun _ => nofun, fun _ => hsmall⟩
    | _ => cases hv

/-! ## Calls -/

/-- The keys of data are safe names once they are written as texts. -/
def ValidKeys (keys : List Value) : Prop := ∀ key ∈ keys, Name.Admits key.plain.toList

theorem compileKeys_isOk_iff (keys : List Value) :
    (compileKeys keys).isOk = true ↔ ValidKeys keys := by
  simp only [compileKeys, mapM_isOk_iff, Name.read_isOk_iff, ValidKeys]

/-- Rows share the given keys: each is a mapping whose keys are equal to them in the same order. -/
def ShareKeys (keys : List Value) (rows : List Value) : Prop :=
  ∀ row ∈ rows, ∃ fields, row.fields? = some fields ∧ Value.equalLists fields.keys keys = true

theorem alignRows_isOk_iff {keys : List Value} {position : ℕ} (hposition : position ≠ 0)
    (rows : List Value) : (alignRows keys position rows).isOk = true ↔ ShareKeys keys rows := by
  induction rows generalizing position with
  | nil => exact ⟨fun _ => nofun, fun _ => rfl⟩
  | cons row rest ih =>
    have hrest := ih (Nat.succ_ne_zero position)
    rw [alignRows, ShareKeys, List.forall_mem_cons]
    dsimp only
    cases hfields : row.fields? with
    | none =>
      refine ⟨nofun, fun h => ?_⟩
      obtain ⟨⟨fields, hsome, -⟩, -⟩ := h
      cases hsome
    | some fields =>
      dsimp only
      rw [guard_isOk_iff, bind_isOk_of fun _ => rfl, hrest]
      simp [hposition, ShareKeys]

/-- The first row gives the keys, so only the rows behind it are compared with them. -/
theorem alignRows_first_isOk_iff {first : Value} {fields : Fields}
    (hfields : first.fields? = some fields) (rest : List Value) :
    (alignRows fields.keys 0 (first :: rest)).isOk = true ↔ ShareKeys fields.keys rest := by
  rw [alignRows]
  dsimp only
  rw [hfields]
  dsimp only
  rw [guard_isOk_iff, bind_isOk_of fun _ => rfl, alignRows_isOk_iff (by decide)]
  simp

/-- The parts of the statement of a call are valid. -/
def Command.ValidParts (q : Query) : Command → Prop
  | .select table columns =>
    columns.Valid ∧ q.ValidSource table ∧ ∀ t ∈ q.ordering, ColumnRef.Admits t.column.toList
  | .count table => q.ValidSource table
  | .insert table data => data ≠ [] ∧ ValidKeys data.keys ∧ Path.Admits table.toList
  | .insertRows table rows =>
    ∃ first rest fields, rows = first :: rest ∧ first.fields? = some fields ∧ fields ≠ [] ∧
      ShareKeys fields.keys rest ∧ ValidKeys fields.keys ∧ Path.Admits table.toList
  | .update table data =>
    data ≠ [] ∧ q.filters ≠ [] ∧ ValidKeys data.keys ∧ Path.Admits table.toList ∧
      ∀ c ∈ q.filters, c.Valid
  | .delete table => q.filters ≠ [] ∧ Path.Admits table.toList ∧ ∀ c ∈ q.filters, c.Valid

/-- The bounds that the statement of a call writes can be written. -/
def Command.BoundsFit (q : Query) : Command → Prop
  | .select _ _ => BoundFits q.limit ∧ BoundFits q.offset
  | .update _ _ => BoundFits q.limit
  | .delete _ => BoundFits q.limit
  | _ => True

theorem Query.compileSelect_isOk_iff {q : Query} (hlimit : ∀ v ∈ q.limit, v.IsInteger)
    (hoffset : ∀ v ∈ q.offset, v.IsInteger) (table : String) (columns : Columns) :
    (q.compileSelect table columns).isOk = true ↔
      (columns.Valid ∧ q.ValidSource table ∧
        ∀ t ∈ q.ordering, ColumnRef.Admits t.column.toList) ∧
      BoundFits q.limit ∧ BoundFits q.offset := by
  have hparts : (q.compileSelect table columns).isOk = true ↔ columns.compile.isOk = true ∧
      (q.compileSource table).isOk = true ∧ (q.ordering.mapM OrderTerm.compile).isOk = true ∧
      (compileBound q.limit).isOk = true ∧ (compileBound q.offset).isOk = true :=
    bind_isOk_iff fun _ _ => bind_isOk_iff fun _ _ => bind_isOk_iff fun _ _ =>
      bind_isOk_iff fun _ _ => by rw [bind_isOk_of fun _ => rfl]
  rw [hparts, Columns.compile_isOk_iff, compileSource_isOk_iff, mapM_isOk_iff,
    compileBound_isOk_iff hlimit, compileBound_isOk_iff hoffset]
  simp only [OrderTerm.compile_isOk_iff, and_assoc]

theorem Query.compileCount_isOk_iff (q : Query) (table : String) :
    (q.compileCount table).isOk = true ↔ q.ValidSource table := by
  rw [compileCount, bind_isOk_of fun _ => rfl, compileSource_isOk_iff]

theorem compileInsert_isOk_iff (table : String) (data : Fields) :
    (compileInsert table data).isOk = true ↔
      data ≠ [] ∧ ValidKeys data.keys ∧ Path.Admits table.toList := by
  rw [compileInsert, guard_isOk_iff, ← compileKeys_isOk_iff, ← Path.readChars_isOk_iff]
  refine and_congr (by simp) (bind_isOk_iff fun _ _ => ?_)
  rw [bind_isOk_of fun _ => rfl, Path.read]

theorem compileInsertRows_isOk_iff (table : String) (rows : List Value) :
    (compileInsertRows table rows).isOk = true ↔
      ∃ first rest fields, rows = first :: rest ∧ first.fields? = some fields ∧ fields ≠ [] ∧
        ShareKeys fields.keys rest ∧ ValidKeys fields.keys ∧ Path.Admits table.toList := by
  constructor
  · intro h
    obtain ⟨c, hc⟩ := isOk_iff.mp h
    obtain ⟨first, rest, fields, columns, path, params, rfl, hfields, hne, hparams, hcolumns,
      hpath, -⟩ := compileInsertRows_eq_ok hc
    exact ⟨first, rest, fields, rfl, hfields, hne,
      (alignRows_first_isOk_iff hfields rest).mp (isOk_iff.mpr ⟨params, hparams⟩),
      (compileKeys_isOk_iff _).mp (isOk_iff.mpr ⟨columns, hcolumns⟩),
      (Path.readChars_isOk_iff _).mp (isOk_iff.mpr ⟨path, hpath⟩)⟩
  · rintro ⟨first, rest, fields, rfl, hfields, hne, hshare, hkeys, htable⟩
    obtain ⟨f, more, rfl⟩ := List.exists_cons_of_ne_nil hne
    simp only [compileInsertRows, hfields]
    refine (bind_isOk_iff fun _ _ => bind_isOk_iff fun _ _ => ?_).mpr
      ⟨(alignRows_first_isOk_iff hfields rest).mpr hshare, (compileKeys_isOk_iff _).mpr hkeys,
        (Path.readChars_isOk_iff _).mpr htable⟩
    rw [bind_isOk_of fun _ => rfl, Path.read]

theorem Query.compileUpdate_isOk_iff {q : Query} (hlimit : ∀ v ∈ q.limit, v.IsInteger)
    (table : String) (data : Fields) :
    (q.compileUpdate table data).isOk = true ↔
      (data ≠ [] ∧ q.filters ≠ [] ∧ ValidKeys data.keys ∧ Path.Admits table.toList ∧
        ∀ c ∈ q.filters, c.Valid) ∧ BoundFits q.limit := by
  have hparts : (q.compileUpdate table data).isOk = true ↔ ¬ data.isEmpty = true ∧
      ¬ q.filters.isEmpty = true ∧ (compileKeys data.keys).isOk = true ∧
      (Path.read table).isOk = true ∧ (compileConditions q.filters).isOk = true ∧
      (compileBound q.limit).isOk = true := by
    rw [compileUpdate, guard_isOk_iff, guard_isOk_iff]
    refine and_congr Iff.rfl (and_congr Iff.rfl ?_)
    exact bind_isOk_iff fun _ _ => bind_isOk_iff fun _ _ => bind_isOk_iff fun _ _ => by
      rw [bind_isOk_of fun _ => rfl]
  rw [hparts, compileKeys_isOk_iff, Path.read, Path.readChars_isOk_iff,
    compileConditions_isOk_iff, compileBound_isOk_iff hlimit]
  simp only [List.isEmpty_iff, and_assoc, ne_eq]

theorem Query.compileDelete_isOk_iff {q : Query} (hlimit : ∀ v ∈ q.limit, v.IsInteger)
    (table : String) :
    (q.compileDelete table).isOk = true ↔
      (q.filters ≠ [] ∧ Path.Admits table.toList ∧ ∀ c ∈ q.filters, c.Valid) ∧
        BoundFits q.limit := by
  have hparts : (q.compileDelete table).isOk = true ↔ ¬ q.filters.isEmpty = true ∧
      (Path.read table).isOk = true ∧ (compileConditions q.filters).isOk = true ∧
      (compileBound q.limit).isOk = true := by
    rw [compileDelete, guard_isOk_iff]
    refine and_congr Iff.rfl ?_
    exact bind_isOk_iff fun _ _ => bind_isOk_iff fun _ _ => by rw [bind_isOk_of fun _ => rfl]
  rw [hparts, Path.read, Path.readChars_isOk_iff, compileConditions_isOk_iff,
    compileBound_isOk_iff hlimit]
  simp only [List.isEmpty_iff, and_assoc, ne_eq]

/-- Whatever the driver, a call whose bounds are integers compiles exactly when the parts of its
statement are valid and its bounds can be written. -/
theorem Command.answer_isOk_iff (driver : String) (q : Query) (command : Command)
    (hlimit : ∀ v ∈ q.limit, v.IsInteger) (hoffset : ∀ v ∈ q.offset, v.IsInteger) :
    (command.answer driver q).isOk = true ↔ command.ValidParts q ∧ command.BoundsFit q := by
  rw [answer, map_isOk]
  cases command with
  | select table columns => exact q.compileSelect_isOk_iff hlimit hoffset table columns
  | count table => exact (q.compileCount_isOk_iff table).trans (and_iff_left trivial).symm
  | insert table data => exact (compileInsert_isOk_iff table data).trans (and_iff_left trivial).symm
  | insertRows table rows =>
    exact (compileInsertRows_isOk_iff table rows).trans (and_iff_left trivial).symm
  | update table data => exact q.compileUpdate_isOk_iff hlimit table data
  | delete table => exact q.compileDelete_isOk_iff hlimit table

/-- A select with a label, a test for null and a window is valid, and it compiles. -/
theorem Command.answer_isOk_iff_window :
    let q : Query :=
      { filters := [⟨.and, " u.name ", "is  not", .null⟩]
        joins := [⟨.inner, "app . users", some "u", "u.id", .compare .equal, "teams.owner"⟩]
        limit := some (.int 5)
        offset := some (.bool true) }
    let command := Command.select "teams" (.many [.text "u.*", .text " "])
    (∀ v ∈ q.limit, v.IsInteger) ∧ (∀ v ∈ q.offset, v.IsInteger) ∧
      (command.answer "MySQL" q).isOk = true ∧ command.ValidParts q ∧ command.BoundsFit q := by
  intro q command
  have hlimit : ∀ v ∈ q.limit, v.IsInteger := by
    rintro v ⟨⟩
    trivial
  have hoffset : ∀ v ∈ q.offset, v.IsInteger := by
    rintro v ⟨⟩
    trivial
  have hok : (command.answer "MySQL" q).isOk = true := by decide +kernel
  exact ⟨hlimit, hoffset, hok, (Command.answer_isOk_iff "MySQL" q command hlimit hoffset).mp hok⟩

/-- A bound with one digit too many is refused, whatever else is valid. -/
theorem Command.answer_unwritable_bound :
    let q : Query := { limit := some (.int (10 ^ digitLimit)) }
    let command := Command.select "users" .all
    (∀ v ∈ q.limit, v.IsInteger) ∧ (∀ v ∈ q.offset, v.IsInteger) ∧ command.ValidParts q ∧
      (command.answer "sqlite" q).isOk = false := by
  intro q command
  have hlimit : ∀ v ∈ q.limit, v.IsInteger := by
    rintro v ⟨⟩
    trivial
  have hoffset : ∀ v ∈ q.offset, v.IsInteger := nofun
  have hcolumns : Columns.all.Valid := (Columns.compile_isOk_iff .all).mp rfl
  have hsource : q.ValidSource "users" := (q.compileSource_isOk_iff "users").mp rfl
  refine ⟨hlimit, hoffset, ⟨hcolumns, hsource, nofun⟩, ?_⟩
  rw [answer, map_isOk, ← Bool.not_eq_true, compile, q.compileSelect_isOk_iff hlimit hoffset]
  rintro ⟨-, hbound, -⟩
  have hsmall := hbound (10 ^ digitLimit) rfl
  have hten : (10 : ℤ).natAbs = 10 := rfl
  rw [Int.natAbs_pow, hten] at hsmall
  exact lt_irrefl _ hsmall

end BoundSql
