import BoundSql.Proofs.Results
import BoundSql.Session.Builder

/-!
# Queries that clause calls collect

A query is collected by clause calls one after another, and a call that is refused leaves it as it
was. Whatever texts and values the calls are given, the connectives, join kinds, join signs and
directions of the query are among the fixed ones, and its window consists of naturals.
-/

namespace BoundSql

/-- A clause call on a builder. -/
inductive Clause where
  /-- A condition on rows that must hold too. -/
  | filter (column : String) (value : Value) (operator : String)
  /-- A condition on rows that may hold instead. -/
  | orFilter (column : String) (value : Value) (operator : String)
  /-- A condition on groups that must hold too. -/
  | groupFilter (column : String) (value : Value) (operator : String)
  /-- A condition on groups that may hold instead. -/
  | orGroupFilter (column : String) (value : Value) (operator : String)
  /-- A joined table. -/
  | join (table condition kind : String) (label : Option String)
  /-- Columns to group by. -/
  | groupBy (columns : Columns)
  /-- A key to order by. -/
  | orderBy (column direction : String)
  /-- The greatest count of rows. -/
  | limit (count : Value)
  /-- The count of rows to pass over. -/
  | offset (count : Value)
  /-- The window of one page among all rows. -/
  | page (total number perPage : Int)

/-- What a clause call makes of a query, unless it refuses its arguments. -/
def Clause.apply (q : Query) : Clause → Except Error Query
  | .filter column value operator => .ok (q.filter .and column value operator)
  | .orFilter column value operator => .ok (q.filter .or column value operator)
  | .groupFilter column value operator => .ok (q.filterGroups .and column value operator)
  | .orGroupFilter column value operator => .ok (q.filterGroups .or column value operator)
  | .join table condition kind label => q.join table condition kind label
  | .groupBy columns => .ok (q.groupBy columns)
  | .orderBy column direction => q.orderBy column direction
  | .limit count => q.limitTo count
  | .offset count => q.skip count
  | .page total number perPage => do
    let pagination ← Pagination.of total (max 1 number) (max 1 perPage)
    return { q with
      limit := some (.int pagination.perPage)
      offset := some (.int pagination.offset) }

/-- The query after a clause call; a refused call leaves it as it was. -/
def Query.take (q : Query) (clause : Clause) : Query :=
  match clause.apply q with
  | .ok changed => changed
  | .error _ => q

/-- The query that clause calls collect. -/
def Query.collect (clauses : List Clause) : Query := clauses.foldl Query.take .empty

/-- The connective is one of the fixed ones. -/
def Connective.Known : Connective → Prop
  | .other _ => False
  | _ => True

@[simp] theorem Connective.and_known : Connective.and.Known := trivial

@[simp] theorem Connective.or_known : Connective.or.Known := trivial

/-- The join kind is one of the fixed ones. -/
def JoinKind.Known : JoinKind → Prop
  | .other _ => False
  | _ => True

/-- The join sign is a comparison sign. -/
def JoinSign.Known : JoinSign → Prop
  | .other _ => False
  | _ => True

@[simp] theorem JoinSign.compare_known (sign : Comparison) : (JoinSign.compare sign).Known :=
  trivial

/-- The direction is one of the fixed ones. -/
def Direction.Known : Direction → Prop
  | .other _ => False
  | _ => True

/-- The value is a natural. -/
def Value.IsCount (v : Value) : Prop := ∃ n : Nat, v = .int n

/-- The words and the window of a query are those that clause calls leave there. -/
structure Query.Collected (q : Query) : Prop where
  /-- Conditions on rows are tied by fixed connectives. -/
  filters : ∀ c ∈ q.filters, c.connective.Known
  /-- Conditions on groups are tied by fixed connectives. -/
  groupFilters : ∀ c ∈ q.groupFilters, c.connective.Known
  /-- Joins are of a fixed kind and compare with a fixed sign. -/
  joins : ∀ j ∈ q.joins, j.kind.Known ∧ j.sign.Known
  /-- Keys are ordered in a fixed direction. -/
  ordering : ∀ t ∈ q.ordering, t.direction.Known
  /-- The greatest count of rows is a natural. -/
  limit : ∀ v ∈ q.limit, v.IsCount
  /-- The count of rows to pass over is a natural. -/
  offset : ∀ v ∈ q.offset, v.IsCount

/-- The words that a clause call offers for join kinds are known. -/
theorem JoinKind.ofText_known {word : String} (h : word ∈ Query.joinKinds) :
    (JoinKind.ofText word).Known := by
  simp only [Query.joinKinds, List.mem_cons, List.not_mem_nil, or_false] at h
  rcases h with rfl | rfl | rfl <;> trivial

/-- The words that a clause call offers for directions are known. -/
theorem Direction.ofText_known {word : String} (h : word ∈ Query.directions) :
    (Direction.ofText word).Known := by
  simp only [Query.directions, List.mem_cons, List.not_mem_nil, or_false] at h
  rcases h with rfl | rfl <;> trivial

/-- A count of rows is cut off below zero. -/
theorem Query.rowCount_isCount {v w : Value} (h : Query.rowCount v = .ok w) : w.IsCount := by
  obtain ⟨n, -, h⟩ := bind_eq_ok_iff.mp h
  cases h
  refine ⟨(max 0 n).toNat, ?_⟩
  rw [Int.toNat_of_nonneg (by omega)]

/-- The window of a page never begins before the first row. -/
theorem Pagination.isCount_of {total page perPage : Int} {p : Pagination}
    (h : Pagination.of total (max 1 page) (max 1 perPage) = .ok p) :
    (Value.int p.perPage).IsCount ∧ (Value.int p.offset).IsCount := by
  unfold Pagination.of at h
  split at h
  next quotient _ =>
    cases h
    have hpage : 0 ≤ min (max 1 page) (max 1 quotient) - 1 := by omega
    have hoffset := Int.mul_nonneg hpage (by omega : 0 ≤ max 1 perPage)
    refine ⟨⟨(max 1 perPage).toNat, ?_⟩, ⟨_, congrArg Value.int (Int.toNat_of_nonneg hoffset).symm⟩⟩
    rw [Int.toNat_of_nonneg (by omega)]
  next => cases h

namespace Query.Collected

variable {q : Query}

theorem empty : Query.empty.Collected := by
  constructor <;> simp [Query.empty]

theorem filter (hq : q.Collected) {connective : Connective} (hc : connective.Known)
    (column : String) (value : Value) (operator : String) :
    (q.filter connective column value operator).Collected := by
  refine { hq with filters := ?_ }
  intro c hmem
  rcases List.mem_append.mp hmem with hmem | hmem
  · exact hq.filters c hmem
  · rw [List.mem_singleton.mp hmem]
    exact hc

theorem filterGroups (hq : q.Collected) {connective : Connective} (hc : connective.Known)
    (column : String) (value : Value) (operator : String) :
    (q.filterGroups connective column value operator).Collected := by
  refine { hq with groupFilters := ?_ }
  intro c hmem
  rcases List.mem_append.mp hmem with hmem | hmem
  · exact hq.groupFilters c hmem
  · rw [List.mem_singleton.mp hmem]
    exact hc

theorem join (hq : q.Collected) {table condition kind : String} {label : Option String}
    {changed : Query} (h : q.join table condition kind label = .ok changed) :
    changed.Collected := by
  unfold Query.join at h
  dsimp only at h
  generalize String.ofList (Text.upper (Text.trim kind.toList)) = word at h
  obtain ⟨hkind, h⟩ := unless_eq_ok_iff.mp h
  have hknown := JoinKind.ofText_known (not_not.mp hkind)
  obtain ⟨parsed, -, h⟩ := bind_eq_ok_iff.mp h
  cases h
  refine { hq with joins := ?_ }
  intro j hmem
  rcases List.mem_append.mp hmem with hmem | hmem
  · exact hq.joins j hmem
  · rw [List.mem_singleton.mp hmem]
    exact ⟨hknown, JoinSign.compare_known _⟩

theorem orderBy (hq : q.Collected) {column direction : String} {changed : Query}
    (h : q.orderBy column direction = .ok changed) : changed.Collected := by
  unfold Query.orderBy at h
  dsimp only at h
  generalize String.ofList (Text.upper (Text.trim direction.toList)) = word at h
  obtain ⟨hdirection, h⟩ := unless_eq_ok_iff.mp h
  have hknown := Direction.ofText_known (not_not.mp hdirection)
  cases h
  refine { hq with ordering := ?_ }
  intro t hmem
  rcases List.mem_append.mp hmem with hmem | hmem
  · exact hq.ordering t hmem
  · rw [List.mem_singleton.mp hmem]
    exact hknown

theorem limitTo (hq : q.Collected) {count : Value} {changed : Query}
    (h : q.limitTo count = .ok changed) : changed.Collected := by
  obtain ⟨n, hn, h⟩ := bind_eq_ok_iff.mp h
  cases h
  refine { hq with limit := ?_ }
  intro v hv
  cases hv
  exact rowCount_isCount hn

theorem skip (hq : q.Collected) {count : Value} {changed : Query}
    (h : q.skip count = .ok changed) : changed.Collected := by
  obtain ⟨n, hn, h⟩ := bind_eq_ok_iff.mp h
  cases h
  refine { hq with offset := ?_ }
  intro v hv
  cases hv
  exact rowCount_isCount hn

/-- A clause call that is accepted keeps the words and the window among the fixed ones. -/
theorem apply (hq : q.Collected) {clause : Clause} {changed : Query}
    (h : clause.apply q = .ok changed) : changed.Collected := by
  cases clause <;> simp only [Clause.apply] at h
  case filter column value operator =>
    cases h
    exact hq.filter Connective.and_known column value operator
  case orFilter column value operator =>
    cases h
    exact hq.filter Connective.or_known column value operator
  case groupFilter column value operator =>
    cases h
    exact hq.filterGroups Connective.and_known column value operator
  case orGroupFilter column value operator =>
    cases h
    exact hq.filterGroups Connective.or_known column value operator
  case join table condition kind label => exact hq.join h
  case groupBy columns => cases h; exact { hq with }
  case orderBy column direction => exact hq.orderBy h
  case limit count => exact hq.limitTo h
  case offset count => exact hq.skip h
  case page total number perPage =>
    obtain ⟨p, hp, h⟩ := bind_eq_ok_iff.mp h
    cases h
    have hwindow := Pagination.isCount_of hp
    refine { hq with limit := ?_, offset := ?_ }
    · intro v hv
      cases hv
      exact hwindow.1
    · intro v hv
      cases hv
      exact hwindow.2

/-- A clause call keeps the words and the window among the fixed ones, refused or not. -/
theorem take (hq : q.Collected) (clause : Clause) : (q.take clause).Collected := by
  unfold Query.take
  split
  next h => exact hq.apply h
  next => exact hq

/-- So does every sequence of clause calls. -/
theorem foldl_take (hq : q.Collected) (clauses : List Clause) :
    (clauses.foldl Query.take q).Collected := by
  induction clauses generalizing q with
  | nil => exact hq
  | cons clause clauses ih => exact ih (hq.take clause)

end Query.Collected

/-- Whatever clause calls are made, the words of the query are fixed and its window consists of
naturals. -/
theorem Query.collect_collected (clauses : List Clause) : (Query.collect clauses).Collected :=
  Query.Collected.empty.foldl_take clauses

end BoundSql
