import BoundSql.Proofs.Digits
import BoundSql.Session.Transactions

/-!
# Savepoints and snapshots

A database with savepoints keeps, while a transaction is open, the content before it and a mark for
each savepoint with the content at it. Going back to a savepoint keeps its mark, so marks of
transactions that are long over stay behind and their names are used again. A stack of snapshots has
no names: it goes back to the innermost content and forgets it. The two agree as long as every mark
above the innermost live one leads deeper than that.
-/

namespace BoundSql

open Session (savepointName)

variable {κ : Type}

/-! ## Savepoints -/

/-- What a database keeps of an open transaction. -/
structure TransactionLog (κ : Type) where
  /-- The content before the transaction, if one is open. -/
  before : Option κ := none
  /-- Savepoints by name with the content at them, the latest first. -/
  marks : List (String × κ) := []

/-- A statement about savepoints. -/
inductive SavepointStatement where
  /-- Sets a savepoint. -/
  | set (mark : String)
  /-- Removes the latest savepoint of a name and all later ones. -/
  | release (mark : String)
  /-- Goes back to the latest savepoint of a name and removes all later ones. -/
  | rollBackTo (mark : String)
  deriving DecidableEq

namespace SavepointStatement

/-- What follows some words at the beginning of a text. -/
def textAfter (words sql : String) : Option String :=
  (sql.toList.dropPrefix? words.toList).map String.ofList

/-- Reads a statement about savepoints. -/
def read (sql : String) : Option SavepointStatement :=
  match textAfter "SAVEPOINT " sql with
  | some mark => some (.set mark)
  | none =>
    match textAfter "RELEASE SAVEPOINT " sql with
    | some mark => some (.release mark)
    | none => (textAfter "ROLLBACK TO SAVEPOINT " sql).map .rollBackTo

theorem read_set (mark : String) : read ("SAVEPOINT " ++ mark) = some (.set mark) := by
  simp [read, textAfter, List.dropPrefix?]

theorem read_release (mark : String) :
    read ("RELEASE SAVEPOINT " ++ mark) = some (.release mark) := by
  simp [read, textAfter, List.dropPrefix?]

theorem read_rollBackTo (mark : String) :
    read ("ROLLBACK TO SAVEPOINT " ++ mark) = some (.rollBackTo mark) := by
  simp [read, textAfter, List.dropPrefix?]

theorem read_charset (charset : String) : read ("SET NAMES " ++ charset) = none := by
  simp [read, textAfter, List.dropPrefix?]

end SavepointStatement

namespace TransactionLog

/-- Starts a transaction if none is open. -/
def start (s : κ × TransactionLog κ) : Option (κ × TransactionLog κ) :=
  match s.2.before with
  | none => some (s.1, { before := some s.1 })
  | some _ => none

/-- Commits the open transaction; all savepoints are gone. -/
def commit (s : κ × TransactionLog κ) : Option (κ × TransactionLog κ) :=
  s.2.before.map fun _ => (s.1, {})

/-- Rolls the open transaction back; all savepoints are gone. -/
def rollback (s : κ × TransactionLog κ) : Option (κ × TransactionLog κ) :=
  s.2.before.map fun before => (before, {})

/-- The marks from the latest one of a name on. -/
def marksFrom (mark : String) (marks : List (String × κ)) : List (String × κ) :=
  marks.dropWhile fun entry => entry.1 ≠ mark

/-- Carries out a statement about savepoints. It needs an open transaction, and a savepoint of the
name unless it sets one. -/
def apply (statement : SavepointStatement) (s : κ × TransactionLog κ) :
    Option (κ × TransactionLog κ) :=
  match statement with
  | .set mark => s.2.before.map fun _ => (s.1, { s.2 with marks := (mark, s.1) :: s.2.marks })
  | .release mark =>
    match marksFrom mark s.2.marks with
    | [] => none
    | _ :: older => some (s.1, { s.2 with marks := older })
  | .rollBackTo mark =>
    match marksFrom mark s.2.marks with
    | [] => none
    | entry :: older => some (entry.2, { s.2 with marks := entry :: older })

end TransactionLog

/-! ## Snapshots -/

namespace Snapshots

/-- Saves the content. -/
def begin (s : κ × List κ) : κ × List κ := (s.1, s.1 :: s.2)

/-- Forgets the content that was saved last. -/
def commit (s : κ × List κ) : κ × List κ := (s.1, s.2.tail)

/-- Goes back to the content that was saved last and forgets it. -/
def rollback (s : κ × List κ) : κ × List κ :=
  match s.2 with
  | [] => s
  | snapshot :: older => (snapshot, older)

end Snapshots

/-! ## Marks and snapshots -/

/-- The names of savepoints differ. -/
theorem savepointName_injective : Function.Injective savepointName := by
  intro depth other h
  have hdigits : String.ofList (decimalDigits depth) = String.ofList (decimalDigits other) :=
    String.append_right_inj _ |>.mp h
  exact decimalDigits_injective (String.ofList_injective hdigits)

/-- All marks lead deeper than a depth. -/
def Deeper (depth : Nat) (marks : List (String × κ)) : Prop :=
  ∀ entry ∈ marks, ∃ deeper, depth < deeper ∧ entry.1 = savepointName deeper

theorem deeper_nil (depth : Nat) : Deeper depth ([] : List (String × κ)) :=
  List.forall_mem_nil _

/-- The latest mark of a depth lies behind the marks that lead deeper. -/
theorem marksFrom_deeper {depth : Nat} {stale older : List (String × κ)} {content : κ}
    (h : Deeper depth stale) :
    TransactionLog.marksFrom (savepointName depth)
        (stale ++ (savepointName depth, content) :: older) =
      (savepointName depth, content) :: older := by
  have hskipped : ∀ entry ∈ stale, decide (entry.1 ≠ savepointName depth) = true := by
    intro entry hentry
    obtain ⟨deeper, hdeeper, hname⟩ := h entry hentry
    rw [decide_eq_true_eq, hname]
    intro hsame
    have := savepointName_injective hsame
    omega
  rw [TransactionLog.marksFrom, List.dropWhile_append_of_pos hskipped]
  exact List.dropWhile_cons_of_neg (by simp)

theorem Deeper.cons {depth deeper : Nat} {stale : List (String × κ)} (h : Deeper depth stale)
    (hdeeper : depth < deeper) (content : κ) :
    Deeper depth ((savepointName deeper, content) :: stale) := by
  intro entry hentry
  rcases List.mem_cons.mp hentry with rfl | hentry
  · exact ⟨deeper, hdeeper, rfl⟩
  · exact h entry hentry

/-- What a database keeps belongs to saved contents. The outermost content is the one before the
transaction. Every other one is at the live mark of its depth, and marks above that lead deeper. -/
inductive Tracks : List κ → TransactionLog κ → Prop where
  /-- No transaction is open and no content is saved. -/
  | rest : Tracks [] {}
  /-- A transaction is open without a live mark. -/
  | transaction {before : κ} {stale : List (String × κ)} (hstale : Deeper 1 stale) :
      Tracks [before] ⟨some before, stale⟩
  /-- A live mark stands on those of smaller depths. -/
  | savepoint {before content : κ} {saved : List κ} {stale older : List (String × κ)}
      (h : Tracks saved ⟨some before, older⟩) (hstale : Deeper (saved.length + 1) stale) :
      Tracks (content :: saved)
        ⟨some before, stale ++ (savepointName (saved.length + 1), content) :: older⟩

namespace Tracks

variable {saved : List κ} {log : TransactionLog κ}

/-- Nothing is kept while nothing is saved. -/
theorem log_eq_rest (h : Tracks [] log) : log = {} := by
  cases h
  rfl

/-- A transaction is open while something is saved. -/
theorem exists_before (h : Tracks saved log) (hsaved : saved ≠ []) :
    ∃ before, log.before = some before := by
  cases h with
  | rest => exact absurd rfl hsaved
  | transaction => exact ⟨_, rfl⟩
  | savepoint => exact ⟨_, rfl⟩

/-- A mark that leads deeper may be left behind. -/
theorem leave {before : κ} {marks : List (String × κ)} {deeper : Nat}
    (h : Tracks saved ⟨some before, marks⟩) (hdeeper : saved.length < deeper) (content : κ) :
    Tracks saved ⟨some before, (savepointName deeper, content) :: marks⟩ := by
  cases h with
  | transaction hstale => exact .transaction (hstale.cons hdeeper content)
  | savepoint h hstale => exact .savepoint h (hstale.cons hdeeper content)

/-- A single saved content is the one before the transaction. -/
theorem outermost (h : Tracks saved log) (hlength : saved.length = 1) :
    ∃ before, saved = [before] ∧ log.before = some before := by
  cases h with
  | rest => simp at hlength
  | transaction => exact ⟨_, rfl, rfl⟩
  | savepoint h =>
    obtain rfl := List.length_eq_zero_iff.mp (Nat.succ.inj hlength)
    cases h

/-- Of several saved contents the innermost one is at the live mark of the depth. Above it are only
marks that lead deeper, and below it is what belongs to the other contents. -/
theorem innermost (h : Tracks saved log) (hlength : 2 ≤ saved.length) :
    ∃ content outer before stale marks, saved = content :: outer ∧ Deeper saved.length stale ∧
      Tracks outer ⟨some before, marks⟩ ∧
      log = ⟨some before, stale ++ (savepointName saved.length, content) :: marks⟩ := by
  cases h with
  | rest => simp at hlength
  | transaction => simp at hlength
  | savepoint h hstale => exact ⟨_, _, _, _, _, rfl, hstale, h, rfl⟩

end Tracks

/-- Two contents are the same, and what the database keeps belongs to what is saved. -/
structure Matches (s : κ × TransactionLog κ) (t : κ × List κ) : Prop where
  /-- The contents are the same. -/
  content : t.1 = s.1
  /-- Marks and snapshots belong together. -/
  tracks : Tracks t.2 s.2

namespace Matches

variable {s : κ × TransactionLog κ} {t : κ × List κ}

/-- Starting a transaction saves a first snapshot. -/
theorem start (h : Matches s t) (hsaved : t.2 = []) :
    ∃ s', TransactionLog.start s = some s' ∧ Matches s' (Snapshots.begin t) := by
  have htracks := h.tracks
  rw [hsaved] at htracks
  have hlog := htracks.log_eq_rest
  refine ⟨(s.1, ⟨some s.1, []⟩), ?_, ?_⟩
  · rw [TransactionLog.start, hlog]
  · rw [Snapshots.begin, hsaved, h.content]
    exact ⟨rfl, .transaction (deeper_nil 1)⟩

/-- Setting the savepoint of the next depth saves a further snapshot. -/
theorem set (h : Matches s t) (hsaved : t.2 ≠ []) :
    ∃ s', TransactionLog.apply (.set (savepointName (t.2.length + 1))) s = some s' ∧
      Matches s' (Snapshots.begin t) := by
  obtain ⟨before, hbefore⟩ := h.tracks.exists_before hsaved
  have hlog : s.2 = ⟨some before, s.2.marks⟩ := by rw [← hbefore]
  have htracks := h.tracks
  rw [hlog] at htracks
  refine ⟨(s.1, ⟨some before, (savepointName (t.2.length + 1), s.1) :: s.2.marks⟩), ?_, ?_⟩
  · simp only [TransactionLog.apply, hbefore, Option.map_some]
  · rw [Snapshots.begin, h.content]
    exact ⟨rfl, .savepoint htracks (deeper_nil _)⟩

/-- Committing the transaction forgets its snapshot. -/
theorem commit (h : Matches s t) (hsaved : t.2.length = 1) :
    ∃ s', TransactionLog.commit s = some s' ∧ Matches s' (Snapshots.commit t) := by
  obtain ⟨before, hbase, hbefore⟩ := h.tracks.outermost hsaved
  refine ⟨(s.1, {}), ?_, ?_⟩
  · rw [TransactionLog.commit, hbefore, Option.map_some]
  · rw [Snapshots.commit, hbase]
    exact ⟨h.content, .rest⟩

/-- Rolling the transaction back goes back to its snapshot. -/
theorem rollback (h : Matches s t) (hsaved : t.2.length = 1) :
    ∃ s', TransactionLog.rollback s = some s' ∧ Matches s' (Snapshots.rollback t) := by
  obtain ⟨before, hbase, hbefore⟩ := h.tracks.outermost hsaved
  refine ⟨(before, {}), ?_, ?_⟩
  · rw [TransactionLog.rollback, hbefore, Option.map_some]
  · rw [Snapshots.rollback, hbase]
    exact ⟨rfl, .rest⟩

/-- Releasing the savepoint of the depth forgets the innermost snapshot. -/
theorem release (h : Matches s t) (hsaved : 2 ≤ t.2.length) :
    ∃ s', TransactionLog.apply (.release (savepointName t.2.length)) s = some s' ∧
      Matches s' (Snapshots.commit t) := by
  obtain ⟨snapshot, outer, before, stale, marks, hinner, hstale, hbelow, hlog⟩ :=
    h.tracks.innermost hsaved
  refine ⟨(s.1, ⟨some before, marks⟩), ?_, ?_⟩
  · rw [TransactionLog.apply, hlog, marksFrom_deeper hstale]
  · rw [Snapshots.commit, hinner]
    exact ⟨h.content, hbelow⟩

/-- Going back to the savepoint of the depth goes back to the innermost snapshot. Its mark stays
behind and leads deeper from now on. -/
theorem rollBackTo (h : Matches s t) (hsaved : 2 ≤ t.2.length) :
    ∃ s', TransactionLog.apply (.rollBackTo (savepointName t.2.length)) s = some s' ∧
      Matches s' (Snapshots.rollback t) := by
  obtain ⟨snapshot, outer, before, stale, marks, hinner, hstale, hbelow, hlog⟩ :=
    h.tracks.innermost hsaved
  -- The mark that is kept leads to the depth that is left, deeper than all that stays saved.
  have hdeeper : outer.length < t.2.length := by
    rw [hinner]
    exact Nat.lt_succ_self _
  have hleft := hbelow.leave hdeeper snapshot
  refine ⟨(snapshot, ⟨some before, (savepointName t.2.length, snapshot) :: marks⟩), ?_, ?_⟩
  · rw [TransactionLog.apply, hlog, marksFrom_deeper hstale]
  · have hrolled : Snapshots.rollback t = (snapshot, outer) := by rw [Snapshots.rollback, hinner]
    rw [hrolled]
    exact ⟨rfl, hleft⟩

end Matches

end BoundSql
