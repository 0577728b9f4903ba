import BoundSql.Proofs.Digits
import BoundSql.Proofs.Meaning

/-!
# Changes that reach every row

A change or a removal without a condition is refused, so that no call reaches a whole table by
accident. Whether a statement that is accepted restricts anything is read off its text: there must
be truth values of its comparisons for which what stands behind WHERE is false. That is so exactly
when each run of conditions has one that is not a membership among no members, negated.
-/

namespace BoundSql

/-- What stands behind WHERE, up to a bound on rows. -/
def Symbol.restriction (symbols : List Symbol) : List Symbol :=
  ((symbols.dropWhile fun s => !isWord "WHERE" s).drop 1).takeWhile fun s => !isWord "LIMIT" s

/-- The truth of what stands behind WHERE in the text of a statement with its parameters. -/
def Statement.truth? (d : Dialect) (verdict : Verdict) (text : String) (params : List Value) :
    Option Bool := do
  let lexemes ← Lexeme.ofChars d.mark text.toList
  let symbols ← Lexeme.fill lexemes params
  Symbol.formula? verdict (Symbol.restriction symbols)

/-! ## Texts of changes and removals -/

/-- The lexemes of a bound on rows. -/
def limitLexemes : Option Int → List Lexeme
  | some n => [.word "LIMIT".toList, .word (integerText n)]
  | none => []

/-- The lexemes of columns with the places of their new values. -/
def assignmentLexemes (columns : List Name) : List Lexeme :=
  [.point ','].intercalate (columns.map fun n => [.name n.letters, .sign ['='], .point '?'])

namespace Lexeme.Reads

variable (d : Dialect)

/-- A natural with a blank behind it is read as a word of digits. -/
theorem natural (n : Nat) : Reads d.mark (decimalDigits n ++ [' ']) [.word (decimalDigits n)] := by
  have hdigits : ∀ c ∈ decimalDigits n, isNameChar c = true := by
    intro c hc
    have hdigit : ('0' ≤ c && c ≤ '9') = true := isAsciiDigit_of_mem_decimalDigits hc
    rw [isNameChar, hdigit, Bool.or_true]
  cases hn : decimalDigits n with
  | nil =>
    have hzero : n = 0 := by rw [← digitsValue_decimalDigits n, hn]; rfl
    rw [hzero, decimalDigits_zero] at hn
    cases hn
  | cons c digits =>
    rw [hn] at hdigits
    exact word d (hdigits c List.mem_cons_self) fun e he => hdigits e (.tail c he)

/-- A natural bound behind a text that a blank would end. -/
theorem limit {s : List Char} {before : List Lexeme} (hs : Reads d.mark (s ++ [' ']) before)
    {bound : Option Int} (hbound : ∀ n ∈ bound, 0 ≤ n) :
    Reads d.mark (s ++ Token.render d.mark (boundClause " LIMIT " bound) ++ [' '])
      (before ++ limitLexemes bound) := by
  cases bound with
  | none => simpa [boundClause, limitLexemes] using hs
  | some n =>
    have hnonneg : ¬ n < 0 := by
      have hn := hbound n rfl
      omega
    have hkeyword : Reads d.mark "LIMIT ".toList [.word "LIMIT".toList] := by
      rcases d.mark_eq with h | h <;> rw [h] <;> rfl
    have hread := (hs.append hkeyword).append (natural d n.natAbs)
    simpa [boundClause, limitLexemes, integerText, hnonneg] using hread

/-- Columns with the places of their new values. -/
theorem assignments (columns : List Name) :
    Reads d.mark (Token.render d.mark
      (Token.listed (columns.map fun n => [.name n, .word " = ", .placeholder])))
      (assignmentLexemes columns) := by
  have hequals : Reads d.mark " = ?".toList [.sign ['='], .point '?'] := by
    rcases d.mark_eq with h | h <;> rw [h] <;> rfl
  refine separated (comma d) ?_
  rw [List.forall₂_map_left_iff, List.forall₂_map_right_iff, List.forall₂_same]
  intro n _
  simpa [Token.chars] using (name d n).append hequals

end Lexeme.Reads

namespace Lexeme

end Lexeme

/-! ## What a statement is restricted to -/

namespace Condition

variable {c : Condition} {cs : List Condition} {conditions : Conditions} {params : List Value}

end Condition

/-- The call changes or removes rows. -/
def Command.IsMutation : Command → Prop
  | .update _ _ => True
  | .delete _ => True
  | _ => False

/-- The conditions of an accepted change or removal compile. -/
theorem Command.exists_compile {q : Query} {command : Command} (hcommand : command.IsMutation)
    {c : Compiled} (h : command.compile q = .ok c) :
    ∀ e ∈ q.filters, ∃ p own, e.compile = .ok (p, own) := by
  cases command with
  | update table data =>
    obtain ⟨-, -, columns, path, filters, params, limit, -, -, hconditions, -, -⟩ :=
      Query.compileUpdate_eq_ok h
    exact Condition.exists_compile hconditions
  | delete table =>
    obtain ⟨-, path, filters, params, limit, -, hconditions, -, -⟩ :=
      Query.compileDelete_eq_ok h
    exact Condition.exists_compile hconditions
  | _ => cases hcommand

end BoundSql
