import BoundSql.Proofs.Lexemes

/-!
# Truth of condition texts

A condition text is evaluated as a database would read it: parameters are put in their places one
after another, OR separates alternatives, AND separates what must hold in an alternative, and each
comparison has the truth value that it is given. The evaluation sees nothing but the text and the
parameters.
-/

namespace BoundSql

/-- A lexeme, or the parameter in the place of one. -/
inductive Symbol where
  | lexeme (l : Lexeme)
  | value (v : Value)

/-- The lexemes with parameters in their places, one after another; each place has a parameter and
each parameter a place. -/
def Lexeme.fill : List Lexeme → List Value → Option (List Symbol)
  | [], [] => some []
  | [], _ :: _ => none
  | l :: rest, params =>
    if l = .point '?' then
      match params with
      | v :: more => (fill rest more).map (.value v :: ·)
      | [] => none
    else (fill rest params).map (.lexeme l :: ·)

/-- Truth values of comparisons between a column and the values that stand behind an operator. -/
abbrev Verdict := ColumnRef → Operator → List Value → Bool

/-- The column of a path with one more name in front. -/
def ColumnRef.under (n : Name) : ColumnRef → ColumnRef
  | .star => .allOf ⟨n, []⟩
  | .column path => .column ⟨n, path.segments⟩
  | .allOf path => .allOf ⟨n, path.segments⟩

namespace Symbol

/-- The symbol is a certain word. -/
def isWord (word : String) : Symbol → Bool
  | .lexeme (.word letters) => letters == word.toList
  | _ => false

/-- The symbol may belong to a column. -/
def isColumnPart : Symbol → Bool
  | .lexeme (.name _) => true
  | .lexeme (.point c) => c == '.' || c == '*'
  | _ => false

/-- Reads a column. -/
def column? : List Symbol → Option ColumnRef
  | [.lexeme (.point '*')] => some .star
  | [.lexeme (.name letters)] => (Name.ofChars? letters).map fun n => .column ⟨n, []⟩
  | .lexeme (.name letters) :: .lexeme (.point '.') :: rest => do
    let n ← Name.ofChars? letters
    return (← column? rest).under n
  | _ => none

/-- Reads a comparison sign. -/
def sign? : List Char → Option Comparison
  | ['='] => some .equal
  | ['!', '='] => some .notEqual
  | ['<', '>'] => some .lessOrGreater
  | ['<'] => some .less
  | ['>'] => some .greater
  | ['<', '='] => some .lessEqual
  | ['>', '='] => some .greaterEqual
  | _ => none

/-- Reads the word of a literal. -/
def literal? (letters : List Char) : Option Value :=
  if letters = "NULL".toList then some .null
  else if letters = "TRUE".toList then some (.bool true)
  else if letters = "FALSE".toList then some (.bool false)
  else none

/-- Reads values up to a closing parenthesis, with commas in between. -/
def members? : List Symbol → Option (List Value)
  | [.value v, .lexeme (.point ')')] => some [v]
  | .value v :: .lexeme (.point ',') :: rest => (members? rest).map (v :: ·)
  | _ => none

/-- Reads an operator and the values behind it. -/
def test? : List Symbol → Option (Operator × List Value)
  | [.lexeme (.sign letters), .value v] => (sign? letters).map fun sign => (.compare sign, [v])
  | [.lexeme (.word w), .value v] => if w = "LIKE".toList then some (.like, [v]) else none
  | [.lexeme (.word w), .lexeme (.word l)] =>
    if w = "IS".toList then (literal? l).map fun v => (.is, [v]) else none
  | [.lexeme (.word w), .lexeme (.word n), .lexeme (.word l)] =>
    if w = "IS".toList ∧ n = "NOT".toList then (literal? l).map fun v => (.isNot, [v]) else none
  | .lexeme (.word w) :: .lexeme (.point '(') :: rest =>
    if w = "IN".toList then (members? rest).map fun vs => (.isIn, vs) else none
  | .lexeme (.word n) :: .lexeme (.word w) :: .lexeme (.point '(') :: rest =>
    if n = "NOT".toList ∧ w = "IN".toList then (members? rest).map fun vs => (.notIn, vs) else none
  | _ => none

/-- The truth of a single condition: a constant, or a column with an operator and values. -/
def comparison? (verdict : Verdict) : List Symbol → Option Bool
  | [.lexeme (.word ['0']), .lexeme (.sign ['=']), .lexeme (.word ['1'])] => some false
  | [.lexeme (.word ['1']), .lexeme (.sign ['=']), .lexeme (.word ['1'])] => some true
  | symbols => do
    let column ← column? (symbols.takeWhile isColumnPart)
    let test ← test? (symbols.dropWhile isColumnPart)
    return verdict column test.1 test.2

/-- The truth of conditions with AND in between. -/
def conjunction? (verdict : Verdict) (symbols : List Symbol) : Option Bool :=
  ((symbols.splitOnP (isWord "AND")).mapM (comparison? verdict)).map (·.all id)

/-- The truth values of the parts that OR separates: AND binds tighter. -/
def alternatives? (verdict : Verdict) (symbols : List Symbol) : Option (List Bool) :=
  (symbols.splitOnP (isWord "OR")).mapM (conjunction? verdict)

/-- The truth of conditions with AND and OR in between. -/
def formula? (verdict : Verdict) (symbols : List Symbol) : Option Bool :=
  (alternatives? verdict symbols).map (·.any id)

end Symbol

/-- The truth of the conditions in a text behind a keyword, with parameters in their places. -/
def Conditions.truth? (d : Dialect) (keyword : String) (verdict : Verdict) (text : String)
    (params : List Value) : Option Bool := do
  let body ← text.toList.dropPrefix? (' ' :: keyword.toList ++ [' '])
  let lexemes ← Lexeme.ofChars d.mark body
  let symbols ← Lexeme.fill lexemes params
  Symbol.formula? verdict symbols

/-! ## Splitting at the connectives -/

namespace Symbol

variable {verdict : Verdict} {own rest : List Symbol} {truth : Bool}

/-- What stands in front of the first separator belongs to the first part. -/
theorem splitOnP_append {separates : Symbol → Bool} (h : ∀ s ∈ own, separates s = false) :
    (own ++ rest).splitOnP separates = (rest.splitOnP separates).modifyHead (own ++ ·) := by
  induction own with
  | nil =>
    cases hsplit : rest.splitOnP separates <;> simp [hsplit]
  | cons s own ih =>
    have hs : separates s = false := h s List.mem_cons_self
    rw [List.cons_append, List.splitOnP_cons_eq_if_modifyHead, hs,
      ih fun t ht => h t (.tail s ht)]
    cases rest.splitOnP separates <;> rfl

/-- The symbol is a connective. -/
def isConnective (s : Symbol) : Bool := isWord "AND" s || isWord "OR" s

theorem isConnective_eq_false {s : Symbol} :
    isConnective s = false ↔ isWord "AND" s = false ∧ isWord "OR" s = false :=
  Bool.or_eq_false_iff

/-- Without connectives there is one comparison. -/
theorem conjunction?_of_comparison (hown : ∀ s ∈ own, isConnective s = false)
    (h : comparison? verdict own = some truth) : conjunction? verdict own = some truth := by
  have hand : ∀ s ∈ own, isWord "AND" s = false :=
    fun s hs => (isConnective_eq_false.mp (hown s hs)).1
  simp [conjunction?, List.splitOnP_eq_singleton hand, h]

/-- A comparison in front of AND must hold too. -/
theorem conjunction?_and (hown : ∀ s ∈ own, isConnective s = false)
    (h : comparison? verdict own = some truth) :
    conjunction? verdict (own ++ .lexeme (.word "AND".toList) :: rest) =
      (conjunction? verdict rest).map (truth && ·) := by
  have hand : ∀ s ∈ own, isWord "AND" s = false :=
    fun s hs => (isConnective_eq_false.mp (hown s hs)).1
  have hsplit :=
    List.splitOnP_append_cons_of_forall_mem hand (.lexeme (.word "AND".toList)) rfl rest
  rw [conjunction?, hsplit, List.mapM_cons, h, conjunction?]
  cases (rest.splitOnP (isWord "AND")).mapM (comparison? verdict) <;> simp

/-- Without connectives there is one alternative. -/
theorem alternatives?_of_comparison (hown : ∀ s ∈ own, isConnective s = false)
    (h : comparison? verdict own = some truth) : alternatives? verdict own = some [truth] := by
  have hor : ∀ s ∈ own, isWord "OR" s = false :=
    fun s hs => (isConnective_eq_false.mp (hown s hs)).2
  simp [alternatives?, List.splitOnP_eq_singleton hor, conjunction?_of_comparison hown h]

/-- A comparison in front of OR is an alternative of its own. -/
theorem alternatives?_or (hown : ∀ s ∈ own, isConnective s = false)
    (h : comparison? verdict own = some truth) :
    alternatives? verdict (own ++ .lexeme (.word "OR".toList) :: rest) =
      (alternatives? verdict rest).map (truth :: ·) := by
  have hor : ∀ s ∈ own, isWord "OR" s = false :=
    fun s hs => (isConnective_eq_false.mp (hown s hs)).2
  have hsplit :=
    List.splitOnP_append_cons_of_forall_mem hor (.lexeme (.word "OR".toList)) rfl rest
  rw [alternatives?, hsplit, List.mapM_cons, conjunction?_of_comparison hown h, alternatives?]
  cases (rest.splitOnP (isWord "OR")).mapM (conjunction? verdict) <;> rfl

/-- A comparison in front of AND belongs to the first alternative. -/
theorem alternatives?_and (hown : ∀ s ∈ own, isConnective s = false)
    (h : comparison? verdict own = some truth) :
    alternatives? verdict (own ++ .lexeme (.word "AND".toList) :: rest) =
      (alternatives? verdict rest).map (·.modifyHead (truth && ·)) := by
  have hprefix : ∀ s ∈ own ++ [.lexeme (.word "AND".toList)], isWord "OR" s = false := by
    intro s hs
    rcases List.mem_append.mp hs with hs | hs
    · exact (isConnective_eq_false.mp (hown s hs)).2
    · rw [List.mem_singleton.mp hs]
      rfl
  rw [alternatives?, List.append_cons, splitOnP_append hprefix, alternatives?]
  cases hsplit : rest.splitOnP (isWord "OR") with
  | nil => exact absurd hsplit (List.splitOnP_ne_nil _ rest)
  | cons first others =>
    rw [List.modifyHead_cons, List.append_assoc, List.singleton_append, List.mapM_cons,
      conjunction?_and hown h, List.mapM_cons]
    cases conjunction? verdict first with
    | none => rfl
    | some value => cases others.mapM (conjunction? verdict) <;> rfl

end Symbol

end BoundSql
