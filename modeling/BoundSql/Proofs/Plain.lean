import BoundSql.Proofs.Compilation
import BoundSql.Proofs.Filling

/-!
# Plain tokens

Apart from its placeholders a regular statement consists of plain tokens: fixed words, safe names
and integers. Their characters mean nothing to those who read the statement further on: there are no
quote marks, colons, backslashes or marks of templates in them, and no question marks.
-/

namespace BoundSql

open Text

namespace Token

/-- The signs of quotes, placeholders, binds and templates. -/
def signs : List Char := ['\x27', '\x22', '\x60', '?', ':', '\\', '%', '[']

/-- The character is none of these signs. -/
def isCalm (c : Char) : Bool := !signs.contains c

/-- A fixed word, a name or an integer. -/
def Plain : Token → Prop
  | .word s => s.toList.all isCalm = true
  | .free _ => False
  | .name _ => True
  | .placeholder => False
  | .integer _ => True

/-- All of the tokens are plain. -/
def AllPlain (tokens : List Token) : Prop := ∀ t ∈ tokens, t.Plain

@[simp] theorem allPlain_nil : AllPlain [] := List.forall_mem_nil _

@[simp] theorem allPlain_cons {t : Token} {tokens : List Token} :
    AllPlain (t :: tokens) ↔ t.Plain ∧ AllPlain tokens := List.forall_mem_cons

@[simp] theorem allPlain_append {first second : List Token} :
    AllPlain (first ++ second) ↔ AllPlain first ∧ AllPlain second := List.forall_mem_append

@[simp] theorem plain_word (s : String) : (Token.word s).Plain ↔ s.toList.all isCalm = true :=
  Iff.rfl

@[simp] theorem plain_name (n : Name) : (Token.name n).Plain := trivial

@[simp] theorem plain_integer (n : Int) : (Token.integer n).Plain := trivial

/-- Plain groups stay plain when they are separated by a plain token. -/
theorem allPlain_separated {separator : Token} {groups : List (List Token)}
    (hplain : separator.Plain) (h : ∀ group ∈ groups, AllPlain group) :
    AllPlain (separated separator groups) := by
  induction groups with
  | nil => exact allPlain_nil
  | cons first groups ih =>
    have hfirst := h first List.mem_cons_self
    cases groups with
    | nil => exact hfirst
    | cons second groups =>
      have hmore := ih fun group hgroup => h group (List.mem_cons_of_mem first hgroup)
      rw [separated_cons_cons, allPlain_append, allPlain_cons]
      exact ⟨hfirst, hplain, hmore⟩

/-- So do plain groups with commas in between. -/
theorem allPlain_listed {α : Type} {f : α → List Token} (h : ∀ item, AllPlain (f item))
    (items : List α) : AllPlain (listed (items.map f)) := by
  refine allPlain_separated rfl fun group hgroup => ?_
  obtain ⟨item, -, rfl⟩ := List.mem_map.mp hgroup
  exact h item

/-! ### Characters of plain tokens -/

theorem isCalm_of_isNameChar {c : Char} (h : isNameChar c = true) : isCalm c = true := by
  by_contra hsign
  rw [isCalm, Bool.not_eq_true', Bool.not_eq_false, List.contains_iff_mem] at hsign
  have hsigns : signs.all (fun sign => !isNameChar sign) = true := by decide
  have hnone := List.all_eq_true.mp hsigns c hsign
  rw [h] at hnone
  cases hnone

theorem isCalm_of_mem_letters {n : Name} {c : Char} (h : c ∈ n.letters) : isCalm c = true :=
  isCalm_of_isNameChar (Name.isNameChar_of_mem h)

theorem isCalm_of_mem_integerText {n : Int} {c : Char} (h : c ∈ integerText n) :
    isCalm c = true := by
  have hdigits : c ∈ decimalDigits n.natAbs → isCalm c = true := by
    intro hdigit
    have hnumeral : ('0' ≤ c && c ≤ '9') = true := isAsciiDigit_of_mem_decimalDigits hdigit
    exact isCalm_of_isNameChar (by rw [isNameChar, hnumeral, Bool.or_true])
  unfold integerText at h
  split at h
  · rcases List.mem_cons.mp h with rfl | h
    · decide
    · exact hdigits h
  · exact hdigits h

/-- The characters of a plain token are calm, but for the marks around names. -/
theorem Plain.chars {t : Token} (h : t.Plain) {mark c : Char} (hc : c ∈ t.chars mark) :
    c = mark ∨ isCalm c = true := by
  cases t with
  | word s => exact .inr (List.all_eq_true.mp h c hc)
  | free s => cases h
  | name n =>
    rcases List.mem_cons.mp hc with rfl | hc
    · exact .inl rfl
    · rcases List.mem_append.mp hc with hc | hc
      · exact .inr (isCalm_of_mem_letters hc)
      · exact .inl (List.mem_singleton.mp hc)
  | placeholder => cases h
  | integer n => exact .inr (isCalm_of_mem_integerText hc)

/-- Of the signs only marks occur in plain tokens. -/
theorem Plain.sign_not_mem {t : Token} (h : t.Plain) (d : Dialect) {sign : Char}
    (hsign : sign ∈ ['?', ':', '\\', '%', '[']) : sign ∉ t.chars d.mark := by
  intro hmem
  rcases h.chars hmem with hmark | hcalm
  · have hne : ∀ sign ∈ ['?', ':', '\\', '%', '['], sign ≠ d.mark := by
      rcases d.mark_eq with heq | heq <;> simp [heq]
    exact hne sign hsign hmark
  · have hsigns : ['?', ':', '\\', '%', '['].all (fun sign => !isCalm sign) = true := by decide
    have hnone := List.all_eq_true.mp hsigns sign hsign
    rw [hcalm] at hnone
    cases hnone

/-- A plain token has no question mark. -/
theorem Plain.quiet {t : Token} (h : t.Plain) : t.Quiet := by
  cases t with
  | word s =>
    have hcalm := List.all_eq_true.mp h
    exact fun hmem => absurd (hcalm '?' hmem) (by decide)
  | free s => cases h
  | name n => trivial
  | placeholder => cases h
  | integer n => trivial

theorem AllPlain.quiet {tokens : List Token} (h : AllPlain tokens) : AllQuiet tokens :=
  fun t ht => (h t ht).quiet

end Token

theorem Path.tokens_plain (p : Path) : Token.AllPlain p.tokens := by
  refine Token.allPlain_separated rfl fun group hgroup => ?_
  obtain ⟨n, -, rfl⟩ := List.mem_map.mp hgroup
  simp

theorem ColumnRef.tokens_plain (c : ColumnRef) : Token.AllPlain c.tokens := by
  cases c with
  | star => simp [ColumnRef.tokens, Token.isCalm, Token.signs]
  | column p => exact p.tokens_plain
  | allOf p => simp [ColumnRef.tokens, p.tokens_plain, Token.isCalm, Token.signs]

theorem TableRef.tokens_plain (t : TableRef) : Token.AllPlain t.tokens := by
  obtain ⟨p, label⟩ := t
  cases label <;> simp [TableRef.tokens, p.tokens_plain, Token.isCalm, Token.signs]

theorem Operator.text_calm (op : Operator) : op.text.toList.all Token.isCalm = true := by
  cases op with
  | compare sign => cases sign <;> decide
  | _ => decide

theorem Connective.Known.token_plain {c : Connective} (h : c.Known) : c.token.Plain := by
  cases c with
  | other word => cases h
  | _ => exact rfl

theorem Literal.text_calm (l : Literal) : l.text.toList.all Token.isCalm = true := by
  cases l with
  | null => decide
  | truth b => cases b <;> decide

theorem JoinClause.Regular.tokens_plain {j : JoinClause} (h : j.Regular) :
    Token.AllPlain j.tokens := by
  obtain ⟨kind, table, left, sign, right⟩ := j
  obtain ⟨hkind, hsign⟩ := h
  have hk : kind.token.Plain := by
    cases kind with
    | other word => cases hkind
    | _ => exact rfl
  have hs : sign.token.Plain := by
    cases sign with
    | other word => cases hsign
    | compare sign => exact Operator.text_calm (.compare sign)
  simp [JoinClause.tokens, hk, hs, table.tokens_plain, left.tokens_plain, right.tokens_plain,
    Token.isCalm, Token.signs]

/-- A clause of plain columns is plain. -/
theorem columnClause_plain {keyword : String} (hkeyword : (Token.word keyword).Plain)
    {groups : List (List Token)} (h : ∀ group ∈ groups, Token.AllPlain group) :
    Token.AllPlain (columnClause keyword groups) := by
  unfold columnClause
  split
  · exact Token.allPlain_nil
  · exact Token.allPlain_cons.mpr ⟨hkeyword, Token.allPlain_separated rfl h⟩

theorem Selection.tokens_plain (s : Selection) : Token.AllPlain s.tokens := by
  cases s with
  | count => simp [Selection.tokens, Token.isCalm, Token.signs]
  | columns refs =>
    cases refs with
    | nil => simp [Selection.tokens, Token.isCalm, Token.signs]
    | cons first rest => exact Token.allPlain_listed ColumnRef.tokens_plain (first :: rest)

/-- An ordering with fixed directions is plain. -/
theorem ordering_plain {terms : List (ColumnRef × Direction)} (h : ∀ t ∈ terms, t.2.Known) :
    Token.AllPlain (columnClause " ORDER BY " (terms.map orderTokens)) := by
  have hkeyword : (Token.word " ORDER BY ").Plain := rfl
  refine columnClause_plain hkeyword fun group hgroup => ?_
  obtain ⟨⟨column, direction⟩, ht, rfl⟩ := List.mem_map.mp hgroup
  have hplain : direction.token.Plain := by
    cases direction with
    | other word => cases h _ ht
    | _ => exact rfl
  simp [orderTokens, column.tokens_plain, hplain, Token.isCalm, Token.signs]

theorem grouping_plain (columns : List ColumnRef) :
    Token.AllPlain (columnClause " GROUP BY " (columns.map ColumnRef.tokens)) := by
  have hkeyword : (Token.word " GROUP BY ").Plain := rfl
  refine columnClause_plain hkeyword fun group hgroup => ?_
  obtain ⟨column, -, rfl⟩ := List.mem_map.mp hgroup
  exact column.tokens_plain

theorem boundClause_plain {keyword : String} (hkeyword : (Token.word keyword).Plain)
    (bound : Option Int) : Token.AllPlain (boundClause keyword bound) := by
  cases bound with
  | none => exact Token.allPlain_nil
  | some n => exact Token.allPlain_cons.mpr ⟨hkeyword, by simp⟩

theorem limit_plain (limit : Option Int) : Token.AllPlain (boundClause " LIMIT " limit) :=
  boundClause_plain (by rfl) limit

theorem offset_plain (offset : Option Int) : Token.AllPlain (boundClause " OFFSET " offset) :=
  boundClause_plain (by rfl) offset

theorem names_plain (names : List Name) :
    Token.AllPlain (Token.listed (names.map fun n => [.name n])) :=
  Token.allPlain_listed (by simp) names

end BoundSql
