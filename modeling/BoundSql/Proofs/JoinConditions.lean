import BoundSql.Error.Report
import BoundSql.Proofs.Trimming
import BoundSql.Sql.JoinCondition

/-!
# Join conditions as they are written

A join condition is a column-like text, a comparison sign and another column-like text, with blanks
around and between them. These are exactly the texts that are read. Each of them is written in one
way only: a part ends where the next character cannot belong to it, and where one sign begins
another one, nothing that may come behind the shorter begins with the rest of the longer.
-/

namespace BoundSql

open Text

namespace JoinCondition

/-! ## Column-like texts -/

/-- A column-like text begins as a name does and goes on with name characters, dots and stars. -/
def IsColumnText (s : List Char) : Prop :=
  ∃ c rest, s = c :: rest ∧ isNameStart c = true ∧ ∀ d ∈ rest, isColumnChar d = true

variable {s t x y w rest : List Char} {c : Char}

theorem isColumnChar_of_isNameStart (h : isNameStart c = true) : isColumnChar c = true := by
  rw [isColumnChar, isNameChar, h, Bool.true_or, Bool.true_or, Bool.true_or]

/-- No character of a column-like text is a blank. -/
theorem isBlank_of_isColumnChar (h : isColumnChar c = true) : isBlank c = false := by
  simp only [isColumnChar, Bool.or_eq_true, beq_iff_eq] at h
  rcases h with (hname | rfl) | rfl
  · exact EnvReference.isBlank_of_isNameChar hname
  · decide
  · decide

/-- Every character of a column-like text may follow in one. -/
theorem IsColumnText.chars (h : IsColumnText w) : ∀ c ∈ w, isColumnChar c = true := by
  obtain ⟨c, rest, rfl, hstart, hrest⟩ := h
  intro d hd
  rcases List.mem_cons.mp hd with rfl | hd
  · exact isColumnChar_of_isNameStart hstart
  · exact hrest d hd

/-- What begins with a column-like text begins with no blank. -/
theorem IsColumnText.head_blank (h : IsColumnText w) (x : List Char) :
    ∀ c ∈ (w ++ x).head?, isBlank c = false := by
  obtain ⟨d, rest, rfl, hstart, -⟩ := h
  rintro c ⟨⟩
  exact isBlank_of_isColumnChar (isColumnChar_of_isNameStart hstart)

/-- What ends with a column-like text ends with no blank. -/
theorem IsColumnText.last_blank (h : IsColumnText w) (s : List Char) :
    ∀ c ∈ (s ++ w).getLast?, isBlank c = false := by
  have hne : w ≠ [] := by
    obtain ⟨d, rest, rfl, -⟩ := h
    exact List.cons_ne_nil d rest
  have hlast : (s ++ w).getLast? = some (w.getLast hne) := by
    rw [List.getLast?_append, List.getLast?_eq_some_getLast hne]
    rfl
  rw [hlast]
  rintro c ⟨⟩
  exact isBlank_of_isColumnChar (h.chars _ (List.getLast_mem hne))

/-- A column-like text is split off if nothing comes behind it that could belong to it. -/
theorem IsColumnText.takeColumn? (h : IsColumnText w) (hx : ∀ c ∈ x.head?, isColumnChar c = false) :
    takeColumn? (w ++ x) = some (w, x) := by
  obtain ⟨c, rest, rfl, hstart, hrest⟩ := h
  rw [List.cons_append, JoinCondition.takeColumn?, if_pos hstart,
    takeWhile_append_of_stop hrest hx, dropWhile_append_of_stop hrest hx]

/-- Whatever is split off as a column-like text is one. -/
theorem of_takeColumn? (h : JoinCondition.takeColumn? s = some (w, rest)) :
    IsColumnText w ∧ s = w ++ rest := by
  cases s with
  | nil => cases h
  | cons c s =>
    rw [JoinCondition.takeColumn?] at h
    split at h
    next hstart =>
      obtain ⟨rfl, rfl⟩ := Prod.mk.inj (Option.some.inj h)
      have hsplit : s = s.takeWhile isColumnChar ++ s.dropWhile isColumnChar :=
        List.takeWhile_append_dropWhile.symm
      exact ⟨⟨c, _, rfl, hstart, fun d hd => List.mem_takeWhile_imp hd⟩, congrArg (c :: ·) hsplit⟩
    next => cases h

/-! ## Signs -/

/-- A sign begins with a character that is neither a blank nor part of a column-like text. -/
theorem sign_head (sign : Comparison) (x : List Char) :
    ∀ c ∈ (sign.text.toList ++ x).head?, isBlank c = false ∧ isColumnChar c = false := by
  cases sign <;> rintro c ⟨⟩ <;> decide

/-- A sign is split off if nothing comes behind it that makes it a longer one. -/
theorem takeSign?_append (sign : Comparison) (hx : ∀ c ∈ x.head?, c ≠ '=' ∧ c ≠ '>') :
    takeSign? (sign.text.toList ++ x) = some (sign, x) := by
  cases sign with
  | equal | notEqual | lessOrGreater | lessEqual | greaterEqual => rfl
  | less | greater =>
    cases x with
    | nil => rfl
    | cons c x =>
      have hc := hx c rfl
      simp [Comparison.text, takeSign?, hc.1, hc.2]

/-- Whatever is split off as a sign is one. -/
theorem of_takeSign? {sign : Comparison} (h : takeSign? s = some (sign, rest)) :
    s = sign.text.toList ++ rest := by
  unfold takeSign? at h
  split at h <;> cases h <;> rfl

/-! ## Conditions as they are written -/

/-- The parts of a condition as it is written. -/
structure Parts where
  /-- Blanks in front. -/
  before : List Char
  /-- The text on the left. -/
  left : List Char
  /-- Blanks between it and the sign. -/
  leftGap : List Char
  /-- The comparison. -/
  sign : Comparison
  /-- Blanks between the sign and the text on the right. -/
  rightGap : List Char
  /-- The text on the right. -/
  right : List Char
  /-- Blanks at the end. -/
  behind : List Char

namespace Parts

/-- What is written between the blanks at both ends. -/
def body (p : Parts) : List Char :=
  p.left ++ (p.leftGap ++ (p.sign.text.toList ++ (p.rightGap ++ p.right)))

/-- The condition that the parts make. -/
def condition (p : Parts) : JoinCondition :=
  ⟨String.ofList p.left, p.sign, String.ofList p.right⟩

/-- A text consists of the parts: column-like texts and a sign, with blanks around and between. -/
structure Write (p : Parts) (s : List Char) : Prop where
  /-- There are only blanks in front. -/
  before : ∀ c ∈ p.before, isBlank c = true
  /-- The text on the left is column-like. -/
  left : IsColumnText p.left
  /-- There are only blanks between it and the sign. -/
  leftGap : ∀ c ∈ p.leftGap, isBlank c = true
  /-- There are only blanks between the sign and the text on the right. -/
  rightGap : ∀ c ∈ p.rightGap, isBlank c = true
  /-- The text on the right is column-like. -/
  right : IsColumnText p.right
  /-- There are only blanks at the end. -/
  behind : ∀ c ∈ p.behind, isBlank c = true
  /-- The text is made of them. -/
  text : s = p.before ++ (p.body ++ p.behind)

end Parts

variable {p q : Parts}

/-- Blanks in front of what begins with no blank end there. -/
theorem gap_head {gap : List Char} (hgap : ∀ c ∈ gap, isBlank c = true)
    (hx : ∀ c ∈ x.head?, isColumnChar c = false) :
    ∀ c ∈ (gap ++ x).head?, isColumnChar c = false := by
  cases gap with
  | nil => exact hx
  | cons b gap =>
    rintro c ⟨⟩
    by_contra hchar
    have hblank := isBlank_of_isColumnChar (Bool.not_eq_false _ ▸ hchar)
    rw [hgap b List.mem_cons_self] at hblank
    cases hblank

/-- Neither blanks nor a column-like text make a sign a longer one. -/
theorem Parts.Write.sign_end (h : p.Write s) :
    ∀ c ∈ (p.rightGap ++ (p.right ++ x)).head?, c ≠ '=' ∧ c ≠ '>' := by
  intro c hc
  have hkind : isBlank c = true ∨ isNameStart c = true := by
    cases hgap : p.rightGap with
    | nil =>
      obtain ⟨d, rest, hright, hstart, -⟩ := h.right
      rw [hgap, hright] at hc
      obtain rfl : d = c := Option.some.inj hc
      exact .inr hstart
    | cons b gap =>
      rw [hgap] at hc
      obtain rfl : b = c := Option.some.inj hc
      exact .inl (h.rightGap b (by rw [hgap]; exact List.mem_cons_self))
  constructor
  · rintro rfl
    revert hkind
    decide
  · rintro rfl
    revert hkind
    decide

/-- What is left of a text without the blanks at both ends is what the parts write between them. -/
theorem Parts.Write.trim_eq (h : p.Write s) : trim s = p.body := by
  have hhead : ∀ c ∈ p.body.head?, isBlank c = false := h.left.head_blank _
  have hlast : ∀ c ∈ p.body.getLast?, isBlank c = false := by
    have hbody : p.body = (p.left ++ p.leftGap ++ p.sign.text.toList ++ p.rightGap) ++ p.right := by
      simp only [Parts.body, List.append_assoc]
    rw [hbody]
    exact h.right.last_blank _
  rw [h.text, trim_between p.body h.before h.behind, trim_of_ends hhead hlast]

/-- What the parts write is read as the condition that they make. -/
theorem Parts.Write.ofChars? (h : p.Write s) : JoinCondition.ofChars? p.body = some p.condition := by
  have hleft := h.left.takeColumn? (gap_head h.leftGap fun c hc =>
    (sign_head p.sign (p.rightGap ++ p.right) c hc).2)
  have hleftGap : trimLeft (p.leftGap ++ (p.sign.text.toList ++ (p.rightGap ++ p.right))) =
      p.sign.text.toList ++ (p.rightGap ++ p.right) :=
    dropWhile_append_of_stop h.leftGap fun c hc => (sign_head p.sign _ c hc).1
  have hsign : takeSign? (p.sign.text.toList ++ (p.rightGap ++ p.right)) =
      some (p.sign, p.rightGap ++ p.right) := by
    have hend := h.sign_end (x := [])
    rw [List.append_nil] at hend
    exact takeSign?_append p.sign hend
  have hrightGap : trimLeft (p.rightGap ++ p.right) = p.right := by
    have hhead := h.right.head_blank []
    rw [List.append_nil] at hhead
    exact dropWhile_append_of_stop h.rightGap hhead
  have hright : JoinCondition.takeColumn? p.right = some (p.right, []) := by
    have htake := h.right.takeColumn? (x := []) nofun
    rw [List.append_nil] at htake
    exact htake
  rw [JoinCondition.ofChars?, Parts.body]
  simp only [hleft, hleftGap, hsign, hrightGap, hright, Option.bind_eq_bind, Option.bind_some]
  rfl

/-- Whatever is read as a condition is written as one. -/
theorem exists_of_ofChars? {condition : JoinCondition} (h : ofChars? (trim s) = some condition) :
    ∃ p : Parts, p.Write s ∧ p.condition = condition := by
  unfold ofChars? at h
  simp only [Option.bind_eq_bind, Option.bind_eq_some_iff, Prod.exists] at h
  obtain ⟨left, afterLeft, hleft, sign, afterSign, hsign, right, afterRight, hright, h⟩ := h
  obtain ⟨hleftText, hbody⟩ := of_takeColumn? hleft
  obtain ⟨hrightText, hend⟩ := of_takeColumn? hright
  have hsignText := of_takeSign? hsign
  have hempty : afterRight = [] := by
    split at h
    next hempty => exact List.isEmpty_iff.mp hempty
    next => cases h
  subst hempty
  obtain ⟨before, behind, hbefore, hbehind, hs⟩ := exists_trim s
  have hleftGap : afterLeft = afterLeft.takeWhile isBlank ++ (sign.text.toList ++ afterSign) := by
    rw [← hsignText]
    exact List.takeWhile_append_dropWhile.symm
  have hrightGap : afterSign = afterSign.takeWhile isBlank ++ right := by
    rw [List.append_nil] at hend
    rw [← hend]
    exact List.takeWhile_append_dropWhile.symm
  refine ⟨⟨before, left, afterLeft.takeWhile isBlank, sign, afterSign.takeWhile isBlank, right,
    behind⟩, ⟨hbefore, hleftText, fun c hc => List.mem_takeWhile_imp hc,
    fun c hc => List.mem_takeWhile_imp hc, hrightText, hbehind, ?_⟩, ?_⟩
  · rw [Parts.body, ← hrightGap, ← hleftGap, ← hbody]
    exact hs
  · exact Option.some.inj h

/-- A text consists of its parts in one way only. -/
theorem Parts.Write.unique (h : p.Write s) (h' : q.Write s) : p = q := by
  -- from left to right: each part ends where a character comes that cannot belong to it
  have htext := h.text.symm.trans h'.text
  simp only [Parts.body, List.append_assoc] at htext
  obtain ⟨hbefore, htext⟩ := run_inj h.before h'.before (h.left.head_blank _)
    (h'.left.head_blank _) htext
  obtain ⟨hleft, htext⟩ := run_inj h.left.chars h'.left.chars
    (gap_head h.leftGap fun c hc => (sign_head _ _ c hc).2)
    (gap_head h'.leftGap fun c hc => (sign_head _ _ c hc).2) htext
  obtain ⟨hleftGap, htext⟩ := run_inj h.leftGap h'.leftGap
    (fun c hc => (sign_head _ _ c hc).1) (fun c hc => (sign_head _ _ c hc).1) htext
  have hsign := takeSign?_append p.sign (h.sign_end (x := p.behind))
  rw [htext, takeSign?_append q.sign (h'.sign_end (x := q.behind))] at hsign
  obtain ⟨hsign, htext⟩ := Prod.mk.inj (Option.some.inj hsign)
  obtain ⟨hrightGap, htext⟩ := run_inj h.rightGap h'.rightGap (h.right.head_blank _)
    (h'.right.head_blank _) htext.symm
  have hend : ∀ {x : List Char}, (∀ c ∈ x, isBlank c = true) →
      ∀ c ∈ x.head?, isColumnChar c = false := by
    intro x hx
    have hhead := gap_head hx (x := []) nofun
    rw [List.append_nil] at hhead
    exact hhead
  obtain ⟨hright, hbehind⟩ := run_inj h.right.chars h'.right.chars (hend h.behind)
    (hend h'.behind) htext
  cases p
  cases q
  simp only at hbefore hleft hleftGap hsign hrightGap hright hbehind
  rw [hbefore, hleft, hleftGap, hsign, hrightGap, hright, hbehind]

/-- A condition is read from exactly the texts that are written as it, its parts are known from the
text, and every other text is refused with an error that carries it as it is. -/
theorem read_grammar (s : String) :
    (∀ condition, read s = .ok condition ↔
        ∃ p : Parts, p.Write s.toList ∧ p.condition = condition) ∧
      Subsingleton {p : Parts // p.Write s.toList} ∧
      ((¬ ∃ p : Parts, p.Write s.toList) ↔
        ∃ e, read s = .error e ∧ e.kind = "UnsafeJoinExpressionError" ∧
          e.attributes = [("expression", .text s)]) := by
  have hwritten : ∀ {p : Parts}, p.Write s.toList → read s = .ok p.condition := by
    intro p hp
    rw [read, hp.trim_eq, hp.ofChars?]
  have hread : ∀ {condition}, read s = .ok condition →
      ∃ p : Parts, p.Write s.toList ∧ p.condition = condition := by
    intro condition h
    unfold read at h
    split at h
    next found hfound =>
      cases h
      exact exists_of_ofChars? hfound
    next => cases h
  refine ⟨fun condition => ⟨hread, ?_⟩, ⟨?_⟩, ?_, ?_⟩
  · rintro ⟨p, hp, rfl⟩
    exact hwritten hp
  · rintro ⟨p, hp⟩ ⟨q, hq⟩
    exact Subtype.ext (hp.unique hq)
  · intro hnone
    cases hfound : ofChars? (trim s.toList) with
    | some condition =>
      obtain ⟨p, hp, -⟩ := exists_of_ofChars? hfound
      exact absurd ⟨p, hp⟩ hnone
    | none =>
      refine ⟨.unsafeJoin s, ?_, rfl, rfl⟩
      rw [read, hfound]
  · rintro ⟨e, he, -⟩ ⟨p, hp⟩
    rw [hwritten hp] at he
    cases he

end JoinCondition

end BoundSql
