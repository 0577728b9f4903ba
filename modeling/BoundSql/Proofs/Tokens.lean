import BoundSql.Sql.Statement

/-!
# Texts of tokens

The text of tokens is the concatenation of their texts, so it can be computed piece by piece. Only
two marks ever stand around names.
-/

namespace BoundSql

/-- Names stand between grave accents or double quotes. -/
theorem Dialect.mark_eq (d : Dialect) : d.mark = '\x60' ∨ d.mark = '\x22' := by
  unfold Dialect.mark
  split
  · exact .inl rfl
  · exact .inr rfl

/-- Every character of a safe name may follow in one. -/
theorem Name.isNameChar_of_mem {n : Name} {c : Char} (h : c ∈ n.letters) : isNameChar c = true := by
  obtain ⟨letters, safe⟩ := n
  cases letters with
  | nil => cases safe
  | cons first rest =>
    obtain ⟨hstart, hrest⟩ := Bool.and_eq_true_iff.mp safe
    rcases List.mem_cons.mp h with rfl | h
    · rw [isNameChar, hstart, Bool.true_or]
    · exact List.all_eq_true.mp hrest c h

namespace Token

variable (mark : Char)

@[simp] theorem chars_word (s : String) : chars mark (.word s) = s.toList := rfl

@[simp] theorem chars_placeholder : chars mark .placeholder = ['?'] := rfl

@[simp] theorem chars_integer (n : Int) : chars mark (.integer n) = integerText n := rfl

@[simp] theorem render_nil : render mark [] = [] := rfl

@[simp] theorem render_cons (token : Token) (tokens : List Token) :
    render mark (token :: tokens) = token.chars mark ++ render mark tokens := rfl

@[simp] theorem render_append (first second : List Token) :
    render mark (first ++ second) = render mark first ++ render mark second := by
  simp [render]

/-- A separator stands between the first group and the others. -/
theorem separated_cons_cons (separator : Token) (first second : List Token)
    (rest : List (List Token)) :
    separated separator (first :: second :: rest) =
      first ++ separator :: separated separator (second :: rest) := rfl

/-- The text of separated groups is that of the groups with the separator in between. -/
theorem render_separated (separator : String) (groups : List (List Token)) :
    render mark (separated (.word separator) groups) =
      Text.joinWith separator.toList (groups.map (render mark)) := by
  induction groups with
  | nil => rfl
  | cons first groups ih =>
    cases groups with
    | nil => rfl
    | cons second groups =>
      rw [separated_cons_cons, render_append, render_cons, ih, chars_word, ← List.append_assoc]
      rfl

/-- The text of groups of tokens is that of the groups one after another. -/
theorem render_flatMap {α : Type} (f : α → List Token) (items : List α) :
    render mark (items.flatMap f) = items.flatMap fun item => render mark (f item) := by
  simp [render, List.flatMap_assoc]

end Token

end BoundSql
