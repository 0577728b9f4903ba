import BoundSql.Proofs.Digits
import BoundSql.Proofs.Tokens
import Mathlib.Data.List.Count

/-!
# Texts in place of question marks

A template is filled by putting texts in the places of its question marks, from the first one on. A
template that is put together from smaller ones is filled part by part, provided each part has as
many texts as question marks. Tokens other than placeholders have no question mark as long as their
words have none, so statements are filled only where values belong.
-/

namespace BoundSql

/-- A template with texts in the places of its question marks. A question mark without a text
stays, and a text without a question mark is left out. -/
def fill : List Char → List (List Char) → List Char
  | [], _ => []
  | '?' :: rest, text :: texts => text ++ fill rest texts
  | c :: rest, texts => c :: fill rest texts

theorem fill_mark (rest text : List Char) (texts : List (List Char)) :
    fill ('?' :: rest) (text :: texts) = text ++ fill rest texts := rfl

theorem fill_other {c : Char} (h : c ≠ '?') (rest : List Char) (texts : List (List Char)) :
    fill (c :: rest) texts = c :: fill rest texts := by
  rw [fill]
  intro text more _ hc
  exact h hc

/-- There is a text for each question mark, and filling gives a text. -/
structure Fills (template : List Char) (texts : List (List Char)) (out : List Char) : Prop where
  /-- As many question marks as texts. -/
  count : template.count '?' = texts.length
  /-- What filling gives. -/
  text : fill template texts = out

namespace Fills

variable {template more : List Char} {texts tail : List (List Char)} {out rest : List Char}

/-- A template without question marks stays as it is. -/
theorem quiet (h : '?' ∉ template) : Fills template [] template := by
  refine ⟨List.count_eq_zero_of_not_mem h, ?_⟩
  induction template with
  | nil => rfl
  | cons c template ih =>
    have hc : c ≠ '?' := fun heq => h (heq ▸ List.mem_cons_self)
    rw [fill_other hc, ih fun hmem => h (List.mem_cons_of_mem c hmem)]

/-- A question mark is replaced by its text. -/
theorem hole (text : List Char) : Fills ['?'] [text] text :=
  ⟨rfl, List.append_nil text⟩

/-- Templates one after another are filled one after another. -/
theorem append (h : Fills template texts out) (hmore : Fills more tail rest) :
    Fills (template ++ more) (texts ++ tail) (out ++ rest) := by
  obtain ⟨hcount, rfl⟩ := h
  obtain ⟨hmorecount, rfl⟩ := hmore
  refine ⟨by rw [List.count_append, List.length_append, hcount, hmorecount], ?_⟩
  clear hmorecount
  induction template generalizing texts with
  | nil =>
    have hnil : texts = [] := List.length_eq_zero_iff.mp hcount.symm
    rw [hnil]
    rfl
  | cons c template ih =>
    by_cases hc : c = '?'
    · subst hc
      rw [List.count_cons_self] at hcount
      cases texts with
      | nil => cases hcount
      | cons text texts =>
        have hstep := ih (Nat.succ.inj hcount)
        rw [List.cons_append, List.cons_append, fill_mark, fill_mark, hstep, List.append_assoc]
    · rw [List.count_cons_of_ne hc] at hcount
      rw [List.cons_append, fill_other hc, fill_other hc, ih hcount, List.cons_append]

/-- Items with a separator in between are filled item by item. -/
theorem joined {α : Type} {separator : List Char} {f g : α → List Char}
    {ts : α → List (List Char)} {items : List α} (hquiet : '?' ∉ separator)
    (h : ∀ item ∈ items, Fills (f item) (ts item) (g item)) :
    Fills (Text.joinWith separator (items.map f)) (items.flatMap ts)
      (Text.joinWith separator (items.map g)) := by
  induction items with
  | nil => exact ⟨rfl, rfl⟩
  | cons first items ih =>
    have hfirst := h first List.mem_cons_self
    cases items with
    | nil =>
      simpa only [List.map_cons, List.map_nil, List.flatMap_cons, List.flatMap_nil,
        List.append_nil, Text.joinWith] using hfirst
    | cons second items =>
      have hmore := ih fun item hitem => h item (List.mem_cons_of_mem first hitem)
      have hstep := (hfirst.append (quiet hquiet)).append hmore
      simpa only [List.map_cons, List.flatMap_cons, List.append_nil, Text.joinWith] using hstep

end Fills

namespace Token

/-- The token has no question mark. -/
def Quiet : Token → Prop
  | .word s => '?' ∉ s.toList
  | .free s => '?' ∉ s.toList
  | .name _ => True
  | .placeholder => False
  | .integer _ => True

/-- None of the tokens has a question mark. -/
def AllQuiet (tokens : List Token) : Prop := ∀ t ∈ tokens, t.Quiet

@[simp] theorem allQuiet_nil : AllQuiet [] := by
  intro t ht
  cases ht

@[simp] theorem allQuiet_cons {t : Token} {tokens : List Token} :
    AllQuiet (t :: tokens) ↔ t.Quiet ∧ AllQuiet tokens := List.forall_mem_cons

@[simp] theorem allQuiet_append {first second : List Token} :
    AllQuiet (first ++ second) ↔ AllQuiet first ∧ AllQuiet second := List.forall_mem_append

@[simp] theorem quiet_word (s : String) : (Token.word s).Quiet ↔ '?' ∉ s.toList := Iff.rfl

@[simp] theorem quiet_name (n : Name) : (Token.name n).Quiet := trivial

@[simp] theorem quiet_integer (n : Int) : (Token.integer n).Quiet := trivial

/-- The digits of an integer are no question marks. -/
theorem question_not_mem_integerText (n : Int) : '?' ∉ integerText n := by
  have hdigits : '?' ∉ decimalDigits n.natAbs := by
    intro h
    have hdigit := isAsciiDigit_of_mem_decimalDigits h
    revert hdigit
    decide
  unfold integerText
  split
  · intro h
    rcases List.mem_cons.mp h with h | h
    · revert h
      decide
    · exact hdigits h
  · exact hdigits

/-- The letters of a name are no question marks. -/
theorem question_not_mem_letters (n : Name) : '?' ∉ n.letters := by
  intro h
  obtain ⟨letters, safe⟩ := n
  cases letters with
  | nil => cases safe
  | cons c rest =>
    obtain ⟨hstart, hrest⟩ := Bool.and_eq_true_iff.mp safe
    rcases List.mem_cons.mp h with rfl | h
    · revert hstart
      decide
    · have hchar := List.all_eq_true.mp hrest '?' h
      revert hchar
      decide

/-- Nor is the mark around them. -/
theorem question_ne_mark (d : Dialect) : '?' ≠ d.mark := by
  rcases d.mark_eq with h | h <;> rw [h] <;> decide

/-- A token without a question mark has none in its text. -/
theorem Quiet.chars {d : Dialect} {t : Token} (h : t.Quiet) : '?' ∉ t.chars d.mark := by
  cases t with
  | word s => exact h
  | free s => exact h
  | name n =>
    have hmark := question_ne_mark d
    have hletters := question_not_mem_letters n
    simp [Token.chars, hmark, hletters]
  | placeholder => cases h
  | integer n => exact question_not_mem_integerText n

/-- Tokens without question marks need no texts. -/
theorem AllQuiet.fills {tokens : List Token} (h : AllQuiet tokens) (d : Dialect) :
    Fills (render d.mark tokens) [] (render d.mark tokens) := by
  apply Fills.quiet
  intro hmem
  obtain ⟨t, ht, hmem⟩ := List.mem_flatMap.mp hmem
  exact (h t ht).chars hmem

end Token

end BoundSql
