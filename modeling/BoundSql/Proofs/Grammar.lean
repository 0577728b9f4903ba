import BoundSql.Proofs.Compilation
import BoundSql.Proofs.Digits
import BoundSql.Proofs.Tokens
import Mathlib.Computability.Language

/-!
# The grammar of statements

A grammar of all texts that may be sent, written with the operations on languages: union, product
and repetition. Its only variable parts are safe names between quote marks, natural numerals behind
LIMIT and OFFSET, and the choice among fixed words. The main statement is that every statement which
compiles from clause calls is a sentence of this grammar, whatever the calls were given.
-/

namespace BoundSql

namespace Grammar

open scoped Computability

/-- One fixed text. -/
def word (s : String) : Language Char := {s.toList}

/-- One of some fixed texts. -/
def oneOf (words : List String) : Language Char := {s | ∃ w ∈ words, s = w.toList}

/-- One character of a class. -/
def single (p : Char → Prop) : Language Char := {s | ∃ c, p c ∧ s = [c]}

/-- Something that may be left out. -/
def opt (l : Language Char) : Language Char := 1 + l

/-- One or more items with a separator in between. -/
def listOf (separator : String) (item : Language Char) : Language Char :=
  item * (word separator * item)∗

/-- An ASCII letter or a low line. -/
def letter : Language Char :=
  single fun c => ('a' ≤ c ∧ c ≤ 'z') ∨ ('A' ≤ c ∧ c ≤ 'Z') ∨ c = '_'

/-- An ASCII digit. -/
def digit : Language Char := single fun c => '0' ≤ c ∧ c ≤ '9'

/-- A natural numeral without leading zeros. -/
def numeral : Language Char := word "0" + single (fun c => '1' ≤ c ∧ c ≤ '9') * digit∗

/-- The comparison signs. -/
def signs : List String := ["=", "!=", "<>", "<", ">", "<=", ">="]

/-- The place of a parameter. -/
def placeholder : Language Char := word "?"

/-- The greatest count of rows. -/
def limit : Language Char := word " LIMIT " * numeral

/-- The count of rows to pass over. -/
def offset : Language Char := word " OFFSET " * numeral

/-- A row of places. -/
def row : Language Char := word "(" * listOf ", " placeholder * word ")"

section

variable (mark : Char)

/-- A text between quote marks. -/
def quoted (l : Language Char) : Language Char := single (· = mark) * l * single (· = mark)

/-- A safe name between quote marks. -/
def name : Language Char := quoted mark (letter * (letter + digit)∗)

/-- Names with dots in between. -/
def path : Language Char := listOf "." (name mark)

/-- A column, a star, or a table followed by a star. -/
def column : Language Char := word "*" + path mark + path mark * word "." * word "*"

/-- A table with an optional label. -/
def table : Language Char := path mark * opt (word " AS " * name mark)

/-- A condition. -/
def condition : Language Char :=
  column mark * word " " * oneOf ("LIKE" :: signs) * word " " * placeholder +
    column mark * word " " * oneOf ["IN", "NOT IN"] * word " (" * listOf ", " placeholder *
      word ")" +
    column mark * word " " * oneOf ["IS", "IS NOT"] * word " " * oneOf ["NULL", "TRUE", "FALSE"] +
    oneOf ["0=1", "1=1"]

/-- Conditions behind a keyword. -/
def conditions (keyword : String) : Language Char :=
  word " " * word keyword * word " " * condition mark *
    (word " " * oneOf ["AND", "OR"] * word " " * condition mark)∗

/-- A joined table. -/
def join : Language Char :=
  word " " * oneOf ["INNER", "LEFT", "RIGHT"] * word " JOIN " * table mark * word " ON " *
    column mark * word " " * oneOf signs * word " " * column mark

/-- Everything from the table up to the conditions on groups. -/
def source : Language Char :=
  path mark * (join mark)∗ * opt (conditions mark "WHERE") *
    opt (word " GROUP BY " * listOf ", " (column mark)) * opt (conditions mark "HAVING")

/-- The keys of an ordering. -/
def ordering : Language Char :=
  word " ORDER BY " * listOf ", " (column mark * word " " * oneOf ["ASC", "DESC"])

/-- A select of columns. -/
def select : Language Char :=
  word "SELECT " * listOf ", " (column mark) * word " FROM " * source mark * opt (ordering mark) *
    opt limit * opt offset

/-- A count of rows. -/
def count : Language Char :=
  word "SELECT " * word "COUNT(*) AS " * quoted mark (word "cnt") * word " FROM " * source mark

/-- An insert of rows. -/
def insert : Language Char :=
  word "INSERT INTO " * path mark * word " (" * listOf ", " (name mark) * word ") VALUES " *
    listOf ", " row

/-- A column with the place of its new value. -/
def assignment : Language Char := name mark * word " = " * placeholder

/-- A change of rows. -/
def update : Language Char :=
  word "UPDATE " * path mark * word " SET " *
    listOf ", " (assignment mark) * conditions mark "WHERE" * opt limit

/-- A removal of rows. -/
def delete : Language Char :=
  word "DELETE FROM " * path mark * conditions mark "WHERE" * opt limit

/-- A statement. -/
def statement : Language Char :=
  select mark + count mark + insert mark + update mark + delete mark

end

/-! ## Sentences of the operations -/

variable {mark : Char} {l m : Language Char}

theorem word_mem (s : String) : s.toList ∈ word s := rfl

theorem oneOf_mem {words : List String} {w : String} (h : w ∈ words) : w.toList ∈ oneOf words :=
  ⟨w, h, rfl⟩

theorem single_mem {p : Char → Prop} {c : Char} (h : p c) : [c] ∈ single p := ⟨c, h, rfl⟩

theorem nil_mem_opt : [] ∈ opt l := .inl rfl

theorem mem_opt {s : List Char} (h : s ∈ l) : s ∈ opt l := .inr h

/-- Characters that are sentences make up a repetition. -/
theorem mem_kstar_of_chars {s : List Char} (h : ∀ c ∈ s, [c] ∈ l) : s ∈ l∗ := by
  have hflat : s = (s.map fun c => [c]).flatten := by
    induction s with
    | nil => rfl
    | cons c s ih => rw [List.map_cons, List.flatten_cons, ← ih fun d hd => h d (.tail c hd)]; rfl
  rw [hflat]
  apply Language.join_mem_kstar
  intro t ht
  obtain ⟨c, hc, rfl⟩ := List.mem_map.mp ht
  exact h c hc

/-- Sentences one after another make up a repetition. -/
theorem flatMap_mem_kstar {α : Type} {f : α → List Char} {items : List α}
    (h : ∀ item ∈ items, f item ∈ l) : items.flatMap f ∈ l∗ := by
  rw [List.flatMap_def]
  apply Language.join_mem_kstar
  intro t ht
  obtain ⟨item, hitem, rfl⟩ := List.mem_map.mp ht
  exact h item hitem

/-- Groups of tokens whose texts are items make up a list of items. -/
theorem separated_mem {separator : String} {groups : List (List Token)} (hne : groups ≠ [])
    (h : ∀ group ∈ groups, Token.render mark group ∈ l) :
    Token.render mark (Token.separated (.word separator) groups) ∈ listOf separator l := by
  induction groups with
  | nil => exact absurd rfl hne
  | cons group rest ih =>
    have hgroup := h group List.mem_cons_self
    cases rest with
    | nil =>
      have hnil := Language.append_mem_mul hgroup (Language.nil_mem_kstar (word separator * l))
      rw [List.append_nil] at hnil
      exact hnil
    | cons next rest =>
      have hmore := ih (by simp) fun g hg => h g (.tail group hg)
      rw [Token.separated_cons_cons, Token.render_append, Token.render_cons]
      refine Language.append_mem_mul hgroup ?_
      have hstep := Language.append_mem_mul (word_mem separator) hmore
      rw [listOf, ← mul_assoc] at hstep
      exact (mul_kstar_le_kstar : _ ≤ (word separator * l)∗) hstep

end Grammar

end BoundSql
