import BoundSql.Proofs.Opening
import BoundSql.Proofs.Sealed

/-!
# Quote marks

Two dialects write a statement with the same words, names, placeholders and integers. The only
characters that differ are the marks around names, and no mark of either dialect stands anywhere
else, so the text for one dialect is the text for the other with its marks replaced.
-/

namespace BoundSql

namespace Text

/-- The character is the quote mark of some dialect. -/
def isMark (c : Char) : Bool := c == '\x22' || c == '\x60'

/-- A text whose only quote marks are the given one, once on each side of a safe name. -/
inductive Marked (mark : Char) : List Char → Prop
  /-- Nothing is written. -/
  | nil : Marked mark []
  /-- A character that is no quote mark comes first. -/
  | plain {c : Char} {rest : List Char} (hc : isMark c = false) (h : Marked mark rest) :
      Marked mark (c :: rest)
  /-- A name between marks comes first. -/
  | name (n : Name) {rest : List Char} (h : Marked mark rest) :
      Marked mark (mark :: (n.letters ++ mark :: rest))

/-- Every occurrence of one character replaced by another. -/
def replaceChar (old new : Char) (s : List Char) : List Char :=
  s.map fun c => if c = old then new else c

variable {mark other : Char} {s t : List Char}

@[simp] theorem replaceChar_cons (c : Char) :
    replaceChar mark other (c :: s) =
      (if c = mark then other else c) :: replaceChar mark other s := rfl

@[simp] theorem replaceChar_append :
    replaceChar mark other (s ++ t) = replaceChar mark other s ++ replaceChar mark other t :=
  List.map_append

/-- Only what occurs is replaced. -/
theorem replaceChar_of_not_mem (h : mark ∉ s) : replaceChar mark other s = s := by
  have hkept : ∀ c ∈ s, (if c = mark then other else c) = c := by
    intro c hc
    refine if_neg ?_
    rintro rfl
    exact h hc
  rw [replaceChar, List.map_congr_left hkept, List.map_id']

namespace Marked

/-- What has no marks may stand in front. -/
theorem prepend (hs : ∀ c ∈ s, isMark c = false) (ht : Marked mark t) : Marked mark (s ++ t) := by
  induction s with
  | nil => exact ht
  | cons c s ih =>
    have hrest := ih fun d hd => hs d (List.mem_cons_of_mem c hd)
    exact .plain (hs c List.mem_cons_self) hrest

end Marked

end Text

open Text

/-- The mark of a dialect is a quote mark. -/
theorem Dialect.isMark_mark (d : Dialect) : isMark d.mark = true := by
  rcases d.mark_eq with h | h <;> rw [h] <;> rfl

/-! ## Marks in the text of tokens -/

namespace Token

variable {mark other : Char} {t : Token} {tokens : List Token}

theorem isMark_of_isCalm {c : Char} (h : isCalm c = true) : isMark c = false := by
  rw [isMark, Bool.or_eq_false_iff, beq_eq_false_iff_ne, beq_eq_false_iff_ne]
  constructor
  · rintro rfl
    exact absurd h (by decide)
  · rintro rfl
    exact absurd h (by decide)

/-- Apart from names, placeholders and plain tokens have no marks, whatever the dialect. -/
theorem chars_of_ne_name (mark other : Char) (h : t = .placeholder ∨ t.Plain)
    (hname : ∀ n, t ≠ .name n) :
    t.chars other = t.chars mark ∧ ∀ c ∈ t.chars mark, isMark c = false := by
  cases t with
  | word s =>
    have hplain : (Token.word s).Plain := h.resolve_left nofun
    exact ⟨rfl, fun c hc => isMark_of_isCalm (List.all_eq_true.mp hplain c hc)⟩
  | free s => exact absurd (h.resolve_left nofun) id
  | name n => exact absurd rfl (hname n)
  | placeholder =>
    refine ⟨rfl, fun c hc => ?_⟩
    rw [List.mem_singleton.mp hc]
    rfl
  | integer n => exact ⟨rfl, fun c hc => isMark_of_isCalm (isCalm_of_mem_integerText hc)⟩

/-- The marks of tokens stand around their names. -/
theorem render_marked (mark : Char) (h : ∀ t ∈ tokens, t = .placeholder ∨ t.Plain) :
    Marked mark (render mark tokens) := by
  induction tokens with
  | nil => exact .nil
  | cons t rest ih =>
    have hrest := ih fun u hu => h u (List.mem_cons_of_mem t hu)
    rw [render_cons]
    by_cases hname : ∃ n, t = .name n
    · obtain ⟨n, rfl⟩ := hname
      have hmarked := Marked.name n hrest
      simpa [chars] using hmarked
    · have hchars := chars_of_ne_name mark mark (h t List.mem_cons_self)
        fun n hn => hname ⟨n, hn⟩
      exact hrest.prepend hchars.2

/-- For another dialect the marks are replaced and nothing else. -/
theorem render_replace (hmark : isMark mark = true) (other : Char)
    (h : ∀ t ∈ tokens, t = .placeholder ∨ t.Plain) :
    render other tokens = replaceChar mark other (render mark tokens) := by
  induction tokens with
  | nil => rfl
  | cons t rest ih =>
    have hrest := ih fun u hu => h u (List.mem_cons_of_mem t hu)
    rw [render_cons, render_cons, replaceChar_append, hrest]
    congr 1
    by_cases hname : ∃ n, t = .name n
    · obtain ⟨n, rfl⟩ := hname
      have hletters : mark ∉ n.letters := fun hmem => by
        have hnone := isMark_of_isCalm (isCalm_of_mem_letters hmem)
        rw [hmark] at hnone
        cases hnone
      simp only [chars, List.cons_append, replaceChar_cons, if_pos, replaceChar_append,
        replaceChar_of_not_mem hletters]
      rfl
    · have hchars := chars_of_ne_name mark other (h t List.mem_cons_self)
        fun n hn => hname ⟨n, hn⟩
      have hnone : mark ∉ t.chars mark := fun hmem => by
        have hnone := hchars.2 mark hmem
        rw [hmark] at hnone
        cases hnone
      rw [replaceChar_of_not_mem hnone, hchars.1]

end Token

/-! ## Marks in compiled texts -/

/-- Two compiled texts with their parameters differ only in the marks around names: the parameters
are the same, the second text is the first with its marks replaced, and there are no quote marks but
those around names. -/
structure SameButMarks (mark other : Char) (a b : String × List Value) : Prop where
  /-- The parameters are the same. -/
  params : b.2 = a.2
  /-- Every mark is replaced by the other one. -/
  replaced : b.1.toList = replaceChar mark other a.1.toList
  /-- The marks of the first text stand around names. -/
  marked : Marked mark a.1.toList
  /-- So do those of the second one. -/
  otherMarked : Marked other b.1.toList

/-- For any two drivers a call on a query that clause calls have collected is refused with the same
error or compiled to texts that differ only in their marks. -/
theorem Command.answer_sameButMarks (driver other : String) (clauses : List Clause)
    (command : Command) :
    Act.Matching (SameButMarks (Dialect.ofDriver driver).mark (Dialect.ofDriver other).mark)
      (command.answer driver (Query.collect clauses))
      (command.answer other (Query.collect clauses)) := by
  rw [answer, answer]
  cases hcompile : command.compile (Query.collect clauses) with
  | error e => exact rfl
  | ok c =>
    have hregular := (Query.collect_collected clauses).compile_regular hcompile
    have htokens := hregular.tokens_sealed.plain
    refine ⟨rfl, ?_, ?_, ?_⟩ <;>
      simp only [Compiled.sql, Statement.sql, String.toList_ofList]
    · exact Token.render_replace (Dialect.isMark_mark _) _ htokens
    · exact Token.render_marked _ htokens
    · exact Token.render_marked _ htokens

end BoundSql
