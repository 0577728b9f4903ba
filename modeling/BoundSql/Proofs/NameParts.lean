import BoundSql.Proofs.Pieces

/-!
# Quoted names

A name consists of segments, and a star may come last. Each segment is written between two marks,
with dots in between. A reader of quoted names finds the parts again if no mark is in a segment.
-/

namespace BoundSql

open Text

/-- The parts of a name: its segments, and whether a star comes last. -/
structure NameParts where
  /-- The segments in order. -/
  segments : List (List Char)
  /-- A star comes last. -/
  star : Bool
  deriving DecidableEq

namespace NameParts

/-- The segments, each written in some way, and the star. -/
def pieces (write : List Char → List Char) (p : NameParts) : List (List Char) :=
  p.segments.map write ++ if p.star then [['*']] else []

/-- Without a star there are the segments alone. -/
theorem pieces_plain (write : List Char → List Char) (segments : List (List Char)) :
    (NameParts.mk segments false).pieces write = segments.map write :=
  List.append_nil _

/-- A segment between two marks. -/
def wrap (mark : Char) (segment : List Char) : List Char := mark :: (segment ++ [mark])

/-- The parts with dots in between. -/
def dotted (p : NameParts) : String := String.ofList (joinWith ['.'] (p.pieces id))

/-- The parts with dots in between, each segment between two marks. -/
def quoted (mark : Char) (p : NameParts) : List Char := joinWith ['.'] (p.pieces (wrap mark))

/-- The parts with one more segment in front. -/
def prepend (segment : List Char) (p : NameParts) : NameParts := ⟨segment :: p.segments, p.star⟩

/-- Reads a quoted name. A segment stands between two marks, and two marks in a row within it are
one that belongs to it; a star may stand in the last place. What was read of a segment since its
first mark is kept in reverse; nothing is kept between segments. -/
def unquoteFrom (mark : Char) : Option (List Char) → List Char → Option NameParts
  | none, [] => none
  | none, c :: rest =>
    if c = mark then unquoteFrom mark (some []) rest
    else if c = '*' ∧ rest = [] then some ⟨[], true⟩
    else none
  | some _, [] => none
  | some segment, c :: rest =>
    if c = mark then
      match rest with
      | [] => some ⟨[segment.reverse], false⟩
      | d :: more =>
        if d = '.' then (unquoteFrom mark none more).map (prepend segment.reverse)
        else if d = mark then unquoteFrom mark (some (mark :: segment)) more
        else none
    else unquoteFrom mark (some (c :: segment)) rest

/-- Reads a quoted name from its beginning. -/
def unquote? (mark : Char) (s : List Char) : Option NameParts := unquoteFrom mark none s

variable {mark : Char} {p q : NameParts}

/-- A character that is no mark belongs to the segment. -/
theorem unquoteFrom_inside {c : Char} (hc : c ≠ mark) (segment rest : List Char) :
    unquoteFrom mark (some segment) (c :: rest) = unquoteFrom mark (some (c :: segment)) rest := by
  cases rest <;> simp only [unquoteFrom, if_neg hc]

/-- What stands before the next mark belongs to the segment. -/
theorem unquoteFrom_append {s : List Char} (h : mark ∉ s) (segment rest : List Char) :
    unquoteFrom mark (some segment) (s ++ rest) =
      unquoteFrom mark (some (s.reverse ++ segment)) rest := by
  induction s generalizing segment with
  | nil => rfl
  | cons c s ih =>
    have hc : c ≠ mark := fun heq => h (heq ▸ List.mem_cons_self)
    rw [List.cons_append, unquoteFrom_inside hc, ih fun hmem => h (List.mem_cons_of_mem c hmem),
      List.reverse_cons, List.append_assoc]
    rfl

/-- A segment between marks is read as what it is. -/
theorem unquote?_wrap {s : List Char} (h : mark ∉ s) (rest : List Char) :
    unquote? mark (wrap mark s ++ rest) = unquoteFrom mark (some s.reverse) (mark :: rest) := by
  rw [unquote?, wrap, List.cons_append, unquoteFrom, if_pos rfl, List.append_assoc,
    unquoteFrom_append h, List.append_nil]
  rfl

/-- The parts are there, and no mark is in a segment. -/
structure Quotable (mark : Char) (p : NameParts) : Prop where
  /-- Something is written. -/
  ne_nil : p.segments ≠ [] ∨ p.star = true
  /-- No mark is in a segment. -/
  unmarked : ∀ segment ∈ p.segments, mark ∉ segment

/-- Then there is a piece to write. -/
theorem Quotable.pieces_ne_nil (h : p.Quotable mark) (write : List Char → List Char) :
    p.pieces write ≠ [] := by
  rw [pieces]
  rcases h.ne_nil with hne | hstar
  · exact List.append_ne_nil_of_left_ne_nil (fun hnone => hne (List.map_eq_nil_iff.mp hnone)) _
  · rw [hstar]
    exact List.append_ne_nil_of_right_ne_nil _ (List.cons_ne_nil _ _)

/-- One more segment comes before a dot. -/
theorem quoted_prepend (h : p.Quotable mark) (segment : List Char) :
    (p.prepend segment).quoted mark = wrap mark segment ++ '.' :: p.quoted mark := by
  obtain ⟨first, more, hpieces⟩ := List.exists_cons_of_ne_nil (h.pieces_ne_nil (wrap mark))
  have hall : (p.prepend segment).pieces (wrap mark) = wrap mark segment :: first :: more := by
    rw [← hpieces]
    rfl
  rw [quoted, quoted, hall, hpieces, joinWith_cons_cons, List.singleton_append]

/-- What is written is read back. -/
theorem unquote?_quoted (hstar : mark ≠ '*') (h : p.Quotable mark) :
    unquote? mark (p.quoted mark) = some p := by
  obtain ⟨segments, star⟩ := p
  induction segments with
  | nil =>
    obtain rfl : star = true := h.ne_nil.resolve_left fun hne => hne rfl
    have hmark : ¬ '*' = mark := fun heq => hstar heq.symm
    rw [quoted, pieces, unquote?]
    simp [joinWith, unquoteFrom, hmark]
  | cons segment rest ih =>
    obtain ⟨hsegment, hrest⟩ := List.forall_mem_cons.mp h.unmarked
    by_cases hlast : rest = [] ∧ star = false
    · obtain ⟨rfl, rfl⟩ := hlast
      have hread := unquote?_wrap hsegment []
      rw [List.append_nil] at hread
      rw [quoted, pieces_plain, List.map_singleton, joinWith, hread]
      simp [unquoteFrom]
    · have hmore : (NameParts.mk rest star).Quotable mark := by
        refine ⟨?_, hrest⟩
        cases rest with
        | nil => exact .inr (by simpa using hlast)
        | cons second rest => exact .inl (List.cons_ne_nil _ _)
      have hform := quoted_prepend hmore segment
      rw [prepend] at hform
      have hrec := ih hmore
      rw [unquote?] at hrec
      rw [hform, unquote?_wrap hsegment, unquoteFrom, if_pos rfl]
      simp only [if_true, hrec, Option.map_some, prepend, List.reverse_reverse]

end NameParts

end BoundSql
