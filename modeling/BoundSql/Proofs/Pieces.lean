import BoundSql.Proofs.Trimming

/-!
# Texts in pieces

A text can be cut at every occurrence of a separator, and pieces can be put together with one in
between. Pieces that do not hold the separator are found again. Blanks around a text are blanks
around its first and its last piece.
-/

namespace BoundSql

namespace Text

variable {separator : Char} {s piece rest before behind : List Char} {pieces : List (List Char)}

/-- Pieces are put together one by one. -/
theorem joinWith_cons_cons (separator first second : List Char) (more : List (List Char)) :
    joinWith separator (first :: second :: more) =
      first ++ (separator ++ joinWith separator (second :: more)) := by
  rw [joinWith, List.append_assoc]
  rintro ⟨⟩

/-- One more piece comes behind a separator. -/
theorem joinWith_concat {pieces : List (List Char)} (hne : pieces ≠ [])
    (separator last : List Char) :
    joinWith separator (pieces ++ [last]) = joinWith separator pieces ++ (separator ++ last) := by
  induction pieces with
  | nil => exact absurd rfl hne
  | cons first more ih =>
    cases more with
    | nil => rw [List.singleton_append, joinWith_cons_cons, joinWith, joinWith]
    | cons second more =>
      have hrest := ih (List.cons_ne_nil _ _)
      rw [List.cons_append] at hrest
      rw [List.cons_append, List.cons_append, joinWith_cons_cons, joinWith_cons_cons, hrest,
        List.append_assoc, List.append_assoc]

/-- The characters of texts with a separator in between are theirs and those of the separator. -/
theorem mem_joinWith {c : Char} {separator : List Char} {pieces : List (List Char)}
    (h : c ∈ joinWith separator pieces) : c ∈ separator ∨ ∃ piece ∈ pieces, c ∈ piece := by
  induction pieces with
  | nil => cases h
  | cons first more ih =>
    cases more with
    | nil => exact .inr ⟨first, List.mem_cons_self, h⟩
    | cons second more =>
      rw [joinWith_cons_cons, List.mem_append, List.mem_append] at h
      rcases h with hfirst | hseparator | hmore
      · exact .inr ⟨first, List.mem_cons_self, hfirst⟩
      · exact .inl hseparator
      · rcases ih hmore with hseparator | ⟨piece, hpiece, hc⟩
        · exact .inl hseparator
        · exact .inr ⟨piece, List.mem_cons_of_mem _ hpiece, hc⟩

theorem splitAt_of_not_mem (h : separator ∉ s) : splitAt separator s = [s] := by
  induction s with
  | nil => rfl
  | cons c s ih =>
    have hc : c ≠ separator := fun heq => h (heq ▸ List.mem_cons_self)
    rw [splitAt, if_neg hc, ih fun hmem => h (List.mem_cons_of_mem c hmem)]

/-- A piece ends at the first separator. -/
theorem splitAt_append (h : separator ∉ piece) (rest : List Char) :
    splitAt separator (piece ++ separator :: rest) = piece :: splitAt separator rest := by
  induction piece with
  | nil => rw [List.nil_append, splitAt, if_pos rfl]
  | cons c piece ih =>
    have hc : c ≠ separator := fun heq => h (heq ▸ List.mem_cons_self)
    rw [List.cons_append, splitAt, if_neg hc, ih fun hmem => h (List.mem_cons_of_mem c hmem)]

/-- Pieces without the separator are found again where it stands between them. -/
theorem splitAt_joinWith (hne : pieces ≠ []) (h : ∀ piece ∈ pieces, separator ∉ piece) :
    splitAt separator (joinWith [separator] pieces) = pieces := by
  induction pieces with
  | nil => exact absurd rfl hne
  | cons first more ih =>
    obtain ⟨hfirst, hmore⟩ := List.forall_mem_cons.mp h
    cases more with
    | nil => exact splitAt_of_not_mem hfirst
    | cons second more =>
      rw [joinWith_cons_cons, List.singleton_append, splitAt_append hfirst,
        ih (List.cons_ne_nil _ _) hmore]

theorem separator_not_mem_splitAt (h : piece ∈ splitAt separator s) : separator ∉ piece := by
  induction s generalizing piece with
  | nil =>
    rw [splitAt, List.mem_singleton] at h
    rw [h]
    exact List.not_mem_nil
  | cons c s ih =>
    obtain ⟨first, more, hsplit⟩ := List.exists_cons_of_ne_nil (splitAt_ne_nil separator s)
    rw [hsplit] at ih
    rw [splitAt, hsplit] at h
    split at h
    next =>
      rcases List.mem_cons.mp h with rfl | h
      · exact List.not_mem_nil
      · exact ih h
    next hc =>
      rcases List.mem_cons.mp h with rfl | h
      · intro hmem
        rcases List.mem_cons.mp hmem with heq | hmem
        · exact hc heq.symm
        · exact ih List.mem_cons_self hmem
      · exact ih (List.mem_cons_of_mem first h)

/-- What is put in front of a text belongs to its first piece. -/
theorem splitAt_append_left (h : separator ∉ before) (hs : splitAt separator s = piece :: pieces) :
    splitAt separator (before ++ s) = (before ++ piece) :: pieces := by
  induction before with
  | nil => exact hs
  | cons c before ih =>
    have hc : c ≠ separator := fun heq => h (heq ▸ List.mem_cons_self)
    rw [List.cons_append, splitAt, if_neg hc, ih fun hmem => h (List.mem_cons_of_mem c hmem)]
    rfl

/-- What is put behind a text belongs to its last piece. -/
theorem splitAt_append_right (h : separator ∉ behind) (s : List Char) :
    ∃ init last, splitAt separator s = init ++ [last] ∧
      splitAt separator (s ++ behind) = init ++ [last ++ behind] := by
  induction s with
  | nil => exact ⟨[], [], rfl, splitAt_of_not_mem h⟩
  | cons c s ih =>
    obtain ⟨init, last, hs, hbehind⟩ := ih
    rw [List.cons_append, splitAt, splitAt, hs, hbehind]
    split
    next => exact ⟨[] :: init, last, rfl, rfl⟩
    next =>
      cases init with
      | nil => exact ⟨[], c :: last, rfl, rfl⟩
      | cons first init => exact ⟨(c :: first) :: init, last, rfl, rfl⟩

/-- The pieces of a text between dots, without the blanks around them. -/
def trimmedPieces (s : List Char) : List (List Char) := (splitAt '.' s).map trim

/-- Blanks around a text are blanks around its first and its last piece. -/
theorem trimmedPieces_trim (s : List Char) : trimmedPieces (trim s) = trimmedPieces s := by
  have hdot : ∀ {x : List Char}, (∀ c ∈ x, isBlank c = true) → '.' ∉ x := by
    intro x hx hmem
    have hblank := hx '.' hmem
    revert hblank
    decide
  obtain ⟨before, behind, hbefore, hbehind, hs⟩ := exists_trim s
  obtain ⟨init, last, htrim, hback⟩ := splitAt_append_right (hdot hbehind) (trim s)
  obtain ⟨first, more, hpieces⟩ := List.exists_cons_of_ne_nil
    (splitAt_ne_nil '.' (trim s ++ behind))
  have hfront := splitAt_append_left (hdot hbefore) hpieces
  have hfirst : trim (before ++ first) = trim first := by
    have hnone := trim_between first hbefore (y := []) nofun
    rwa [List.append_nil] at hnone
  have hlast : trim (last ++ behind) = trim last := trim_between last (x := []) nofun hbehind
  calc trimmedPieces (trim s) = (init ++ [last]).map trim := by rw [trimmedPieces, htrim]
    _ = (init ++ [last ++ behind]).map trim := by simp only [List.map_append, List.map_cons, hlast]
    _ = (first :: more).map trim := by rw [← hback, hpieces]
    _ = ((before ++ first) :: more).map trim := by simp only [List.map_cons, hfirst]
    _ = trimmedPieces s := by rw [← hfront, ← hs, trimmedPieces]

end Text

end BoundSql
