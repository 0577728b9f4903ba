import BoundSql.Proofs.References
import Mathlib.Data.List.DropRight

/-!
# Runs of characters and blanks around a text

A run of characters of one kind that ends before a character of another kind is known from the text.
Trimming a text removes the blanks around it and nothing else: what is left is the same whatever
blanks are put around it, and a text that begins and ends with no blank is left as it is.
-/

namespace BoundSql

namespace Text

variable {p : Char → Bool} {s t x y : List Char}

/-- A run of characters that pass is known from the text if it ends before one that does not. -/
theorem run_inj (hs : ∀ c ∈ s, p c = true) (ht : ∀ c ∈ t, p c = true)
    (hx : ∀ c ∈ x.head?, p c = false) (hy : ∀ c ∈ y.head?, p c = false) (h : s ++ x = t ++ y) :
    s = t ∧ x = y := by
  have hrun : s = t := by
    rw [← takeWhile_append_of_stop hs hx, h, takeWhile_append_of_stop ht hy]
  have hrest : x = y := by
    rw [← dropWhile_append_of_stop hs hx, h, dropWhile_append_of_stop ht hy]
  exact ⟨hrun, hrest⟩

/-- Every text is a run of characters that pass and what comes behind it. -/
theorem exists_run (p : Char → Bool) (s : List Char) : ∃ run rest, s = run ++ rest ∧
    (∀ c ∈ run, p c = true) ∧ ∀ c ∈ rest.head?, p c = false := by
  refine ⟨s.takeWhile p, s.dropWhile p, List.takeWhile_append_dropWhile.symm,
    fun c hc => List.mem_takeWhile_imp hc, fun c hc => ?_⟩
  have hhead := List.head?_dropWhile_not p s
  rw [Option.mem_def.mp hc] at hhead
  simpa using hhead

/-- Two runs with a character of the same kind in between are one. -/
theorem run_append {d : Char} (hs : ∀ c ∈ s, p c = true) (hd : p d = true)
    (ht : ∀ c ∈ t, p c = true) : ∀ c ∈ s ++ d :: t, p c = true := by
  intro c hc
  rcases List.mem_append.mp hc with hc | hc
  · exact hs c hc
  · rcases List.mem_cons.mp hc with rfl | hc
    · exact hd
    · exact ht c hc

/-- A text is what is left of it when it is trimmed, with blanks around it. -/
theorem exists_trim (s : List Char) : ∃ before behind, (∀ c ∈ before, isBlank c = true) ∧
    (∀ c ∈ behind, isBlank c = true) ∧ s = before ++ (trim s ++ behind) := by
  have hleft : s = s.takeWhile isBlank ++ trimLeft s := List.takeWhile_append_dropWhile.symm
  have hright : trimLeft s = trim s ++ ((trimLeft s).reverse.takeWhile isBlank).reverse := by
    have hsplit := List.takeWhile_append_dropWhile (p := isBlank) (l := (trimLeft s).reverse)
    have hreverse := congrArg List.reverse hsplit
    rw [List.reverse_append, List.reverse_reverse] at hreverse
    exact hreverse.symm
  refine ⟨s.takeWhile isBlank, ((trimLeft s).reverse.takeWhile isBlank).reverse,
    fun c hc => List.mem_takeWhile_imp hc,
    fun c hc => List.mem_takeWhile_imp (List.mem_reverse.mp hc), ?_⟩
  rw [← hright]
  exact hleft

/-- Blanks at the end are removed with those that stand there already. -/
theorem trimRight_append_blanks (s : List Char) (hy : ∀ c ∈ y, isBlank c = true) :
    trimRight (s ++ y) = trimRight s := by
  have hreverse : ∀ c ∈ y.reverse, isBlank c = true := fun c hc => hy c (List.mem_reverse.mp hc)
  rw [trimRight, trimRight, List.reverse_append, List.dropWhile_append_of_pos hreverse]

/-- Blanks around a text make no difference to what is left of it. -/
theorem trim_between (s : List Char) (hx : ∀ c ∈ x, isBlank c = true)
    (hy : ∀ c ∈ y, isBlank c = true) : trim (x ++ (s ++ y)) = trim s := by
  have hfront : trimLeft (x ++ (s ++ y)) = trimLeft (s ++ y) := List.dropWhile_append_of_pos hx
  have hback : y.dropWhile isBlank = [] := List.dropWhile_eq_nil_iff.mpr hy
  rw [trim, hfront, trimLeft, List.dropWhile_append, hback, trim, trimLeft]
  split
  next hempty => rw [List.isEmpty_iff.mp hempty]
  next => exact trimRight_append_blanks _ hy

/-- What is left of a text that is trimmed begins with no blank. -/
theorem trim_head (s : List Char) : ∀ c ∈ (trim s).head?, isBlank c = false := by
  intro c hc
  -- It begins like the text without its leading blanks.
  obtain ⟨behind, hbehind⟩ : trim s <+: trimLeft s := List.rdropWhile_prefix isBlank (trimLeft s)
  obtain ⟨rest, hrest⟩ := List.head?_eq_some_iff.mp (Option.mem_def.mp hc)
  have hhead := List.head?_dropWhile_not isBlank s
  rw [show s.dropWhile isBlank = trimLeft s from rfl, ← hbehind, hrest] at hhead
  simpa using hhead

/-- Nor does it end with one. -/
theorem trim_last (s : List Char) : ∀ c ∈ (trim s).getLast?, isBlank c = false := by
  intro c hc
  rw [trim, trimRight, List.getLast?_reverse] at hc
  have hhead := List.head?_dropWhile_not isBlank (trimLeft s).reverse
  rw [Option.mem_def.mp hc] at hhead
  simpa using hhead

/-- A text that begins and ends with no blank is left as it is. -/
theorem trim_of_ends (hhead : ∀ c ∈ s.head?, isBlank c = false)
    (hlast : ∀ c ∈ s.getLast?, isBlank c = false) : trim s = s := by
  have hfront := dropWhile_append_of_stop (p := isBlank) (s := []) nofun hhead
  have hback := dropWhile_append_of_stop (p := isBlank) (s := []) (t := s.reverse) nofun
    (by rw [List.head?_reverse]; exact hlast)
  rw [List.nil_append] at hfront hback
  rw [trim, trimLeft, hfront, trimRight, hback, List.reverse_reverse]

/-- Trimming leaves nothing to trim. -/
theorem trim_trim (s : List Char) : trim (trim s) = trim s :=
  trim_of_ends (trim_head s) (trim_last s)

end Text

end BoundSql
