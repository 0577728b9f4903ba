import BoundSql.Proofs.Reading
import Mathlib.Data.Nat.Count

/-!
# Quoted regions of a statement

A quoted region begins with a quote mark outside the other regions and ends behind the next mark of
its kind, or with the text. Every text has its regions, and only one list of them. Whoever goes
through a text character by character and keeps in mind which quote is open finds just these
regions: a quote is open in front of a place exactly when a region that began with it goes on there.
-/

namespace BoundSql

open Text

namespace Placeholder

/-! ## Regions -/

/-- A stretch of a text. -/
structure Region where
  /-- The place of the first character. -/
  start : Nat
  /-- The place behind the last character. -/
  stop : Nat

/-- A place lies in a region. -/
def Region.Covers (r : Region) (i : Nat) : Prop := r.start ≤ i ∧ i < r.stop

instance (r : Region) (i : Nat) : Decidable (r.Covers i) :=
  inferInstanceAs (Decidable (r.start ≤ i ∧ i < r.stop))

/-- A region is quoted by the mark with which it begins. -/
inductive Region.Quoted (s : List Char) : Region → Prop
  /-- The next mark of its kind closes the region. -/
  | closed {i j : Nat} {q : Char} (hquote : isQuote q = true) (hopen : s[i]? = some q) (hij : i < j)
      (hclose : s[j]? = some q) (hinner : ∀ k, i < k → k < j → s[k]? ≠ some q) : Quoted s ⟨i, j + 1⟩
  /-- There is no further mark of its kind, and the region goes to the end. -/
  | unclosed {i : Nat} {q : Char} (hquote : isQuote q = true) (hopen : s[i]? = some q)
      (hinner : ∀ k, i < k → s[k]? ≠ some q) : Quoted s ⟨i, s.length⟩

/-- The quoted regions from a place of a text on. -/
structure Quoting (s : List Char) (place : Nat) (regions : List Region) : Prop where
  /-- Each is quoted by its mark. -/
  quoted : ∀ r ∈ regions, r.Quoted s
  /-- None begins before the place. -/
  from_place : ∀ r ∈ regions, place ≤ r.start
  /-- Each begins outside the ones before it. -/
  ordered : regions.Pairwise fun r other => r.stop ≤ other.start
  /-- Outside them there are no quote marks. -/
  covered : ∀ i q, place ≤ i → s[i]? = some q → isQuote q = true → ∃ r ∈ regions, r.Covers i

variable {s : List Char} {place i : Nat} {c q : Char} {r other : Region}
  {regions others : List Region}

namespace Region.Quoted

theorem exists_mark (h : r.Quoted s) : ∃ q, isQuote q = true ∧ s[r.start]? = some q := by
  cases h with
  | closed hquote hopen _ _ _ => exact ⟨_, hquote, hopen⟩
  | unclosed hquote hopen _ => exact ⟨_, hquote, hopen⟩

theorem start_lt_length (h : r.Quoted s) : r.start < s.length := by
  obtain ⟨q, -, hopen⟩ := h.exists_mark
  exact (List.getElem?_eq_some_iff.mp hopen).1

/-- Unless the text ends behind its mark, a region goes on. -/
theorem succ_lt_stop (h : r.Quoted s) (hnext : r.start + 1 < s.length) : r.start + 1 < r.stop := by
  cases h with
  | closed _ _ hij _ _ => exact Nat.succ_lt_succ hij
  | unclosed _ _ _ => exact hnext

theorem start_lt_stop (h : r.Quoted s) : r.start < r.stop := by
  cases h with
  | closed _ _ hij _ _ => exact hij.trans (Nat.lt_succ_self _)
  | unclosed hquote hopen hinner => exact (unclosed hquote hopen hinner).start_lt_length

/-- The mark of a region closes it. -/
theorem stop_of_mark (h : r.Quoted s) (hopen : s[r.start]? = some q) (hstart : r.start < i)
    (hstop : i < r.stop) (hi : s[i]? = some q) : i + 1 = r.stop := by
  cases h with
  | @closed a j p _ hmark _ _ hinner =>
    obtain rfl : p = q := Option.some.inj (hmark.symm.trans hopen)
    have hlast : ¬ i < j := fun hlt => hinner i hstart hlt hi
    dsimp only at hstop ⊢
    omega
  | @unclosed a p _ hmark hinner =>
    obtain rfl : p = q := Option.some.inj (hmark.symm.trans hopen)
    exact absurd hi (hinner i hstart)

/-- Any other character in it leaves the region open, unless the text ends behind it. -/
theorem lt_stop_of_other (h : r.Quoted s) (hopen : s[r.start]? = some q) (hstop : i < r.stop)
    (hi : s[i]? ≠ some q) (hnext : i + 1 < s.length) : i + 1 < r.stop := by
  cases h with
  | @closed a j p _ hmark _ hclose _ =>
    obtain rfl : p = q := Option.some.inj (hmark.symm.trans hopen)
    have hne : i ≠ j := fun heq => hi (heq ▸ hclose)
    dsimp only at hstop ⊢
    omega
  | unclosed _ _ _ => exact hnext

/-- Regions that begin at one place end at one place. -/
theorem stop_le_of_start (h : r.Quoted s) (hother : other.Quoted s)
    (hstart : r.start = other.start) : r.stop ≤ other.stop := by
  cases hother with
  | @closed a j q _ hopen hij hclose _ =>
    by_contra hlt
    have hbehind : r.start < j := hstart ▸ hij
    have hwithin : j < r.stop := by
      dsimp only at hlt
      omega
    have hend : j + 1 = r.stop := h.stop_of_mark (hstart ▸ hopen) hbehind hwithin hclose
    exact hlt hend.ge
  | unclosed _ _ _ =>
    cases h with
    | closed _ _ _ hclose _ => exact (List.getElem?_eq_some_iff.mp hclose).1
    | unclosed _ _ _ => exact Nat.le_refl _

/-- A region is known from its first place. -/
theorem eq_of_start (h : r.Quoted s) (hother : other.Quoted s) (hstart : r.start = other.start) :
    r = other := by
  have hstop : r.stop = other.stop :=
    Nat.le_antisymm (h.stop_le_of_start hother hstart) (hother.stop_le_of_start h hstart.symm)
  cases r
  cases other
  exact congrArg₂ Region.mk hstart hstop

/-- Every quote mark begins a region. -/
theorem exists_quoted (hquote : isQuote q = true) (hopen : s[i]? = some q) :
    ∃ stop, Quoted s ⟨i, stop⟩ := by
  by_cases hnext : ∃ j, i < j ∧ s[j]? = some q
  · classical
    obtain ⟨hij, hclose⟩ := Nat.find_spec hnext
    exact ⟨_, .closed hquote hopen hij hclose fun k hik hk hmark =>
      Nat.find_min hnext hk ⟨hik, hmark⟩⟩
  · exact ⟨_, .unclosed hquote hopen fun k hik hmark => hnext ⟨k, hik, hmark⟩⟩

end Region.Quoted

namespace Quoting

/-- Behind its first region the others are the regions of the text. -/
theorem tail (h : Quoting s place (r :: regions)) : Quoting s r.stop regions := by
  obtain ⟨hfirst, hrest⟩ := List.pairwise_cons.mp h.ordered
  refine ⟨fun other hother => h.quoted other (List.mem_cons_of_mem r hother), hfirst, hrest, ?_⟩
  intro i q hi hmark hquote
  have hstart := (h.quoted r List.mem_cons_self).start_lt_stop
  have hplace := h.from_place r List.mem_cons_self
  obtain ⟨other, hother, hcovers⟩ := h.covered i q (by omega) hmark hquote
  rcases List.mem_cons.mp hother with rfl | hother
  · exact absurd hcovers.2 (Nat.not_lt.mpr hi)
  · exact ⟨other, hother, hcovers⟩

/-- The first region begins at the first quote mark. -/
theorem start_le (h : Quoting s place (r :: regions)) (hi : place ≤ i) (hmark : s[i]? = some q)
    (hquote : isQuote q = true) : r.start ≤ i := by
  obtain ⟨other, hother, hcovers⟩ := h.covered i q hi hmark hquote
  rcases List.mem_cons.mp hother with rfl | hother
  · exact hcovers.1
  · have hfirst := (List.pairwise_cons.mp h.ordered).1 other hother
    have hstart := (h.quoted r List.mem_cons_self).start_lt_stop
    exact (hstart.le.trans hfirst).trans hcovers.1

/-- Without regions there are no quote marks. -/
theorem not_quoted_of_nil (h : Quoting s place []) (hr : r.Quoted s) : r.start < place := by
  obtain ⟨q, hquote, hmark⟩ := hr.exists_mark
  by_contra hplace
  obtain ⟨other, hother, -⟩ := h.covered r.start q (Nat.le_of_not_lt hplace) hmark hquote
  cases hother

/-- A text has no more than one list of regions. -/
theorem unique (h : Quoting s place regions) (hothers : Quoting s place others) :
    regions = others := by
  induction regions generalizing place others with
  | nil =>
    cases others with
    | nil => rfl
    | cons other others =>
      have hbefore := h.not_quoted_of_nil (hothers.quoted other List.mem_cons_self)
      exact absurd (hothers.from_place other List.mem_cons_self) (Nat.not_le.mpr hbefore)
  | cons r regions ih =>
    have hr := h.quoted r List.mem_cons_self
    cases others with
    | nil =>
      have hbefore := hothers.not_quoted_of_nil hr
      exact absurd (h.from_place r List.mem_cons_self) (Nat.not_le.mpr hbefore)
    | cons other others =>
      have hother := hothers.quoted other List.mem_cons_self
      obtain ⟨q, hquote, hmark⟩ := hr.exists_mark
      obtain ⟨p, hpquote, hpmark⟩ := hother.exists_mark
      have hstart : r.start = other.start :=
        Nat.le_antisymm
          (h.start_le (hothers.from_place other List.mem_cons_self) hpmark hpquote)
          (hothers.start_le (h.from_place r List.mem_cons_self) hmark hquote)
      obtain rfl := hr.eq_of_start hother hstart
      rw [ih h.tail hothers.tail]

/-- At its end a text has no more regions. -/
theorem of_end (hend : s.length ≤ place) : Quoting s place [] := by
  refine ⟨nofun, nofun, .nil, fun i q hi hmark _ => ?_⟩
  have hlength := (List.getElem?_eq_some_iff.mp hmark).1
  omega

/-- A region and those behind it. -/
theorem cons {stop : Nat} (hregion : Region.Quoted s ⟨place, stop⟩) (h : Quoting s stop regions) :
    Quoting s place (⟨place, stop⟩ :: regions) := by
  have hstop : place < stop := hregion.start_lt_stop
  have hfrom : ∀ r ∈ regions, place ≤ r.start := fun r hr => hstop.le.trans (h.from_place r hr)
  refine ⟨List.forall_mem_cons.mpr ⟨hregion, h.quoted⟩,
    List.forall_mem_cons.mpr ⟨Nat.le_refl _, hfrom⟩,
    List.pairwise_cons.mpr ⟨h.from_place, h.ordered⟩, fun i q hi hmark hquote => ?_⟩
  by_cases hin : i < stop
  · exact ⟨_, List.mem_cons_self, hi, hin⟩
  · obtain ⟨r, hr, hcovers⟩ := h.covered i q (Nat.le_of_not_lt hin) hmark hquote
    exact ⟨r, List.mem_cons_of_mem _ hr, hcovers⟩

/-- A character that is no quote mark is passed over. -/
theorem skip (hc : s[place]? = some c) (hother : ¬ isQuote c = true)
    (h : Quoting s (place + 1) regions) : Quoting s place regions := by
  refine ⟨h.quoted, fun r hr => (Nat.le_succ place).trans (h.from_place r hr), h.ordered,
    fun i q hi hmark hquote => h.covered i q ?_ hmark hquote⟩
  have hne : i ≠ place := by
    rintro rfl
    obtain rfl : c = q := Option.some.inj (hc.symm.trans hmark)
    exact hother hquote
  omega

end Quoting

/-- Every text has its regions, from every place on. -/
theorem exists_quoting (s : List Char) (place : Nat) : ∃ regions, Quoting s place regions := by
  -- The induction is on what is left of the text behind the place.
  induction hleft : s.length - place using Nat.strong_induction_on generalizing place with
  | _ left ih =>
    cases hc : s[place]? with
    | none => exact ⟨[], .of_end (List.getElem?_eq_none_iff.mp hc)⟩
    | some c =>
      have hplace : place < s.length := (List.getElem?_eq_some_iff.mp hc).1
      by_cases hquote : isQuote c = true
      · obtain ⟨stop, hregion⟩ := Region.Quoted.exists_quoted hquote hc
        have hstop : place < stop := hregion.start_lt_stop
        obtain ⟨regions, h⟩ := ih (s.length - stop) (by omega) stop rfl
        exact ⟨_, .cons hregion h⟩
      · obtain ⟨regions, h⟩ := ih (s.length - (place + 1)) (by omega) (place + 1) rfl
        exact ⟨regions, h.skip hc hquote⟩

/-! ## Open quotes -/

/-- The quote that is open in front of a place. -/
def openAt (s : List Char) (i : Nat) : Option Char := (s.take i).foldl quoteAfter none

theorem openAt_succ (h : s[i]? = some c) : openAt s (i + 1) = quoteAfter (openAt s i) c := by
  rw [openAt, List.take_add_one, h, List.foldl_append]
  rfl

/-- A region that began with the mark in front of the place goes on there. -/
def GoesOn (s : List Char) (regions : List Region) (i : Nat) (q : Char) : Prop :=
  ∃ r ∈ regions, r.start < i ∧ i < r.stop ∧ s[r.start]? = some q

namespace Quoting

/-- No two regions cover one place. -/
theorem eq_of_covers (h : Quoting s place regions) (hr : r ∈ regions) (hother : other ∈ regions)
    (hcovers : r.Covers i) (hcovers' : other.Covers i) : r = other := by
  by_contra hne
  have hapart : regions.Pairwise fun r other => r.stop ≤ other.start ∨ other.stop ≤ r.start :=
    h.ordered.imp Or.inl
  have hsymm : Std.Symm fun r other : Region => r.stop ≤ other.start ∨ other.stop ≤ r.start :=
    ⟨fun _ _ => Or.symm⟩
  obtain ⟨hstart, hstop⟩ := hcovers
  obtain ⟨hstart', hstop'⟩ := hcovers'
  rcases hapart.forall hr hother hne with hle | hle <;> omega

/-- A region that covers a place begins or goes on there. -/
theorem begins_or_goesOn (h : Quoting s place regions) (hr : r ∈ regions) (hcovers : r.Covers i) :
    r.start = i ∨ ∃ q, GoesOn s regions i q := by
  obtain ⟨q, -, hmark⟩ := (h.quoted r hr).exists_mark
  rcases Nat.eq_or_lt_of_le hcovers.1 with hstart | hstart
  · exact .inl hstart
  · exact .inr ⟨q, r, hr, hstart, hcovers.2, hmark⟩

/-- Where no region goes on, one goes on behind a character if that is a quote mark. -/
theorem goesOn_succ_of_out (h : Quoting s 0 regions)
    (hout : ∀ r ∈ regions, r.Covers i → r.start = i) (hc : s[i]? = some c)
    (hnext : i + 1 < s.length) : GoesOn s regions (i + 1) q ↔ quoteAfter none c = some q := by
  have hbegins : ∀ r ∈ regions, r.start < i + 1 → i + 1 < r.stop → r.start = i :=
    fun r hr hstart hstop => hout r hr ⟨Nat.le_of_lt_succ hstart, Nat.lt_of_succ_lt hstop⟩
  have hafter : quoteAfter none c = if isQuote c = true then some c else none := rfl
  rw [hafter]
  constructor
  · rintro ⟨r, hr, hstart, hstop, hmark⟩
    obtain ⟨p, hquote, hp⟩ := (h.quoted r hr).exists_mark
    rw [hbegins r hr hstart hstop] at hmark hp
    have hcq : c = q := Option.some.inj (hc.symm.trans hmark)
    have hcp : c = p := Option.some.inj (hc.symm.trans hp)
    rw [hcp, if_pos hquote, ← hcp, hcq]
  · intro hq
    split at hq
    next hquote =>
      obtain ⟨r, hr, hcovers⟩ := h.covered i c (Nat.zero_le i) hc hquote
      have hbegin := hout r hr hcovers
      have hgoes := (h.quoted r hr).succ_lt_stop (by omega)
      exact ⟨r, hr, by omega, by omega, by rw [hbegin, hc, hq]⟩
    next => cases hq

/-- Where a region goes on, it goes on behind any character but its mark. -/
theorem goesOn_succ_of_in {p : Char} (h : Quoting s 0 regions) (hin : GoesOn s regions i p)
    (hc : s[i]? = some c) (hnext : i + 1 < s.length) :
    GoesOn s regions (i + 1) q ↔ quoteAfter (some p) c = some q := by
  obtain ⟨r, hr, hstart, hstop, hmark⟩ := hin
  have hsame : ∀ other ∈ regions, other.start < i + 1 → i + 1 < other.stop → other = r :=
    fun other hother hstart' hstop' =>
      h.eq_of_covers hother hr ⟨Nat.le_of_lt_succ hstart', Nat.lt_of_succ_lt hstop'⟩
        ⟨hstart.le, hstop⟩
  have hafter : quoteAfter (some p) c = if c = p then none else some p := rfl
  rw [hafter]
  by_cases hclose : c = p
  · have hend := (h.quoted r hr).stop_of_mark hmark hstart hstop (by rw [hc, hclose])
    rw [if_pos hclose]
    refine ⟨fun ⟨other, hother, hstart', hstop', _⟩ => ?_, nofun⟩
    rw [hsame other hother hstart' hstop'] at hstop'
    omega
  · have hne : s[i]? ≠ some p := fun heq => hclose (Option.some.inj (hc.symm.trans heq))
    have hgoes := (h.quoted r hr).lt_stop_of_other hmark hstop hne hnext
    rw [if_neg hclose]
    constructor
    · rintro ⟨other, hother, hstart', hstop', hmark'⟩
      rw [hsame other hother hstart' hstop', hmark] at hmark'
      exact hmark'
    · intro hq
      exact ⟨r, hr, hstart.trans (Nat.lt_succ_self i), hgoes, hmark.trans hq⟩

/-- A quote is open in front of a place exactly when a region goes on there. -/
theorem goesOn_iff (h : Quoting s 0 regions) (hi : i < s.length) :
    GoesOn s regions i q ↔ openAt s i = some q := by
  induction i generalizing q with
  | zero => exact ⟨fun ⟨r, _, hstart, _⟩ => absurd hstart (Nat.not_lt_zero _), nofun⟩
  | succ i ih =>
    have hlt : i < s.length := Nat.lt_of_succ_lt hi
    have hc : s[i]? = some s[i] := List.getElem?_eq_getElem hlt
    rw [openAt_succ hc]
    cases hopen : openAt s i with
    | none =>
      refine h.goesOn_succ_of_out (fun r hr hcovers => ?_) hc hi
      rcases h.begins_or_goesOn hr hcovers with hstart | ⟨p, hp⟩
      · exact hstart
      · have hsome := (ih hlt).mp hp
        rw [hopen] at hsome
        cases hsome
    | some p => exact h.goesOn_succ_of_in ((ih hlt).mpr hopen) hc hi

/-- A character that is no quote mark lies outside all regions if no quote is open there. -/
theorem outside_iff (h : Quoting s 0 regions) (hc : s[i]? = some c) (hquote : isQuote c = false) :
    (∀ r ∈ regions, ¬ r.Covers i) ↔ openAt s i = none := by
  have hi : i < s.length := (List.getElem?_eq_some_iff.mp hc).1
  rw [Option.eq_none_iff_forall_ne_some]
  constructor
  · intro hout q hopen
    obtain ⟨r, hr, hstart, hstop, -⟩ := (h.goesOn_iff hi).mpr hopen
    exact hout r hr ⟨hstart.le, hstop⟩
  · intro hnone r hr hcovers
    rcases h.begins_or_goesOn hr hcovers with hstart | ⟨q, hq⟩
    · obtain ⟨p, hp, hmark⟩ := (h.quoted r hr).exists_mark
      rw [hstart, hc] at hmark
      rw [Option.some.inj hmark, hp] at hquote
      cases hquote
    · exact hnone q ((h.goesOn_iff hi).mp hq)

end Quoting

/-! ## Placeholders -/

/-- A question mark outside the quoted regions is a placeholder. -/
def IsPlaceholder (s : List Char) (regions : List Region) (i : Nat) : Prop :=
  s[i]? = some '?' ∧ ∀ r ∈ regions, ¬ r.Covers i

instance (s : List Char) (regions : List Region) : DecidablePred (IsPlaceholder s regions) :=
  fun i => inferInstanceAs (Decidable (s[i]? = some '?' ∧ ∀ r ∈ regions, ¬ r.Covers i))

theorem Quoting.isPlaceholder_iff (h : Quoting s 0 regions) (i : Nat) :
    IsPlaceholder s regions i ↔ s[i]? = some '?' ∧ openAt s i = none :=
  and_congr_right fun hmark => h.outside_iff hmark rfl

/-- The placeholders in front of a place are the question marks that are outside quotes. -/
theorem Quoting.count_placeholders (h : Quoting s 0 regions) (hi : i ≤ s.length) :
    Nat.count (IsPlaceholder s regions) i = holes none (s.take i) := by
  induction i with
  | zero => rfl
  | succ i ih =>
    have hc : s[i]? = some s[i] := List.getElem?_eq_getElem hi
    have hplace : IsPlaceholder s regions i ↔ openAt s i = none ∧ s[i] = '?' := by
      rw [h.isPlaceholder_iff, hc, Option.some.injEq, and_comm]
    rw [Nat.count_succ, ih (Nat.le_of_succ_le hi), List.take_add_one, hc, holes_append]
    exact congrArg _ (if_congr hplace rfl rfl)

end Placeholder

end BoundSql
