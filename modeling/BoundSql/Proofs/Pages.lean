import BoundSql.Session.Builder
import Mathlib.Tactic.Ring

/-!
# Pages of countable rows

Which page a request leads to is worked out in double precision. For counts below `2 ^ 1000` the
quotient has a finite double, so there is a page, and its window can be written in a statement. The
bounds are coarse: the quotient is either far from the limits of double precision, or the pages are
so large that it is rounded to zero and the first page is the only one.
-/

namespace BoundSql

namespace Double

theorem roundDiv_le (num den : ℕ) : roundDiv num den ≤ num / den + 1 := by
  unfold roundDiv
  dsimp only
  split
  · omega
  · split
    · omega
    · split <;> omega

/-- Less than half rounds to zero. -/
theorem roundDiv_eq_zero {num den : ℕ} (h : 2 * num < den) : roundDiv num den = 0 := by
  have hless : num < den := by omega
  rw [roundDiv, Nat.mod_eq_of_lt hless, Nat.div_eq_of_lt hless, if_pos h]

/-- The exponent of a quotient is bounded by the lengths of both numbers. -/
theorem naturalExponent_le (num den : ℕ) :
    naturalExponent num den ≤ (Nat.log2 num : ℤ) - Nat.log2 den - 51 := by
  unfold naturalExponent
  dsimp only
  split
  · omega
  · split <;> omega

/-- A number that is at most some natural has a ceiling that is at most that natural. -/
theorem ceiling_of_ratio {x : Double} {negative : Bool} {num den bound : ℕ}
    (h : x.ratio? = some (negative, num, den)) (hden : 0 < den) (hnum : num ≤ bound * den) :
    ∃ n : ℤ, x.ceiling? = some n ∧ n ≤ bound := by
  rw [ceiling?, h]
  refine ⟨_, rfl, ?_⟩
  cases negative with
  | true =>
    have hdown : 0 ≤ ((num / den : ℕ) : ℤ) := Int.natCast_nonneg _
    rw [if_pos rfl]
    omega
  | false =>
    have hup : (num + den - 1) / den < bound + 1 := by
      refine Nat.div_lt_of_lt_mul ?_
      have hmul : den * (bound + 1) = bound * den + den := by ring
      omega
    rw [if_neg (by decide)]
    exact Int.ofNat_le.mpr (Nat.le_of_lt_succ hup)

/-- So a finite number has a ceiling that its mantissa and its exponent bound. -/
theorem ceiling_finite (negative : Bool) (m : ℕ) (e : ℤ) :
    ∃ n : ℤ, (finite negative m e).ceiling? = some n ∧ n ≤ (m * 2 ^ e.toNat : ℕ) := by
  by_cases he : e < 0
  · have hratio : (finite negative m e).ratio? = some (negative, m, Nat.pow 2 (-e).toNat) :=
      if_pos he
    have hden : 0 < Nat.pow 2 (-e).toNat := Nat.pow_pos (by decide)
    refine ceiling_of_ratio hratio hden ?_
    have hzero : e.toNat = 0 := by omega
    rw [hzero, Nat.pow_zero, Nat.mul_one]
    exact Nat.le_mul_of_pos_right m hden
  · have hratio : (finite negative m e).ratio? = some (negative, m * Nat.pow 2 e.toNat, 1) :=
      if_neg he
    exact ceiling_of_ratio hratio Nat.one_pos (Nat.le_of_eq (Nat.mul_one _).symm)

variable {num bits : ℕ}

/-- The exponent that a quotient is rounded with is far from the greatest one. -/
theorem exponent_le (hnum : num < 2 ^ bits) (hbits : bits ≤ 1000) (hzero : num ≠ 0) (den : ℕ) :
    leastExponent ≤ max (naturalExponent num den) leastExponent ∧
      max (naturalExponent num den) leastExponent ≤ 949 := by
  have hlog : num.log2 < bits := (Nat.log2_lt hzero).mpr hnum
  have hnatural := naturalExponent_le num den
  have hleast : leastExponent = -1074 := rfl
  omega

theorem scaled_of_neg {e : ℤ} (h : e < 0) (num den : ℕ) :
    scaled num den e = (num * 2 ^ (-e).toNat, den) := if_pos h

theorem scaled_of_nonneg {e : ℤ} (h : ¬ e < 0) (num den : ℕ) :
    scaled num den e = (num, den * 2 ^ e.toNat) := if_neg h

/-- A mantissa that has become too long is halved. -/
def carried (m : ℕ) (e : ℤ) : ℕ × ℤ :=
  if m = Nat.pow 2 53 then (Nat.pow 2 52, e + 1) else (m, e)

/-- That changes the bound on the number little. -/
theorem carried_le (m : ℕ) (e : ℤ) :
    (carried m e).2 ≤ e + 1 ∧
      (carried m e).1 * 2 ^ (carried m e).2.toNat ≤ m * 2 ^ (e.toNat + 1) := by
  by_cases hm : m = Nat.pow 2 53
  · rw [carried, if_pos hm, hm]
    refine ⟨le_refl _, Nat.mul_le_mul ?_ (Nat.pow_le_pow_right (by decide) (by omega))⟩
    exact Nat.pow_le_pow_right (by decide) (by decide)
  · rw [carried, if_neg hm]
    refine ⟨by omega, Nat.mul_le_mul_left m (Nat.pow_le_pow_right (by decide) (by omega))⟩

/-- What a quotient is rounded to with its exponent. -/
theorem ofRatio_of_exponent (negative : Bool) (hzero : num ≠ 0) {den m : ℕ} {e : ℤ}
    (he : max (naturalExponent num den) leastExponent = e)
    (hm : roundDiv (scaled num den e).1 (scaled num den e).2 = m) :
    ofRatio negative num den =
      if greatestExponent < (carried m e).2 then infinite negative
      else finite negative (carried m e).1 (carried m e).2 := by
  rw [ofRatio, if_neg hzero, he, ← hm]
  rfl

/-- A quotient that is far smaller than any positive number is rounded to zero. -/
theorem ofRatio_tiny (negative : Bool) (hnum : num < 2 ^ bits) {den : ℕ}
    (hden : 2 ^ (bits + 1100) ≤ den) : ofRatio negative num den = zero negative := by
  by_cases hzero : num = 0
  · rw [ofRatio, if_pos hzero]
  have hlog : num.log2 < bits := (Nat.log2_lt hzero).mpr hnum
  have hpos : den ≠ 0 := Nat.ne_of_gt (Nat.lt_of_lt_of_le (Nat.two_pow_pos _) hden)
  have hdenlog : bits + 1100 ≤ den.log2 := (Nat.le_log2 hpos).mpr hden
  have hnatural := naturalExponent_le num den
  have hvalue : leastExponent = -1074 := rfl
  obtain ⟨e, hleast⟩ : ∃ e, leastExponent = e := ⟨_, rfl⟩
  have he : max (naturalExponent num den) leastExponent = e := by omega
  have hsmall : 2 * (num * 2 ^ (-e).toNat) < den := by
    calc 2 * (num * 2 ^ (-e).toNat) = num * 2 ^ ((-e).toNat + 1) := by ring
      _ < 2 ^ bits * 2 ^ ((-e).toNat + 1) :=
        Nat.mul_lt_mul_of_pos_right hnum (Nat.two_pow_pos _)
      _ = 2 ^ (bits + ((-e).toNat + 1)) := (Nat.pow_add 2 bits _).symm
      _ ≤ 2 ^ (bits + 1100) := Nat.pow_le_pow_right (by decide) (by omega)
      _ ≤ den := hden
  have hround : roundDiv (scaled num den e).1 (scaled num den e).2 = 0 := by
    rw [scaled_of_neg (by omega)]
    exact roundDiv_eq_zero hsmall
  have hcarried : carried 0 e = (0, e) :=
    if_neg (Nat.ne_of_lt (Nat.pow_pos (by decide)))
  have hfinite : ¬ greatestExponent < e := by
    have hgreatest : greatestExponent = 971 := rfl
    omega
  rw [ofRatio_of_exponent negative hzero he hround, hcarried, if_neg hfinite, zero, hleast]

/-- A quotient scaled and rounded is bounded in the same way as the quotient. -/
theorem scaled_le (hnum : num < 2 ^ bits) (den : ℕ) {e : ℤ} (hleast : -1074 ≤ e)
    (hgreatest : e ≤ 949) :
    roundDiv (scaled num den e).1 (scaled num den e).2 * 2 ^ (e.toNat + 1) ≤
      2 ^ (bits + 1080) := by
  have hround := roundDiv_le (scaled num den e).1 (scaled num den e).2
  have hquotient := Nat.div_le_self (scaled num den e).1 (scaled num den e).2
  have hmantissa : roundDiv (scaled num den e).1 (scaled num den e).2 ≤
      (scaled num den e).1 + 1 := by omega
  refine (Nat.mul_le_mul_right _ hmantissa).trans ?_
  have hpositive : ∀ k, 1 ≤ 2 ^ k := fun k => Nat.one_le_two_pow
  by_cases hnegative : e < 0
  · have hzero : e.toNat = 0 := by omega
    rw [scaled_of_neg hnegative, hzero]
    generalize hshift : (-e).toNat = shift
    calc (num * 2 ^ shift + 1) * 2 ^ (0 + 1) ≤ ((num + 1) * 2 ^ shift) * 2 := by
          have := hpositive shift
          have hring : (num + 1) * 2 ^ shift = num * 2 ^ shift + 2 ^ shift := by ring
          omega
      _ ≤ (2 ^ bits * 2 ^ shift) * 2 :=
        Nat.mul_le_mul_right 2 (Nat.mul_le_mul_right _ hnum)
      _ = 2 ^ (bits + shift + 1) := by ring
      _ ≤ 2 ^ (bits + 1080) := Nat.pow_le_pow_right (by decide) (by omega)
  · rw [scaled_of_nonneg hnegative]
    calc (num + 1) * 2 ^ (e.toNat + 1) ≤ 2 ^ bits * 2 ^ (e.toNat + 1) :=
          Nat.mul_le_mul_right _ hnum
      _ = 2 ^ (bits + (e.toNat + 1)) := (Nat.pow_add 2 bits _).symm
      _ ≤ 2 ^ (bits + 1080) := Nat.pow_le_pow_right (by decide) (by omega)

/-- A quotient has a ceiling, with a coarse bound on it. -/
theorem ofRatio_ceiling (negative : Bool) (hnum : num < 2 ^ bits) (hbits : bits ≤ 1000)
    (den : ℕ) : ∃ n : ℤ, (ofRatio negative num den).ceiling? = some n ∧
      n ≤ (2 ^ (bits + 1080) : ℕ) := by
  by_cases hzero : num = 0
  · rw [ofRatio, if_pos hzero]
    obtain ⟨n, hn, hle⟩ := ceiling_finite negative 0 leastExponent
    refine ⟨n, hn, hle.trans ?_⟩
    rw [Nat.zero_mul]
    exact Int.natCast_nonneg _
  obtain ⟨hleast, hgreatest⟩ := exponent_le hnum hbits hzero den
  generalize hexponent : max (naturalExponent num den) leastExponent = e at hleast hgreatest
  have hscaled := scaled_le hnum den hleast hgreatest
  generalize hround : roundDiv (scaled num den e).1 (scaled num den e).2 = m at hscaled
  obtain ⟨hup, hcarried⟩ := carried_le m e
  have hfinite : ¬ greatestExponent < (carried m e).2 := by
    have hlimit : greatestExponent = 971 := rfl
    omega
  rw [ofRatio_of_exponent negative hzero hexponent hround, if_neg hfinite]
  obtain ⟨n, hn, hle⟩ := ceiling_finite negative (carried m e).1 (carried m e).2
  exact ⟨n, hn, hle.trans (Int.ofNat_le.mpr (hcarried.trans hscaled))⟩

end Double

namespace Pagination

/-- A count of rows that has fewer bits leads to a page. -/
def countBits : ℕ := 1000

variable {total page perPage : ℤ}

/-- The window of the page that a request leads to can be written. -/
theorem of_eq_ok (htotal : total.natAbs < 2 ^ countBits) (hpage : 1 ≤ page) :
    ∃ p, Pagination.of total page perPage = .ok p ∧ p.perPage = perPage ∧
      p.offset.natAbs < 10 ^ digitLimit := by
  obtain ⟨n, hn, hle⟩ := Double.ofRatio_ceiling ((total < 0) != (perPage < 0)) htotal
    (Nat.le_refl 1000) perPage.natAbs
  have hof : Pagination.of total page perPage =
      .ok ⟨total, min page (max 1 n), perPage, max 1 n⟩ := by
    rw [Pagination.of, Double.ofQuotient, hn]
  refine ⟨_, hof, rfl, ?_⟩
  rw [offset]
  dsimp only
  by_cases htiny : 2 ^ (countBits + 1100) ≤ perPage.natAbs
  · -- A page that large holds all rows, so it is the first one.
    rw [Double.ofRatio_tiny _ htotal htiny] at hn
    have hzero : n ≤ 0 := by
      obtain ⟨k, hk, hkle⟩ := Double.ceiling_finite ((total < 0) != (perPage < 0)) 0
        Double.leastExponent
      rw [Double.zero, hk] at hn
      rw [Nat.zero_mul] at hkle
      exact Option.some.inj hn ▸ hkle
    have hfirst : min page (max 1 n) - 1 = 0 := by omega
    rw [hfirst, Int.zero_mul]
    exact Nat.pow_pos (by decide)
  · have hfactor : (min page (max 1 n) - 1).natAbs < 2 ^ (countBits + 1080) := by
      have hpositive := Nat.two_pow_pos (countBits + 1080)
      generalize 2 ^ (countBits + 1080) = bound at hle hpositive ⊢
      omega
    rw [Int.natAbs_mul]
    calc (min page (max 1 n) - 1).natAbs * perPage.natAbs
        < 2 ^ (countBits + 1080) * 2 ^ (countBits + 1100) :=
          Nat.mul_lt_mul'' hfactor (Nat.lt_of_not_le htiny)
      _ = 2 ^ (countBits + 1080 + (countBits + 1100)) := by
          rw [← Nat.pow_add]
      _ ≤ 2 ^ digitLimit := Nat.pow_le_pow_right (by decide) (by decide)
      _ ≤ 10 ^ digitLimit := Nat.pow_le_pow_left (by decide) _

end Pagination

end BoundSql
