import BoundSql.Proofs.Pages
import Mathlib.Algebra.Order.Floor.Div

/-!
# Quotients rounded up

A quotient of naturals is rounded to double precision, and then up to the next natural. That gives
the quotient rounded up, unless rounding to double precision went across a natural: a remainder may
be lost that is too small beside the quotient, and a quotient of more than 53 bits may be moved to
another multiple of its last place. Which quotients come out right is said exactly.
-/

namespace BoundSql

namespace Double

variable {num den y : ℕ}

/-! ## Nearest naturals -/

theorem div_le_roundDiv (num den : ℕ) : num / den ≤ roundDiv num den := by
  unfold roundDiv
  dsimp only
  split_ifs <;> omega

/-- What is at least a natural is rounded to at least that. -/
theorem le_roundDiv_of_le (hden : 0 < den) (h : y * den ≤ num) : y ≤ roundDiv num den := by
  have hquotient : y ≤ num / den := (Nat.le_div_iff_mul_le hden).mpr h
  exact hquotient.trans (div_le_roundDiv num den)

/-- What is at most a natural is rounded to at most that. -/
theorem roundDiv_le_of_le (hden : 0 < den) (h : num ≤ y * den) : roundDiv num den ≤ y := by
  have hsplit := Nat.div_add_mod num den
  have hquotient : num / den ≤ y := Nat.div_le_of_le_mul (by rwa [Nat.mul_comm])
  rcases Nat.lt_or_eq_of_le hquotient with hless | hequal
  · have hnear := roundDiv_le num den
    omega
  · have hremainder : num % den = 0 := by
      rw [hequal, Nat.mul_comm] at hsplit
      omega
    have hexact : roundDiv num den = num / den := by
      rw [roundDiv, hremainder, if_pos (by omega)]
    omega

/-- A number is rounded beyond a natural when it exceeds that by more than a half, or by a half and
the natural is odd. -/
theorem lt_roundDiv_iff (hden : 0 < den) (h : y * den ≤ num) :
    y < roundDiv num den ↔
      den < 2 * (num - y * den) ∨ den = 2 * (num - y * den) ∧ y % 2 = 1 := by
  have hsplit := Nat.div_add_mod num den
  have hremainder := Nat.mod_lt num hden
  have hquotient : y ≤ num / den := (Nat.le_div_iff_mul_le hden).mpr h
  rcases Nat.lt_or_eq_of_le hquotient with hless | hequal
  · have hfar : (y + 1) * den ≤ num := (Nat.le_div_iff_mul_le hden).mp hless
    have hstep : (y + 1) * den = y * den + den := Nat.succ_mul y den
    have hround := div_le_roundDiv num den
    refine ⟨fun _ => .inl (by omega), fun _ => by omega⟩
  · have hrest : num - y * den = num % den := by
      rw [hequal, Nat.mul_comm]
      omega
    rw [hrest, roundDiv, ← hequal]
    simp only [beq_iff_eq]
    split_ifs <;> omega

/-! ## Rounding twice -/

/-- A quotient rounded up is the quotient or one more, as there is a remainder or not. -/
theorem ceilDiv_eq (hden : 0 < den) :
    num ⌈/⌉ den = num / den + if num % den = 0 then 0 else 1 := by
  have hsplit := Nat.div_add_mod' num den
  have hremainder := Nat.mod_lt num hden
  rw [Nat.ceilDiv_eq_add_pred_div, Nat.div_eq_iff hden]
  split_ifs with hexact
  · rw [Nat.add_zero]
    omega
  · rw [Nat.succ_mul]
    omega

theorem lt_ceilDiv_iff (hden : 0 < den) : y < num ⌈/⌉ den ↔ den * y < num := by
  rw [← not_le, ceilDiv_le_iff_le_mul hden, not_le]

/-- A quotient that is rounded to parts of one and then up is the quotient rounded up, unless its
remainder is lost. -/
theorem ceilDiv_roundDiv_iff (hden : 0 < den) {parts : ℕ} (hparts : 0 < parts) :
    roundDiv (num * parts) den ⌈/⌉ parts = num ⌈/⌉ den ↔
      num % den = 0 ∨ den < 2 * (num % den * parts) ∨
        den = 2 * (num % den * parts) ∧ num / den * parts % 2 = 1 := by
  have hsplit := Nat.div_add_mod' num den
  have hremainder := Nat.mod_lt num hden
  have hnum : num ⌈/⌉ den = num / den + if num % den = 0 then 0 else 1 := ceilDiv_eq hden
  generalize num / den = q at *
  generalize num % den = r at *
  have hscaled : num * parts = q * parts * den + r * parts := by
    rw [← hsplit]
    ring
  have hfloor : q * parts ≤ roundDiv (num * parts) den := le_roundDiv_of_le hden (by omega)
  by_cases hexact : r = 0
  · have hround : roundDiv (num * parts) den = q * parts := by
      refine Nat.le_antisymm (roundDiv_le_of_le hden ?_) hfloor
      rw [hscaled, hexact, Nat.zero_mul, Nat.add_zero]
    have hwhole : q * parts ⌈/⌉ parts = q := by
      rw [ceilDiv_eq hparts, Nat.mul_mod_left, if_pos rfl, Nat.mul_div_cancel _ hparts]
      exact Nat.add_zero q
    rw [hround, hwhole, hnum, if_pos hexact]
    exact ⟨fun _ => .inl hexact, fun _ => (Nat.add_zero q).symm⟩
  · have hupper : roundDiv (num * parts) den ≤ (q + 1) * parts := by
      refine roundDiv_le_of_le hden ?_
      have hstep : (q + 1) * parts * den = q * parts * den + den * parts := by ring
      have hbelow : r * parts ≤ den * parts := Nat.mul_le_mul_right parts hremainder.le
      omega
    have hrest : num * parts - q * parts * den = r * parts := by omega
    have hbelow : q * parts * den ≤ num * parts := by omega
    have hbeyond := lt_roundDiv_iff hden hbelow
    rw [hrest] at hbeyond
    have hnext : roundDiv (num * parts) den ⌈/⌉ parts ≤ q + 1 := by
      rw [ceilDiv_le_iff_le_mul hparts]
      exact hupper.trans_eq (Nat.mul_comm _ _)
    have hreached : q < roundDiv (num * parts) den ⌈/⌉ parts ↔
        q * parts < roundDiv (num * parts) den := by
      rw [lt_ceilDiv_iff hparts, Nat.mul_comm]
    rw [hnum, if_neg hexact, ← hbeyond, ← hreached]
    omega

/-- A quotient that is rounded to multiples of a natural is the quotient rounded up when that is
such a multiple. -/
theorem roundDiv_mul_eq_iff (hden : 0 < den) {unit : ℕ} (hunit : 2 ≤ unit) :
    roundDiv num (den * unit) * unit = num ⌈/⌉ den ↔ unit ∣ num ⌈/⌉ den := by
  have hwide : 0 < den * unit := Nat.mul_pos hden (by omega)
  refine ⟨fun h => ⟨_, h.symm.trans (Nat.mul_comm _ _)⟩, ?_⟩
  rintro ⟨c, hc⟩
  have hupper : roundDiv num (den * unit) ≤ c := by
    have hbound := (ceilDiv_le_iff_le_mul hden).mp (Nat.le_of_eq hc)
    refine roundDiv_le_of_le hwide ?_
    rw [Nat.mul_comm c, Nat.mul_assoc]
    exact hbound
  have hlower : c ≤ roundDiv num (den * unit) := by
    cases c with
    | zero => exact Nat.zero_le _
    | succ y =>
      have hbelow : den * (unit * (y + 1) - 1) < num := by
        rw [← lt_ceilDiv_iff hden, hc]
        have hpositive : 0 < unit * (y + 1) := Nat.mul_pos (by omega) (Nat.succ_pos y)
        omega
      have hsteps : den * (unit * (y + 1) - 1) = y * (den * unit) + (den * unit - den) := by
        have hstep : den * (unit * (y + 1)) = y * (den * unit) + den * unit := by ring
        have hwider : den ≤ den * unit := Nat.le_mul_of_pos_right den (by omega)
        rw [Nat.mul_sub, hstep, Nat.mul_one]
        omega
      have htwice : den * 2 ≤ den * unit := Nat.mul_le_mul_left den hunit
      exact (lt_roundDiv_iff hwide (by omega)).mpr (.inl (by omega))
  rw [hc, Nat.le_antisymm hupper hlower, Nat.mul_comm]

/-! ## Numbers rounded up -/

/-- The least natural that is not below a mantissa with its exponent. -/
def upward (m : ℕ) (e : ℤ) : ℕ :=
  if e < 0 then m ⌈/⌉ 2 ^ (-e).toNat else m * 2 ^ e.toNat

theorem ceiling_upward (m : ℕ) (e : ℤ) : (finite false m e).ceiling? = some (upward m e : ℤ) := by
  by_cases he : e < 0
  · have hratio : (finite false m e).ratio? = some (false, m, Nat.pow 2 (-e).toNat) := if_pos he
    rw [ceiling?, hratio, upward, if_pos he]
    rfl
  · have hratio : (finite false m e).ratio? = some (false, m * Nat.pow 2 e.toNat, 1) := if_neg he
    have hone : m * Nat.pow 2 e.toNat + 1 - 1 = m * 2 ^ e.toNat := Nat.add_sub_cancel _ _
    rw [ceiling?, hratio, upward, if_neg he]
    simp only [hone, Nat.div_one]
    rfl

/-- With an exponent that is not positive a mantissa counts parts of one. -/
theorem upward_parts (m shift : ℕ) : upward m (-(shift : ℤ)) = m ⌈/⌉ 2 ^ shift := by
  cases shift with
  | zero => simp [upward]
  | succ k =>
    have hneg : -((k + 1 : ℕ) : ℤ) < 0 := by omega
    have hshift : (- -((k + 1 : ℕ) : ℤ)).toNat = k + 1 := by omega
    rw [upward, if_pos hneg, hshift]

theorem upward_units (m shift : ℕ) : upward m (shift : ℤ) = m * 2 ^ shift := by
  have hpos : ¬ (shift : ℤ) < 0 := by omega
  rw [upward, if_neg hpos, Int.toNat_natCast]

/-- A mantissa that is halved because it is too long stands for the same number. -/
theorem upward_carried (m : ℕ) (e : ℤ) : upward (carried m e).1 (carried m e).2 = upward m e := by
  by_cases hm : m = Nat.pow 2 53
  · have hhalf : m = 2 ^ 52 * 2 := hm
    rw [carried, if_pos hm, hhalf]
    change upward (2 ^ 52) (e + 1) = _
    generalize 2 ^ 52 = half
    by_cases he : e < 0
    · obtain ⟨k, rfl⟩ : ∃ k : ℕ, e = -((k + 1 : ℕ) : ℤ) := ⟨(-e).toNat - 1, by omega⟩
      have hnext : -((k + 1 : ℕ) : ℤ) + 1 = -(k : ℤ) := by omega
      rw [hnext, upward_parts, upward_parts]
      refine eq_of_forall_ge_iff fun c => ?_
      have hdouble : 2 ^ (k + 1) * c = 2 ^ k * c * 2 := by ring
      rw [ceilDiv_le_iff_le_mul (Nat.two_pow_pos k),
        ceilDiv_le_iff_le_mul (Nat.two_pow_pos (k + 1))]
      change half ≤ 2 ^ k * c ↔ half * 2 ≤ 2 ^ (k + 1) * c
      omega
    · obtain ⟨k, rfl⟩ : ∃ k : ℕ, e = k := ⟨e.toNat, by omega⟩
      have hnext : (k : ℤ) + 1 = ((k + 1 : ℕ) : ℤ) := by omega
      rw [hnext, upward_units, upward_units]
      ring
  · rw [carried, if_neg hm]

/-- The quotient rounded up as it comes out: with the exponent that it is rounded with. -/
theorem ceiling_ofRatio (hzero : num ≠ 0) {n : ℤ}
    (h : (ofRatio false num den).ceiling? = some n) {e : ℤ}
    (he : max (naturalExponent num den) leastExponent = e) :
    n = upward (roundDiv (scaled num den e).1 (scaled num den e).2) e := by
  rw [ofRatio_of_exponent false hzero he rfl] at h
  split_ifs at h with hinfinite
  · cases h
  · rw [ceiling_upward, upward_carried] at h
    exact (Option.some.inj h).symm

/-! ## Exponents of quotients -/

/-- The quotient scaled by its guessed exponent, compared with a power of two. -/
theorem le_scaled_iff (num distance : ℕ) (hden : 0 < den) {digits : ℕ} (hdigits : 52 ≤ digits) :
    2 ^ digits ≤
        (scaled num den ((distance : ℤ) - 52)).1 / (scaled num den ((distance : ℤ) - 52)).2 ↔
      den * 2 ^ (distance + digits - 52) ≤ num := by
  by_cases hshort : distance < 52
  · have hshift : (-((distance : ℤ) - 52)).toNat = 52 - distance := by omega
    have hsplit : digits = distance + digits - 52 + (52 - distance) := by omega
    have hscale : 2 ^ digits * den = den * 2 ^ (distance + digits - 52) * 2 ^ (52 - distance) := by
      rw [Nat.mul_assoc, ← Nat.pow_add, ← hsplit, Nat.mul_comm]
    rw [scaled_of_neg (by omega), hshift, Nat.le_div_iff_mul_le hden, hscale]
    exact Nat.mul_le_mul_right_iff (Nat.two_pow_pos _)
  · have hshift : ((distance : ℤ) - 52).toNat = distance - 52 := by omega
    have hsplit : distance + digits - 52 = digits + (distance - 52) := by omega
    have hwide : 0 < den * 2 ^ (distance - 52) := Nat.mul_pos hden (Nat.two_pow_pos _)
    have hscale : 2 ^ digits * (den * 2 ^ (distance - 52)) =
        den * 2 ^ (distance + digits - 52) := by
      rw [hsplit, Nat.pow_add]
      ring
    rw [scaled_of_nonneg (by omega), hshift, Nat.le_div_iff_mul_le hwide, hscale]

/-- The logarithm of a quotient, rounded down, is told by the powers of two that it lies between. -/
theorem log2_div_eq (hden : 0 < den) {k : ℕ} (hfrom : den * 2 ^ k ≤ num)
    (hto : num < den * 2 ^ (k + 1)) : (num / den).log2 = k := by
  have hle : den ≤ num := (Nat.le_mul_of_pos_right den (Nat.two_pow_pos k)).trans hfrom
  refine (Nat.log2_eq_iff (Nat.div_pos hle hden).ne').mpr ⟨?_, ?_⟩
  · rw [Nat.le_div_iff_mul_le hden, Nat.mul_comm]
    exact hfrom
  · rw [Nat.div_lt_iff_lt_mul hden, Nat.mul_comm]
    exact hto

/-- A quotient of at least one is rounded to 53 bits from its first one on. -/
theorem naturalExponent_eq (hden : 0 < den) (h : den ≤ num) :
    naturalExponent num den = ((num / den).log2 : ℤ) - 52 := by
  have hnum : num ≠ 0 := by omega
  have hlow := Nat.log2_self_le hnum
  have hhigh := Nat.lt_log2_self (n := num)
  have hdenLow := Nat.log2_self_le (Nat.ne_of_gt hden)
  have hdenHigh := Nat.lt_log2_self (n := den)
  have hlogs : den.log2 ≤ num.log2 := (Nat.le_log2 hnum).mpr (hdenLow.trans h)
  obtain ⟨distance, hdistance⟩ : ∃ d, num.log2 = den.log2 + d := ⟨num.log2 - den.log2, by omega⟩
  have hguess : (num.log2 : ℤ) - den.log2 - 52 = (distance : ℤ) - 52 := by omega
  have hnatural := le_scaled_iff num distance hden (Nat.le_refl 52)
  have hlong := le_scaled_iff num distance hden (Nat.le_succ 52)
  -- Both logarithms bound the quotient from either side, so only one bit has to be decided.
  have hbelow : num < den * 2 ^ (distance + 1) := by
    calc num < 2 ^ (num.log2 + 1) := hhigh
      _ = 2 ^ den.log2 * 2 ^ (distance + 1) := by rw [hdistance, Nat.add_assoc, Nat.pow_add]
      _ ≤ den * 2 ^ (distance + 1) := Nat.mul_le_mul_right _ hdenLow
  have hfits : ¬ 2 ^ 53 ≤ (scaled num den ((distance : ℤ) - 52)).1 /
      (scaled num den ((distance : ℤ) - 52)).2 := by
    have hdigits : distance + 53 - 52 = distance + 1 := by omega
    rw [hlong, hdigits]
    omega
  unfold naturalExponent
  simp only [Nat.pow_eq]
  rw [hguess]
  by_cases hfull : den * 2 ^ distance ≤ num
  · have hdigits : distance + 52 - 52 = distance := by omega
    rw [hdigits] at hnatural
    rw [log2_div_eq hden hfull hbelow, if_neg (not_lt.mpr (hnatural.mpr hfull)), if_neg hfits]
  · have hdigits : distance + 52 - 52 = distance := by omega
    rw [hdigits] at hnatural
    obtain ⟨k, rfl⟩ : ∃ k, distance = k + 1 := by
      cases distance with
      | zero => exact absurd (by simpa using h) hfull
      | succ k => exact ⟨k, rfl⟩
    have hfrom : den * 2 ^ k ≤ num := by
      calc den * 2 ^ k ≤ 2 ^ (den.log2 + 1) * 2 ^ k := Nat.mul_le_mul_right _ hdenHigh.le
        _ = 2 ^ num.log2 := by rw [← Nat.pow_add, hdistance]; congr 1; omega
        _ ≤ num := hlow
    rw [log2_div_eq hden hfrom (not_le.mp hfull), if_pos (not_le.mp (mt hnatural.mp hfull))]
    omega

/-! ## Quotients that come out right -/

/-- Rounding to double precision and then up does not move a quotient across a natural. Below
`2 ^ 53` the remainder must be more than half of the last place, or half of it behind an odd
quotient; above, the quotient rounded up must be a multiple of the last place. -/
def Sharp (num den : ℕ) : Prop :=
  if (num / den).log2 ≤ 52 then
    num / den = 0 ∨ num % den = 0 ∨ den < num % den * 2 ^ (53 - (num / den).log2) ∨
      (num / den).log2 = 52 ∧ den = 2 * (num % den) ∧ num / den % 2 = 1
  else 2 ^ ((num / den).log2 - 52) ∣ num ⌈/⌉ den

instance (num den : ℕ) : Decidable (Sharp num den) := by
  unfold Sharp
  infer_instance

/-- A quotient below one is rounded up to one at most. -/
theorem ceiling_of_lt (hless : num < den) {n : ℤ}
    (h : (ofRatio false num den).ceiling? = some n) : n ≤ 1 := by
  by_cases hzero : num = 0
  · rw [ofRatio, if_pos hzero, zero, ceiling_upward] at h
    have hnothing : upward 0 leastExponent = 0 := by
      rw [upward, if_pos (by decide), zero_ceilDiv]
    have hn := Option.some.inj h
    omega
  · have hlog : num.log2 ≤ den.log2 :=
      (Nat.le_log2 (by omega)).mpr ((Nat.log2_self_le hzero).trans hless.le)
    have hnatural := naturalExponent_le num den
    have hleast : leastExponent = -1074 := rfl
    obtain ⟨shift, hshift⟩ :
        ∃ shift : ℕ, max (naturalExponent num den) leastExponent = -(shift : ℤ) :=
      ⟨(-(max (naturalExponent num den) leastExponent)).toNat, by omega⟩
    have hpositive : 0 < shift := by omega
    have hround : roundDiv (num * 2 ^ shift) den ≤ 2 ^ shift := by
      refine roundDiv_le_of_le (by omega) ?_
      rw [Nat.mul_comm]
      exact Nat.mul_le_mul_left _ hless.le
    have hone : roundDiv (num * 2 ^ shift) den ⌈/⌉ 2 ^ shift ≤ 1 := by
      rw [ceilDiv_le_iff_le_mul (Nat.two_pow_pos shift)]
      exact hround.trans_eq (Nat.mul_one _).symm
    have hscaled : scaled num den (-(shift : ℤ)) = (num * 2 ^ shift, den) := by
      rw [scaled_of_neg (by omega), neg_neg, Int.toNat_natCast]
    have hn := ceiling_ofRatio hzero h hshift
    rw [hscaled, upward_parts] at hn
    dsimp only at hn
    omega

/-- The quotient rounded to double precision and then up, in parts of one. -/
theorem ceiling_parts (hden : 0 < den) (hle : den ≤ num) {n : ℤ}
    (h : (ofRatio false num den).ceiling? = some n) {shift : ℕ}
    (hshift : (num / den).log2 + shift = 52) :
    n = (roundDiv (num * 2 ^ shift) den ⌈/⌉ 2 ^ shift : ℕ) := by
  have hnatural := naturalExponent_eq hden hle
  have hleast : leastExponent = -1074 := rfl
  have he : max (naturalExponent num den) leastExponent = -(shift : ℤ) := by omega
  have hscaled : scaled num den (-(shift : ℤ)) = (num * 2 ^ shift, den) := by
    cases shift with
    | zero => simp [scaled]
    | succ k => rw [scaled_of_neg (by omega), neg_neg, Int.toNat_natCast]
  have hn := ceiling_ofRatio (by omega) h he
  rwa [hscaled, upward_parts] at hn

/-- The same in multiples of one. -/
theorem ceiling_units (hden : 0 < den) (hle : den ≤ num) {n : ℤ}
    (h : (ofRatio false num den).ceiling? = some n) {shift : ℕ}
    (hshift : (num / den).log2 = 52 + shift) :
    n = (roundDiv num (den * 2 ^ shift) * 2 ^ shift : ℕ) := by
  have hnatural := naturalExponent_eq hden hle
  have hleast : leastExponent = -1074 := rfl
  have he : max (naturalExponent num den) leastExponent = (shift : ℤ) := by omega
  have hscaled : scaled num den (shift : ℤ) = (num, den * 2 ^ shift) := by
    rw [scaled_of_nonneg (by omega), Int.toNat_natCast]
  have hn := ceiling_ofRatio (by omega) h he
  rwa [hscaled, upward_units] at hn

/-- In parts of one a quotient is sharp when its remainder is not lost. -/
theorem sharp_iff_parts (hquotient : num / den ≠ 0) {shift : ℕ}
    (hshift : (num / den).log2 + shift = 52) :
    Sharp num den ↔ num % den = 0 ∨ den < 2 * (num % den * 2 ^ shift) ∨
      den = 2 * (num % den * 2 ^ shift) ∧ num / den * 2 ^ shift % 2 = 1 := by
  have hlog : (num / den).log2 ≤ 52 := by omega
  have hhalves : num % den * 2 ^ (53 - (num / den).log2) = 2 * (num % den * 2 ^ shift) := by
    have hdigits : 53 - (num / den).log2 = shift + 1 := by omega
    rw [hdigits, Nat.pow_succ]
    ring
  have htie : (num / den).log2 = 52 ∧ den = 2 * (num % den) ∧ num / den % 2 = 1 ↔
      den = 2 * (num % den * 2 ^ shift) ∧ num / den * 2 ^ shift % 2 = 1 := by
    cases shift with
    | zero =>
      rw [Nat.pow_zero, Nat.mul_one, Nat.mul_one]
      omega
    | succ k =>
      have heven : num / den * 2 ^ (k + 1) % 2 = 0 := by
        rw [Nat.pow_succ, ← Nat.mul_assoc, Nat.mul_mod_left]
      omega
  rw [Sharp, if_pos hlog, hhalves, htie, or_iff_right hquotient]

/-- A quotient in parts of one comes out right exactly when it is sharp. -/
theorem ceiling_parts_iff (hden : 0 < den) (hle : den ≤ num) {n : ℤ}
    (h : (ofRatio false num den).ceiling? = some n) {shift : ℕ}
    (hshift : (num / den).log2 + shift = 52) :
    1 ≤ n ∧ (n = (num ⌈/⌉ den : ℕ) ↔ Sharp num den) := by
  have hquotient : 0 < num / den := Nat.div_pos hle hden
  have hn := ceiling_parts hden hle h hshift
  have hmantissa : num / den * 2 ^ shift ≤ roundDiv (num * 2 ^ shift) den := by
    refine le_roundDiv_of_le hden ?_
    calc num / den * 2 ^ shift * den = num / den * den * 2 ^ shift := by ring
      _ ≤ num * 2 ^ shift := Nat.mul_le_mul_right _ (Nat.div_mul_le_self num den)
  have hpositive : 0 < roundDiv (num * 2 ^ shift) den ⌈/⌉ 2 ^ shift := by
    rw [lt_ceilDiv_iff (Nat.two_pow_pos shift), Nat.mul_zero]
    exact (Nat.mul_pos hquotient (Nat.two_pow_pos shift)).trans_le hmantissa
  refine ⟨by omega, ?_⟩
  rw [sharp_iff_parts hquotient.ne' hshift, ← ceilDiv_roundDiv_iff hden (Nat.two_pow_pos shift),
    hn, Nat.cast_inj]

/-- So does one in multiples of one. -/
theorem ceiling_units_iff (hden : 0 < den) (hle : den ≤ num) {n : ℤ}
    (h : (ofRatio false num den).ceiling? = some n) {shift : ℕ}
    (hshift : (num / den).log2 = 52 + shift) (hlong : 0 < shift) :
    1 ≤ n ∧ (n = (num ⌈/⌉ den : ℕ) ↔ Sharp num den) := by
  have hquotient : 0 < num / den := Nat.div_pos hle hden
  have hn := ceiling_units hden hle h hshift
  have htwice : 2 ≤ 2 ^ shift := by
    calc 2 = 2 ^ 1 := rfl
      _ ≤ 2 ^ shift := Nat.pow_le_pow_right (by decide) hlong
  have hunit : 1 * (den * 2 ^ shift) ≤ num := by
    have hbits : 2 ^ shift ≤ num / den := by
      calc 2 ^ shift ≤ 2 ^ (num / den).log2 := Nat.pow_le_pow_right (by decide) (by omega)
        _ ≤ num / den := Nat.log2_self_le hquotient.ne'
    rw [Nat.one_mul, Nat.mul_comm]
    exact (Nat.le_div_iff_mul_le hden).mp hbits
  have hmantissa : 1 ≤ roundDiv num (den * 2 ^ shift) :=
    le_roundDiv_of_le (Nat.mul_pos hden (Nat.two_pow_pos shift)) hunit
  have hpositive : 0 < roundDiv num (den * 2 ^ shift) * 2 ^ shift :=
    Nat.mul_pos hmantissa (Nat.two_pow_pos shift)
  have hdigits : (num / den).log2 - 52 = shift := by omega
  refine ⟨by omega, ?_⟩
  rw [Sharp, if_neg (by omega), hdigits, ← roundDiv_mul_eq_iff hden htwice, hn, Nat.cast_inj]

/-- A quotient comes out right exactly when it is sharp; what is below one counts as one. -/
theorem ceiling_eq_iff (hden : 0 < den) {n : ℤ}
    (h : (ofRatio false num den).ceiling? = some n) :
    max 1 n = max 1 ((num ⌈/⌉ den : ℕ) : ℤ) ↔ Sharp num den := by
  rcases Nat.lt_or_ge num den with hless | hle
  · have hn := ceiling_of_lt hless h
    have hquotient : num / den = 0 := Nat.div_eq_of_lt hless
    have hup : num ⌈/⌉ den ≤ 1 := by
      rw [ceilDiv_le_iff_le_mul hden]
      exact hless.le.trans_eq (Nat.mul_one den).symm
    have hsharp : Sharp num den := by
      rw [Sharp, hquotient, if_pos (by decide)]
      exact .inl rfl
    exact iff_of_true (by omega) hsharp
  · have hup : 0 < num ⌈/⌉ den := by
      rw [lt_ceilDiv_iff hden, Nat.mul_zero]
      omega
    obtain ⟨hpositive, hsharp⟩ : 1 ≤ n ∧ (n = (num ⌈/⌉ den : ℕ) ↔ Sharp num den) := by
      by_cases hlog : (num / den).log2 ≤ 52
      · have hshift : (num / den).log2 + (52 - (num / den).log2) = 52 := by omega
        exact ceiling_parts_iff hden hle h hshift
      · have hshift : (num / den).log2 = 52 + ((num / den).log2 - 52) := by omega
        exact ceiling_units_iff hden hle h hshift (by omega)
    rw [← hsharp]
    omega

/-- Up to `2 ^ 53` every quotient is sharp. -/
theorem sharp_of_le (hden : 0 < den) (h : num ≤ 2 ^ 53) : Sharp num den := by
  have hsplit := Nat.div_add_mod' num den
  by_cases hquotient : num / den = 0
  · rw [Sharp, hquotient, if_pos (by decide)]
    exact .inl rfl
  have hlog := Nat.log2_self_le hquotient
  have hless : num / den ≤ num := Nat.div_le_self num den
  rw [Sharp]
  split_ifs with hshort
  · refine .inr (or_iff_not_imp_left.mpr fun hremainder => .inl ?_)
    have hroom : den * 2 ^ (num / den).log2 <
        2 ^ (53 - (num / den).log2) * 2 ^ (num / den).log2 := by
      calc den * 2 ^ (num / den).log2 ≤ den * (num / den) := Nat.mul_le_mul_left _ hlog
        _ < 2 ^ 53 := by rw [Nat.mul_comm]; omega
        _ = 2 ^ (53 - (num / den).log2) * 2 ^ (num / den).log2 := by
          rw [← Nat.pow_add]
          congr 1
          omega
    calc den < 2 ^ (53 - (num / den).log2) := Nat.lt_of_mul_lt_mul_right hroom
      _ ≤ num % den * 2 ^ (53 - (num / den).log2) :=
        Nat.le_mul_of_pos_left _ (Nat.pos_of_ne_zero hremainder)
  · -- Only the bound itself is left, as a quotient by one.
    have hbits : 2 ^ 53 ≤ num / den := by
      calc 2 ^ 53 ≤ 2 ^ (num / den).log2 := Nat.pow_le_pow_right (by decide) (by omega)
        _ ≤ num / den := hlog
    have hbound : num / den = 2 ^ 53 := by omega
    have hexact : num % den = 0 := by
      rw [hbound] at hsplit
      omega
    rw [ceilDiv_eq hden, hexact, hbound, Nat.log2_two_pow]
    decide

end Double

end BoundSql
