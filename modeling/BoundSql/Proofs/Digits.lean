import BoundSql.Number.Numeral
import BoundSql.Number.Shortest
import BoundSql.Value.Integer
import Mathlib.Data.Nat.Digits.Lemmas

/-!
# Decimal digits

The digits that are written for a natural are those of its positional expansion to the base ten,
most significant first. So they begin with no zero unless there is only one digit, and reading them
back gives the number.
-/

namespace BoundSql

/-- The character of a digit. -/
def digitChar (d : Nat) : Char := Char.ofNat (48 + d)

/-- A digit of ASCII is one of the ten. -/
theorem mem_digits_of_isAsciiDigit {c : Char} (h : isAsciiDigit c = true) :
    c ∈ "0123456789".toList := by
  rw [isAsciiDigit, Bool.and_eq_true, decide_eq_true_eq, decide_eq_true_eq] at h
  have hlow : 48 ≤ c.toNat := h.1
  have hhigh : c.toNat ≤ 57 := h.2
  rw [← Char.ofNat_toNat c]
  generalize c.toNat = n at hlow hhigh
  interval_cases n <;> decide

/-- What can be seen of each of the ten holds of every digit. -/
theorem forall_digit {P : Char → Bool} (h : "0123456789".toList.all P = true) {c : Char}
    (hc : isAsciiDigit c = true) : P c = true :=
  List.all_eq_true.mp h c (mem_digits_of_isAsciiDigit hc)

/-- Digits below ten are written with the characters from `0` to `9`. -/
theorem digitChar_toNat {d : Nat} (h : d < 10) : (digitChar d).toNat = 48 + d := by
  unfold digitChar
  interval_cases d <;> rfl

/-- Enough fuel writes the whole expansion in front of what is there. -/
theorem decimalDigitsAux_eq (fuel n : Nat) (acc : List Char) (hn : n ≠ 0) (hf : n < 2 ^ fuel) :
    decimalDigitsAux fuel n acc = (Nat.digits 10 n).reverse.map digitChar ++ acc := by
  induction fuel generalizing n acc with
  | zero => omega
  | succ fuel ih =>
    have hstep : Nat.digits 10 n = n % 10 :: Nat.digits 10 (n / 10) :=
      Nat.digits_def' (by omega) (by omega)
    rw [decimalDigitsAux, hstep, List.reverse_cons, List.map_append, List.append_assoc]
    by_cases hlt : n < 10
    · have hz : n / 10 = 0 := by omega
      simp [hlt, hz, digitChar]
    · have hq : n / 10 < 2 ^ fuel := by
        rw [pow_succ] at hf
        omega
      simp only [hlt, if_false]
      rw [ih (n / 10) _ (by omega) hq]
      simp [digitChar]

/-- The digits of a positive number are those of its expansion. -/
theorem decimalDigits_eq {n : Nat} (h : n ≠ 0) :
    decimalDigits n = (Nat.digits 10 n).reverse.map digitChar := by
  rw [decimalDigits, decimalDigitsAux_eq _ _ _ h Nat.lt_log2_self, List.append_nil]

/-- Zero is one digit. -/
theorem decimalDigits_zero : decimalDigits 0 = ['0'] := by decide

/-- Only digits are written. -/
theorem isAsciiDigit_of_mem_decimalDigits {n : Nat} {c : Char} (h : c ∈ decimalDigits n) :
    isAsciiDigit c = true := by
  by_cases hn : n = 0
  · rw [hn, decimalDigits_zero, List.mem_singleton] at h
    rw [h]
    decide
  · rw [decimalDigits_eq hn] at h
    obtain ⟨d, hd, rfl⟩ := List.mem_map.mp h
    have hlt : d < 10 := Nat.digits_lt_base (by omega) (List.mem_reverse.mp hd)
    interval_cases d <;> decide

/-- The digits of a positive number begin with one that is not zero. -/
theorem decimalDigits_head {n : Nat} (h : n ≠ 0) :
    ∃ d rest, decimalDigits n = digitChar d :: rest ∧ 1 ≤ d ∧ d ≤ 9 := by
  have hne : Nat.digits 10 n ≠ [] := Nat.digits_ne_nil_iff_ne_zero.mpr h
  have hlast := Nat.getLast_digit_ne_zero 10 h
  have hlt := Nat.digits_lt_base (b := 10) (by omega) (List.getLast_mem hne)
  have hsplit : (Nat.digits 10 n).reverse =
      (Nat.digits 10 n).getLast hne :: (Nat.digits 10 n).dropLast.reverse := by
    conv_lhs => rw [← List.dropLast_append_getLast hne]
    rw [List.reverse_append]
    rfl
  refine ⟨(Nat.digits 10 n).getLast hne, (Nat.digits 10 n).dropLast.reverse.map digitChar, ?_,
    by omega, by omega⟩
  rw [decimalDigits_eq h, hsplit, List.map_cons]

/-- The value of written digits is that of the expansion they were written for. -/
theorem digitsValue_map_digitChar {ds : List Nat} (h : ∀ d ∈ ds, d < 10) :
    digitsValue (ds.reverse.map digitChar) = Nat.ofDigits 10 ds := by
  induction ds with
  | nil => rfl
  | cons d ds ih =>
    have hd := digitChar_toNat (h d List.mem_cons_self)
    have hds := ih fun x hx => h x (List.mem_cons_of_mem d hx)
    unfold digitsValue at hds ⊢
    rw [List.reverse_cons, List.map_append, List.foldl_append, hds, Nat.ofDigits_cons]
    simp only [List.map_cons, List.map_nil, List.foldl_cons, List.foldl_nil, hd]
    omega

/-- Reading the digits back gives the number. -/
theorem digitsValue_decimalDigits (n : Nat) : digitsValue (decimalDigits n) = n := by
  by_cases hn : n = 0
  · rw [hn]
    decide
  · rw [decimalDigits_eq hn,
      digitsValue_map_digitChar fun d hd => Nat.digits_lt_base (by omega) hd, Nat.ofDigits_digits]

/-- Different numbers have different digits. -/
theorem decimalDigits_injective : Function.Injective decimalDigits := by
  intro m n h
  rw [← digitsValue_decimalDigits m, h, digitsValue_decimalDigits]

/-- An integer has a numeral if it has no more digits than a numeral may have. -/
theorem Value.numeralOf_isOk_iff (n : ℤ) :
    (numeralOf n).isOk = true ↔ n.natAbs < 10 ^ digitLimit := by
  rw [numeralOf, Nat.pow_eq]
  split
  next h => exact iff_of_true rfl h
  next h => exact iff_of_false Bool.false_ne_true h

end BoundSql
